import Mathlib.Data.Bool.AllAny
import WebPush.Proofs.Number.Double
import WebPush.Proofs.Number.Literal
/-!
# Number — the real numbers that are read

A text is read as NaN just when it spells the word: in capital or small
letters, perhaps with a sign in front, and with white space around it.
Every other text that is read gives a number, be it infinite.
-/

namespace WebPush.Number

/-- A text that spells NaN. -/
def SpellsNaN (cs : List Char) : Prop :=
  ∃ front sign word back, cs = front ++ (sign ++ word) ++ back ∧
    (∀ c ∈ front, Text.isWhiteSpace c = true) ∧ (∀ c ∈ back, Text.isWhiteSpace c = true) ∧
    sign ∈ [[], ['+'], ['-']] ∧ word.map Char.toLower = ['n', 'a', 'n']

variable {cs : List Char} {x : Double}

/-! ## Parts of a text -/

/-- A character that is read as it stands: no white space, no digit and no underscore. -/
def IsMark (c : Char) : Prop :=
  Text.isWhiteSpace c = false ∧ (Text.decimalValue? c).isSome = false ∧ c ≠ '_'

instance (c : Char) : Decidable (IsMark c) := inferInstanceAs (Decidable (_ ∧ _))

/-- The letters of NaN are such characters, and no signs. -/
theorem of_toLower_mem {c : Char} (h : c.toLower ∈ ['n', 'a', 'n']) :
    IsMark c ∧ c ≠ '-' ∧ c ≠ '+' :=
  Text.forall_toLower (P := fun c d => d ∈ ['n', 'a', 'n'] → IsMark c ∧ c ≠ '-' ∧ c ≠ '+')
    (List.all_iff_forall_prop.1 (by decide +kernel)) (by decide +kernel) c h

/-- What is left behind a sign, with the sign in front. -/
theorem exists_sign (cs : List Char) :
    ∃ sign ∈ [[], ['+'], ['-']], cs = sign ++ (splitSign cs).2 := by
  rw [splitSign.eq_def]
  split
  · exact ⟨['-'], by decide, rfl⟩
  · exact ⟨['+'], by decide, rfl⟩
  · exact ⟨[], by decide, rfl⟩

/-- A sign is split off what does not begin with one. -/
theorem exists_splitSign_append {sign body : List Char} (hsign : sign ∈ [[], ['+'], ['-']])
    (hbody : ∀ c ∈ body.head?, c ≠ '-' ∧ c ≠ '+') :
    ∃ negative, splitSign (sign ++ body) = (negative, body) := by
  simp only [List.mem_cons, List.not_mem_nil, or_false] at hsign
  rcases hsign with rfl | rfl | rfl
  · exact ⟨false, splitSign_eq_self hbody⟩
  · exact ⟨false, rfl⟩
  · exact ⟨true, rfl⟩

/-- Without underscores nothing is taken out. -/
theorem dropUnderscores?_eq_self (h : '_' ∉ cs) (afterDigit : Bool) :
    dropUnderscores? afterDigit cs = some cs := by
  induction cs generalizing afterDigit with
  | nil => rfl
  | cons c rest ih =>
    rw [List.mem_cons, not_or] at h
    rw [dropUnderscores?, if_neg (Ne.symm h.1), ih h.2]
    rfl

/-- **Underscores stand between digits**: where no digits are left, none was taken out. -/
theorem eq_of_dropUnderscores? {afterDigit : Bool} {plain : List Char}
    (h : dropUnderscores? afterDigit cs = some plain)
    (hplain : ∀ c ∈ plain, (Text.decimalValue? c).isSome = false) : cs = plain := by
  induction cs generalizing afterDigit plain with
  | nil =>
    cases h
    rfl
  | cons c rest ih =>
    rw [dropUnderscores?] at h
    split at h
    · split at h
      · -- The digit behind the underscore is still there.
        rename_i hdigit
        cases rest with
        | nil => simp [startsWithDigit] at hdigit
        | cons d more =>
          rw [Bool.and_eq_true, startsWithDigit] at hdigit
          have hd : d ≠ '_' := by
            rintro rfl
            exact absurd hdigit.2 (by decide)
          rw [dropUnderscores?, if_neg hd] at h
          obtain ⟨tail, -, rfl⟩ := Option.map_eq_some_iff.1 h
          exact absurd hdigit.2 (by rw [hplain d List.mem_cons_self]; decide)
      · cases h
    · obtain ⟨tail, htail, rfl⟩ := Option.map_eq_some_iff.1 h
      rw [ih htail fun d hd => hplain d (List.mem_cons_of_mem c hd)]

/-! ## NaN -/

/-- Digits are never read as NaN. -/
theorem isNaN_of_readDecimal? {negative : Bool} (h : readDecimal? negative cs = some x) :
    x.isNaN = false := by
  rw [readDecimal?] at h
  dsimp only at h
  -- With a point and without.
  split at h
  all_goals
    split at h
    · cases h
    · obtain ⟨exponent, -, rfl⟩ := Option.map_eq_some_iff.1 h
      exact Double.isNaN_ofDecimal ..

/-- The characters of a sign and the letters of NaN. -/
theorem isMark_of_mem {sign word : List Char} (hsign : sign ∈ [[], ['+'], ['-']])
    (hword : word.map Char.toLower = ['n', 'a', 'n']) : ∀ c ∈ sign ++ word, IsMark c := by
  intro c hc
  rcases List.mem_append.1 hc with hc | hc
  · have hmark : [[], ['+'], ['-']].all (fun sign => sign.all fun c => IsMark c) = true := by
      decide +kernel
    exact List.all_iff_forall_prop.1 (List.all_eq_true.1 hmark sign hsign) c hc
  · exact (of_toLower_mem (hword ▸ List.mem_map_of_mem hc)).1

/-- What is read as NaN spells it. -/
theorem spellsNaN_of_readDouble? (h : readDouble? cs = some x) (hnan : x.isNaN = true) :
    SpellsNaN cs := by
  obtain ⟨plain, hplain, h⟩ := Option.bind_eq_some_iff.1 h
  dsimp only at h
  split at h
  · obtain rfl := Option.some.inj h
    exact absurd hnan (by rw [Double.isNaN_infinity]; decide)
  split at h
  · rename_i hword
    have hletters : (splitSign plain).2.map Char.toLower = ['n', 'a', 'n'] := by
      simpa using congrArg String.toList hword
    obtain ⟨sign, hsign, heq⟩ := exists_sign plain
    have hstrip : stripSpace cs = plain := by
      refine eq_of_dropUnderscores? hplain fun c hc => ?_
      rw [heq] at hc
      exact (isMark_of_mem hsign hletters c hc).2.1
    obtain ⟨front, back, hcs, hfront, hback⟩ :=
      exists_eq_append_dropEndWhile_dropWhile Text.isWhiteSpace cs
    refine ⟨front, sign, _, back, ?_, hfront, hback, hsign, hletters⟩
    rw [← heq, ← hstrip]
    exact hcs
  · exact absurd hnan (by rw [isNaN_of_readDecimal? h]; decide)

/-- What spells NaN is read as it. -/
theorem SpellsNaN.exists_readDouble? (h : SpellsNaN cs) :
    ∃ negative, readDouble? cs = some (.nan negative) := by
  obtain ⟨front, sign, word, back, rfl, hfront, hback, hsign, hword⟩ := h
  have hmark := isMark_of_mem hsign hword
  have hstrip : stripSpace (front ++ (sign ++ word) ++ back) = sign ++ word := by
    rw [stripSpace, dropEndWhile_dropWhile_append hfront hback]
    exact dropEndWhile_dropWhile_eq_self (fun c hc => (hmark c (List.mem_of_head? hc)).1)
      fun c hc => (hmark c (List.mem_of_getLast? hc)).1
  have hplain := dropUnderscores?_eq_self (fun hc => (hmark '_' hc).2.2 rfl) false
  have hhead : ∀ c ∈ word.head?, c ≠ '-' ∧ c ≠ '+' := fun c hc =>
    (of_toLower_mem (hword ▸ List.mem_map_of_mem (List.mem_of_head? hc))).2
  obtain ⟨negative, hsplit⟩ := exists_splitSign_append hsign hhead
  refine ⟨negative, ?_⟩
  rw [readDouble?, hstrip, hplain, Option.bind_some]
  simp only [hsplit, hword]
  rfl

/-- **A text is read as NaN if it spells it**, and else as a number. -/
theorem isNaN_readDouble?_iff (h : readDouble? cs = some x) : x.isNaN = true ↔ SpellsNaN cs := by
  constructor
  · exact spellsNaN_of_readDouble? h
  · intro hspells
    obtain ⟨negative, hread⟩ := hspells.exists_readDouble?
    obtain rfl := Option.some.inj (h.symm.trans hread)
    exact Double.isNaN_nan negative

end WebPush.Number
