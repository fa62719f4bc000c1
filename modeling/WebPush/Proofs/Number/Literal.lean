import Mathlib.Tactic.Ring
import WebPush.Number.Literal
import WebPush.Proofs.Bytes
import WebPush.Proofs.Text.Ascii
/-!
# Number — the size of an integer that can be read

An integer text that is read has a bounded number of digits, so the
integer is below a power of ten and can be written again. A text of more
digits is refused.
-/

namespace WebPush

/-- A decimal digit of any script is below ten. -/
theorem Text.lt_ten_of_decimalValue? {c : Char} {d : Nat} (h : decimalValue? c = some d) :
    d < 10 := by
  rw [decimalValue?] at h
  split at h
  · split at h
    · rename_i hdigit
      have hle : c.toNat ≤ '9'.toNat := UInt32.le_iff_toNat_le.1 hdigit.2
      have hnine : '9'.toNat = '0'.toNat + 9 := rfl
      injection h with h
      omega
    · cases h
  · obtain ⟨nought, hnought, rfl⟩ := Option.map_eq_some_iff.1 h
    have hin := List.find?_some hnought
    rw [Bool.and_eq_true, decide_eq_true_eq, decide_eq_true_eq] at hin
    omega

namespace Number

/-- The digits that are taken are below ten. -/
theorem lt_ten_of_takeDigits? {pending : Bool} {cs rest : List Char} {ds : List Nat}
    (h : takeDigits? pending cs = some (ds, rest)) : ∀ d ∈ ds, d < 10 := by
  induction cs generalizing pending ds with
  | nil =>
    rw [takeDigits?] at h
    split at h
    · cases h
    · cases h
      exact nofun
  | cons c cs ih =>
    rw [takeDigits?] at h
    split at h
    · rename_i d hd
      obtain ⟨⟨ds', rest'⟩, htake, heq⟩ := Option.map_eq_some_iff.1 h
      cases heq
      exact List.forall_mem_cons.2 ⟨Text.lt_ten_of_decimalValue? hd, ih htake⟩
    · split at h
      · cases h
      split at h
      · exact ih h
      · cases h
        exact nofun

/-- Digits write a number below the power of ten of their count. -/
theorem ofDigits_lt {ds : List Nat} (h : ∀ d ∈ ds, d < 10) : ofDigits ds < 10 ^ ds.length := by
  -- The bound has to leave room for what the digits before were folded to.
  have hfold (n : Nat) : ds.foldl (fun n d => n * 10 + d) n < (n + 1) * 10 ^ ds.length := by
    induction ds generalizing n with
    | nil => simp
    | cons d rest ih =>
      obtain ⟨hd, hrest⟩ := List.forall_mem_cons.1 h
      calc (d :: rest).foldl (fun n d => n * 10 + d) n
          < (n * 10 + d + 1) * 10 ^ rest.length := ih hrest (n * 10 + d)
        _ ≤ ((n + 1) * 10) * 10 ^ rest.length := Nat.mul_le_mul_right _ (by omega)
        _ = (n + 1) * 10 ^ (d :: rest).length := by rw [List.length_cons]; ring
  simpa [ofDigits] using hfold 0

/-- **An integer that was read has few digits.** -/
theorem natAbs_lt_of_readInt {cs : List Char} {n : Int} (h : readInt cs = .ok n) :
    n.natAbs < 10 ^ maxDigits := by
  rw [readInt] at h
  dsimp only at h
  split at h
  · cases h
  split at h
  · cases h
  rename_i ds rest htake
  split at h
  · cases h
  rename_i hfew
  split at h
  · cases h
  injection h with h
  have hsmall : ofDigits ds < 10 ^ maxDigits :=
    Nat.lt_of_lt_of_le (ofDigits_lt (lt_ten_of_takeDigits? htake))
      (Nat.pow_le_pow_right (by decide) (Nat.not_lt.1 hfew))
  rw [← h]
  split
  · rwa [Int.natAbs_neg]
  · exact hsmall

/-- Digits are taken to the end of a text of digits. -/
theorem exists_takeDigits?_eq {cs : List Char} (h : ∀ c ∈ cs, (Text.decimalValue? c).isSome = true) :
    ∃ ds, takeDigits? false cs = some (ds, []) ∧ ds.length = cs.length := by
  induction cs with
  | nil => exact ⟨[], rfl, rfl⟩
  | cons c rest ih =>
    obtain ⟨hc, hrest⟩ := List.forall_mem_cons.1 h
    obtain ⟨d, hd⟩ := Option.isSome_iff_exists.1 hc
    obtain ⟨ds, htake, hlength⟩ := ih hrest
    refine ⟨d :: ds, ?_, by rw [List.length_cons, List.length_cons, hlength]⟩
    simp only [takeDigits?, hd, htake, Option.map_some]

/-- A digit is neither white space nor a sign. -/
theorem plain_of_isDigit {c : Char} (h : c.isDigit = true) :
    Text.isWhiteSpace c = false ∧ (Text.decimalValue? c).isSome = true ∧ c ≠ '-' ∧ c ≠ '+' := by
  have hbelow : c.toNat < 128 := by
    have hnine : c.toNat ≤ '9'.toNat := by
      simp only [Char.isDigit, Bool.and_eq_true, decide_eq_true_eq] at h
      exact UInt32.le_iff_toNat_le.1 h.2
    exact Nat.lt_of_le_of_lt hnine (by decide)
  exact Text.forall_ascii (P := fun c => c.isDigit = true → Text.isWhiteSpace c = false ∧
    (Text.decimalValue? c).isSome = true ∧ c ≠ '-' ∧ c ≠ '+') (by decide +kernel) hbelow h

/-- What begins with no sign has none split off. -/
theorem splitSign_eq_self {cs : List Char} (h : ∀ c ∈ cs.head?, c ≠ '-' ∧ c ≠ '+') :
    splitSign cs = (false, cs) := by
  rw [splitSign.eq_def]
  split
  · exact absurd rfl (h _ rfl).1
  · exact absurd rfl (h _ rfl).2
  · rfl

/-- **A text of too many digits** is not read. -/
theorem readInt_eq_tooLong {cs : List Char} (h : ∀ c ∈ cs, c.isDigit = true)
    (hlong : maxDigits < cs.length) : readInt cs = .error (.tooLong cs.length) := by
  have hstrip : stripSpace cs = cs :=
    dropEndWhile_dropWhile_eq_self
      (fun c hc => (plain_of_isDigit (h c (List.mem_of_head? hc))).1)
      fun c hc => (plain_of_isDigit (h c (List.mem_of_getLast? hc))).1
  cases cs with
  | nil => exact absurd hlong (by decide)
  | cons c rest =>
    obtain ⟨-, hdigit, hminus, hplus⟩ := plain_of_isDigit (h c List.mem_cons_self)
    have hsign : splitSign (c :: rest) = (false, c :: rest) :=
      splitSign_eq_self fun d hd => by
        cases hd
        exact ⟨hminus, hplus⟩
    obtain ⟨ds, htake, hlength⟩ :=
      exists_takeDigits?_eq fun c hc => (plain_of_isDigit (h c hc)).2.1
    simp only [readInt, hstrip, hsign, startsWithDigit, hdigit, Bool.not_true, Bool.false_eq_true,
      if_false, htake, hlength, if_pos hlong]

end Number

end WebPush
