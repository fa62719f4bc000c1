import Mathlib.Algebra.Group.Nat.Defs
import WebPush.Json.Printer
import WebPush.Json.Reader
import WebPush.Proofs.Text.Ascii
/-!
# Json — strings read back

`Reads` follows the reader over a text, from one state to another. The
text of a character, escaped or not, adds that character to a string,
whatever stands before and behind it; so the text of a string is read as
the string.
-/

namespace WebPush.Json

/-! ## Following the reader -/

/-- The text takes the reader from one state to another. -/
def Reads (depth : Depth) (state : State) (cs : List Char) (state' : State) : Prop :=
  cs.foldlM (State.step depth) state = .ok state'

namespace Reads

variable {depth : Depth} {state state' state'' : State} {c : Char} {cs ds : List Char}

theorem nil : Reads depth state [] state := rfl

theorem cons (h : state.step depth c = .ok state') (hs : Reads depth state' cs state'') :
    Reads depth state (c :: cs) state'' := by
  rw [Reads, List.foldlM_cons, h]
  exact hs

theorem single (h : state.step depth c = .ok state') : Reads depth state [c] state' := cons h nil

theorem append (hs : Reads depth state cs state') (hs' : Reads depth state' ds state'') :
    Reads depth state (cs ++ ds) state'' := by
  rw [Reads, List.foldlM_append, hs]
  exact hs'

end Reads

/-! ## Unit escapes -/

theorem hexValue?_digitChar : ∀ d < 16, hexValue? (Nat.digitChar d) = some d := by
  decide

section Units

variable {depth : Depth} {frames : List Frame} {isName : Bool} {reversed : List Char}

/-- The digits of a unit escape before the last, which may be the first or the
second one of a pair. -/
theorem reads_hexDigits {pending : Nat → Nat → Pending}
    (hstep : ∀ digits value c d, digits < 3 → hexValue? c = some d →
      State.step depth ⟨frames, .string isName reversed (pending digits value)⟩ c =
        .ok ⟨frames, .string isName reversed (pending (digits + 1) (value * 16 + d))⟩)
    {count : Nat} (hcount : count ≤ 3) (n : Nat) :
    Reads depth ⟨frames, .string isName reversed (pending 0 0)⟩ (Text.hexDigits count n)
      ⟨frames, .string isName reversed (pending count (n % 16 ^ count))⟩ := by
  induction count generalizing n with
  | zero =>
    rw [Nat.pow_zero, Nat.mod_one]
    exact .nil
  | succ count ih =>
    have hdigit := hexValue?_digitChar (n % 16) (Nat.mod_lt n (by decide))
    have hvalue : n / 16 % 16 ^ count * 16 + n % 16 = n % 16 ^ (count + 1) := by
      rw [Nat.pow_succ, Nat.mul_comm (16 ^ count), Nat.mod_mul]
      omega
    rw [Text.hexDigits, ← hvalue]
    exact (ih (by omega) (n / 16)).append (.single (hstep _ _ _ _ (by omega) hdigit))

/-- The last digit settles which unit the escape is. -/
theorem reads_unit {pending : Nat → Nat → Pending}
    (hstep : ∀ digits value c d, digits < 3 → hexValue? c = some d →
      State.step depth ⟨frames, .string isName reversed (pending digits value)⟩ c =
        .ok ⟨frames, .string isName reversed (pending (digits + 1) (value * 16 + d))⟩)
    {unit : Nat} {state : State} (hunit : unit < 0x10000)
    (hlast : ∀ value c d, hexValue? c = some d → value * 16 + d = unit →
      State.step depth ⟨frames, .string isName reversed (pending 3 value)⟩ c = .ok state) :
    Reads depth ⟨frames, .string isName reversed (pending 0 0)⟩ (Text.hexDigits 4 unit) state := by
  have hdigit := hexValue?_digitChar (unit % 16) (Nat.mod_lt unit (by decide))
  have hvalue : unit / 16 % 16 ^ 3 * 16 + unit % 16 = unit := by omega
  rw [Text.hexDigits]
  exact (reads_hexDigits hstep (Nat.le_refl 3) (unit / 16)).append
    (.single (hlast _ _ _ hdigit hvalue))

theorem step_unit (digits value : Nat) (c : Char) (d : Nat) (hdigits : digits < 3)
    (hc : hexValue? c = some d) :
    State.step depth ⟨frames, .string isName reversed (.unit digits value)⟩ c =
      .ok ⟨frames, .string isName reversed (.unit (digits + 1) (value * 16 + d))⟩ := by
  simp only [State.step, State.stepString, hc, if_pos hdigits]

theorem step_highUnit (high digits value : Nat) (c : Char) (d : Nat) (hdigits : digits < 3)
    (hc : hexValue? c = some d) :
    State.step depth ⟨frames, .string isName reversed (.highUnit high digits value)⟩ c =
      .ok ⟨frames, .string isName reversed (.highUnit high (digits + 1) (value * 16 + d))⟩ := by
  simp only [State.step, State.stepString, hc, if_pos hdigits]

/-- **A unit that is no half of a pair** is a character. -/
theorem reads_unitEscape {unit : Nat} (hunit : unit < 0x10000)
    (hhigh : Text.isHighSurrogate unit = false) :
    Reads depth ⟨frames, .string isName reversed .none⟩ (unitEscape unit)
      ⟨frames, .string isName (Text.charOfCodePoint unit :: reversed) .none⟩ := by
  refine .cons rfl (.cons rfl (reads_unit step_unit hunit ?_))
  rintro value c d hc rfl
  simp only [State.step, State.stepString, hc, hhigh]
  rfl

/-- **Two units that are the halves of a pair** are one character. -/
theorem reads_unitEscape_unitEscape {high low : Nat} (hhigh : Text.isHighSurrogate high = true)
    (hlow : Text.isLowSurrogate low = true) :
    Reads depth ⟨frames, .string isName reversed .none⟩ (unitEscape high ++ unitEscape low)
      ⟨frames, .string isName (Text.joinSurrogates high low :: reversed) .none⟩ := by
  have hhigh' : high < 0x10000 := by
    simp [Text.isHighSurrogate] at hhigh
    omega
  have hlow' : low < 0x10000 := by
    simp [Text.isLowSurrogate] at hlow
    omega
  -- The first half is kept back until the second one is complete.
  have hfirst : Reads depth ⟨frames, .string isName reversed .none⟩ (unitEscape high)
      ⟨frames, .string isName reversed (.high high)⟩ := by
    refine .cons rfl (.cons rfl (reads_unit step_unit hhigh' ?_))
    rintro value c d hc rfl
    simp only [State.step, State.stepString, hc, hhigh]
    rfl
  refine hfirst.append (.cons rfl (.cons rfl (reads_unit (step_highUnit high) hlow' ?_)))
  rintro value c d hc rfl
  simp only [State.step, State.stepString, hc, hlow]
  rfl

end Units

/-! ## Characters and strings -/

/-- A character is no surrogate. -/
theorem charOfCodePoint_toNat (c : Char) :
    Text.isHighSurrogate c.toNat = false ∧ Text.charOfCodePoint c.toNat = c := by
  have hvalid : c.toNat < 0xD800 ∨ 0xDFFF < c.toNat := c.valid.imp id And.left
  constructor
  · simp [Text.isHighSurrogate]
    omega
  · rw [Text.charOfCodePoint, if_neg, Char.ofNat_toNat]
    simp
    omega

/-- A character beyond the basic plane is the one that its surrogate pair names. -/
theorem joinSurrogates_toNat {c : Char} (h : ¬ c.toNat < 0x10000) :
    let n := c.toNat - 0x10000
    Text.isHighSurrogate (0xD800 + n / 0x400) = true ∧
      Text.isLowSurrogate (0xDC00 + n % 0x400) = true ∧
      Text.joinSurrogates (0xD800 + n / 0x400) (0xDC00 + n % 0x400) = c := by
  intro n
  have hvalid : c.toNat < 0x110000 := c.valid.elim (fun h => Nat.lt_trans h (by decide)) And.right
  have hn : n = c.toNat - 0x10000 := rfl
  refine ⟨?_, ?_, ?_⟩
  · simp [Text.isHighSurrogate]
    omega
  · simp [Text.isLowSurrogate]
    omega
  · have hsum : 0x10000 + (0xD800 + n / 0x400 - 0xD800) * 0x400 +
        (0xDC00 + n % 0x400 - 0xDC00) = c.toNat := by omega
    rw [Text.joinSurrogates, hsum, Char.ofNat_toNat]

section Strings

variable {depth : Depth} {frames : List Frame} {isName : Bool} {reversed : List Char}

/-- **The text of a character is read as the character.** -/
theorem reads_escapeChar (c : Char) :
    Reads depth ⟨frames, .string isName reversed .none⟩ (escapeChar c)
      ⟨frames, .string isName (c :: reversed) .none⟩ := by
  unfold escapeChar
  -- the escapes that have a letter of their own
  iterate 7
    split
    · subst c
      exact .cons rfl (.single rfl)
  rename_i hquote hbackslash _ _ _ _ _
  split
  · rename_i hprintable
    have hcontrol : ¬ c.toNat < 0x20 := Nat.not_lt.2 (Text.toNat_le_toNat hprintable.1)
    refine .single ?_
    simp only [State.step, State.stepString, State.stringChar, if_neg hquote, if_neg hbackslash,
      if_neg hcontrol]
  split
  · rename_i hplane
    have hread : Reads depth ⟨frames, .string isName reversed .none⟩ (unitEscape c.toNat)
        ⟨frames, .string isName (Text.charOfCodePoint c.toNat :: reversed) .none⟩ :=
      reads_unitEscape hplane (charOfCodePoint_toNat c).1
    rwa [(charOfCodePoint_toNat c).2] at hread
  · rename_i hplane
    obtain ⟨hhigh, hlow, hjoin⟩ := joinSurrogates_toNat hplane
    have hread : Reads depth ⟨frames, .string isName reversed .none⟩ _ _ :=
      reads_unitEscape_unitEscape hhigh hlow
    rwa [hjoin] at hread

theorem reads_flatMap_escapeChar (cs : List Char) :
    Reads depth ⟨frames, .string isName reversed .none⟩ (cs.flatMap escapeChar)
      ⟨frames, .string isName (cs.reverse ++ reversed) .none⟩ := by
  induction cs generalizing reversed with
  | nil => exact .nil
  | cons c rest ih =>
    rw [List.flatMap_cons, List.reverse_cons, List.append_assoc]
    exact (reads_escapeChar c).append ih

/-- **The text of a string is read as the string**, where a value may stand. -/
theorem reads_printString (s : String) :
    Reads depth ⟨frames, .value false⟩ (printString s) (State.deliver frames (.string s)) := by
  have hclose : State.step depth ⟨frames, .string false (s.toList.reverse ++ []) .none⟩ '"' =
      .ok (State.deliver frames (.string s)) := by
    have hdeliver : State.deliverString frames false (s.toList.reverse ++ []) =
        State.deliver frames (.string s) := by
      simp [State.deliverString]
    rw [← hdeliver]
    rfl
  exact .cons rfl ((reads_flatMap_escapeChar s.toList).append (.single hclose))

/-- The text of a string is read as the string where a name may stand. -/
theorem reads_printString_name {members : List (String × Json)} {name : String} (s : String)
    (mayClose : Bool) :
    Reads depth ⟨.object members name :: frames, .name mayClose⟩ (printString s)
      ⟨.object members s :: frames, .colon⟩ := by
  have hopen : State.step depth ⟨.object members name :: frames, .name mayClose⟩ '"' =
      .ok ⟨.object members name :: frames, .string true [] .none⟩ := by
    cases mayClose <;> rfl
  have hclose : State.step depth
      ⟨.object members name :: frames, .string true (s.toList.reverse ++ []) .none⟩ '"' =
        .ok ⟨.object members s :: frames, .colon⟩ := by
    have hdeliver : State.deliverString (.object members name :: frames) true
        (s.toList.reverse ++ []) = ⟨.object members s :: frames, .colon⟩ := by
      simp [State.deliverString]
    rw [← hdeliver]
    rfl
  exact .cons hopen ((reads_flatMap_escapeChar s.toList).append (.single hclose))

end Strings

/-! ## The alphabet of the text -/

theorem isAscii_hexDigits (width n : Nat) : Text.IsAscii (Text.hexDigits width n) := by
  induction width generalizing n with
  | zero => simp [Text.hexDigits, Text.IsAscii]
  | succ width ih =>
    have hdigit : ∀ d < 16, Text.IsAscii [Nat.digitChar d] := by decide
    exact Text.isAscii_append.2 ⟨ih (n / 16), hdigit _ (Nat.mod_lt n (by decide))⟩

theorem isAscii_unitEscape (unit : Nat) : Text.IsAscii (unitEscape unit) :=
  Text.isAscii_append.2 ⟨(by decide : Text.IsAscii ['\\', 'u']), isAscii_hexDigits 4 unit⟩

/-- What is written of a character is in ASCII. -/
theorem isAscii_escapeChar (c : Char) : Text.IsAscii (escapeChar c) := by
  unfold escapeChar
  iterate 7
    split
    · decide
  split
  · rename_i hprintable
    have hlow := Text.toNat_le_toNat hprintable.1
    have hhigh := Text.toNat_le_toNat hprintable.2
    intro d hd
    rw [List.mem_singleton.1 hd]
    exact ⟨Nat.lt_of_lt_of_le (by decide) hlow, Nat.lt_of_le_of_lt hhigh (by decide)⟩
  split
  · exact isAscii_unitEscape _
  · exact Text.isAscii_append.2 ⟨isAscii_unitEscape _, isAscii_unitEscape _⟩

/-- **What is written of a string is in ASCII.** -/
theorem isAscii_printString (s : String) : Text.IsAscii (printString s) := by
  have hquote : Text.IsAscii ['"'] := by decide
  have hchars : Text.IsAscii (s.toList.flatMap escapeChar) := by
    intro d hd
    obtain ⟨c, -, hd⟩ := List.mem_flatMap.1 hd
    exact isAscii_escapeChar c d hd
  exact Text.isAscii_append.2 ⟨Text.isAscii_append.2 ⟨hquote, hchars⟩, hquote⟩

end WebPush.Json
