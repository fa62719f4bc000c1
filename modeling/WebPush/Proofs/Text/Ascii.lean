import WebPush.Proofs.Text.Utf8
import WebPush.Text.Encoding
/-!
# ASCII — texts whose encoding gives itself away

An ASCII character is one octet in UTF-8. A text of ASCII characters
without the null character is found to be in UTF-8, and its octets read
back as the text.
-/

namespace WebPush.Text

/-! ## Characters -/

/-- What holds of the first code points holds of every ASCII character. -/
theorem forall_ascii {P : Char → Prop} (h : ∀ n < 128, P (Char.ofNat n)) {c : Char}
    (hc : c.toNat < 128) : P c :=
  Char.ofNat_toNat c ▸ h c.toNat hc

/-- What holds of every character and itself, and of the ASCII characters and their small
letters, holds of all characters and their small letters. -/
theorem forall_toLower {P : Char → Char → Prop} (hself : ∀ c, P c c)
    (hascii : ∀ n < 128, P (Char.ofNat n) (Char.ofNat n).toLower) (c : Char) : P c c.toLower := by
  by_cases hc : c.toNat < 128
  · exact forall_ascii (P := fun c => P c c.toLower) hascii hc
  · have hcapital : ¬ (c.val ≥ 'A'.val ∧ c.val ≤ 'Z'.val) := fun h =>
      hc (Nat.lt_of_le_of_lt (UInt32.le_iff_toNat_le.1 h.2) (by decide))
    have hlower : c.toLower = c := dif_neg hcapital
    rw [hlower]
    exact hself c

theorem toNat_le_toNat {a b : Char} (h : a ≤ b) : a.toNat ≤ b.toNat :=
  UInt32.le_iff_toNat_le.1 (Char.le_def.1 h)

/-- ASCII characters only, and no null character among them. -/
def IsAscii (cs : List Char) : Prop := ∀ c ∈ cs, 0 < c.toNat ∧ c.toNat < 128

-- Named, so that no text is ever decided by a walk over all characters.
instance (cs : List Char) : Decidable (IsAscii cs) := List.decidableBAll _ cs

theorem isAscii_append {xs ys : List Char} : IsAscii (xs ++ ys) ↔ IsAscii xs ∧ IsAscii ys :=
  List.forall_mem_append

theorem isAscii_cons {c : Char} {cs : List Char} :
    IsAscii (c :: cs) ↔ (0 < c.toNat ∧ c.toNat < 128) ∧ IsAscii cs :=
  List.forall_mem_cons

theorem isAscii_flatten_intersperse {separator : List Char} (hseparator : IsAscii separator)
    {parts : List (List Char)} (h : ∀ part ∈ parts, IsAscii part) :
    IsAscii (parts.intersperse separator).flatten := by
  induction parts with
  | nil => exact List.forall_mem_nil _
  | cons part rest ih =>
    obtain ⟨hpart, hrest⟩ := List.forall_mem_cons.1 h
    cases rest with
    | nil => simpa using hpart
    | cons next rest =>
      rw [List.intersperse_cons_cons, List.flatten_cons, List.flatten_cons]
      exact isAscii_append.2 ⟨hpart, isAscii_append.2 ⟨hseparator, ih hrest⟩⟩

/-! ## Octets -/

/-- A text that is not empty has octets. -/
theorem encodeChars_ne_nil {cs : List Char} (h : cs ≠ []) : Utf8.encodeChars cs ≠ [] := by
  cases cs with
  | nil => contradiction
  | cons c rest =>
    have hlen : (String.utf8EncodeChar c).length ≠ 0 := by
      rw [String.length_utf8EncodeChar]
      exact Nat.ne_of_gt c.utf8Size_pos
    rw [Utf8.encodeChars, List.flatMap_cons]
    intro hnil
    rw [List.append_eq_nil_iff] at hnil
    exact hlen (by rw [hnil.1, List.length_nil])

/-- The octet of an ASCII character. -/
def octet (c : Char) : UInt8 := UInt8.ofNat c.toNat

theorem toNat_octet {c : Char} (h : c.toNat < 128) : (octet c).toNat = c.toNat :=
  UInt8.toNat_ofNat_of_lt' (Nat.lt_trans h (by decide))

theorem utf8EncodeChar_of_lt {c : Char} (h : c.toNat < 128) :
    String.utf8EncodeChar c = [octet c] := by
  have hsize : c.utf8Size = 1 := Char.utf8Size_eq_one_iff.2 (UInt32.le_iff_toNat_le.2 (by
    show c.toNat ≤ 127
    omega))
  rw [String.utf8EncodeChar_eq_singleton hsize]
  rfl

/-- **A text in ASCII has one octet for each character.** -/
theorem IsAscii.encodeChars {cs : List Char} (h : IsAscii cs) :
    Utf8.encodeChars cs = cs.map octet := by
  induction cs with
  | nil => rfl
  | cons c rest ih =>
    obtain ⟨hc, hrest⟩ := isAscii_cons.1 h
    rw [Utf8.encodeChars, List.flatMap_cons, utf8EncodeChar_of_lt hc.2, List.map_cons,
      ← Utf8.encodeChars, ih hrest, List.singleton_append]

/-- An ASCII text holds no encoded surrogate. -/
theorem IsAscii.replaceSurrogates_map {cs : List Char} (h : IsAscii cs) :
    replaceSurrogates (cs.map octet) = cs.map octet := by
  induction cs with
  | nil => rfl
  | cons c rest ih =>
    obtain ⟨hc, hrest⟩ := isAscii_cons.1 h
    have hlead : octet c ≠ 0xED := by
      intro heq
      have := toNat_octet hc.2
      rw [heq] at this
      exact absurd hc.2 (this ▸ by decide)
    rw [List.map_cons, replaceSurrogates.eq_def]
    split
    · contradiction
    · rename_i heq
      injection heq with hhead
      exact absurd hhead hlead
    · rename_i heq
      injection heq with hhead htail
      rw [← hhead, ← htail, ih hrest]

/-- An octet that is neither zero nor beyond ASCII begins no byte order mark. -/
theorem ofMark?_cons {b : UInt8} (hpos : b ≠ 0) (hlow : b.toNat < 128) (rest : Bytes) :
    Encoding.ofMark? (b :: rest) = none := by
  rw [Encoding.ofMark?.eq_def]
  split
  all_goals first
    | rfl
    | rename_i heq
      injection heq with hhead
      subst hhead
      exact absurd hlow (by decide)
    | rename_i heq
      injection heq with hhead
      exact absurd hhead hpos

/-- Without zeros among them, octets are in UTF-8. -/
theorem ofZeros_of_ne_zero {bs : Bytes} (h : ∀ b ∈ bs, b ≠ 0) : Encoding.ofZeros bs = .utf8 0 := by
  rw [Encoding.ofZeros.eq_def]
  split
  · rename_i a b c d rest
    rw [if_neg (h a (by simp)), if_neg (h b (by simp))]
  · rename_i a b
    rw [if_neg (h a (by simp)), if_neg (h b (by simp))]
  · rfl

/-- **The octets of an ASCII text are found to be UTF-8.** -/
theorem IsAscii.detect_map {cs : List Char} (h : IsAscii cs) :
    Encoding.detect (cs.map octet) = .utf8 0 := by
  have hne : ∀ c ∈ cs, octet c ≠ 0 := by
    intro c hc heq
    have hnat := toNat_octet (h c hc).2
    rw [heq] at hnat
    exact absurd (h c hc).1 (hnat ▸ by decide)
  have hmark : Encoding.ofMark? (cs.map octet) = none := by
    cases cs with
    | nil => rfl
    | cons c rest =>
      obtain ⟨hc, -⟩ := isAscii_cons.1 h
      exact ofMark?_cons (hne c List.mem_cons_self) (toNat_octet hc.2 ▸ hc.2) _
  rw [Encoding.detect, hmark, Option.getD_none, ofZeros_of_ne_zero]
  intro b hb
  obtain ⟨c, hc, rfl⟩ := List.mem_map.1 hb
  exact hne c hc

/-- **An ASCII text reads back from its octets.** -/
theorem IsAscii.decodeDetected?_encodeChars {cs : List Char} (h : IsAscii cs) :
    decodeDetected? (Utf8.encodeChars cs) = some cs := by
  rw [decodeDetected?, h.encodeChars, h.detect_map]
  simp only [List.drop_zero, h.replaceSurrogates_map]
  rw [← h.encodeChars, Utf8.decodeChars?_encodeChars]

end WebPush.Text
