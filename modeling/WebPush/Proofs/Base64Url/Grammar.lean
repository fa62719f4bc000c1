import Mathlib.Data.Bool.AllAny
import WebPush.Key.Codec
import WebPush.Proofs.Base64Url
/-!
# Base64url — the texts that are read, and what they are read as

The tolerant reader takes the texts over both alphabets that do not
leave a single character over, whatever blanks are around them and
padding behind them. What it reads is written again as the same text in
the URL-safe alphabet, but for the bits of the last character that
belong to no octet: these are lost.
-/

namespace WebPush.Base64Url

variable {c : Char} {cs : List Char} {n : Nat} {ns : List Nat} {bs : Bytes}

/-! ## Characters -/

/-- A character that the tolerant reader takes. -/
def IsReadable (c : Char) : Prop :=
  ('A' ≤ c ∧ c ≤ 'Z') ∨ ('a' ≤ c ∧ c ≤ 'z') ∨ ('0' ≤ c ∧ c ≤ '9') ∨
    c = '+' ∨ c = '/' ∨ c = '-' ∨ c = '_'

instance (c : Char) : Decidable (IsReadable c) := inferInstanceAs (Decidable (_ ∨ _))

/-- A character that is written. -/
def IsUrlSafe (c : Char) : Prop :=
  ('A' ≤ c ∧ c ≤ 'Z') ∨ ('a' ≤ c ∧ c ≤ 'z') ∨ ('0' ≤ c ∧ c ≤ '9') ∨ c = '-' ∨ c = '_'

theorem inAlphabet_iff : inAlphabet c = true ↔ IsUrlSafe c := by
  rw [inAlphabet, decodeSextet?, IsUrlSafe]
  split_ifs <;> simp_all

/-- The readable characters are those that have a URL-safe form in the alphabet. -/
theorem inAlphabet_toUrlSafe_iff : inAlphabet (toUrlSafe c) = true ↔ IsReadable c := by
  rw [inAlphabet_iff, IsUrlSafe, IsReadable, toUrlSafe]
  split_ifs with hplus hslash
  · subst hplus
    decide
  · subst hslash
    decide
  · simp only [hplus, hslash, false_or]

/-- A character of the alphabet stands for six bits, and they for it. -/
theorem of_decodeSextet?_eq_some (h : decodeSextet? c = some n) : n < 64 ∧ encodeSextet n = c := by
  have hlt : c.toNat < 128 := toNat_lt_of_inAlphabet (by rw [inAlphabet, h, Option.isSome_some])
  exact Text.forall_ascii
    (P := fun c => ∀ n ∈ decodeSextet? c, n < 64 ∧ encodeSextet n = c) (by decide +kernel) hlt n h

/-- The character for the same six bits without the `count` lowest ones. -/
def clearLow (count : Nat) (c : Char) : Char :=
  encodeSextet ((decodeSextet? c).getD 0 / 2 ^ count * 2 ^ count)

theorem clearLow_encodeSextet (count : Nat) (h : n < 64) :
    clearLow count (encodeSextet n) = encodeSextet (n / 2 ^ count * 2 ^ count) := by
  rw [clearLow, decodeSextet?_encodeSextet n h, Option.getD_some]

/-! ## Groups -/

/-- How many bits of the last of so many characters belong to no octet. -/
def unusedBits (length : Nat) : Nat :=
  if length % 4 = 2 then 4 else if length % 4 = 3 then 2 else 0

/-- The characters with the bits of the last one cleared that belong to no octet. -/
def clearUnused (cs : List Char) : List Char :=
  cs.dropLast ++ cs.getLast?.toList.map (clearLow (unusedBits cs.length))

theorem unusedBits_add_four (length : Nat) : unusedBits (length + 4) = unusedBits length := by
  rw [unusedBits, Nat.add_mod_right, unusedBits]

/-- Four characters in front make no difference to the last one. -/
theorem clearUnused_four (p q r : Char) (hn : n < 64) (cs : List Char) :
    clearUnused (p :: q :: r :: encodeSextet n :: cs) =
      p :: q :: r :: encodeSextet n :: clearUnused cs := by
  cases cs with
  | nil => simp [clearUnused, unusedBits, clearLow_encodeSextet 0 hn]
  | cons c rest =>
    have hlength :
        (p :: q :: r :: encodeSextet n :: c :: rest).length = (c :: rest).length + 4 := rfl
    rw [clearUnused, hlength, unusedBits_add_four]
    simp only [List.dropLast_cons_cons, List.getLast?_cons_cons, List.cons_append, clearUnused]

section Octets

variable {p q r s : Nat} (hp : p < 64) (hq : q < 64) (hr : r < 64) (hs : s < 64)

include hp hq

/-- The octet that two groups make is written as the groups, without four bits of the second. -/
theorem encodeChars_one : encodeChars [UInt8.ofNat (p * 4 + q / 16)] =
    [encodeSextet p, encodeSextet (q / 2 ^ 4 * 2 ^ 4)] := by
  have hoctet := UInt8.toNat_ofNat_of_lt' (show p * 4 + q / 16 < 2 ^ 8 by omega)
  have hfirst : (p * 4 + q / 16) / 4 = p := by omega
  have hsecond : (p * 4 + q / 16) % 4 * 16 = q / 2 ^ 4 * 2 ^ 4 := by omega
  rw [encodeChars, hoctet, hfirst, hsecond]

include hr

/-- The octets that three groups make are written as the groups, without two bits of the third. -/
theorem encodeChars_two :
    encodeChars [UInt8.ofNat (p * 4 + q / 16), UInt8.ofNat (q % 16 * 16 + r / 4)] =
      [encodeSextet p, encodeSextet q, encodeSextet (r / 2 ^ 2 * 2 ^ 2)] := by
  have hone := UInt8.toNat_ofNat_of_lt' (show p * 4 + q / 16 < 2 ^ 8 by omega)
  have htwo := UInt8.toNat_ofNat_of_lt' (show q % 16 * 16 + r / 4 < 2 ^ 8 by omega)
  have hfirst : (p * 4 + q / 16) / 4 = p := by omega
  have hsecond : (p * 4 + q / 16) % 4 * 16 + (q % 16 * 16 + r / 4) / 16 = q := by omega
  have hthird : (q % 16 * 16 + r / 4) % 16 * 4 = r / 2 ^ 2 * 2 ^ 2 := by omega
  rw [encodeChars, hone, htwo, hfirst, hsecond, hthird]

include hs

/-- The octets that four groups make are written as the groups. -/
theorem encodeChars_three (rest : Bytes) :
    encodeChars (UInt8.ofNat (p * 4 + q / 16) :: UInt8.ofNat (q % 16 * 16 + r / 4) ::
        UInt8.ofNat (r % 4 * 64 + s) :: rest) =
      encodeSextet p :: encodeSextet q :: encodeSextet r :: encodeSextet s :: encodeChars rest := by
  have hone := UInt8.toNat_ofNat_of_lt' (show p * 4 + q / 16 < 2 ^ 8 by omega)
  have htwo := UInt8.toNat_ofNat_of_lt' (show q % 16 * 16 + r / 4 < 2 ^ 8 by omega)
  have hthree := UInt8.toNat_ofNat_of_lt' (show r % 4 * 64 + s < 2 ^ 8 by omega)
  have hfirst : (p * 4 + q / 16) / 4 = p := by omega
  have hsecond : (p * 4 + q / 16) % 4 * 16 + (q % 16 * 16 + r / 4) / 16 = q := by omega
  have hthird : (q % 16 * 16 + r / 4) % 16 * 4 + (r % 4 * 64 + s) / 64 = r := by omega
  have hfourth : (r % 4 * 64 + s) % 64 = s := by omega
  rw [encodeChars, hone, htwo, hthree, hfirst, hsecond, hthird, hfourth]

end Octets

/-- **The octets of six-bit groups are written as the groups**, but for the bits that belong to
no octet. -/
theorem encodeChars_of_decodeSextets? (hns : ∀ n ∈ ns, n < 64) (h : decodeSextets? ns = some bs) :
    encodeChars bs = clearUnused (ns.map encodeSextet) := by
  fun_induction decodeSextets? ns generalizing bs with
  | case1 =>
    cases h
    rfl
  | case2 => cases h
  | case3 p q =>
    cases h
    obtain ⟨hp, hq, -⟩ : p < 64 ∧ q < 64 ∧ _ := by simpa only [List.forall_mem_cons] using hns
    rw [encodeChars_one hp hq, ← clearLow_encodeSextet 4 hq]
    rfl
  | case4 p q r =>
    cases h
    obtain ⟨hp, hq, hr, -⟩ : p < 64 ∧ q < 64 ∧ r < 64 ∧ _ := by
      simpa only [List.forall_mem_cons] using hns
    rw [encodeChars_two hp hq hr, ← clearLow_encodeSextet 2 hr]
    rfl
  | case5 p q r s rest ih =>
    obtain ⟨more, hmore, rfl⟩ := Option.map_eq_some_iff.1 h
    obtain ⟨hp, hq, hr, hs, hrest⟩ : p < 64 ∧ q < 64 ∧ r < 64 ∧ s < 64 ∧ ∀ n ∈ rest, n < 64 := by
      simpa only [List.forall_mem_cons] using hns
    rw [encodeChars_three hp hq hr hs, ih hrest hmore]
    exact (clearUnused_four _ _ _ hs _).symm

/-- Four groups make three octets, and those left over one less than they are. -/
theorem length_of_decodeSextets? (h : decodeSextets? ns = some bs) :
    bs.length = 3 * ns.length / 4 := by
  fun_induction decodeSextets? ns generalizing bs with
  | case5 p q r s rest ih =>
    obtain ⟨more, hmore, rfl⟩ := Option.map_eq_some_iff.1 h
    simp only [List.length_cons, ih hmore]
    omega
  | case2 => cases h
  | _ =>
    cases h
    simp

/-- Only a single group left over makes no octets. -/
theorem decodeSextets?_eq_none_iff : decodeSextets? ns = none ↔ ns.length % 4 = 1 := by
  fun_induction decodeSextets? ns with
  | case5 p q r s rest ih =>
    rw [Option.map_eq_none_iff, ih]
    simp only [List.length_cons]
    omega
  | _ => simp

/-! ## Texts -/

/-- The groups of a text over the alphabet are those that its characters stand for. -/
theorem of_mapM_decodeSextet? (h : cs.mapM decodeSextet? = some ns) :
    cs = ns.map encodeSextet ∧ ∀ n ∈ ns, n < 64 := by
  induction cs generalizing ns with
  | nil =>
    cases h
    exact ⟨rfl, List.forall_mem_nil _⟩
  | cons c rest ih =>
    rw [List.mapM_cons] at h
    obtain ⟨n, hn, h⟩ := Option.bind_eq_some_iff.1 h
    obtain ⟨more, hmore, h⟩ := Option.bind_eq_some_iff.1 h
    cases h
    obtain ⟨hlt, hchar⟩ := of_decodeSextet?_eq_some hn
    obtain ⟨hrest, hall⟩ := ih hmore
    exact ⟨by rw [List.map_cons, hchar, ← hrest], List.forall_mem_cons.2 ⟨hlt, hall⟩⟩

theorem exists_mapM_decodeSextet? (h : ∀ c ∈ cs, inAlphabet c = true) :
    ∃ ns, cs.mapM decodeSextet? = some ns := by
  induction cs with
  | nil => exact ⟨[], rfl⟩
  | cons c rest ih =>
    obtain ⟨hc, hrest⟩ := List.forall_mem_cons.1 h
    obtain ⟨n, hn⟩ := Option.isSome_iff_exists.1 hc
    obtain ⟨more, hmore⟩ := ih hrest
    exact ⟨n :: more, by rw [List.mapM_cons, hn, hmore]; rfl⟩

/-- What the strict reader has read is over the alphabet, leaves no single character over, and is
written as the same text, but for the bits that belong to no octet. -/
theorem of_decodeStrict?_eq_some (h : decodeStrict? cs = some bs) :
    (∀ c ∈ cs, inAlphabet c = true) ∧ cs.length % 4 ≠ 1 ∧ bs.length = 3 * cs.length / 4 ∧
      encodeChars bs = clearUnused cs := by
  obtain ⟨ns, hns, hbs⟩ := Option.bind_eq_some_iff.1 h
  obtain ⟨rfl, hlt⟩ := of_mapM_decodeSextet? hns
  refine ⟨List.forall_mem_map.2 fun n hn => inAlphabet_encodeSextet (hlt n hn), fun hone => ?_, ?_,
    encodeChars_of_decodeSextets? hlt hbs⟩
  · rw [List.length_map, ← decodeSextets?_eq_none_iff] at hone
    rw [hone] at hbs
    cases hbs
  · rw [List.length_map, length_of_decodeSextets? hbs]

/-- **The strict reader reads every such text.** -/
theorem exists_decodeStrict? (halphabet : ∀ c ∈ cs, inAlphabet c = true)
    (hlength : cs.length % 4 ≠ 1) : ∃ bs, decodeStrict? cs = some bs := by
  obtain ⟨ns, hns⟩ := exists_mapM_decodeSextet? halphabet
  obtain ⟨rfl, -⟩ := of_mapM_decodeSextet? hns
  rw [List.length_map] at hlength
  rw [decodeStrict?, hns, Option.bind_some, ← Option.isSome_iff_exists, Option.isSome_iff_ne_none]
  exact fun hnone => hlength (decodeSextets?_eq_none_iff.1 hnone)

/-- The text without the blanks around it and the padding behind it. -/
def stripped (text : String) : List Char := dropEndWhile (· == '=') (Text.trim text.toList)

/-- What the tolerant reader makes of a text before it reads it strictly is the text without blanks
and padding, in the URL-safe alphabet. -/
theorem normalize_eq_map_stripped (text : String) :
    normalize text.toList = (stripped text).map toUrlSafe := by
  have hpadding : ((· == '=') ∘ toUrlSafe : Char → Bool) = (· == '=') := by
    funext c
    rw [Function.comp_apply, toUrlSafe]
    split_ifs with hplus hslash
    · subst hplus
      rfl
    · subst hslash
      rfl
    · rfl
  rw [normalize, dropEndWhile, ← List.map_reverse, List.dropWhile_map, hpadding, ← List.map_reverse]
  rfl

/-- A text that the tolerant reader takes, without its blanks and its padding: it is over either
alphabet and leaves no single character over. -/
def IsTolerable (cs : List Char) : Prop := (∀ c ∈ cs, IsReadable c) ∧ cs.length % 4 ≠ 1

instance (cs : List Char) : Decidable (IsTolerable cs) :=
  decidable_of_iff (cs.all (fun c => decide (IsReadable c)) = true ∧ cs.length % 4 ≠ 1)
    (and_congr_left' List.all_iff_forall_prop)

theorem isTolerable_iff : IsTolerable cs ↔
    (∀ c ∈ cs.map toUrlSafe, inAlphabet c = true) ∧ (cs.map toUrlSafe).length % 4 ≠ 1 := by
  rw [IsTolerable, List.forall_mem_map, List.length_map]
  simp only [inAlphabet_toUrlSafe_iff]

theorem exists_toBytes_text_iff {text : String} :
    (∃ bs, Encoded.toBytes (.text text) = .ok bs) ↔ IsTolerable (stripped text) := by
  rw [Encoded.toBytes, decode?, normalize_eq_map_stripped, isTolerable_iff]
  constructor
  · rintro ⟨bs, h⟩
    split at h
    · rename_i hread
      obtain ⟨halphabet, hlength, -⟩ := of_decodeStrict?_eq_some hread
      exact ⟨halphabet, hlength⟩
    · cases h
  · rintro ⟨halphabet, hlength⟩
    obtain ⟨bs, hread⟩ := exists_decodeStrict? halphabet hlength
    exact ⟨bs, by rw [hread]⟩

/-- **The tolerant reader and the writer.** A text is read if and only if it is tolerable without
its blanks and its padding, and else refused as no base64url; what is read has three octets for four
characters, and is written as the text in the URL-safe alphabet without the bits that belong to no
octet. What is written is in that alphabet, has four characters for three octets, rounded up, and
is read as the octets it was written for, as is every other way to spell it. -/
theorem tolerant_reader_exact :
    (∀ text : String,
      ((∃ bs, Encoded.toBytes (.text text) = .ok bs) ↔ IsTolerable (stripped text)) ∧
      (¬ IsTolerable (stripped text) → Encoded.toBytes (.text text) = .error .notBase64Url) ∧
      ∀ bs, Encoded.toBytes (.text text) = .ok bs →
        bs.length = 3 * (stripped text).length / 4 ∧
          (encode bs).toList = clearUnused ((stripped text).map toUrlSafe)) ∧
    ∀ bs : Bytes,
      (∀ c ∈ (encode bs).toList, IsUrlSafe c) ∧ (encode bs).length = (4 * bs.length + 2) / 3 ∧
        Encoded.toBytes (.text (encode bs)) = .ok bs ∧
        ∀ text, IsSpelling text bs → Encoded.toBytes (.text text) = .ok bs := by
  refine ⟨fun text => ⟨exists_toBytes_text_iff, fun hnot => ?_, fun bs h => ?_⟩,
    fun bs => ⟨fun c hc => ?_, ?_, ?_, fun text htext => ?_⟩⟩
  · cases hread : decode? text with
    | none => rw [Encoded.toBytes, hread]
    | some bs => exact absurd (exists_toBytes_text_iff.1 ⟨bs, by rw [Encoded.toBytes, hread]⟩) hnot
  · rw [Encoded.toBytes, decode?, normalize_eq_map_stripped] at h
    split at h
    · rename_i hread
      cases h
      obtain ⟨-, -, hlength, hwritten⟩ := of_decodeStrict?_eq_some hread
      rw [List.length_map] at hlength
      exact ⟨hlength, by rw [encode, String.toList_ofList, hwritten]⟩
    · cases h
  · rw [encode, String.toList_ofList] at hc
    exact inAlphabet_iff.1 (inAlphabet_of_mem_encodeChars bs c hc)
  · rw [encode, String.length_ofList, length_encodeChars, Nat.mul_comm]
  · rw [Encoded.toBytes, decode?_encode]
  · rw [Encoded.toBytes, decode?_of_isSpelling htext]

/-- Both alphabets, padding and blanks, and a bit that is lost, beside a spelling without it; and
texts with a padding character, a blank or a letter that is not ASCII inside, and with a single
character left over. -/
theorem tolerant_reader_exact_limits :
    Encoded.toBytes (.text "\u00a0+_9=\x1c") = .ok [0xFB, 0xFF] ∧
      (encode [0xFB, 0xFF]).toList = clearUnused "-_9".toList ∧
      clearUnused "-_9".toList = "-_8".toList ∧
      Encoded.toBytes (.text "\x1c+_8==\u00a0") = .ok [0xFB, 0xFF] ∧
      ∀ text ∈ ["AB=C", "AB ==", "AÄ", "ABCDE"],
        Encoded.toBytes (.text text) = .error .notBase64Url := by
  have hread : Encoded.toBytes (.text "\u00a0+_9=\x1c") = .ok [0xFB, 0xFF] := by decide +kernel
  obtain ⟨-, -, hwritten⟩ := tolerant_reader_exact.1 "\u00a0+_9=\x1c"
  obtain ⟨-, -, -, hspelled⟩ := tolerant_reader_exact.2 [0xFB, 0xFF]
  refine ⟨hread, ?_, by decide +kernel, hspelled _ ?_, ?_⟩
  · have hstripped : (stripped "\u00a0+_9=\x1c").map toUrlSafe = "-_9".toList := by decide +kernel
    rw [(hwritten _ hread).2, hstripped]
  · exact ⟨['\x1c'], "+_8".toList, 2, ['\u00a0'], by decide +kernel,
      List.forall_mem_singleton.2 rfl, List.forall_mem_singleton.2 rfl, by decide +kernel⟩
  · have hrefused : ∀ text ∈ ["AB=C", "AB ==", "AÄ", "ABCDE"], ¬ IsTolerable (stripped text) := by
      decide +kernel
    exact fun text htext => (tolerant_reader_exact.1 text).2.1 (hrefused text htext)

end WebPush.Base64Url
