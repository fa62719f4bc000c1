import WebPush.Base64Url
import WebPush.Proofs.Bytes
import WebPush.Proofs.Text.Ascii
import WebPush.Proofs.Text.Blank
/-!
# Base64url — reading back what was written

The writer uses the characters of the alphabet only, and both readers
give back the octets that were written: the strict one from the text
itself, the tolerant one because there is nothing in the text for it to
tidy up.
-/

namespace WebPush.Base64Url

/-! ## One character -/

theorem decodeSextet?_encodeSextet : ∀ n < 64, decodeSextet? (encodeSextet n) = some n := by
  decide +kernel

theorem inAlphabet_encodeSextet {n : Nat} (h : n < 64) : inAlphabet (encodeSextet n) = true := by
  rw [inAlphabet, decodeSextet?_encodeSextet n h, Option.isSome_some]

/-- The characters of the alphabet are ASCII. -/
theorem toNat_lt_of_inAlphabet {c : Char} (h : inAlphabet c = true) : c.toNat < 128 := by
  rw [inAlphabet, decodeSextet?] at h
  split at h
  · rename_i hc
    exact Nat.lt_of_le_of_lt (Text.toNat_le_toNat hc.2) (by decide)
  split at h
  · rename_i hc
    exact Nat.lt_of_le_of_lt (Text.toNat_le_toNat hc.2) (by decide)
  split at h
  · rename_i hc
    exact Nat.lt_of_le_of_lt (Text.toNat_le_toNat hc.2) (by decide)
  split at h
  · rename_i hc
    exact hc ▸ by decide
  split at h
  · rename_i hc
    exact hc ▸ by decide
  · cases h

/-- A character of the alphabet is no separator, no padding and no blank, and it
is in its URL-safe form. -/
theorem plain_of_inAlphabet {c : Char} (h : inAlphabet c = true) :
    c ≠ '.' ∧ c ≠ ',' ∧ c ≠ '=' ∧ Text.isBlank c = false ∧ toUrlSafe c = c :=
  Text.forall_ascii (P := fun c => inAlphabet c = true →
    c ≠ '.' ∧ c ≠ ',' ∧ c ≠ '=' ∧ Text.isBlank c = false ∧ toUrlSafe c = c)
    (by decide +kernel) (toNat_lt_of_inAlphabet h) h

/-! ## Writing -/

/-- **What is written is in the alphabet.** -/
theorem inAlphabet_of_mem_encodeChars (bs : Bytes) :
    ∀ c ∈ encodeChars bs, inAlphabet c = true := by
  fun_induction encodeChars bs with
  | case1 => simp
  | case2 a =>
    have ha := a.toNat_lt
    simp only [List.forall_mem_cons]
    exact ⟨inAlphabet_encodeSextet (by omega), inAlphabet_encodeSextet (by omega), by simp⟩
  | case3 a b =>
    have ha := a.toNat_lt
    have hb := b.toNat_lt
    simp only [List.forall_mem_cons]
    exact ⟨inAlphabet_encodeSextet (by omega), inAlphabet_encodeSextet (by omega),
      inAlphabet_encodeSextet (by omega), by simp⟩
  | case4 a b c rest ih =>
    have ha := a.toNat_lt
    have hb := b.toNat_lt
    have hc := c.toNat_lt
    simp only [List.forall_mem_cons]
    exact ⟨inAlphabet_encodeSextet (by omega), inAlphabet_encodeSextet (by omega),
      inAlphabet_encodeSextet (by omega), inAlphabet_encodeSextet (by omega), ih⟩

theorem encodeChars_ne_nil {bs : Bytes} (h : bs ≠ []) : encodeChars bs ≠ [] := by
  fun_cases encodeChars bs
  · contradiction
  all_goals exact List.cons_ne_nil _ _

/-- Three octets make four characters, and those left over one more than they are. -/
theorem length_encodeChars (bs : Bytes) : (encodeChars bs).length = (bs.length * 4 + 2) / 3 := by
  fun_induction encodeChars bs with
  | case4 a b c rest ih =>
    simp only [List.length_cons, ih]
    omega
  | _ => simp

/-! ## Reading -/

section Groups

variable {p q r s : Nat} (hp : p < 64) (hq : q < 64) (hr : r < 64) (hs : s < 64)

include hp hq

theorem decodeStrict?_two :
    decodeStrict? [encodeSextet p, encodeSextet q] = some [UInt8.ofNat (p * 4 + q / 16)] := by
  simp only [decodeStrict?, List.mapM_cons, List.mapM_nil, decodeSextet?_encodeSextet p hp,
    decodeSextet?_encodeSextet q hq]
  rfl

include hr

theorem decodeStrict?_three :
    decodeStrict? [encodeSextet p, encodeSextet q, encodeSextet r] =
      some [UInt8.ofNat (p * 4 + q / 16), UInt8.ofNat (q % 16 * 16 + r / 4)] := by
  simp only [decodeStrict?, List.mapM_cons, List.mapM_nil, decodeSextet?_encodeSextet p hp,
    decodeSextet?_encodeSextet q hq, decodeSextet?_encodeSextet r hr]
  rfl

include hs

/-- Four characters in front are three octets in front. -/
theorem decodeStrict?_four (cs : List Char) :
    decodeStrict?
        (encodeSextet p :: encodeSextet q :: encodeSextet r :: encodeSextet s :: cs) =
      (decodeStrict? cs).map fun more =>
        UInt8.ofNat (p * 4 + q / 16) :: UInt8.ofNat (q % 16 * 16 + r / 4) ::
          UInt8.ofNat (r % 4 * 64 + s) :: more := by
  simp only [decodeStrict?, List.mapM_cons, decodeSextet?_encodeSextet p hp,
    decodeSextet?_encodeSextet q hq, decodeSextet?_encodeSextet r hr,
    decodeSextet?_encodeSextet s hs]
  cases cs.mapM decodeSextet? <;> rfl

end Groups

/-- **The strict reader gives back what was written.** -/
theorem decodeStrict?_encodeChars (bs : Bytes) : decodeStrict? (encodeChars bs) = some bs := by
  fun_induction encodeChars bs with
  | case1 => rfl
  | case2 a =>
    have ha := a.toNat_lt
    have h0 : a.toNat / 4 * 4 + a.toNat % 4 * 16 / 16 = a.toNat := by omega
    rw [decodeStrict?_two (by omega) (by omega), h0, UInt8.ofNat_toNat]
  | case3 a b =>
    have ha := a.toNat_lt
    have hb := b.toNat_lt
    have h0 : a.toNat / 4 * 4 + (a.toNat % 4 * 16 + b.toNat / 16) / 16 = a.toNat := by omega
    have h1 : (a.toNat % 4 * 16 + b.toNat / 16) % 16 * 16 + b.toNat % 16 * 4 / 4 = b.toNat := by
      omega
    rw [decodeStrict?_three (by omega) (by omega) (by omega), h0, h1, UInt8.ofNat_toNat,
      UInt8.ofNat_toNat]
  | case4 a b c rest ih =>
    have ha := a.toNat_lt
    have hb := b.toNat_lt
    have hc := c.toNat_lt
    have h0 : a.toNat / 4 * 4 + (a.toNat % 4 * 16 + b.toNat / 16) / 16 = a.toNat := by omega
    have h1 : (a.toNat % 4 * 16 + b.toNat / 16) % 16 * 16 +
        (b.toNat % 16 * 4 + c.toNat / 64) / 4 = b.toNat := by omega
    have h2 : (b.toNat % 16 * 4 + c.toNat / 64) % 4 * 64 + c.toNat % 64 = c.toNat := by omega
    rw [decodeStrict?_four (by omega) (by omega) (by omega) (by omega), ih, h0, h1, h2]
    simp only [Option.map_some, UInt8.ofNat_toNat]

/-! ### Tidying -/

/-- Padding behind a text over the alphabet is cut off, and nothing else. -/
theorem dropEndWhile_padding {cs : List Char} (h : ∀ c ∈ cs, inAlphabet c = true) (n : Nat) :
    dropEndWhile (· == '=') (cs ++ List.replicate n '=') = cs := by
  rw [dropEndWhile_append cs fun c hc => beq_iff_eq.2 (List.eq_of_mem_replicate hc),
    dropEndWhile_eq_self]
  intro c hc
  simpa using (plain_of_inAlphabet (h c (List.mem_of_getLast? hc))).2.2.1

/-- A character of either alphabet is no blank. -/
theorem isBlank_of_inAlphabet_toUrlSafe {c : Char} (h : inAlphabet (toUrlSafe c) = true) :
    Text.isBlank c = false := by
  rw [toUrlSafe] at h
  split at h
  · rename_i hc
    exact hc ▸ by decide
  split at h
  · rename_i hc
    exact hc ▸ by decide
  · exact (plain_of_inAlphabet h).2.2.2.1

/-- Nothing is trimmed off a text without blanks and the padding behind it. -/
theorem trim_padded {cs : List Char} (h : ∀ c ∈ cs, Text.isBlank c = false) (n : Nat) :
    Text.trim (cs ++ List.replicate n '=') = cs ++ List.replicate n '=' := by
  have hblank : ∀ c ∈ cs ++ List.replicate n '=', Text.isBlank c = false := by
    intro c hc
    rcases List.mem_append.1 hc with hc | hc
    · exact h c hc
    · rw [List.eq_of_mem_replicate hc]
      decide
  exact Text.trim_eq_self (fun c hc => hblank c (List.mem_of_head? hc))
    fun c hc => hblank c (List.mem_of_getLast? hc)

/-- **The text spells octets**, as people paste them: their characters in either alphabet, any
number of padding characters behind them, and blanks around it all. -/
def IsSpelling (text : String) (bs : Bytes) : Prop :=
  ∃ front body n back, text.toList = front ++ (body ++ List.replicate n '=') ++ back ∧
    (∀ c ∈ front, Text.isBlank c = true) ∧ (∀ c ∈ back, Text.isBlank c = true) ∧
    body.map toUrlSafe = encodeChars bs

/-- **The tolerant reader reads every spelling.** -/
theorem decode?_of_isSpelling {text : String} {bs : Bytes} (h : IsSpelling text bs) :
    decode? text = some bs := by
  obtain ⟨front, body, n, back, htext, hfront, hback, hbody⟩ := h
  have halphabet := inAlphabet_of_mem_encodeChars bs
  have hblank : ∀ c ∈ body, Text.isBlank c = false := fun c hc =>
    isBlank_of_inAlphabet_toUrlSafe (halphabet _ (hbody ▸ List.mem_map_of_mem hc))
  have hpadding : (List.replicate n '=').map toUrlSafe = List.replicate n '=' := by
    rw [List.map_replicate]
    rfl
  rw [decode?, normalize, htext, Text.trim_append hfront hback, trim_padded hblank,
    List.map_append, hbody, hpadding, dropEndWhile_padding halphabet, decodeStrict?_encodeChars]

/-- Blanks around a text are nothing to the tolerant reader. -/
@[simp] theorem decode?_trimmed (text : String) : decode? (Text.trimmed text) = decode? text := by
  simp only [decode?, normalize, Text.trimmed, String.toList_ofList, Text.trim_trim]

/-- **The tolerant reader ignores padding.** -/
theorem decode?_padded {text : String} {bs : Bytes} {n : Nat}
    (h : text.toList = encodeChars bs ++ List.replicate n '=') : decode? text = some bs := by
  refine decode?_of_isSpelling ⟨[], encodeChars bs, n, [], ?_, by simp, by simp, ?_⟩
  · rw [List.nil_append, List.append_nil, h]
  · exact (List.map_congr_left fun c hc =>
      (plain_of_inAlphabet (inAlphabet_of_mem_encodeChars bs c hc)).2.2.2.2).trans (List.map_id _)

/-- **The tolerant reader gives back what was written.** -/
@[simp] theorem decode?_encode (bs : Bytes) : decode? (encode bs) = some bs :=
  decode?_padded (n := 0) (by rw [encode, String.toList_ofList, List.replicate_zero, List.append_nil])

end WebPush.Base64Url
