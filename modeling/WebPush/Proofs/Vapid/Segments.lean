import WebPush.Proofs.Base64Url
import WebPush.Proofs.Text.Split
import WebPush.Vapid.Token
/-!
# VAPID — the three segments of a token

Segments in base64url hold no dot, so the dots between them are the only
ones and a token falls into the segments it was joined from. Each of
them is in the one form that the verifier accepts.
-/

namespace WebPush

/-! ## The characters of a segment -/

/-- Letters, digits, dashes and underscores, at least one of them. -/
def Text.IsUrlSafe (cs : List Char) : Prop :=
  cs ≠ [] ∧ ∀ c ∈ cs, c.isAlphanum = true ∨ c = '-' ∨ c = '_'

/-- Another character is not among them. -/
theorem Text.IsUrlSafe.notMem {cs : List Char} (h : IsUrlSafe cs) {c : Char}
    (hc : ¬ (c.isAlphanum = true ∨ c = '-' ∨ c = '_')) : c ∉ cs :=
  fun hmem => hc (h.2 c hmem)

namespace Vapid

/-- The characters of the alphabet, named. -/
theorem isAlphanum_of_inAlphabet {c : Char} (h : Base64Url.inAlphabet c = true) :
    c.isAlphanum = true ∨ c = '-' ∨ c = '_' :=
  Text.forall_ascii (P := fun c => Base64Url.inAlphabet c = true →
    c.isAlphanum = true ∨ c = '-' ∨ c = '_')
    (by decide +kernel) (Base64Url.toNat_lt_of_inAlphabet h) h

/-- Octets are written in these characters. -/
theorem isUrlSafe_encodeChars {bs : Bytes} (hne : bs ≠ []) :
    Text.IsUrlSafe (Base64Url.encodeChars bs) :=
  ⟨Base64Url.encodeChars_ne_nil hne, fun c hc =>
    isAlphanum_of_inAlphabet (Base64Url.inAlphabet_of_mem_encodeChars bs c hc)⟩

/-! ## Taking a token apart -/

/-- No dot is in a segment. -/
theorem dot_notMem_encodeChars (bs : Bytes) : '.' ∉ Base64Url.encodeChars bs := fun h =>
  (Base64Url.plain_of_inAlphabet (Base64Url.inAlphabet_of_mem_encodeChars bs _ h)).1 rfl

/-- **A segment gives back the octets it was written from.** -/
theorem decodeSegment?_encodeChars (bs : Bytes) :
    decodeSegment? (Base64Url.encodeChars bs) = some bs := by
  have hbody : dropEndWhile (· == '=') (Base64Url.encodeChars bs) = Base64Url.encodeChars bs :=
    dropEndWhile_eq_self fun c hc => by
      have hc := Base64Url.inAlphabet_of_mem_encodeChars bs c (List.mem_of_getLast? hc)
      simpa using (Base64Url.plain_of_inAlphabet hc).2.2.1
  rw [decodeSegment?]
  simp only [hbody, Nat.sub_self, true_or, if_true, Base64Url.decodeStrict?_encodeChars,
    Option.bind_some]

/-- **A token falls into its segments**, if there is no dot in the first and the last. -/
theorem ofToken?_append {header signature : List Char} (hheader : '.' ∉ header)
    (payload : List Char) (hsignature : '.' ∉ signature) :
    Segments.ofToken? (header ++ '.' :: payload ++ '.' :: signature) =
      some ⟨header, payload, signature⟩ := by
  have hlast : Text.splitLast? '.' (header ++ '.' :: payload ++ '.' :: signature) =
      some (header ++ '.' :: payload, signature) :=
    Text.splitLast?_eq_some_iff.2 ⟨rfl, hsignature⟩
  have hfirst : Text.splitFirst? '.' (header ++ '.' :: payload) = some (header, payload) :=
    Text.splitFirst?_eq_some_iff.2 ⟨rfl, hheader⟩
  rw [Segments.ofToken?, hlast, Option.bind_some]
  simp only [hfirst, Option.map_some]

/-! ## The form of a token -/

/-- Three segments of letters, digits, dashes and underscores, none of them
empty, with a dot behind each of the first two; the last is a signature's. -/
def IsCompact (text : String) : Prop :=
  ∃ header payload signature : List Char,
    text.toList = header ++ '.' :: payload ++ '.' :: signature ∧
      (∀ part ∈ [header, payload, signature],
        part ≠ [] ∧ ∀ c ∈ part, c.isAlphanum = true ∨ c = '-' ∨ c = '_') ∧
      ∃ octets, decodeSegment? signature = some octets ∧ octets.length = 64

/-- The dots between the segments are the only ones. -/
theorem IsCompact.count_dot {text : String} (h : IsCompact text) : text.toList.count '.' = 2 := by
  obtain ⟨header, payload, signature, htext, hparts, -⟩ := h
  have hnone : ∀ part ∈ [header, payload, signature], part.count '.' = 0 := fun part hpart =>
    List.count_eq_zero.2 (Text.IsUrlSafe.notMem (hparts part hpart) (by decide))
  simp only [List.forall_mem_cons] at hnone
  obtain ⟨hheader, hpayload, hsignature, -⟩ := hnone
  rw [htext, List.count_append, List.count_append, List.count_cons_self, List.count_cons_self,
    hheader, hpayload, hsignature]

/-- No comma is in a token. -/
theorem IsCompact.comma_notMem {text : String} (h : IsCompact text) : ',' ∉ text.toList := by
  obtain ⟨header, payload, signature, htext, hparts, -⟩ := h
  have hnone : ∀ part ∈ [header, payload, signature], ',' ∉ part := fun part hpart =>
    Text.IsUrlSafe.notMem (hparts part hpart) (by decide)
  simp only [List.forall_mem_cons] at hnone
  obtain ⟨hheader, hpayload, hsignature, -⟩ := hnone
  rw [htext]
  simp [hheader, hpayload, hsignature]

end Vapid

end WebPush
