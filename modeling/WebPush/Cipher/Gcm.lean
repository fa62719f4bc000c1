import WebPush.Cipher.Aes128
import WebPush.Cipher.Ghash
/-!
# AES-128-GCM — sealing and opening records

Sealing masks the text with the key stream of a counter and appends a
tag over the masked text; opening compares the tag first. Nonces have
twelve octets, and no data beside the text is authenticated. The main
facts are that opening inverts sealing, that sealing adds sixteen
octets, and that what opens was sealed.
-/

namespace WebPush.Gcm

/-- The length of a tag. -/
def tagLength : Nat := 16

/-- The counter block of a nonce. -/
def counterBlock (nonce : Bytes) (counter : Nat) : Bytes := nonce ++ Bytes.ofNat 4 counter

/-- The key stream of `count` blocks from a counter on. -/
def keyStream (keys : List Bytes) (nonce : Bytes) : (count counter : Nat) → Bytes
  | 0, _ => []
  | count + 1, counter =>
    Aes128.encryptWith keys (counterBlock nonce counter) ++ keyStream keys nonce count (counter + 1)

/-- A text under the key stream that starts behind the tag's own block. -/
def maskText (keys : List Bytes) (nonce text : Bytes) : Bytes :=
  Bytes.mask text (keyStream keys nonce ((text.length + 15) / 16) 2)

/-- The tag of a masked text. -/
def tag (keys : List Bytes) (nonce masked : Bytes) : Bytes :=
  let hashKey := Ghash.Element.ofBytes (Aes128.encryptWith keys (List.replicate 16 0))
  let lengths := Bytes.ofNat 8 0 ++ Bytes.ofNat 8 (masked.length * 8)
  let sum := Ghash.hash hashKey (Bytes.pieces 16 masked ++ [lengths])
  (sum.add (.ofBytes (Aes128.encryptWith keys (counterBlock nonce 1)))).toBytes

/-- The sealed form of a text. -/
def encrypt (key nonce text : Bytes) : Bytes :=
  let keys := Aes128.roundKeys key
  let masked := maskText keys nonce text
  masked ++ tag keys nonce masked

/-- The text of a sealed record, if its tag is right. -/
def decrypt? (key nonce record : Bytes) : Option Bytes :=
  let keys := Aes128.roundKeys key
  let split := record.length - tagLength
  let masked := record.take split
  if tagLength ≤ record.length ∧ record.drop split = tag keys nonce masked then
    some (maskText keys nonce masked)
  else none

/-! ## Laws -/

@[simp] theorem length_tag (keys : List Bytes) (nonce masked : Bytes) :
    (tag keys nonce masked).length = 16 := by
  simp [tag]

@[simp] theorem length_maskText (keys : List Bytes) (nonce text : Bytes) :
    (maskText keys nonce text).length = text.length := by
  simp [maskText]

@[simp] theorem maskText_maskText (keys : List Bytes) (nonce text : Bytes) :
    maskText keys nonce (maskText keys nonce text) = text := by
  simp [maskText]

/-- **Sealing adds a tag and nothing else.** -/
@[simp] theorem length_encrypt (key nonce text : Bytes) :
    (encrypt key nonce text).length = text.length + 16 := by
  simp [encrypt]

/-- **A record opens exactly when it is the sealed form of what it opens to.** -/
theorem decrypt?_eq_some_iff {key nonce record text : Bytes} :
    decrypt? key nonce record = some text ↔ record = encrypt key nonce text := by
  constructor
  · intro h
    simp only [decrypt?] at h
    split at h
    · rename_i hc
      obtain ⟨-, htag⟩ := hc
      simp only [Option.some.injEq] at h
      subst h
      simp only [encrypt, maskText_maskText, ← htag, List.take_append_drop]
    · simp at h
  · rintro rfl
    simp [decrypt?, encrypt, tagLength]

end WebPush.Gcm
