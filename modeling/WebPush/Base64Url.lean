import WebPush.Bytes
import WebPush.Text.Blank
/-!
# Base64url — octets in the URL-safe alphabet

Three octets make four characters of the alphabet `A-Z a-z 0-9 - _`; a
last group of one or two octets makes two or three characters and no
padding. Two readers go with the writer. `decodeStrict?` takes the
alphabet alone and ignores the unused low bits of the last character.
`decode?` is the tolerant one for key material that people paste: blanks
around it, padding after it, and `+` `/` for `-` `_`.
-/

namespace WebPush.Base64Url

/-- The character that stands for six bits. -/
def encodeSextet (n : Nat) : Char :=
  if n < 26 then Char.ofNat ('A'.toNat + n)
  else if n < 52 then Char.ofNat ('a'.toNat + (n - 26))
  else if n < 62 then Char.ofNat ('0'.toNat + (n - 52))
  else if n = 62 then '-'
  else '_'

/-- The six bits that a character of the alphabet stands for. -/
def decodeSextet? (c : Char) : Option Nat :=
  if 'A' ≤ c ∧ c ≤ 'Z' then some (c.toNat - 'A'.toNat)
  else if 'a' ≤ c ∧ c ≤ 'z' then some (c.toNat - 'a'.toNat + 26)
  else if '0' ≤ c ∧ c ≤ '9' then some (c.toNat - '0'.toNat + 52)
  else if c = '-' then some 62
  else if c = '_' then some 63
  else none

/-- A character of the alphabet. -/
def inAlphabet (c : Char) : Bool := (decodeSextet? c).isSome

/-! ## Writing -/

/-- The characters of an octet string. -/
def encodeChars : Bytes → List Char
  | [] => []
  | [a] =>
    [encodeSextet (a.toNat / 4), encodeSextet (a.toNat % 4 * 16)]
  | [a, b] =>
    [encodeSextet (a.toNat / 4), encodeSextet (a.toNat % 4 * 16 + b.toNat / 16),
      encodeSextet (b.toNat % 16 * 4)]
  | a :: b :: c :: rest =>
    encodeSextet (a.toNat / 4) :: encodeSextet (a.toNat % 4 * 16 + b.toNat / 16) ::
      encodeSextet (b.toNat % 16 * 4 + c.toNat / 64) :: encodeSextet (c.toNat % 64) ::
      encodeChars rest

/-- The text of an octet string. -/
def encode (bs : Bytes) : String := String.ofList (encodeChars bs)

/-! ## Reading -/

/-- The octets of a list of six-bit groups. A single group left over at the
end makes no octet and is refused. -/
def decodeSextets? : List Nat → Option Bytes
  | [] => some []
  | [_] => none
  | [p, q] => some [UInt8.ofNat (p * 4 + q / 16)]
  | [p, q, r] => some [UInt8.ofNat (p * 4 + q / 16), UInt8.ofNat (q % 16 * 16 + r / 4)]
  | p :: q :: r :: s :: rest =>
    (decodeSextets? rest).map fun more =>
      UInt8.ofNat (p * 4 + q / 16) :: UInt8.ofNat (q % 16 * 16 + r / 4) ::
        UInt8.ofNat (r % 4 * 64 + s) :: more

/-- The octets of a text over the alphabet, without padding. -/
def decodeStrict? (cs : List Char) : Option Bytes :=
  (cs.mapM decodeSextet?).bind decodeSextets?

/-- The URL-safe form of a character of the standard alphabet. -/
def toUrlSafe (c : Char) : Char :=
  if c = '+' then '-' else if c = '/' then '_' else c

/-- The text without surrounding blanks and without the padding behind it,
in the URL-safe alphabet. -/
def normalize (cs : List Char) : List Char :=
  dropEndWhile (· == '=') ((Text.trim cs).map toUrlSafe)

/-- The octets of pasted key material. -/
def decode? (s : String) : Option Bytes := decodeStrict? (normalize s.toList)

@[simp] theorem encodeChars_nil : encodeChars [] = [] := rfl

end WebPush.Base64Url
