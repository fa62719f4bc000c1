import WebPush.Text.Utf8
/-!
# Encoding — which Unicode encoding an octet string is in

A JSON text may come in UTF-8, UTF-16 or UTF-32. A byte order mark
settles it; without one, the zero octets among the first four do, since
the first two characters of a JSON text are ASCII. An unpaired surrogate
names no character and is read as the replacement character.
-/

namespace WebPush.Text

/-- An encoding, its byte order, and the octets of a byte order mark in front. -/
inductive Encoding where
  | utf8 (mark : Nat)
  | utf16 (bigEndian : Bool) (mark : Nat)
  | utf32 (bigEndian : Bool) (mark : Nat)
deriving DecidableEq, Repr

namespace Encoding

/-- The encoding that a byte order mark announces. -/
def ofMark? : Bytes → Option Encoding
  | 0x00 :: 0x00 :: 0xFE :: 0xFF :: _ => some (.utf32 true 4)
  | 0xFF :: 0xFE :: 0x00 :: 0x00 :: _ => some (.utf32 false 4)
  | 0xFE :: 0xFF :: _ => some (.utf16 true 2)
  | 0xFF :: 0xFE :: _ => some (.utf16 false 2)
  | 0xEF :: 0xBB :: 0xBF :: _ => some (.utf8 3)
  | _ => none

/-- The encoding that the zero octets at the start give away. -/
def ofZeros : Bytes → Encoding
  | a :: b :: c :: d :: _ =>
    if a = 0 then (if b = 0 then .utf32 true 0 else .utf16 true 0)
    else if b = 0 then (if c = 0 && d = 0 then .utf32 false 0 else .utf16 false 0)
    else .utf8 0
  | [a, b] => if a = 0 then .utf16 true 0 else if b = 0 then .utf16 false 0 else .utf8 0
  | _ => .utf8 0

/-- The encoding of a JSON text. -/
def detect (bs : Bytes) : Encoding := (ofMark? bs).getD (ofZeros bs)

end Encoding

/-- A code point as a character. Texts here consist of characters, so half a surrogate pair has no
place in one: it becomes the replacement character. -/
def charOfCodePoint (n : Nat) : Char :=
  if 0xD800 ≤ n && n ≤ 0xDFFF then '\uFFFD' else Char.ofNat n

/-- The first half of a surrogate pair. -/
def isHighSurrogate (n : Nat) : Bool := 0xD800 ≤ n && n < 0xDC00

/-- The second half of a surrogate pair. -/
def isLowSurrogate (n : Nat) : Bool := 0xDC00 ≤ n && n < 0xE000

/-- The character that a surrogate pair names. -/
def joinSurrogates (high low : Nat) : Char :=
  Char.ofNat (0x10000 + (high - 0xD800) * 0x400 + (low - 0xDC00))

/-- The octets with every encoded surrogate replaced by the replacement character. -/
def replaceSurrogates : Bytes → Bytes
  | [] => []
  | 0xED :: b :: c :: rest =>
    if 0xA0 ≤ b && b ≤ 0xBF && Utf8.isContinuation c then
      0xEF :: 0xBF :: 0xBD :: replaceSurrogates rest
    else 0xED :: replaceSurrogates (b :: c :: rest)
  | a :: rest => a :: replaceSurrogates rest

/-- The 16-bit units of an octet string of even length. -/
def units16? (bigEndian : Bool) : Bytes → Option (List Nat)
  | [] => some []
  | [_] => none
  | a :: b :: rest =>
    let unit := if bigEndian then a.toNat * 256 + b.toNat else b.toNat * 256 + a.toNat
    (units16? bigEndian rest).map (unit :: ·)

/-- The characters of 16-bit units. -/
def ofUnits16 : List Nat → List Char
  | [] => []
  | [unit] => [charOfCodePoint unit]
  | unit :: next :: rest =>
    if isHighSurrogate unit && isLowSurrogate next then
      joinSurrogates unit next :: ofUnits16 rest
    else charOfCodePoint unit :: ofUnits16 (next :: rest)

/-- The characters of an octet string of 32-bit units. -/
def ofUnits32? (bigEndian : Bool) : Bytes → Option (List Char)
  | [] => some []
  | a :: b :: c :: d :: rest =>
    let n := Bytes.toNat (if bigEndian then [a, b, c, d] else [d, c, b, a])
    if n < 0x110000 then (ofUnits32? bigEndian rest).map (charOfCodePoint n :: ·) else none
  | _ => none

/-- The characters of a JSON text in whichever encoding it is. -/
def decodeDetected? (bs : Bytes) : Option (List Char) :=
  match Encoding.detect bs with
  | .utf8 mark => Utf8.decodeChars? (replaceSurrogates (bs.drop mark))
  | .utf16 bigEndian mark => (units16? bigEndian (bs.drop mark)).map ofUnits16
  | .utf32 bigEndian mark => ofUnits32? bigEndian (bs.drop mark)

end WebPush.Text
