import WebPush.Bytes
/-!
# UTF-8 — texts as octets

Encoding writes each character as one to four octets. Decoding is
strict: it accepts the shortest form of each character and nothing else,
so surrogates, overlong forms and stray continuation octets are refused.
Where a text has to be shown all the same, decoding can be lenient: each
longest run of octets that begins a character and does not go on with it
becomes one replacement character, and so does each octet that begins
none.
-/

namespace WebPush.Utf8

/-- The octets of a text. -/
def encodeChars (cs : List Char) : Bytes := cs.flatMap String.utf8EncodeChar

/-- The octets of a string. -/
def encode (s : String) : Bytes := encodeChars s.toList

/-- A continuation octet: its two high bits are `10`. -/
def isContinuation (b : UInt8) : Bool := b.toNat / 64 == 2

/-- The six payload bits of a continuation octet. -/
def payload (b : UInt8) : Nat := b.toNat % 64

/-- The characters that a well-formed octet string writes. -/
def decodeChars? : Bytes → Option (List Char)
  | [] => some []
  | b0 :: rest =>
    let lead := b0.toNat
    if lead < 0x80 then (decodeChars? rest).map (Char.ofNat lead :: ·)
    else match rest with
      | [] => none
      | b1 :: rest1 =>
        if !isContinuation b1 then none
        else if 0xC2 ≤ lead && lead < 0xE0 then
          (decodeChars? rest1).map (Char.ofNat ((lead - 0xC0) * 64 + payload b1) :: ·)
        else match rest1 with
          | [] => none
          | b2 :: rest2 =>
            if !isContinuation b2 then none
            else if 0xE0 ≤ lead && lead < 0xF0 then
              let n := ((lead - 0xE0) * 64 + payload b1) * 64 + payload b2
              if 0x800 ≤ n && !(0xD800 ≤ n && n ≤ 0xDFFF) then
                (decodeChars? rest2).map (Char.ofNat n :: ·)
              else none
            else match rest2 with
              | [] => none
              | b3 :: rest3 =>
                if !isContinuation b3 then none
                else if 0xF0 ≤ lead && lead < 0xF8 then
                  let n := (((lead - 0xF0) * 64 + payload b1) * 64 + payload b2) * 64 + payload b3
                  if 0x10000 ≤ n && n < 0x110000 then
                    (decodeChars? rest3).map (Char.ofNat n :: ·)
                  else none
                else none

/-- The string that a well-formed octet string writes. -/
def decode? (bs : Bytes) : Option String := (decodeChars? bs).map String.ofList

/-! ## Lenient decoding -/

/-- What stands for octets that are no character. -/
def replacement : Char := '\ufffd'

/-- The number of octets of a character that begins with an octet. -/
def lengthFrom? (lead : UInt8) : Option Nat :=
  let n := lead.toNat
  if n < 0x80 then some 1
  else if 0xC2 ≤ n && n < 0xE0 then some 2
  else if 0xE0 ≤ n && n < 0xF0 then some 3
  else if 0xF0 ≤ n && n < 0xF5 then some 4
  else none

/-- The second octet of a character may stand behind the first: what follows is
not too short a number, no surrogate, and not beyond the last character. -/
def isSecond (lead second : UInt8) : Bool :=
  let n := second.toNat
  isContinuation second &&
    match lead.toNat with
    | 0xE0 => 0xA0 ≤ n
    | 0xED => n < 0xA0
    | 0xF0 => 0x90 ≤ n
    | 0xF4 => n < 0x90
    | _ => true

/-- The octets behind the first that belong to the character it begins; `needed`
is how many more there should be. -/
def following (lead : UInt8) (needed : Nat) : Bytes → Bytes
  | [] => []
  | second :: rest =>
    if isSecond lead second then second :: (rest.take (needed - 1)).takeWhile isContinuation else []

/-- The text that octets write, with replacements for those that write none. -/
def decodeLenient : Bytes → List Char
  | [] => []
  | lead :: rest =>
    match lengthFrom? lead with
    | none => replacement :: decodeLenient rest
    | some 1 => Char.ofNat lead.toNat :: decodeLenient rest
    | some length =>
      let more := following lead (length - 1) rest
      let found :=
        if more.length + 1 = length then (decodeChars? (lead :: more)).getD [replacement]
        else [replacement]
      found ++ decodeLenient (rest.drop more.length)
termination_by bs => bs.length

@[simp] theorem encodeChars_nil : encodeChars [] = [] := rfl

end WebPush.Utf8
