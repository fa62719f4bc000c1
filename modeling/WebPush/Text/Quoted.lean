import WebPush.Text.Printable
/-!
# Quoted — a text as messages show it

A message that names an offending text shows it between quotes, with
every character that could mislead the eye written as an escape. The
quotes are single, unless the text holds single quotes and no double
ones.
-/

namespace WebPush.Text

/-- The `width` last hexadecimal digits of a number, in small letters. -/
def hexDigits : (width : Nat) → Nat → List Char
  | 0, _ => []
  | width + 1, n => hexDigits width (n / 16) ++ [Nat.digitChar (n % 16)]

/-- The quote that surrounds a text. -/
def quoteFor (cs : List Char) : Char :=
  if cs.contains '\'' && !cs.contains '"' then '"' else '\''

/-- One character between the given quotes. -/
def quotedChar (quote c : Char) : List Char :=
  if c = quote || c = '\\' then ['\\', c]
  else if c = '\n' then ['\\', 'n']
  else if c = '\r' then ['\\', 'r']
  else if c = '\t' then ['\\', 't']
  else if isPrintable c then [c]
  else if c.toNat < 0x100 then '\\' :: 'x' :: hexDigits 2 c.toNat
  else if c.toNat < 0x10000 then '\\' :: 'u' :: hexDigits 4 c.toNat
  else '\\' :: 'U' :: hexDigits 8 c.toNat

/-- A text between quotes, with escapes. -/
def quoted (cs : List Char) : List Char :=
  let quote := quoteFor cs
  quote :: cs.flatMap (quotedChar quote) ++ [quote]

/-- A string between quotes, with escapes. -/
def quotedString (s : String) : String := String.ofList (quoted s.toList)

/-- One code point between the given quotes. A surrogate, which is no character, is an escape. -/
def quotedCode (quote : Char) (n : Nat) : List Char :=
  if n.isValidChar then quotedChar quote (Char.ofNat n) else '\\' :: 'u' :: hexDigits 4 n

/-- A text given by its code points between quotes, with escapes. -/
def quotedCodes (codes : List Nat) : List Char :=
  let quote := quoteFor (codes.map Char.ofNat)
  quote :: codes.flatMap (quotedCode quote) ++ [quote]

end WebPush.Text
