import WebPush.Json.Basic
import WebPush.Text.Quoted
/-!
# Json — writing members as text

Strings are written in ASCII: controls, the delete character and
everything beyond ASCII become escapes, with a surrogate pair for a
character outside the basic plane. A `Style` says what stands between
members and between a name and its value.
-/

namespace WebPush.Json

/-- What separates two members, and what separates a name from its value. -/
structure Style where
  betweenMembers : List Char
  afterName : List Char

/-- No blanks at all. -/
def Style.compact : Style := ⟨[','], [':']⟩

/-- A blank after each comma and each colon. -/
def Style.spaced : Style := ⟨[',', ' '], [':', ' ']⟩

/-- An escape of one 16-bit unit. -/
def unitEscape (unit : Nat) : List Char := '\\' :: 'u' :: Text.hexDigits 4 unit

/-- One character inside a string. -/
def escapeChar (c : Char) : List Char :=
  if c = '"' then ['\\', '"']
  else if c = '\\' then ['\\', '\\']
  else if c = '\n' then ['\\', 'n']
  else if c = '\r' then ['\\', 'r']
  else if c = '\t' then ['\\', 't']
  else if c = '\x0c' then ['\\', 'f']
  else if c = '\x08' then ['\\', 'b']
  else if ' ' ≤ c ∧ c ≤ '~' then [c]
  else if c.toNat < 0x10000 then unitEscape c.toNat
  else
    let n := c.toNat - 0x10000
    unitEscape (0xD800 + n / 0x400) ++ unitEscape (0xDC00 + n % 0x400)

/-- A string with its quotes. -/
def printString (s : String) : List Char := '"' :: s.toList.flatMap escapeChar ++ ['"']

/-- An integer in decimal digits. -/
def printInt (n : Int) : List Char := (toString n).toList

/-- An object, given its names and the texts of its values. -/
def printObject (style : Style) (members : List (String × List Char)) : List Char :=
  let written := members.map fun (name, value) => printString name ++ style.afterName ++ value
  '{' :: (written.intersperse style.betweenMembers).flatten ++ ['}']

end WebPush.Json
