import WebPush.Trim
/-!
# Blank — white space around a text, and the lines inside it

A blank is any character that Unicode calls white space, and the four
information separators. Trimming takes blanks off both ends. Lines end
at every character that Unicode calls a line boundary, not at the line
feed alone.
-/

namespace WebPush.Text

/-- White space, the information separators U+001C to U+001F included. -/
def isBlank (c : Char) : Bool :=
  let n := c.toNat
  (0x09 ≤ n && n ≤ 0x0D) || (0x1C ≤ n && n ≤ 0x20) || n == 0x85 || n == 0xA0 ||
    n == 0x1680 || (0x2000 ≤ n && n ≤ 0x200A) || n == 0x2028 || n == 0x2029 ||
    n == 0x202F || n == 0x205F || n == 0x3000

/-- White space in the narrow sense: a blank that is no information separator. -/
def isWhiteSpace (c : Char) : Bool :=
  isBlank c && !(0x1C ≤ c.toNat && c.toNat ≤ 0x1F)

/-- The text without the blanks at its start. -/
def trimStart (cs : List Char) : List Char := cs.dropWhile isBlank

/-- The text without the blanks at both ends. -/
def trim (cs : List Char) : List Char := dropEndWhile isBlank (trimStart cs)

/-- The trimmed form of a string. -/
def trimmed (s : String) : String := String.ofList (trim s.toList)

/-- A text with something in it. -/
structure Filled where
  text : String
  ne_empty : text ≠ ""
deriving DecidableEq, Repr

instance : Coe Filled String := ⟨Filled.text⟩

/-- A text, if there is something in it. -/
def filled? (text : String) : Option Filled := if h : text = "" then none else some ⟨text, h⟩

/-- A character that ends a line. -/
def isLineBoundary (c : Char) : Bool :=
  let n := c.toNat
  (0x0A ≤ n && n ≤ 0x0D) || (0x1C ≤ n && n ≤ 0x1E) || n == 0x85 || n == 0x2028 || n == 0x2029

/-- Every carriage return, alone or before a line feed, becomes one line feed. -/
def normalizeNewlines : List Char → List Char
  | [] => []
  | '\r' :: '\n' :: rest => '\n' :: normalizeNewlines rest
  | c :: rest => (if c = '\r' then '\n' else c) :: normalizeNewlines rest

/-- The lines of a text without their boundaries, each boundary ending
one line. A boundary at the very end opens no further line. -/
def lines : List Char → List (List Char)
  | [] => []
  | c :: rest =>
    if isLineBoundary c then [] :: lines rest
    else match lines rest with
      | [] => [[c]]
      | line :: more => (c :: line) :: more

@[simp] theorem trim_nil : trim [] = [] := rfl

end WebPush.Text
