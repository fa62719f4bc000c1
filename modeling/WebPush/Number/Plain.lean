import WebPush.Number.Literal
import WebPush.Text.Split
/-!
# Plain — integers in their shortest form, and texts that tidy up to one

A plain integer is zero or digits that begin with no zero, perhaps with
a minus in front. A text that other programs wrote may have more in it:
white space at both ends, a plus, zeros in front, a point with zeros
behind it, single underscores. Tidying takes these away, one kind after
the other; what is left must be plain. Since zeros in front may also
stand before a minus, `0-1` tidies up to `-1`, but those behind a minus
stay, and `-01` is no integer.
-/

namespace WebPush.Number

/-- Why a text holds no integer. -/
inductive PlainFault where
  | unreadable
  | tooLong
deriving DecidableEq, Repr

/-- A leading minus, read as "is negative", and what follows it. -/
def splitMinus : List Char → Bool × List Char
  | '-' :: rest => (true, rest)
  | cs => (false, cs)

/-- Digits that begin with no zero, or zero alone. -/
def isPlain (digits : List Char) : Bool :=
  digits = ['0'] || digits.all Char.isDigit && digits.head?.any (· ≠ '0')

/-- The integer that a text writes in plain form, with at most `maxDigits`
characters in all. -/
def plainInteger? (cs : List Char) : Option Int :=
  let (negative, digits) := splitMinus cs
  if isPlain digits && cs.length ≤ maxDigits then
    let n : Int := ofDigits (digits.filterMap Text.decimalValue?)
    some (if negative then -n else n)
  else none

/-- The text begins with an integer in plain form that has too many characters. -/
def beginsTooLong (cs : List Char) : Bool :=
  let (negative, body) := splitMinus cs
  let digits := body.takeWhile Char.isDigit
  digits.head?.any (· ≠ '0') && maxDigits < digits.length + (if negative then 1 else 0)

/-! ## Tidying -/

/-- The text without a leading plus, behind which no minus may stand. -/
def dropPlus? : List Char → Option (List Char)
  | '+' :: '-' :: _ => none
  | '+' :: rest => some rest
  | cs => some cs

/-- A character that may stand behind the zeros in front of an integer. -/
def beginsInteger (c : Char) : Bool := c = '-' || c.isDigit

/-- The text without more zeros and underscores in front, of which `last` was
the one before. It is kept where nothing or a point follows. -/
def dropMoreZeros? (last : Char) : List Char → Option (List Char)
  | [] => some [last]
  | c :: rest =>
    if c = '0' || c = '_' then dropMoreZeros? c rest
    else if c = '.' then some (last :: c :: rest)
    else if beginsInteger c then some (c :: rest)
    else none

/-- The text without the zeros in front, and without underscores among them.
What comes then is a minus or a digit. -/
def dropZeros? : List Char → Option (List Char)
  | [] => none
  | c :: rest =>
    if c = '0' then dropMoreZeros? c rest
    else if beginsInteger c then some (c :: rest)
    else none

/-- The text without the point and what is behind it, if that is zeros. -/
def dropZeroFraction (cs : List Char) : List Char :=
  match Text.splitFirst? '.' cs with
  | some (whole, zeros) => if !zeros.isEmpty && zeros.all (· = '0') then whole else cs
  | none => cs

/-- The text without underscores, each of which must have another character on
both sides. `atEdge` says that no such character came just before. -/
def dropSingleUnderscores? (atEdge : Bool) : List Char → Option (List Char)
  | [] => if atEdge then none else some []
  | c :: rest =>
    if c = '_' then if atEdge then none else dropSingleUnderscores? true rest
    else (dropSingleUnderscores? false rest).map (c :: ·)

/-- The text with all taken away that a plain integer does not have. -/
def tidied? (cs : List Char) : Option (List Char) := do
  let cs ← dropPlus? (stripSpace cs)
  let cs ← dropZeros? cs
  dropSingleUnderscores? true (dropZeroFraction cs)

/-- The integer that a text writes, in plain form or tidied up to it. The length
counts against a text only as it stands. -/
def readTidied (cs : List Char) : Except PlainFault Int :=
  if beginsTooLong cs then .error .tooLong
  else match (tidied? cs).bind plainInteger? with
    | some n => .ok n
    | none => .error .unreadable

end WebPush.Number
