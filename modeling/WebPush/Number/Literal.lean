import WebPush.Number.Double
import WebPush.Text.Blank
import WebPush.Text.Decimal
/-!
# Literal — numbers as people write them in settings and on command lines

An integer is a sign and decimal digits of any script, with single
underscores between digits and white space around the whole. A real
number adds a fraction, a power of ten, the infinities and NaN. An
integer of more digits than `maxDigits` is refused with its length.
-/

namespace WebPush.Number

/-- Why an integer text was refused. -/
inductive IntegerFault where
  | malformed
  | tooLong (digits : Nat)
deriving DecidableEq, Repr

/-- The most digits an integer text may have. -/
def maxDigits : Nat := 4300

/-- The message about an integer text, or an integer to be written, of too many digits. -/
def tooLongMessage (digits : Nat) : String :=
  "Exceeds the limit (4300 digits) for integer string conversion: value has " ++ toString digits ++
    " digits; use sys.set_int_max_str_digits() to increase the limit"

/-- The number that decimal digits write. -/
def ofDigits (ds : List Nat) : Nat := ds.foldl (fun n d => n * 10 + d) 0

/-- The text without the white space at both ends. -/
def stripSpace (cs : List Char) : List Char :=
  dropEndWhile Text.isWhiteSpace (cs.dropWhile Text.isWhiteSpace)

/-- A leading sign, read as "is negative", and what follows it. -/
def splitSign : List Char → Bool × List Char
  | '-' :: rest => (true, rest)
  | '+' :: rest => (false, rest)
  | cs => (false, cs)

/-- The text begins with a digit. -/
def startsWithDigit : List Char → Bool
  | [] => false
  | c :: _ => (Text.decimalValue? c).isSome

/-! ## Integers -/

/-- The digits at the start of a text and the rest behind them. `pending`
says that an underscore came just before; it must stand between digits. -/
def takeDigits? (pending : Bool) : List Char → Option (List Nat × List Char)
  | [] => if pending then none else some ([], [])
  | c :: rest =>
    match Text.decimalValue? c with
    | some d => (takeDigits? false rest).map fun (ds, rest) => (d :: ds, rest)
    | none =>
      if pending then none
      else if c = '_' then takeDigits? true rest
      else some ([], c :: rest)

/-- The integer that a text writes. -/
def readInt (cs : List Char) : Except IntegerFault Int :=
  let (negative, body) := splitSign (stripSpace cs)
  if !startsWithDigit body then .error .malformed
  else match takeDigits? false body with
    | none => .error .malformed
    | some (ds, rest) =>
      if maxDigits < ds.length then .error (.tooLong ds.length)
      else if !rest.isEmpty then .error .malformed
      else .ok (if negative then -(ofDigits ds : Int) else ofDigits ds)

/-! ## Real numbers -/

/-- The double written by the digits before and after the point and a power of ten. -/
def decimal (negative : Bool) (whole fraction : List Nat) (exponent : Int) : Double :=
  Double.ofDecimal negative (ofDigits (whole ++ fraction)) (exponent - fraction.length)

/-- The text with every underscore taken out, if each stands between two digits. -/
def dropUnderscores? (afterDigit : Bool) : List Char → Option (List Char)
  | [] => some []
  | c :: rest =>
    if c = '_' then
      if afterDigit && startsWithDigit rest then dropUnderscores? false rest else none
    else (dropUnderscores? (Text.decimalValue? c).isSome rest).map (c :: ·)

/-- The digits at the start of a text and the rest behind them. -/
def spanDigits (cs : List Char) : List Nat × List Char :=
  let (digits, rest) := cs.span fun c => (Text.decimalValue? c).isSome
  (digits.filterMap Text.decimalValue?, rest)

/-- The power of ten at the end of a real number: none, or `e` with a sign and digits. -/
def readExponent? : List Char → Option Int
  | [] => some 0
  | c :: rest =>
    if c = 'e' || c = 'E' then
      let (negative, body) := splitSign rest
      let (ds, rest) := spanDigits body
      if ds.isEmpty || !rest.isEmpty then none
      else some (if negative then -(ofDigits ds : Int) else ofDigits ds)
    else none

/-- An unsigned real number in digits. -/
def readDecimal? (negative : Bool) (cs : List Char) : Option Double :=
  let (whole, rest) := spanDigits cs
  let (fraction, rest) :=
    match rest with
    | '.' :: more => spanDigits more
    | _ => ([], rest)
  if whole.isEmpty && fraction.isEmpty then none
  else (readExponent? rest).map (decimal negative whole fraction)

/-- The double that a text writes. -/
def readDouble? (cs : List Char) : Option Double :=
  (dropUnderscores? false (stripSpace cs)).bind fun plain =>
    let (negative, body) := splitSign plain
    let word := String.ofList (body.map Char.toLower)
    if word = "inf" || word = "infinity" then some (.infinity negative)
    else if word = "nan" then some (.nan negative)
    else readDecimal? negative body

end WebPush.Number
