import WebPush.HostName.Context
import WebPush.HostName.Direction
import WebPush.HostName.Letter
import WebPush.HostName.Punycode
import WebPush.Text.Composed
import WebPush.Text.Quoted
/-!
# Host names — labels and their ASCII form

A label is in composed form, does not begin with a mark, has no hyphen
at either end or in the third and fourth place, holds only characters
that may stand where they stand, and runs in a direction that can be
made out. A label in ASCII is its own ASCII form; any other is written
in punycode behind a prefix. What is no label is refused for the first
of these reasons, with positions that count from one.
-/

namespace WebPush.HostName

/-- Why a text is no label, or no ASCII form of one. -/
inductive LabelFault where
  | empty
  | notComposed
  | hyphensInside
  | hyphenAtEnd
  | leadingMark
  | character (position : Nat)
  | context (position : Nat)
  | joiner (position : Nat)
  | joinerNeighbor (position : Nat)
  | direction (f : DirectionFault)
  | noPunycode
  | punycodeEnd
  | punycode
deriving DecidableEq, Repr

/-! ## Labels -/

/-- The first character of a label that may not stand where it stands. `before`
holds the characters already passed, the nearest first. -/
def firstMisfit? (before : List Char) : List Char → Option LabelFault
  | [] => none
  | c :: after =>
    let position := before.length + 1
    if isLetter c then firstMisfit? (c :: before) after
    else if !needsContext c then some (.character position)
    else if lacksNeighbor before c then some (.joinerNeighbor position)
    else if fitsContext before c after then firstMisfit? (c :: before) after
    else if isJoiner c then some (.joiner position)
    else some (.context position)

/-- The text is a label. -/
def checkLabel (cs : List Char) : Except LabelFault Unit :=
  if cs.isEmpty then .error .empty
  else if !Text.isComposed cs then .error .notComposed
  else if (cs.drop 2).take 2 = ['-', '-'] then .error .hyphensInside
  else if cs.head? = some '-' || cs.getLast? = some '-' then .error .hyphenAtEnd
  else if cs.head?.any isMark then .error .leadingMark
  else match firstMisfit? [] cs with
    | some f => .error f
    | none => (checkDirection cs).mapError .direction

/-! ## ASCII forms -/

/-- The prefix of a label in punycode. -/
def punycodePrefix : List Char := "xn--".toList

/-- The ASCII form of a label. -/
def asciiForm (cs : List Char) : List Char :=
  if cs.all (·.toNat < 0x80) then cs else punycodePrefix ++ Punycode.encode cs

/-- A text, by its code points, that is no label or no ASCII form of one, and why. -/
structure BadLabel where
  text : List Nat
  fault : LabelFault
deriving DecidableEq, Repr

/-- The label that a punycode stands for. A code point that is no character is
stood for by one that is in no label. -/
def readPunycode (code : List Char) : Except BadLabel (List Char) :=
  match Punycode.decode? code with
  | none => .error ⟨code.map Char.toNat, .punycode⟩
  | some codes =>
    let label := codes.map Char.ofNat
    match checkLabel label with
    | .error f => .error ⟨codes, f⟩
    | .ok _ => .ok label

/-- The label that an ASCII form stands for. -/
def readAscii (form : List Char) : Except BadLabel (List Char) :=
  let form := form.map Char.toLower
  let refuse (f : LabelFault) : Except BadLabel (List Char) := .error ⟨form.map Char.toNat, f⟩
  if punycodePrefix.isPrefixOf form then
    let code := form.drop punycodePrefix.length
    if code.isEmpty then refuse .noPunycode
    else if code.getLast? = some '-' then refuse .punycodeEnd
    else readPunycode code
  else match checkLabel form with
    | .error f => refuse f
    | .ok _ => .ok form

/-- The most characters the ASCII form of a label may have. -/
def maxLabelLength : Nat := 63

/-- The ASCII form of a text in small letters, if the text is a label or the ASCII form of one. -/
def labelToAscii? (cs : List Char) : Option (List Char) :=
  let isGood := if cs.all (·.toNat < 0x80) then (readAscii cs).isOk else (checkLabel cs).isOk
  if isGood && (asciiForm cs).length ≤ maxLabelLength then some (asciiForm cs) else none

/-! ## Wording -/

/-- A code point as messages name it, in at least four digits. -/
def showCode (n : Nat) : String :=
  let width := if n < 0x10000 then 4 else if n < 0x100000 then 5 else 6
  "U+" ++ String.ofList ((Text.hexDigits width n).map Char.toUpper)

/-- The wording of a fault in the direction of a text. -/
def DirectionFault.message (text : List Nat) : DirectionFault → String
  | .unknown position =>
    "Unknown directionality in label " ++ String.ofList (Text.quotedCodes text) ++
      " at position " ++ toString position
  | .start =>
    "First codepoint in label " ++ String.ofList (Text.quotedCodes text) ++
      " must be directionality L, R or AL"
  | .astray position isLabelBackward =>
    "Invalid direction for codepoint at position " ++ toString position ++
      (if isLabelBackward then " in a right-to-left label" else " in a left-to-right label")
  | .mixedDigits => "Can not mix numeral types in a right-to-left label"
  | .ending => "Label ends with illegal codepoint directionality"

/-- The wording of a refusal. -/
def BadLabel.message (b : BadLabel) : String :=
  let shown := String.ofList (Text.quotedCodes b.text)
  let code (position : Nat) := showCode (b.text.getD (position - 1) 0)
  match b.fault with
  | .empty => "Empty Label"
  | .notComposed => "Label must be in Normalization Form C"
  | .hyphensInside => "Label has disallowed hyphens in 3rd and 4th position"
  | .hyphenAtEnd => "Label must not start or end with a hyphen"
  | .leadingMark => "Label begins with an illegal combining character"
  | .character position =>
    "Codepoint " ++ code position ++ " at position " ++ toString position ++ " of " ++ shown ++
      " not allowed"
  | .context position =>
    "Codepoint " ++ code position ++ " not allowed at position " ++ toString position ++ " in " ++
      shown
  | .joiner position =>
    "Joiner " ++ code position ++ " not allowed at position " ++ toString position ++ " in " ++ shown
  | .joinerNeighbor position =>
    "Unknown codepoint adjacent to joiner " ++ code position ++ " at position " ++
      toString position ++ " in " ++ shown
  | .direction f => f.message b.text
  | .noPunycode => "Malformed A-label, no Punycode eligible content found"
  | .punycodeEnd => "A-label must not end with a hyphen"
  | .punycode => "Invalid A-label"

end WebPush.HostName
