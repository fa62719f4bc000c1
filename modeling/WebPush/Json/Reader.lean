import WebPush.Json.Basic
import WebPush.Number.Literal
import WebPush.Text.Encoding
/-!
# Json — reading texts, one character at a time

The reader is an automaton. Its state holds the containers that are
still open, innermost first, and a `Phase` that says what may come next.
`State.step` takes one character, and a text is read by folding the step
over it. Strings may not hold raw control characters; `NaN` and the two
infinities are numbers. How deep containers may nest is up to the process
that reads, so it is an argument. An escape that names half a surrogate
pair is read as the replacement character, and texts with such an escape
are outside the model.
-/

namespace WebPush.Json

/-- Why a text is no JSON value. -/
inductive Fault where
  | malformed
  | tooDeep (insideObject : Bool)
  | longInteger (digits : Nat)
deriving DecidableEq, Repr

/-- How many containers may be open at once: as many as the stack of the process has room for,
and in any case one inside another. -/
structure Depth where
  limit : Nat
  two_le : 2 ≤ limit
deriving DecidableEq, Repr

/-- Just room for one container in another. -/
def Depth.least : Depth := ⟨2, Nat.le_refl 2⟩

/-- A container that is still open, with what it holds so far, the last first. -/
inductive Frame where
  | array (items : List Json)
  | object (members : List (String × Json)) (name : String)

/-- The part of a string behind the last whole character. -/
inductive Pending where
  | none
  /-- A backslash. -/
  | escape
  /-- A unit escape of which `digits` hexadecimal digits have been read. -/
  | unit (digits value : Nat)
  /-- The first half of a surrogate pair. -/
  | high (unit : Nat)
  /-- The first half of a surrogate pair, and a backslash. -/
  | highEscape (unit : Nat)
  /-- The first half of a surrogate pair, and part of another unit escape. -/
  | highUnit (unit : Nat) (digits value : Nat)

/-- What may come next. -/
inductive Phase where
  /-- A value; or, with `mayClose`, the end of an array without items. -/
  | value (mayClose : Bool)
  /-- The name of a member; or, with `mayClose`, the end of an object without members. -/
  | name (mayClose : Bool)
  /-- The colon behind a name. -/
  | colon
  /-- A comma, or the end of the innermost container. -/
  | next
  /-- The rest of a word, and the value that it stands for. -/
  | word (rest : List Char) (result : Json)
  /-- More of a number, whose characters so far are here in reverse. -/
  | number (reversed : List Char)
  /-- More of a string, whose characters so far are here in reverse. -/
  | string (isName : Bool) (reversed : List Char) (pending : Pending)
  /-- Nothing: the value is complete. -/
  | done (result : Json)

/-- The state of the reader. -/
structure State where
  frames : List Frame
  phase : Phase

/-- The state before the first character. -/
def State.start : State := ⟨[], .value false⟩

/-- White space between the parts of a text. -/
def isSpace (c : Char) : Bool := c = ' ' || c = '\t' || c = '\n' || c = '\r'

/-- The value of a hexadecimal digit. -/
def hexValue? (c : Char) : Option Nat :=
  if '0' ≤ c ∧ c ≤ '9' then some (c.toNat - '0'.toNat)
  else if 'a' ≤ c ∧ c ≤ 'f' then some (c.toNat - 'a'.toNat + 10)
  else if 'A' ≤ c ∧ c ≤ 'F' then some (c.toNat - 'A'.toNat + 10)
  else none

/-! ## Numbers -/

/-- A digit of a JSON number. -/
def isDigit (c : Char) : Bool := '0' ≤ c && c ≤ '9'

/-- A character that a JSON number may hold. -/
def inNumber (c : Char) : Bool := isDigit c || c = '.' || c = '+' || c = '-' || c = 'e' || c = 'E'

/-- The value of a digit. -/
def digitValue (c : Char) : Nat := c.toNat - '0'.toNat

/-- The integer part at the start of a number: a lone zero, or digits that do not begin with one. -/
def integerPart : List Char → List Char × List Char
  | '0' :: rest => (['0'], rest)
  | cs => cs.span isDigit

/-- A fraction at the start of a text: a point and at least one digit. -/
def fractionPart (cs : List Char) : List Char × List Char :=
  match cs with
  | '.' :: rest =>
    let (digits, more) := rest.span isDigit
    if digits.isEmpty then ([], cs) else (digits, more)
  | _ => ([], cs)

/-- A power of ten at the start of a text: `e`, perhaps a sign, and at least one digit. -/
def exponentPart (cs : List Char) : Option Int × List Char :=
  match cs with
  | c :: rest =>
    if c = 'e' || c = 'E' then
      let (negative, body) := Number.splitSign rest
      let (digits, more) := body.span isDigit
      if digits.isEmpty then (none, cs)
      else
        let n : Int := Number.ofDigits (digits.map digitValue)
        (some (if negative then -n else n), more)
    else (none, cs)
  | [] => (none, [])

/-- The number that a text begins with, if nothing is left behind it. -/
def readNumber (cs : List Char) : Except Fault Json :=
  let (negative, body) :=
    match cs with
    | '-' :: rest => (true, rest)
    | _ => (false, cs)
  let (whole, afterWhole) := integerPart body
  let (fraction, afterFraction) := fractionPart afterWhole
  let (exponent, rest) := exponentPart afterFraction
  if whole.isEmpty then .error .malformed
  else if fraction.isEmpty && exponent.isNone then
    if Number.maxDigits < whole.length then .error (.longInteger whole.length)
    else if !rest.isEmpty then .error .malformed
    else
      let n : Int := Number.ofDigits (whole.map digitValue)
      .ok (.int (if negative then -n else n))
  else if !rest.isEmpty then .error .malformed
  else .ok (.real (Number.decimal negative (whole.map digitValue) (fraction.map digitValue)
    (exponent.getD 0)))

/-! ## Steps -/

namespace State

/-- A complete value goes into the innermost open container. -/
def deliver (frames : List Frame) (value : Json) : State :=
  match frames with
  | [] => ⟨[], .done value⟩
  | .array items :: rest => ⟨.array (value :: items) :: rest, .next⟩
  | .object members name :: rest => ⟨.object ((name, value) :: members) name :: rest, .next⟩

/-- A complete string is a value or the name of a member. -/
def deliverString (frames : List Frame) (isName : Bool) (reversed : List Char) : State :=
  let s := String.ofList reversed.reverse
  match isName, frames with
  | true, .object members _ :: rest => ⟨.object members s :: rest, .colon⟩
  | _, _ => deliver frames (.string s)

/-- A container opens. -/
def openFrame (depth : Depth) (frames : List Frame) (frame : Frame) (phase : Phase)
    (isObject : Bool) : Except Fault State :=
  if depth.limit ≤ frames.length then .error (.tooDeep isObject)
  else .ok ⟨frame :: frames, phase⟩

/-- The first character of a value. -/
def beginValue (depth : Depth) (frames : List Frame) (c : Char) : Except Fault State :=
  if c = '"' then .ok ⟨frames, .string false [] .none⟩
  else if c = '{' then openFrame depth frames (.object [] "") (.name true) true
  else if c = '[' then openFrame depth frames (.array []) (.value true) false
  else if c = 'n' then .ok ⟨frames, .word ['u', 'l', 'l'] .null⟩
  else if c = 't' then .ok ⟨frames, .word ['r', 'u', 'e'] (.bool true)⟩
  else if c = 'f' then .ok ⟨frames, .word ['a', 'l', 's', 'e'] (.bool false)⟩
  else if c = 'N' then .ok ⟨frames, .word ['a', 'N'] (.real (.nan false))⟩
  else if c = 'I' then
    .ok ⟨frames, .word ['n', 'f', 'i', 'n', 'i', 't', 'y'] (.real (.infinity false))⟩
  else if isDigit c || c = '-' then .ok ⟨frames, .number [c]⟩
  else .error .malformed

/-- The innermost container ends, or a comma announces more of it. -/
def afterValue (frames : List Frame) (c : Char) : Except Fault State :=
  match frames with
  | .array items :: rest =>
    if c = ',' then .ok ⟨frames, .value false⟩
    else if c = ']' then .ok (deliver rest (.array items.reverse))
    else .error .malformed
  | .object members _ :: rest =>
    if c = ',' then .ok ⟨frames, .name false⟩
    else if c = '}' then .ok (deliver rest (.object (Members.ofList members.reverse)))
    else .error .malformed
  | [] => .error .malformed

/-- One character of a string, behind whole characters only. -/
def stringChar (frames : List Frame) (isName : Bool) (reversed : List Char) (c : Char) :
    Except Fault State :=
  if c = '"' then .ok (deliverString frames isName reversed)
  else if c = '\\' then .ok ⟨frames, .string isName reversed .escape⟩
  else if c.toNat < 0x20 then .error .malformed
  else .ok ⟨frames, .string isName (c :: reversed) .none⟩

/-- The character behind a backslash. -/
def escapedChar (frames : List Frame) (isName : Bool) (reversed : List Char) (c : Char) :
    Except Fault State :=
  let whole (d : Char) : Except Fault State := .ok ⟨frames, .string isName (d :: reversed) .none⟩
  if c = '"' || c = '\\' || c = '/' then whole c
  else if c = 'b' then whole '\x08'
  else if c = 'f' then whole '\x0c'
  else if c = 'n' then whole '\n'
  else if c = 'r' then whole '\r'
  else if c = 't' then whole '\t'
  else if c = 'u' then .ok ⟨frames, .string isName reversed (.unit 0 0)⟩
  else .error .malformed

/-- One character of a string. -/
def stepString (frames : List Frame) (isName : Bool) (reversed : List Char) (pending : Pending)
    (c : Char) : Except Fault State :=
  match pending with
  | .none => stringChar frames isName reversed c
  | .escape => escapedChar frames isName reversed c
  | .unit digits value =>
    match hexValue? c with
    | none => .error .malformed
    | some d =>
      let unit := value * 16 + d
      if digits < 3 then .ok ⟨frames, .string isName reversed (.unit (digits + 1) unit)⟩
      else if Text.isHighSurrogate unit then .ok ⟨frames, .string isName reversed (.high unit)⟩
      else .ok ⟨frames, .string isName (Text.charOfCodePoint unit :: reversed) .none⟩
  | .high unit =>
    if c = '\\' then .ok ⟨frames, .string isName reversed (.highEscape unit)⟩
    else stringChar frames isName (Text.charOfCodePoint unit :: reversed) c
  | .highEscape unit =>
    if c = 'u' then .ok ⟨frames, .string isName reversed (.highUnit unit 0 0)⟩
    else escapedChar frames isName (Text.charOfCodePoint unit :: reversed) c
  | .highUnit high digits value =>
    match hexValue? c with
    | none => .error .malformed
    | some d =>
      let unit := value * 16 + d
      if digits < 3 then .ok ⟨frames, .string isName reversed (.highUnit high (digits + 1) unit)⟩
      else if Text.isLowSurrogate unit then
        .ok ⟨frames, .string isName (Text.joinSurrogates high unit :: reversed) .none⟩
      else
        let kept := Text.charOfCodePoint high :: reversed
        if Text.isHighSurrogate unit then .ok ⟨frames, .string isName kept (.high unit)⟩
        else .ok ⟨frames, .string isName (Text.charOfCodePoint unit :: kept) .none⟩

/-- One character that stands outside every string, word and number. -/
def stepBetween (depth : Depth) (state : State) (c : Char) : Except Fault State :=
  match state.phase with
  | .value mayClose =>
    match mayClose, c, state.frames with
    | true, ']', _ :: rest => .ok (deliver rest (.array []))
    | _, _, frames => beginValue depth frames c
  | .name mayClose =>
    match mayClose, c, state.frames with
    | true, '}', _ :: rest => .ok (deliver rest (.object []))
    | _, '"', frames => .ok ⟨frames, .string true [] .none⟩
    | _, _, _ => .error .malformed
  | .colon => if c = ':' then .ok ⟨state.frames, .value false⟩ else .error .malformed
  | .next => afterValue state.frames c
  | _ => .error .malformed

/-- One character. -/
def step (depth : Depth) (state : State) (c : Char) : Except Fault State :=
  match state.phase with
  | .string isName reversed pending => stepString state.frames isName reversed pending c
  | .word rest result =>
    match rest with
    | [last] => if c = last then .ok (deliver state.frames result) else .error .malformed
    | expected :: more =>
      if c = expected then .ok ⟨state.frames, .word more result⟩ else .error .malformed
    | [] => .error .malformed
  | .number reversed =>
    if inNumber c then .ok ⟨state.frames, .number (c :: reversed)⟩
    else if reversed = ['-'] && c = 'I' then
      .ok ⟨state.frames, .word ['n', 'f', 'i', 'n', 'i', 't', 'y'] (.real (.infinity true))⟩
    else
      (readNumber reversed.reverse).bind fun value =>
        let delivered := deliver state.frames value
        if isSpace c then .ok delivered else stepBetween depth delivered c
  | _ => if isSpace c then .ok state else stepBetween depth state c

/-- The value of a text that ends here. -/
def finish (state : State) : Except Fault Json :=
  match state.frames, state.phase with
  | [], .done result => .ok result
  | frames, .number reversed =>
    (readNumber reversed.reverse).bind fun value =>
      if frames.isEmpty then .ok value else .error .malformed
  | _, _ => .error .malformed

end State

/-- The value that a text writes. -/
def read (depth : Depth) (cs : List Char) : Except Fault Json :=
  (cs.foldlM (State.step depth) .start).bind State.finish

/-- The value that an octet string writes, in whichever Unicode encoding it is. -/
def readBytes (depth : Depth) (bs : Bytes) : Except Fault Json :=
  match Text.decodeDetected? bs with
  | none => .error .malformed
  | some cs => read depth cs

end WebPush.Json
