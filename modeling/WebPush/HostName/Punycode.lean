import WebPush.Text.Split
/-!
# Host names — punycode

Punycode writes any text in letters, digits and hyphens. The ASCII
characters of the text come first, with a hyphen behind them if there
are any. Then each other character, by code point and within one code
point from left to right, is given by how many places and code points
lie between it and the one before, in a number of variable length whose
digits grow with a bias that follows the numbers seen so far.
-/

namespace WebPush.HostName.Punycode

/-- The bias before the first number. -/
def initialBias : Nat := 72

/-- The weight that the digit in a place of a number must reach for the number to go on. -/
def threshold (place bias : Nat) : Nat := max 1 (min 26 (36 * (place + 1) - bias))

/-- A count divided by 35 until it is at most 455, and 36 for each division. -/
def scaleDown (count : Nat) : Nat × Nat :=
  if count ≤ 455 then (count, 0)
  else
    let (rest, steps) := scaleDown (count / 35)
    (rest, steps + 36)
termination_by count
decreasing_by omega

/-- The bias after a number, for a text that now has `length` characters. -/
def adapt (number : Nat) (isFirst : Bool) (length : Nat) : Nat :=
  let damped := number / (if isFirst then 700 else 2)
  let (rest, steps) := scaleDown (damped + damped / length)
  steps + 36 * rest / (rest + 38)

/-! ## Writing -/

/-- The letter or digit for a number below 36. -/
def digit (n : Nat) : Char :=
  if n < 26 then Char.ofNat ('a'.toNat + n) else Char.ofNat ('0'.toNat + (n - 26))

/-- The digits of a number from a place on. -/
def writeNumber (bias place n : Nat) : List Char :=
  let t := threshold place bias
  if h : n < t then [digit n]
  else digit (t + (n - t) % (36 - t)) :: writeNumber bias (place + 1) ((n - t) / (36 - t))
termination_by n
decreasing_by
  have positive : 1 ≤ threshold place bias := Nat.le_max_left ..
  have := Nat.div_le_self (n - threshold place bias) (36 - threshold place bias)
  omega

/-- What has been written: the characters, the places passed since the last
number, the bias, and how many characters of the text have been written. -/
structure Writer where
  output : List Char
  passed : Nat
  bias : Nat
  written : Nat

/-- One character of the text met while those of a code point are being written. -/
def Writer.meet (basic code : Nat) (w : Writer) (c : Char) : Writer :=
  if c.toNat < code then { w with passed := w.passed + 1 }
  else if c.toNat = code then
    { output := w.output ++ writeNumber w.bias 0 w.passed
      passed := 0
      bias := adapt w.passed (w.written = basic) (w.written + 1)
      written := w.written + 1 }
  else w

/-- All characters of one code point written; `previous` is the one before. -/
def Writer.writeCode (text : List Char) (basic : Nat) (state : Writer × Nat) (code : Nat) :
    Writer × Nat :=
  let (w, previous) := state
  let w := { w with passed := w.passed + (code - previous) * (w.written + 1) }
  let w := text.foldl (Writer.meet basic code) w
  ({ w with passed := w.passed + 1 }, code + 1)

/-- Increasing numbers with one more in its place, unless it is there already. -/
def insertOnce (n : Nat) : List Nat → List Nat
  | [] => [n]
  | m :: rest =>
    if n < m then n :: m :: rest
    else if n = m then m :: rest
    else m :: insertOnce n rest

/-- The code points of the characters outside ASCII, each once, in order. -/
def codesToWrite (text : List Char) : List Nat :=
  ((text.map Char.toNat).filter (0x80 ≤ ·)).foldr insertOnce []

/-- The punycode of a text. -/
def encode (text : List Char) : List Char :=
  let basic := text.filter (·.toNat < 0x80)
  let start : Writer := ⟨[], 0, initialBias, basic.length⟩
  let (w, _) := (codesToWrite text).foldl (Writer.writeCode text basic.length) (start, 0x80)
  basic ++ (if basic.isEmpty then [] else ['-']) ++ w.output

/-! ## Reading -/

/-- The number that a letter or digit stands for. -/
def digitValue? (c : Char) : Option Nat :=
  if 'a' ≤ c ∧ c ≤ 'z' then some (c.toNat - 'a'.toNat)
  else if '0' ≤ c ∧ c ≤ '9' then some (c.toNat - '0'.toNat + 26)
  else none

/-- The number at the front of a text and what follows it. `weight` is what a
digit in this place counts, `sum` what the digits before it make up. -/
def readNumber? (bias : Nat) : (place weight sum : Nat) → List Char → Option (Nat × List Char)
  | _, _, _, [] => none
  | place, weight, sum, c :: rest =>
    match digitValue? c with
    | none => none
    | some d =>
      let t := threshold place bias
      let sum := sum + d * weight
      if d < t then some (sum, rest) else readNumber? bias (place + 1) (weight * (36 - t)) sum rest

/-- What has been read: the code points so far, the code point and the place
of the next character, and the bias. -/
structure Reader where
  text : List Nat
  code : Nat
  place : Nat
  bias : Nat

/-- The largest code point. -/
def maxCode : Nat := 0x10FFFF

/-- The text with the character that a number gives. -/
def Reader.insert? (r : Reader) (number : Nat) (isFirst : Bool) : Option Reader :=
  let room := r.text.length + 1
  let place := r.place + number
  let code := r.code + place / room
  if code ≤ maxCode then
    some {
      text := r.text.take (place % room) ++ code :: r.text.drop (place % room)
      code
      place := place % room + 1
      bias := adapt number isFirst room }
  else none

/-- The text that all numbers make up. Each number has a digit, so there are no
more of them than `digits`. -/
def Reader.readAll? (r : Reader) (isFirst : Bool) : (digits : Nat) → List Char → Option (List Nat)
  | _, [] => some r.text
  | 0, _ => none
  | digits + 1, cs =>
    match readNumber? r.bias 0 1 0 cs with
    | none => none
    | some (number, rest) => (r.insert? number isFirst).bind fun r => r.readAll? false digits rest

/-- The ASCII characters in front of the last hyphen and the numbers behind it.
A hyphen with nothing in front of it is no such hyphen. -/
def cutBasic (cs : List Char) : List Char × List Char :=
  match Text.splitLast? '-' cs with
  | some (first :: more, numbers) => (first :: more, numbers)
  | _ => ([], cs)

/-- The code points of the text that a punycode stands for. Nothing keeps
surrogates out of them. -/
def decode? (cs : List Char) : Option (List Nat) :=
  let (basic, numbers) := cutBasic cs
  Reader.readAll? ⟨basic.map Char.toNat, 0x80, 0, initialBias⟩ true numbers.length numbers

end WebPush.HostName.Punycode
