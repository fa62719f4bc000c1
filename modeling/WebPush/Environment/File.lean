import WebPush.Environment.Basic
import WebPush.Text.Blank
import WebPush.Text.Quoted
import WebPush.Text.Split
/-!
# Environment — files of settings

A file has one assignment to a line. Blank lines and comments are
skipped, a leading `export` is allowed, and a value may stand in quotes.
Only names with the prefix of this library count; a line that is no
assignment at all is reported with its place, whatever its name.
-/

namespace WebPush.Environment

/-- The start of every name that is read. -/
def namePrefix : String := "VAPIDPUSH_"

/-- What is wrong with a line. -/
inductive LineFault where
  | notAssignment (line : List Char)
  | unterminatedQuote
deriving DecidableEq, Repr

/-- A fault and the place where it is: the path of the file, and the number of the line. -/
structure FileFault where
  path : String
  line : Nat
  fault : LineFault
deriving DecidableEq, Repr

/-- The wording of a fault. -/
def FileFault.message (f : FileFault) : String :=
  f.path ++ ":" ++ toString f.line ++ ": " ++
    match f.fault with
    | .notAssignment line => "expected KEY=VALUE, got " ++ String.ofList (Text.quoted line)
    | .unterminatedQuote => "unterminated quoted value"

/-! ## One line -/

/-- What a line says: nothing, something about a name that does not count,
or a value for a name. -/
inductive Line where
  | empty
  | other
  | assignment (name value : List Char)
deriving DecidableEq, Repr

/-- A character that an identifier may begin with. -/
def isIdentifierStart (c : Char) : Bool :=
  ('a' ≤ c && c ≤ 'z') || ('A' ≤ c && c ≤ 'Z') || c = '_'

/-- A character that an identifier may hold. -/
def inIdentifier (c : Char) : Bool := isIdentifierStart c || ('0' ≤ c && c ≤ '9')

/-- The text is an identifier. -/
def isIdentifier : List Char → Bool
  | [] => false
  | first :: rest => isIdentifierStart first && rest.all inIdentifier

/-- The line without a leading `export` and the blanks behind it. -/
def withoutExport (line : List Char) : List Char :=
  let word := "export ".toList
  Text.trimStart (if word.isPrefixOf line then line.drop word.length else line)

/-- The value without the quotes around it. -/
def unquote (value : List Char) : Except LineFault (List Char) :=
  match value with
  | [] => .ok []
  | first :: rest =>
    if first = '"' ∨ first = '\'' then
      if rest.getLast? = some first then .ok rest.dropLast else .error .unterminatedQuote
    else .ok value

/-- What a trimmed line says. -/
def readTrimmed (line : List Char) : Except LineFault Line :=
  if line.isEmpty || line.head? = some '#' then .ok .empty
  else match Text.splitFirst? '=' (withoutExport line) with
    | none => .error (.notAssignment line)
    | some (before, after) =>
      let name := Text.trim before
      if !isIdentifier name then .error (.notAssignment line)
      else if !namePrefix.toList.isPrefixOf name then .ok .other
      else (unquote (Text.trim after)).map (.assignment name)

/-- What a line says. -/
def readLine (line : List Char) : Except LineFault Line := readTrimmed (Text.trim line)

/-! ## The whole file -/

/-- The pairs that a line adds to those before it. -/
def addLine (pairs : List (String × String)) : Line → List (String × String)
  | .assignment name value => putPair pairs (String.ofList name) (String.ofList value)
  | _ => pairs

/-- The pairs of the lines from a number on, added to those before them. -/
def readLines (path : String) :
    (number : Nat) → (pairs : List (String × String)) → List (List Char) →
      Except FileFault (List (String × String))
  | _, pairs, [] => .ok pairs
  | number, pairs, line :: rest =>
    match readLine line with
    | .error fault => .error ⟨path, number, fault⟩
    | .ok content => readLines path (number + 1) (addLine pairs content) rest

/-- The pairs in the text of a file, each name with its last value. -/
def parseFile (path : String) (text : List Char) : Except FileFault (List (String × String)) :=
  readLines path 1 [] (Text.lines (Text.normalizeNewlines text))

/-! ## Applying a file -/

/-- What comes of applying pairs: the environment, the pairs that were set
before any fault, and the fault. -/
structure Applied where
  environment : Environment
  pairs : List (String × String)
  fault : Option VariableFault := none

/-- The pairs applied one after the other. Without `override`, variables that
are set already stay as they are. -/
def applyPairs (override : Bool) (env : Environment) : List (String × String) → Applied
  | [] => ⟨env, [], none⟩
  | (name, value) :: rest =>
    if !override && (env.get? name).isSome then applyPairs override env rest
    else match env.set name value with
      | .error fault => ⟨env, [], some fault⟩
      | .ok env =>
        let applied := applyPairs override env rest
        { applied with pairs := (name, value) :: applied.pairs }

end WebPush.Environment
