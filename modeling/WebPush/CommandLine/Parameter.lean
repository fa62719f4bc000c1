import WebPush.Number.Literal
import WebPush.Text.Split
/-!
# Command line — named parameters and their values

Every parameter takes one value, behind an equals sign or as the next
argument, and its name may be shortened as long as it stays unambiguous.
An argument that looks like a name is never a value, unless it is a
negative number or holds a space. The last value of a parameter counts.
Help ends the reading where it is met; an ambiguous name is refused
before anything else.
-/

namespace WebPush.CommandLine

/-- A parameter: its name, which values it takes, and whether it must be there. -/
structure Parameter where
  name : String
  accepts : String → Bool := fun _ => true
  isRequired : Bool := false

/-- Why no values were read. -/
inductive Stop where
  | help
  | invalid
deriving DecidableEq, Repr

/-- The status with which a program ends that has read no values. -/
def Stop.status : Stop → Nat
  | .help => 0
  | .invalid => 2

/-- What an argument is taken for. -/
inductive Token where
  | value (text : String)
  | separator
  | name (parameter : String) (value : Option String)
  /-- The short name of help, with more characters behind it. -/
  | shortHelp (tail : List Char)
  /-- A name of help with a value, which help does not take. -/
  | helpWithValue
  | unknown
deriving DecidableEq, Repr

/-! ## One argument -/

/-- The long name of help. -/
def helpName : String := "--help"

/-- A negative number, perhaps with a line feed behind it. -/
def isNegativeNumber (cs : List Char) : Bool :=
  let isDigit (c : Char) : Bool := (Text.decimalValue? c).isSome
  match cs with
  | '-' :: rest =>
    let body := if rest.getLast? = some '\n' then rest.dropLast else rest
    match (body.dropWhile isDigit) with
    | [] => !body.isEmpty
    | '.' :: fraction => !fraction.isEmpty && fraction.all isDigit
    | _ => false
  | _ => false

/-- The argument as a name in front of an equals sign, and a value behind it. -/
def splitValue (arg : List Char) : List Char × Option String :=
  match Text.splitFirst? '=' arg with
  | some (name, value) => (name, some (String.ofList value))
  | none => (arg, none)

/-- A name found, with or without a value. -/
def found (name : String) (value : Option String) : Token :=
  if name = helpName then (if value.isSome then .helpWithValue else .shortHelp [])
  else .name name value

/-- What an argument is taken for that begins with a dash and is no full name. -/
def classifyShortened (names : List String) (arg : List Char) : Except Stop Token :=
  let (start, value) := splitValue arg
  let candidates :=
    if arg.take 2 = ['-', '-'] then names.filter fun name => start.isPrefixOf name.toList else []
  match candidates with
  | [name] => .ok (found name value)
  | _ :: _ :: _ => .error .invalid
  | [] =>
    if arg.take 2 = ['-', 'h'] then .ok (.shortHelp (arg.drop 2))
    else if isNegativeNumber arg || arg.contains ' ' then .ok (.value (String.ofList arg))
    else .ok .unknown

/-- What an argument is taken for, in front of a separator. -/
def classify (names : List String) (arg : String) : Except Stop Token :=
  let cs := arg.toList
  let (start, value) := splitValue cs
  if cs = ['-', '-'] then .ok .separator
  else if cs.head? ≠ some '-' || cs = ['-'] then .ok (.value arg)
  else if cs = ['-', 'h'] then .ok (.shortHelp [])
  else if names.contains arg then .ok (found arg none)
  else if start = ['-', 'h'] then .ok .helpWithValue
  else if names.contains (String.ofList start) then .ok (found (String.ofList start) value)
  else classifyShortened names cs

/-- What all arguments are taken for. Behind the first separator all are values. -/
def classifyAll (names : List String) : List String → Except Stop (List Token)
  | [] => .ok []
  | arg :: rest => do
    let token ← classify names arg
    match token with
    | .separator => return .separator :: rest.map .value
    | _ => return token :: (← classifyAll names rest)

/-! ## All arguments -/

/-- The short name of help may be repeated. Other characters behind it are
left over, which help is told before; a value is refused. -/
def helpStop : List Char → Stop
  | [] => .help
  | c :: rest =>
    if c = '-' then .invalid
    else if c = 'h' then (if rest.head? = some '=' then .invalid else helpStop rest)
    else .help

/-- The values of parameters, in the order of the arguments, and whether
anything was left over. -/
structure Parsed where
  values : List (String × String) := []
  hasLeftover : Bool := false
deriving DecidableEq, Repr

/-- One more value, if its parameter takes it. -/
def Parsed.add (parsed : Parsed) (parameters : List Parameter) (name value : String) :
    Except Stop Parsed :=
  if parameters.any fun p => p.name = name && p.accepts value then
    .ok { parsed with values := parsed.values ++ [(name, value)] }
  else .error .invalid

/-- The values that tokens give. -/
def collect (parameters : List Parameter) (parsed : Parsed) : List Token → Except Stop Parsed
  | [] => .ok parsed
  | .value _ :: rest | .separator :: rest | .unknown :: rest =>
    collect parameters { parsed with hasLeftover := true } rest
  | .shortHelp tail :: _ => .error (helpStop tail)
  | .helpWithValue :: _ => .error .invalid
  | .name name (some value) :: rest =>
    match parsed.add parameters name value with
    | .ok parsed => collect parameters parsed rest
    | .error stop => .error stop
  | .name name none :: .value value :: rest =>
    match parsed.add parameters name value with
    | .ok parsed => collect parameters parsed rest
    | .error stop => .error stop
  | .name _ none :: _ => .error .invalid

/-- The values of parameters in the arguments of a program. -/
def parse (parameters : List Parameter) (args : List String) : Except Stop Parsed := do
  let tokens ← classifyAll (helpName :: parameters.map (·.name)) args
  let parsed ← collect parameters {} tokens
  let isMissing (p : Parameter) : Bool := p.isRequired && !parsed.values.any (·.1 = p.name)
  if parsed.hasLeftover || parameters.any isMissing then .error .invalid else .ok parsed

/-- How a program with such parameters is called. -/
def usage (program : String) (parameters : List Parameter) : String :=
  let shown := parameters.map fun p =>
    if p.isRequired then " " ++ p.name ++ " VALUE" else " [" ++ p.name ++ " VALUE]"
  "usage: " ++ program ++ " [-h]" ++ String.join shown

/-- The last value of a parameter. -/
def Parsed.value? (parsed : Parsed) (name : String) : Option String :=
  parsed.values.reverse.lookup name

end WebPush.CommandLine
