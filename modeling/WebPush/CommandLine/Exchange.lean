import WebPush.Delivery
/-!
# Command line — the exchange with a push service

The program opens no connection of its own. It writes its request in the
form that a proxy takes, with the whole address in the first line, and
reads the answer that the proxy passes back: a status line, headers, an
empty line, and a text.
-/

namespace WebPush

/-! ## The request -/

/-- The host and port that a request goes to, as they stand in its address. -/
def Transmission.hostText (t : Transmission) : String :=
  match Url.Parts.ofText t.url.toList with
  | .ok parts => String.ofList (Url.withoutUser parts.authority)
  | .error _ => ""

/-- The lines in front of the body. -/
def Transmission.headLines (t : Transmission) : List String :=
  (t.method ++ " " ++ t.url ++ " HTTP/1.1") :: ("Host: " ++ t.hostText) ::
    t.headers.map fun (name, value) => name ++ ": " ++ value

/-- The request as it goes to a proxy. -/
def Transmission.toBytes (t : Transmission) : Bytes :=
  Utf8.encode (String.join (t.headLines.map (· ++ "\r\n")) ++ "\r\n") ++ t.body

/-! ## The answer -/

/-- The status in a status line. -/
def readStatus? (line : List Char) : Option Int :=
  match Text.splitAll ' ' (dropEndWhile (· == '\r') line) with
  | _version :: status :: _ =>
    if status.length = 3 && status.all Url.isDigit then some (Url.decimalValue status) else none
  | _ => none

/-- The line that ends the headers. -/
def isEmptyLine (line : List Char) : Bool := line = [] || line = ['\r']

/-- What an answer says. -/
def Transport.ofAnswer (answer : List Char) : Transport :=
  match Text.splitAll '\n' answer with
  | [] => .failed "answer" "no answer"
  | first :: rest =>
    match readStatus? first with
    | none => .failed "answer" "no status line"
    | some status =>
      let body := (rest.dropWhile (!isEmptyLine ·)).drop 1
      .answered status (String.ofList (body.intersperse ['\n']).flatten)

end WebPush
