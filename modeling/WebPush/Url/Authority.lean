import WebPush.Number.Literal
import WebPush.Text.Lowercase
import WebPush.Text.Quoted
import WebPush.Url.Address
/-!
# Url — scheme and authority of an address

A URL begins with a scheme and a colon; after two slashes comes the
authority, up to the path, the query or the fragment. The authority
holds user information, a host and a port. Controls and blanks in front
are dropped, and so are tabs and line ends anywhere.
-/

namespace WebPush.Url

/-- Why a URL was refused. -/
inductive Fault where
  | brackets
  | futureAddress
  | ipv4InBrackets
  | notAnAddress (host : List Char)
  | hiddenDelimiter (authority : List Char)
  | port (text : List Char)
  | portLength (digits : Nat)
  | portRange
deriving DecidableEq, Repr

/-- The wording of a refusal. -/
def Fault.message : Fault → String
  | .brackets => "Invalid IPv6 URL"
  | .futureAddress => "IPvFuture address is invalid"
  | .ipv4InBrackets => "An IPv4 address cannot be in brackets"
  | .notAnAddress host =>
    String.ofList (Text.quoted host) ++ " does not appear to be an IPv4 or IPv6 address"
  | .hiddenDelimiter authority =>
    "netloc '" ++ String.ofList authority ++
      "' contains invalid characters under NFKC normalization"
  | .port text => "Port could not be cast to integer value as " ++ String.ofList (Text.quoted text)
  | .portLength digits => Number.tooLongMessage digits
  | .portRange => "Port out of range 0-65535"

/-- The scheme in small letters and the authority as it stands. -/
structure Parts where
  scheme : List Char
  authority : List Char
deriving DecidableEq, Repr

/-! ## Cutting -/

/-- A control character or a space. -/
def isControlOrSpace (c : Char) : Bool := c.toNat ≤ 0x20

/-- A character that is dropped wherever it stands. -/
def isDropped (c : Char) : Bool := c = '\t' || c = '\r' || c = '\n'

/-- The text that a URL is read from. -/
def cleaned (cs : List Char) : List Char := (cs.dropWhile isControlOrSpace).filter (!isDropped ·)

/-- An ASCII letter. -/
def isLetter (c : Char) : Bool := ('a' ≤ c && c ≤ 'z') || ('A' ≤ c && c ≤ 'Z')

/-- A character that a scheme may hold behind its first letter. -/
def inScheme (c : Char) : Bool := isLetter c || isDigit c || c = '+' || c = '-' || c = '.'

/-- The text is a scheme. -/
def isScheme : List Char → Bool
  | [] => false
  | first :: rest => isLetter first && rest.all inScheme

/-- The scheme in front of the first colon, and what follows it. Without a
scheme everything follows. -/
def splitScheme (cs : List Char) : List Char × List Char :=
  match Text.splitFirst? ':' cs with
  | some (scheme, rest) => if isScheme scheme then (scheme.map Char.toLower, rest) else ([], cs)
  | none => ([], cs)

/-- A character that ends the authority. -/
def endsAuthority (c : Char) : Bool := c = '/' || c = '?' || c = '#'

/-- The authority behind two slashes; without them there is none. -/
def authorityOf : List Char → List Char
  | '/' :: '/' :: rest => rest.takeWhile (!endsAuthority ·)
  | _ => []

/-- The parts of the authority: what may be a host, and the text of the port.
User information ends at the last `@`, a port follows the closing bracket
or the first colon. -/
structure HostAndPort where
  host : List Char
  port : List Char
deriving DecidableEq, Repr

/-- The text before the first occurrence of a character, and the text behind it. -/
def cut (separator : Char) (cs : List Char) : List Char × List Char :=
  (Text.splitFirst? separator cs).getD (cs, [])

/-- The authority without its user information. -/
def withoutUser (authority : List Char) : List Char :=
  match Text.splitLast? '@' authority with
  | some (_, rest) => rest
  | none => authority

/-- The host and the port of an authority. -/
def HostAndPort.ofAuthority (authority : List Char) : HostAndPort :=
  let rest := withoutUser authority
  match Text.splitFirst? '[' rest with
  | some (_, bracketed) =>
    let (host, after) := cut ']' bracketed
    ⟨host, (cut ':' after).2⟩
  | none =>
    let (host, port) := cut ':' rest
    ⟨host, port⟩

/-! ## Checks -/

/-- The characters outside ASCII whose compatibility form holds one of the
delimiters `/ ? # @ :`. -/
def delimiterHiders : List Nat :=
  [0x2047, 0x2048, 0x2049, 0x2100, 0x2101, 0x2105, 0x2106, 0x2A74, 0xFE13, 0xFE16, 0xFE55, 0xFE56,
    0xFE5F, 0xFE6B, 0xFF03, 0xFF0F, 0xFF1A, 0xFF1F, 0xFF20]

/-- The text in brackets is an address that may stand there. -/
def checkBracketed (host : List Char) : Except Fault Unit :=
  if host.head? = some 'v' then
    if isFutureAddress host then .ok () else .error .futureAddress
  else if isIPv4 host then .error .ipv4InBrackets
  else if isIPv6 host then .ok ()
  else .error (.notAnAddress host)

/-- Brackets come in pairs, with nothing in front of them, only a port behind
them, and an address between them. -/
def checkBrackets (authority : List Char) : Except Fault Unit :=
  if authority.contains '[' != authority.contains ']' then .error .brackets
  else if authority.contains '[' then
    let rest := withoutUser authority
    match Text.splitFirst? '[' rest with
    | some (before, bracketed) =>
      let (host, after) := cut ']' bracketed
      if !before.isEmpty || !(after.isEmpty || after.head? = some ':') then .error .brackets
      else checkBracketed host
    | none => checkBracketed (cut ':' rest).1
  else .ok ()

/-- No character hides a delimiter. -/
def checkHidden (authority : List Char) : Except Fault Unit :=
  if authority.any fun c => delimiterHiders.contains c.toNat then
    .error (.hiddenDelimiter authority)
  else .ok ()

/-- The scheme and the authority of a URL. -/
def Parts.ofText (cs : List Char) : Except Fault Parts := do
  let (scheme, rest) := splitScheme (cleaned cs)
  let authority := authorityOf rest
  checkBrackets authority
  checkHidden authority
  return ⟨scheme, authority⟩

/-! ## Host and port -/

namespace Parts

/-- The host in small letters, as far as a zone. It may be empty. -/
def host (p : Parts) : List Char :=
  let host := (HostAndPort.ofAuthority p.authority).host
  Text.lower (host.takeWhile (· ≠ '%')) ++ host.dropWhile (· ≠ '%')

/-- The number of the port, if there is one. -/
def port (p : Parts) : Except Fault (Option Nat) :=
  let text := (HostAndPort.ofAuthority p.authority).port
  if text.isEmpty then .ok none
  else if !text.all isDigit then .error (.port text)
  else if Number.maxDigits < text.length then .error (.portLength text.length)
  else
    let number := decimalValue text
    if number ≤ 65535 then .ok (some number) else .error .portRange

end Parts

end WebPush.Url
