import WebPush.HostName.Basic
import WebPush.Text.Utf8
import WebPush.Url.Authority
/-!
# Url — where a request goes

The address of a request is brought into normal form before it is sent:
scheme and host in small letters, no usual port behind a scheme that was
in small letters already, no dot segments in the path, and every
character that may not stand in its component written as percent
escapes. What cannot be brought into that form is refused. An address
without scheme or host keeps its path and query.
-/

namespace WebPush.Url

/-- Why an address cannot be the target of a request. -/
inductive TargetFault where
  | tooLong
  | componentTooLong (name : String)
  | unprintable (c : Char) (position : Nat)
  | ipv4 (host : List Char)
  | ipv6 (host : List Char)
  | internationalHost (host : List Char)
  | port (text : List Char)
  | pathStart
  | doubleSlashStart
  | colonStart
deriving DecidableEq, Repr

/-- The wording of such a fault. -/
def TargetFault.message : TargetFault → String
  | .tooLong => "URL too long"
  | .componentTooLong name => "URL component '" ++ name ++ "' too long"
  | .unprintable c position =>
    "Invalid non-printable ASCII character in URL, " ++ String.ofList (Text.quoted [c]) ++
      " at position " ++ toString position ++ "."
  | .ipv4 host => "Invalid IPv4 address: " ++ String.ofList (Text.quoted host)
  | .ipv6 host => "Invalid IPv6 address: " ++ String.ofList (Text.quoted host)
  | .internationalHost host => "Invalid IDNA hostname: " ++ String.ofList (Text.quoted host)
  | .port text => "Invalid port: " ++ String.ofList (Text.quoted text)
  | .pathStart => "For absolute URLs, path must be empty or begin with '/'"
  | .doubleSlashStart => "Relative URLs cannot have a path starting with '//'"
  | .colonStart => "Relative URLs cannot have a path starting with ':'"

/-! ## Percent escapes -/

/-- A character that needs no escape in any component. -/
def isUnreserved (c : Char) : Bool :=
  isLetter c || isDigit c || c = '-' || c = '.' || c = '_' || c = '~'

/-- A printable ASCII character outside a list of exceptions. -/
def printableExcept (exceptions : String) (c : Char) : Bool :=
  ' ' ≤ c && c ≤ '~' && !exceptions.toList.contains c

/-- A character that may stand in a path. -/
def inPath (c : Char) : Bool := isUnreserved c || printableExcept " \"#<>?`\x7b\x7d" c

/-- A character that may stand in a query. -/
def inQuery (c : Char) : Bool := isUnreserved c || printableExcept " \"#<>" c

/-- A character that may stand in a fragment. -/
def inFragment (c : Char) : Bool := isUnreserved c || printableExcept " \"<>`" c

/-- A character that may stand in user information. -/
def inUser (c : Char) : Bool := isUnreserved c || printableExcept " \"#<>?`\x7b\x7d/;=@[\\]^|" c

/-- A character that may stand in a host name. -/
def inHost (c : Char) : Bool := isUnreserved c || "!$&'()*+,;=\"`\x7b\x7d%|\\".toList.contains c

/-- An octet as a percent escape. -/
def escapeOctet (b : UInt8) : List Char :=
  '%' :: (Text.hexDigits 2 b.toNat).map Char.toUpper

/-- A text with every character outside a class written as escapes. Escapes
that are there already stay. -/
def escape (allowed : Char → Bool) : List Char → List Char
  | '%' :: a :: b :: rest =>
    if isHexDigit a && isHexDigit b then '%' :: a :: b :: escape allowed rest
    else (if allowed '%' then ['%'] else escapeOctet 0x25) ++ escape allowed (a :: b :: rest)
  | c :: rest =>
    (if c.toNat < 0x80 && allowed c then [c] else (Utf8.encodeChars [c]).flatMap escapeOctet) ++
      escape allowed rest
  | [] => []

/-- A text with every escape replaced by the octet it stands for. -/
def unescape : List Char → Bytes
  | '%' :: a :: b :: rest =>
    if isHexDigit a && isHexDigit b then
      UInt8.ofNat (hexValue a * 16 + hexValue b) :: unescape rest
    else 0x25 :: unescape (a :: b :: rest)
  | c :: rest => Utf8.encodeChars [c] ++ unescape rest
  | [] => []
where
  /-- The value of a hexadecimal digit. -/
  hexValue (c : Char) : Nat :=
    if isDigit c then c.toNat - '0'.toNat else c.toLower.toNat - 'a'.toNat + 10

/-! ## Components -/

/-- The components of an address as they stand. -/
structure Components where
  scheme : List Char
  authority : Option (List Char)
  path : List Char
  query : Option (List Char)
  fragment : Option (List Char)

/-- A text without its tail behind a character, and the tail. -/
def splitTail (separator : Char) (cs : List Char) : List Char × Option (List Char) :=
  match Text.splitFirst? separator cs with
  | some (before, after) => (before, some after)
  | none => (cs, none)

/-- The components of an address. -/
def Components.ofText (cs : List Char) : Components :=
  let (scheme, rest) :=
    match Text.splitFirst? ':' cs with
    | some (scheme, rest) => if scheme.isEmpty || isScheme scheme then (scheme, rest) else ([], cs)
    | none => ([], cs)
  let (authority, rest) : Option (List Char) × List Char :=
    match rest with
    | '/' :: '/' :: more =>
      (some (more.takeWhile (!endsAuthority ·)), more.dropWhile (!endsAuthority ·))
    | _ => (none, rest)
  let (rest, fragment) := splitTail '#' rest
  let (path, query) := splitTail '?' rest
  ⟨scheme, authority, path, query, fragment⟩

/-- The target of a request in normal form. -/
structure Target where
  scheme : List Char
  user : List Char
  host : List Char
  port : Option Int
  path : List Char
  query : Option (List Char)
  fragment : Option (List Char)
deriving Repr

/-- Four runs of digits with dots between them. -/
def looksLikeIPv4 (cs : List Char) : Bool :=
  let parts := Text.splitAll '.' cs
  parts.length == 4 && parts.all fun part => !part.isEmpty && part.all isDigit

/-- The normal form of a host. -/
def normalHost (host : List Char) : Except TargetFault (List Char) :=
  if host.isEmpty then .ok []
  else if looksLikeIPv4 host then (if isIPv4 host then .ok host else .error (.ipv4 host))
  else if host.head? = some '[' && host.getLast? = some ']' then
    let inner := (host.drop 1).dropLast
    if isIPv6 inner then .ok inner else .error (.ipv6 host)
  else if host.all (·.toNat < 0x80) then .ok (escape inHost (host.map Char.toLower))
  else match HostName.toAscii? (Text.lower host) with
    | some name => .ok name
    | none => .error (.internationalHost host)

/-- The port that a scheme uses if none is given. -/
def usualPort? (scheme : List Char) : Option Int :=
  [("ftp", 21), ("http", 80), ("https", 443), ("ws", 80), ("wss", 443)].lookup
    (String.ofList scheme)

/-- The normal form of a port. Only a scheme that is written in small letters
has a usual port. -/
def normalPort (scheme : List Char) (text : List Char) : Except TargetFault (Option Int) :=
  if text.isEmpty then .ok none
  else match Number.readInt text with
    | .error _ => .error (.port text)
    | .ok n => .ok (if usualPort? scheme = some n then none else some n)

/-- The segments of a path that are left when each dot segment has been followed. -/
def followDots : (reversed : List (List Char)) → List (List Char) → List (List Char)
  | reversed, [] => reversed.reverse
  | reversed, segment :: rest =>
    if segment = ['.'] then followDots reversed rest
    else if segment = ['.', '.'] then
      followDots (if reversed = [[]] then reversed else reversed.drop 1) rest
    else followDots (segment :: reversed) rest

/-- A path without dot segments. -/
def normalPath (path : List Char) : List Char :=
  let segments := Text.splitAll '/' path
  if segments.contains ['.'] || segments.contains ['.', '.'] then
    ((followDots [] segments).intersperse ['/']).flatten
  else path

/-- The user information, the host and the port of an authority. -/
def splitAuthority (authority : List Char) : List Char × List Char × List Char :=
  let (user, rest) := (Text.splitLast? '@' authority).getD ([], authority)
  match rest, Text.splitLast? ']' rest with
  | '[' :: _, some (inner, after) =>
    (user, inner ++ [']'], if after.head? = some ':' then after.drop 1 else after)
  | _, _ =>
    let (host, port) := cut ':' rest
    (user, host, port)

/-- The path agrees with what stands in front of it. -/
def checkPath (path : List Char) (hasScheme hasAuthority : Bool) : Except TargetFault Unit :=
  if hasAuthority && !path.isEmpty && path.head? ≠ some '/' then .error .pathStart
  else if !hasScheme && !hasAuthority && ['/', '/'].isPrefixOf path then .error .doubleSlashStart
  else if !hasScheme && !hasAuthority && path.head? = some ':' then .error .colonStart
  else .ok ()

namespace Target

/-- The most characters an address may have, and each component of a relative one. -/
def maxLength : Nat := 65536

/-- The normal form of the components of an address. -/
def ofComponents (c : Components) : Except TargetFault Target := do
  let (user, host, port) := splitAuthority (c.authority.getD [])
  let scheme := c.scheme.map Char.toLower
  let user := escape inUser user
  let host ← normalHost host
  let port ← normalPort c.scheme port
  let hasScheme := !scheme.isEmpty
  let hasAuthority := !user.isEmpty || !host.isEmpty || port.isSome
  checkPath c.path hasScheme hasAuthority
  let path := if hasScheme || hasAuthority then normalPath c.path else c.path
  return ⟨scheme, user, host, port, escape inPath path, c.query.map (escape inQuery),
    c.fragment.map (escape inFragment)⟩

/-- The address names a service by scheme and host. -/
def isAbsolute (t : Target) : Bool := !t.scheme.isEmpty && !t.host.isEmpty

/-- What is left of an address that names no service: its path, from one slash
on, and its query. -/
def relative (t : Target) : Except TargetFault Target :=
  let path := '/' :: t.path.dropWhile (· == '/')
  if maxLength < path.length then .error (.componentTooLong "path")
  else if maxLength < (t.query.getD []).length then .error (.componentTooLong "query")
  else .ok ⟨[], [], [], none, path, t.query, none⟩

/-- The target of a request for an address. -/
def ofText (cs : List Char) : Except TargetFault Target :=
  if maxLength < cs.length then .error .tooLong
  else match cs.findIdx? fun c => c.toNat < 0x20 || c.toNat = 0x7F with
    | some position => .error (.unprintable (cs.getD position ' ') position)
    | none => do
      let t ← ofComponents (.ofText cs)
      if t.isAbsolute then return t else t.relative

/-- The host and the port, as one text. -/
def hostAndPort (t : Target) : List Char :=
  (if t.host.contains ':' then '[' :: t.host ++ [']'] else t.host) ++
    match t.port with
    | none => []
    | some n => ':' :: (toString n).toList

/-- The user information, the host and the port, as one text. -/
def showAuthority (t : Target) : List Char :=
  (if t.user.isEmpty then [] else t.user ++ ['@']) ++ t.hostAndPort

/-- The address in normal form. -/
def render (t : Target) : String :=
  let authority := t.showAuthority
  String.ofList <|
    (if t.scheme.isEmpty then [] else t.scheme ++ [':']) ++
    (if authority.isEmpty then [] else '/' :: '/' :: authority) ++ t.path ++
    (t.query.map ('?' :: ·)).getD [] ++ (t.fragment.map ('#' :: ·)).getD []

/-- The name and the password in front of the host, if there are any. Escapes in
them that are no text count as replacement characters. -/
def credentials? (t : Target) : Option (List Char × List Char) :=
  let (name, password) := cut ':' t.user
  let read (cs : List Char) := Utf8.decodeLenient (unescape cs)
  if name.isEmpty && password.isEmpty then none else some (read name, read password)

/-- Why the host is no name, if it begins as one in punycode and is none. -/
def nameFault? (t : Target) : Option HostName.NameFault :=
  if HostName.punycodePrefix.isPrefixOf t.host then
    match HostName.ofAscii t.host with
    | .error f => some f
    | .ok _ => none
  else none

end Target

end WebPush.Url
