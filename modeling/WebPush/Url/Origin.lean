import WebPush.Url.Authority
/-!
# Url — the origin of an address

The origin is scheme, host and port in normal form: small letters,
brackets around a host with colons, and no port where it is the usual
one of the scheme. User information, path, query and fragment are gone.
-/

namespace WebPush.Url

/-- The port that a scheme uses if none is given. -/
def defaultPort? (scheme : List Char) : Option Nat :=
  if scheme = "https".toList then some 443
  else if scheme = "http".toList then some 80
  else none

/-- A host as it stands in a URL. -/
def showHost (host : List Char) : List Char :=
  if host.contains ':' then '[' :: host ++ [']'] else host

/-- A port as it stands in a URL of a scheme. -/
def showPort (scheme : List Char) (port : Option Nat) : List Char :=
  match port with
  | none => []
  | some n => if defaultPort? scheme = some n then [] else ':' :: (toString n).toList

/-- The origin of a URL. -/
def originChars (cs : List Char) : Except Fault (List Char) := do
  let parts ← Parts.ofText cs
  let port ← parts.port
  return parts.scheme ++ "://".toList ++ showHost parts.host ++ showPort parts.scheme port

/-- The origin of a URL, as a string. -/
def origin (url : String) : Except Fault String := (originChars url.toList).map String.ofList

end WebPush.Url
