import WebPush.Text.Split
/-!
# Url — addresses of hosts

An IPv4 address is four numbers below 256 without leading zeros. An IPv6
address is eight groups of up to four hexadecimal digits; a double colon
stands for one or more zero groups, an IPv4 address may take the place
of the last two, and a zone may follow behind a percent sign. In
brackets there may also be an address of a future version.
-/

namespace WebPush.Url

/-- A decimal digit. -/
def isDigit (c : Char) : Bool := '0' ≤ c && c ≤ '9'

/-- A hexadecimal digit. -/
def isHexDigit (c : Char) : Bool := isDigit c || ('a' ≤ c && c ≤ 'f') || ('A' ≤ c && c ≤ 'F')

/-- The number that decimal digits write. -/
def decimalValue (cs : List Char) : Nat :=
  cs.foldl (fun n c => n * 10 + (c.toNat - '0'.toNat)) 0

/-! ## IPv4 -/

/-- One of the four numbers of an IPv4 address. -/
def isOctet (cs : List Char) : Bool :=
  !cs.isEmpty && cs.all isDigit && cs.length ≤ 3 &&
    (cs.head? != some '0' || cs.length == 1) && decimalValue cs ≤ 255

/-- An IPv4 address. -/
def isIPv4 (cs : List Char) : Bool :=
  let parts := Text.splitAll '.' cs
  parts.length == 4 && parts.all isOctet

/-! ## IPv6 -/

/-- One group of an IPv6 address. -/
def isGroup (cs : List Char) : Bool := !cs.isEmpty && cs.all isHexDigit && cs.length ≤ 4

/-- The groups of an address, an IPv4 address at the end counted as two. -/
def expandTail (groups : List (List Char)) : Option (List (List Char)) :=
  match groups.getLast? with
  | some last =>
    if last.contains '.' then
      if isIPv4 last then some (groups.dropLast ++ [['0'], ['0']]) else none
    else some groups
  | none => some groups

/-- The groups on one side of a double colon; the colon at the very end of an
address leaves an empty one behind. -/
def besideGap (groups : List (List Char)) : List (List Char) :=
  if groups = [[]] then [] else groups

/-- The texts between the colons make up an address. -/
def areGroups (groups : List (List Char)) : Bool :=
  match groups with
  | first :: rest@(_ :: _) =>
    let inner := rest.dropLast
    let last := rest.getLastD []
    let before := inner.takeWhile (!·.isEmpty)
    match inner.drop before.length with
    | [] => groups.length == 8 && groups.all isGroup
    | _ :: after =>
      let written := besideGap (first :: before) ++ besideGap (after ++ [last])
      written.length ≤ 7 && written.all isGroup
  | _ => false

/-- The zone behind a percent sign, if there is one, is not empty and holds no other. -/
def hasGoodZone (cs : List Char) : Bool :=
  match Text.splitFirst? '%' cs with
  | none => true
  | some (_, zone) => !zone.isEmpty && !zone.contains '%'

/-- An IPv6 address. -/
def isIPv6 (cs : List Char) : Bool :=
  !cs.contains '/' && hasGoodZone cs &&
    match expandTail (Text.splitAll ':' (cs.takeWhile (· ≠ '%'))) with
    | none => false
    | some groups => areGroups groups

/-! ## Future versions -/

/-- An address of a future version: its number behind a `v`, a point, and anything. -/
def isFutureAddress (cs : List Char) : Bool :=
  match cs with
  | 'v' :: rest =>
    match Text.splitFirst? '.' rest with
    | some (version, address) => !version.isEmpty && version.all isHexDigit && !address.isEmpty
    | none => false
  | _ => false

end WebPush.Url
