import WebPush.HostName.Label
/-!
# Host names — whole names

A name is a row of labels with dots between them, perhaps with one more
dot at the end. Besides the plain dot there are three in East Asian
writing. The ASCII form of a name has plain dots and the ASCII forms of
the labels; from it the name can be read again.
-/

namespace WebPush.HostName

/-- A dot of any kind. -/
def isDot (c : Char) : Bool := c = '.' || c = '。' || c = '．' || c = '｡'

/-- The most characters a name may have, a dot at its end included. -/
def maxNameLength : Nat := 254

/-- The labels of a name with plain dots, and whether a dot follows them. -/
def labelsOf (cs : List Char) : List (List Char) × Bool :=
  let parts := Text.splitAll '.' cs
  if parts.getLast? = some [] then (parts.dropLast, true) else (parts, false)

/-- The name that labels make up. -/
def joinLabels (labels : List (List Char)) (hasEnd : Bool) : List Char :=
  (labels.intersperse ['.']).flatten ++ (if hasEnd then ['.'] else [])

/-- The ASCII form of a name in small letters, if the text is a name. -/
def toAscii? (cs : List Char) : Option (List Char) :=
  if maxNameLength < cs.length then none
  else
    let (labels, hasEnd) := labelsOf (cs.map fun c => if isDot c then '.' else c)
    match labels.mapM labelToAscii? with
    | none | some [] => none
    | some forms =>
      let form := joinLabels forms hasEnd
      let most := if hasEnd then maxNameLength else maxNameLength - 1
      if form.length ≤ most then some form else none

/-- Why a text is the ASCII form of no name. -/
inductive NameFault where
  | tooLong
  | label (b : BadLabel)
deriving DecidableEq, Repr

/-- The wording of such a fault. -/
def NameFault.message : NameFault → String
  | .tooLong => "Domain too long"
  | .label b => b.message

/-- The name that an ASCII form stands for. -/
def ofAscii (form : List Char) : Except NameFault (List Char) :=
  if maxNameLength < form.length then .error .tooLong
  else
    let (forms, hasEnd) := labelsOf form
    match forms.mapM readAscii with
    | .error b => .error (.label b)
    | .ok labels => .ok (joinLabels labels hasEnd)

end WebPush.HostName
