import WebPush.Text.Split
/-!
# Files — paths

A path is a list of names, counted from the working directory or from
the root. Repeated slashes and single dots say nothing and are dropped;
double dots stay, since what they lead to depends on the files.
-/

namespace WebPush.Files

/-- A path. -/
structure Path where
  isAbsolute : Bool
  names : List (List Char)
deriving DecidableEq, Repr

namespace Path

/-- The path that a text writes. -/
def ofText (cs : List Char) : Path where
  isAbsolute := cs.head? = some '/'
  names := (Text.splitAll '/' cs).filter fun name => !name.isEmpty && name ≠ ['.']

/-- The path that a string writes. -/
def ofString (s : String) : Path := ofText s.toList

/-- The text of a path. -/
def toText (p : Path) : List Char :=
  let joined := (p.names.intersperse ['/']).flatten
  if p.isAbsolute then '/' :: joined
  else if joined.isEmpty then ['.'] else joined

/-- The text of a path, as a string. -/
def toString (p : Path) : String := String.ofList p.toText

/-- The path of the directory that something is in. -/
def parent (p : Path) : Path := { p with names := p.names.dropLast }

/-- The path with something added to its last name. -/
def addSuffix (p : Path) (suffix : List Char) : Path :=
  match p.names.getLast? with
  | none => p
  | some name => { p with names := p.names.dropLast ++ [name ++ suffix] }

end Path

end WebPush.Files
