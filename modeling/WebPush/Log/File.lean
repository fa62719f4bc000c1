import WebPush.Files.Tree
import WebPush.Log.Record
import WebPush.Text.Utf8
/-!
# Log — lines, and the file they go to

A record becomes one line with the time in front. A log file that would
reach its limit with the next line is put aside first: the file becomes
backup one, backup one becomes backup two, and the oldest backup goes.
With no backups to keep, the file just grows.
-/

namespace WebPush.Log

/-- The line of a record. -/
def Record.line (r : Record) (time : String) : String :=
  time ++ " - " ++ r.source ++ " - " ++ r.level.name ++ " - " ++ r.message ++ "\n"

/-- A log file: where it is, the size it must stay below, and the backups to keep. -/
structure File where
  path : Files.Path
  maxBytes : Nat
  backupCount : Nat
deriving DecidableEq, Repr

namespace File

/-- The path of a backup. -/
def backup (f : File) (number : Nat) : Files.Path :=
  f.path.addSuffix ('.' :: (toString number).toList)

/-- Each backup below a number takes the place of the next older one, the
oldest first. -/
def shiftBackups (f : File) : (number : Nat) → Files.Tree → Files.Tree
  | 0, tree => tree
  | number + 1, tree =>
    if number = 0 then tree.rename f.path (f.backup 1)
    else shiftBackups f number (tree.rename (f.backup number) (f.backup (number + 1)))

/-- The file put aside, and an empty one in its place. -/
def rollOver (f : File) (tree : Files.Tree) : Files.Tree :=
  if f.backupCount = 0 then tree
  else
    let shifted := f.shiftBackups f.backupCount tree
    (shifted.append f.path []).toOption.getD shifted

/-- The file would reach its limit with one more line. The size of the file
counts in octets, the line in characters. -/
def isFull (f : File) (tree : Files.Tree) (line : String) : Bool :=
  let size := ((tree.read f.path).toOption.getD []).length
  0 < f.maxBytes && f.maxBytes ≤ size + line.length

/-- One more line in the file. -/
def write (f : File) (tree : Files.Tree) (line : String) : Files.Tree :=
  let tree := if f.isFull tree line then f.rollOver tree else tree
  (tree.append f.path (Utf8.encode line)).toOption.getD tree

end File

end WebPush.Log
