import WebPush.Bytes
import WebPush.Files.Path
import WebPush.Text.Quoted
/-!
# Files — a directory and all below it

The tree is what the library needs of a file system: files with their
octets, and folders. A place is a list of names from the working
directory down, without dots. Walking a path passes through folders
only, and every fault names the path as it was given.
-/

namespace WebPush.Files

/-- Why an operation on files failed. -/
inductive FileErrorKind where
  | missing
  | exists
  | notFolder
  | isFolder
deriving DecidableEq, Repr

/-- A failure, and the path it is about. -/
structure FileError where
  kind : FileErrorKind
  path : String
deriving DecidableEq, Repr

/-- The wording of a failure. -/
def FileError.message (e : FileError) : String :=
  let what :=
    match e.kind with
    | .missing => "[Errno 2] No such file or directory: "
    | .exists => "[Errno 17] File exists: "
    | .notFolder => "[Errno 20] Not a directory: "
    | .isFolder => "[Errno 21] Is a directory: "
  what ++ Text.quotedString e.path

/-- A place in the tree. -/
abbrev Place := List (List Char)

/-- Files with their octets, and the folders below the working directory. -/
structure Tree where
  files : List (Place × Bytes) := []
  folders : List Place := []
deriving DecidableEq, Repr

namespace Tree

/-! ## Looking -/

/-- The place is a folder. -/
def isFolderAt (t : Tree) (place : Place) : Bool := place.isEmpty || t.folders.contains place

/-- The octets of the file at a place. -/
def fileAt? (t : Tree) (place : Place) : Option Bytes := t.files.lookup place

/-- The place that names lead to from a folder, all but the last being folders themselves. -/
def walk (t : Tree) : (here : Place) → List (List Char) → Except FileErrorKind Place
  | here, [] => .ok here
  | here, name :: rest =>
    if (t.fileAt? here).isSome then .error .notFolder
    else if !t.isFolderAt here then .error .missing
    else if name = ['.', '.'] then walk t here.dropLast rest
    else walk t (here ++ [name]) rest

/-- The place that a path leads to. The tree is all there is, so a path from the
root begins where the others do. -/
def locate (t : Tree) (p : Path) : Except FileError Place :=
  (t.walk [] p.names).mapError fun kind => ⟨kind, p.toString⟩

/-- The octets of a file. -/
def read (t : Tree) (p : Path) : Except FileError Bytes := do
  let place ← t.locate p
  match t.fileAt? place with
  | some content => .ok content
  | none => .error ⟨if t.isFolderAt place then .isFolder else .missing, p.toString⟩

/-- The path leads to a folder. -/
def isFolder (t : Tree) (p : Path) : Bool := (t.locate p).toOption.any t.isFolderAt

/-- The paths of all files. -/
def paths (t : Tree) : List String :=
  t.files.map fun (place, _) => Path.toString ⟨false, place⟩

/-! ## Changing -/

/-- The files with the content of one place set. -/
def putFile (files : List (Place × Bytes)) (place : Place) (content : Bytes) :
    List (Place × Bytes) :=
  match files with
  | [] => [(place, content)]
  | (p, c) :: rest =>
    if p = place then (place, content) :: rest else (p, c) :: putFile rest place content

/-- A file with the content that a function makes of the old one; a new file
begins empty. -/
def modify (t : Tree) (p : Path) (change : Bytes → Bytes) : Except FileError Tree := do
  let place ← t.locate p
  if t.isFolderAt place then .error ⟨.isFolder, p.toString⟩
  else if !t.isFolderAt place.dropLast then .error ⟨.missing, p.toString⟩
  else .ok { t with files := putFile t.files place (change ((t.fileAt? place).getD [])) }

/-- A file with a given content. -/
def write (t : Tree) (p : Path) (content : Bytes) : Except FileError Tree :=
  t.modify p fun _ => content

/-- A file with more at its end. -/
def append (t : Tree) (p : Path) (content : Bytes) : Except FileError Tree :=
  t.modify p fun old => old ++ content

/-- The file of one path under another; what was there is gone. Nothing
happens if there is no such file. -/
def rename (t : Tree) (source destination : Path) : Tree :=
  match t.locate source, t.locate destination with
  | .ok old, .ok new =>
    match t.fileAt? old with
    | none => t
    | some content =>
      { t with files := putFile (t.files.filter fun (place, _) => place ≠ old) new content }
  | _, _ => t

/-- One more folder, in a folder that exists. -/
def makeFolder (t : Tree) (p : Path) : Except FileError Tree := do
  let place ← t.locate p
  if t.isFolderAt place || (t.fileAt? place).isSome then .error ⟨.exists, p.toString⟩
  else if !t.isFolderAt place.dropLast then .error ⟨.missing, p.toString⟩
  else .ok { t with folders := t.folders ++ [place] }

/-- A folder, unless it is there already. -/
def ensureFolder (t : Tree) (p : Path) : Except FileError Tree :=
  match t.makeFolder p with
  | .ok t => .ok t
  | .error e => if t.isFolder p then .ok t else .error e

/-- A folder and all folders above it. `depth` bounds the folders that may be
missing on the way. Those that were made stay, whatever becomes of the rest. -/
def makeFoldersWithin (t : Tree) (p : Path) : (depth : Nat) → Except FileError Unit × Tree
  | 0 => (.error ⟨.missing, p.toString⟩, t)
  | depth + 1 =>
    match t.ensureFolder p with
    | .ok t => (.ok (), t)
    | .error e =>
      if e.kind = .missing then
        match makeFoldersWithin t p.parent depth with
        | (.error e, t) => (.error e, t)
        | (.ok (), t) =>
          match t.ensureFolder p with
          | .ok t => (.ok (), t)
          | .error e => (.error e, t)
      else (.error e, t)

/-- A folder and all folders above it, as far as they are missing. -/
def makeFolders (t : Tree) (p : Path) : Except FileError Unit × Tree :=
  t.makeFoldersWithin p (p.names.length + 1)

end Tree

end WebPush.Files
