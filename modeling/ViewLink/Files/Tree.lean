import ViewLink.Files.Path
import ViewLink.Text.Utf8

/-!
# Files

What the rest of the library asks of files is little: whether a path names a regular file, and the
text in it. A `Disk` is anything that answers these two questions.

`Tree` is the disk of a working directory with files and directories in it. A path is walked piece
by piece, and every piece but the last has to lead to a directory; a slash at the end asks the same
of the last. Above the working directory lies nothing but directories.

## Main definitions

* `Fault` — why a file cannot be read, `Disk`;
* `Tree`, `Tree.walk`, `Tree.disk` — a working directory;
* `Tree.write`, `Tree.makeDirectory`, `Tree.remove` — how it changes.
-/

set_option autoImplicit false

namespace ViewLink.Files

/-! ## Disks -/

/-- **Why a file cannot be read.** -/
inductive Fault where
  /-- There is nothing under the path. -/
  | notFound
  /-- The path leads through something that is no directory. -/
  | notADirectory
  /-- The path names a directory. -/
  | isADirectory
  /-- The file is not UTF-8. -/
  | notText
  /-- The path or a name in it is longer than a file system takes. -/
  | tooLong
  /-- The path holds a character that no path can hold. -/
  | notAPath
  deriving DecidableEq, Repr

/-- **What can be asked of files.** -/
structure Disk where
  /-- Whether a path names a regular file. -/
  isFile : Path → Bool
  /-- The text of the file under a path. -/
  readText : Path → Except Fault String

/-! ## The working directory -/

/-- What a directory holds under a name. -/
inductive Entry where
  /-- A directory. -/
  | directory
  /-- A file with this content. -/
  | file (content : Bytes)
  deriving DecidableEq, Repr

/-- **A working directory**: what lies under each list of names. -/
structure Tree where
  /-- The entries by their names, from the working directory down. -/
  entries : List (List String × Entry)

/-- **Where a walk stands.** -/
inductive Place where
  /-- Under the working directory, after these names. -/
  | inside (names : List String)
  /-- Above the working directory. -/
  | outside
  deriving DecidableEq, Repr

namespace Tree

/-- A working directory with nothing in it. -/
def empty : Tree := ⟨[]⟩

/-- What lies at a place. -/
def entry? (t : Tree) : Place → Option Entry
  | .outside => some .directory
  | .inside [] => some .directory
  | .inside names => t.entries.lookup names

/-- The place one step further, unless nothing is known of it. -/
def next? (place : Place) (piece : List Char) : Option Place :=
  if piece = [] || piece = ['.'] then some place
  else if piece = ['.', '.'] then
    match place with
    | .inside (name :: names) => some (.inside (name :: names).dropLast)
    | _ => some .outside
  else
    match place with
    | .inside names => some (.inside (names ++ [String.ofList piece]))
    | .outside => none

/-- The most octets that a name may have. -/
def maxName : Nat := 255

/-- The least number of octets that a path may not have. -/
def pathLimit : Nat := 4096

/-- **Walks the pieces of a path** from a place, which has to be a directory as long as there is
another piece. -/
def walk (t : Tree) : Place → Entry → List (List Char) → Except Fault Entry
  | _, found, [] => .ok found
  | _, .file _, _ :: _ => .error .notADirectory
  | place, .directory, piece :: pieces =>
    if maxName < (Text.utf8 piece).length then .error .tooLong
    else match next? place piece with
      | none => .error .notFound
      | some place =>
        match t.entry? place with
        | none => .error .notFound
        | some found => t.walk place found pieces

/-- What a path leads to. -/
def find (t : Tree) (p : Path) : Except Fault Entry :=
  if p.text.toList.contains '\x00' then .error .notAPath
  else if p.text = "" then .error .notFound
  else if pathLimit ≤ (Text.bytes p.text).length then .error .tooLong
  else t.walk (if p.isAbsolute then .outside else .inside []) .directory p.pieces

/-- Whether a path leads to a file. -/
def isFile (t : Tree) (p : Path) : Bool :=
  match t.find p with
  | .ok (.file _) => true
  | _ => false

/-- The text of the file that a path leads to. -/
def readText (t : Tree) (p : Path) : Except Fault String :=
  match t.find p with
  | .error fault => .error fault
  | .ok .directory => .error .isADirectory
  | .ok (.file content) =>
    match Text.ofUtf8? content with
    | none => .error .notText
    | some text => .ok text

/-- The working directory as a disk. -/
def disk (t : Tree) : Disk := ⟨t.isFile, t.readText⟩

/-! ## Changes -/

/-- The names on the way to a path, dots left out. -/
def names (p : Path) : List String :=
  p.components.filterMap fun
    | .name name => some name
    | _ => none

/-- Puts an entry in the place of what lies under these names. -/
def put (t : Tree) (names : List String) (entry : Entry) : Tree :=
  ⟨(names, entry) :: t.entries.filter (·.1 ≠ names)⟩

/-- Makes the directories on the way to these names. -/
def makeParents (t : Tree) (names : List String) : Tree :=
  (List.range names.length).foldl
    (fun t n => if (t.entry? (.inside (names.take n))).isSome then t
      else t.put (names.take n) .directory) t

/-- **Writes a file** and makes the directories on the way. -/
def write (t : Tree) (p : Path) (content : Bytes) : Tree :=
  (t.makeParents (names p)).put (names p) (.file content)

/-- Makes a directory and the directories on the way. -/
def makeDirectory (t : Tree) (p : Path) : Tree :=
  (t.makeParents (names p)).put (names p) .directory

/-- Removes a file. -/
def remove (t : Tree) (p : Path) : Tree := ⟨t.entries.filter (·.1 ≠ names p)⟩

end Tree

end ViewLink.Files
