/-!
# Paths

A path is a text in which slashes separate names. It is kept and shown as it was written; nothing is
normalised. What it means is read off its components: empty pieces and dots in the middle mean
nothing, so two texts may name the same way through the directories, and `Path.same` compares paths
by that.

## Main definitions

* `Path.join` — a name inside a directory;
* `Path.components`, `Path.same` — what a path means;
* `Path.fileName?` — the name that a path ends in.
-/

set_option autoImplicit false

namespace ViewLink.Files

/-- **A path as it is written.** -/
structure Path where
  /-- The text. -/
  text : String
  deriving DecidableEq, Repr, Inhabited

/-- **A step of the way that a path describes.** -/
inductive Component where
  /-- The root of all directories. -/
  | root
  /-- The directory where the way starts. -/
  | here
  /-- The directory above. -/
  | parent
  /-- A directory or file of this name. -/
  | name (name : String)
  deriving DecidableEq, Repr

namespace Path

/-- The pieces of a text between its slashes, of which there is one more than slashes. -/
def splitSlashes : List Char → List (List Char)
  | [] => [[]]
  | c :: cs =>
    if c = '/' then [] :: splitSlashes cs
    else match splitSlashes cs with
      | [] => [[c]]
      | piece :: pieces => (c :: piece) :: pieces

/-- The pieces of the path between its slashes. -/
def pieces (p : Path) : List (List Char) := splitSlashes p.text.toList

/-- Whether the path starts at the root. -/
def isAbsolute (p : Path) : Bool := p.text.toList.head? = some '/'

/-- **The path of a name inside a directory.** An absolute name is a path of its own; otherwise a
slash comes between the two unless the directory is empty or ends in one. -/
def join (directory : Path) (name : String) : Path :=
  if name.toList.head? = some '/' then ⟨name⟩
  else if directory.text.toList.getLast?.all (· = '/') then ⟨directory.text ++ name⟩
  else ⟨directory.text ++ "/" ++ name⟩

/-! ## Meaning -/

/-- The step that a piece describes, unless it is empty or a dot. -/
def stepOf (piece : List Char) : Option Component :=
  if piece = [] || piece = ['.'] then none
  else if piece = ['.', '.'] then some .parent
  else some (.name (String.ofList piece))

/-- **The steps of the way.** A dot counts only where the way starts. -/
def components (p : Path) : List Component :=
  let start :=
    if p.isAbsolute then [.root]
    else if p.pieces.head? = some ['.'] then [.here]
    else []
  start ++ p.pieces.filterMap stepOf

/-- Whether two paths describe the same way. -/
def same (p q : Path) : Bool := p.components = q.components

/-- The name that the path ends in, unless it ends in another kind of step. -/
def fileName? (p : Path) : Option String :=
  match p.components.getLast? with
  | some (.name name) => some name
  | _ => none

end Path

end ViewLink.Files
