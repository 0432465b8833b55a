import ViewLink.Toml.Scalar
import ViewLink.Toml.Scan

/-!
# Reading TOML text

Values are read by recursion on the nesting they still may have, as arrays and inline tables nest.
A document is a sequence of lines, each of which is empty, the header of a table, or a key with its
value; it changes the tree read so far. A line under a header speaks of the table that the header
names, so its key starts there.

Every part of a document takes a character at least, so the number of characters bounds the number
of rounds of a loop.

## Main definitions

* `readValue` — a value of limited nesting;
* `Line`, `readLine` — a line of a document;
* `Table.read` — a whole document.
-/

set_option autoImplicit false

namespace ViewLink.Toml

/-! ## Values -/

/-- The items of an array up to the closing bracket, in at most this many rounds. A comma may follow
the last item. -/
def readItems (item : Reader Node) : Nat → Reader (List Node)
  | 0, _ => none
  | rounds + 1, cs =>
    match skipFiller false cs with
    | ']' :: rest => some ([], rest)
    | cs => do
      let (node, rest) ← item cs
      match skipFiller false rest with
      | ']' :: rest => return ([node], rest)
      | ',' :: rest => do
        let (nodes, rest) ← readItems item rounds rest
        return (node :: nodes, rest)
      | _ => none

/-- A key and its value, given what to skip around the equals sign. -/
def readPair (skip : List Char → List Char) (item : Reader Node) :
    Reader ((List String × String) × Node) := fun cs => do
  let (key, rest) ← readKey cs
  match skip rest with
  | '=' :: rest => do
    let (node, rest) ← item (skip rest)
    return ((key, node), rest)
  | _ => none

/-- The entries of an inline table up to the closing brace, in at most this many rounds, added to
the table so far. A comma may follow the last entry. Between its parts, keys apart, an inline table
may have comments and line ends. -/
def readEntries (item : Reader Node) : Nat → Table → Reader Table
  | 0, _, _ => none
  | rounds + 1, t, cs =>
    match skipFiller false cs with
    | '\x7d' :: rest => some (t, rest)
    | cs => do
      let (((path, key), node), rest) ← readPair (skipFiller false) item cs
      let t ← t.assign path key node
      match skipFiller false rest with
      | '\x7d' :: rest => return (t, rest)
      | ',' :: rest => readEntries item rounds t rest
      | _ => none

/-- A word as a value. -/
def readScalar : Reader Node := fun cs => do
  let (word, rest) := spanWord cs
  let node ← scalar? word
  return (node, rest)

/-- **A value that nests at most so many arrays and inline tables.** -/
def readValue : Nat → Reader Node
  | nesting, cs =>
    match cs with
    | '"' :: _ => (readString cs).map fun (s, rest) => (.string s, rest)
    | '\'' :: _ => (readString cs).map fun (s, rest) => (.string s, rest)
    | '[' :: rest =>
      match nesting with
      | 0 => none
      | nesting + 1 => do
        let (nodes, rest) ← readItems (readValue nesting) (rest.length + 1) rest
        return (.array nodes, rest)
    | '\x7b' :: rest =>
      match nesting with
      | 0 => none
      | nesting + 1 => do
        let (t, rest) ← readEntries (readValue nesting) (rest.length + 1) (.empty .written) rest
        return (.table .inlined t.entries, rest)
    | _ => readScalar cs

/-- The most arrays and inline tables that a value may nest. -/
def maxNesting : Nat := 80

/-! ## Lines -/

/-- **A line of a document.** -/
inductive Line where
  /-- A blank line or a comment. -/
  | empty
  /-- The header of a table. -/
  | table (path : List String) (key : String)
  /-- The header of a row of an array of tables. -/
  | row (path : List String) (key : String)
  /-- A key and its value. -/
  | entry (path : List String) (key : String) (node : Node)

/-- A line without its end. -/
def readLine : Reader Line := fun cs =>
  match skipBlank cs with
  | '[' :: '[' :: rest => do
    let ((path, key), rest) ← readKey rest
    match rest with
    | ']' :: ']' :: rest => return (.row path key, rest)
    | _ => none
  | '[' :: rest => do
    let ((path, key), rest) ← readKey rest
    match rest with
    | ']' :: rest => return (.table path key, rest)
    | _ => none
  | rest =>
    match readLineEnd rest with
    | some _ => some (.empty, rest)
    | none => do
      let (((path, key), node), rest) ← readPair skipBlank (readValue maxNesting) rest
      return (.entry path key node, rest)

/-- **What a line does** to the tree, under the header with this path: the tree after it, and the
header that it is followed by. -/
def Line.apply (header : List String) (t : Table) : Line → Option (List String × Table)
  | .empty => some (header, t)
  | .table path key => (t.define path key).map (path ++ [key], ·)
  | .row path key => (t.addRow path key).map (path ++ [key], ·)
  | .entry path key node =>
    (t.descend false (·.assign path key node) header).map (header, ·)

/-! ## Documents -/

/-- The lines of a document, applied to the tree so far, in at most this many rounds. -/
def readLines : Nat → List String → Table → List Char → Option Table
  | 0, _, _, _ => none
  | _ + 1, _, t, [] => some t
  | rounds + 1, header, t, cs => do
    let (line, rest) ← readLine cs
    let (header, t) ← line.apply header t
    let rest ← readLineEnd rest
    readLines rounds header t rest

/-- **The tree of a document.** A byte order mark may stand in front of it. -/
def Table.read (text : String) : Option Table :=
  let cs := match text.toList with
    | '\ufeff' :: cs => cs
    | cs => cs
  readLines (cs.length + 1) [] (.empty .written) cs

end ViewLink.Toml
