import ViewLink.Json.Basic

/-!
# TOML documents as trees

A document is a tree of tables, and it is written piece by piece: a header names a table, a key with
dots names a table inside it, and each may bring the tables on its way into being. Which tables may
still be extended later depends on how they came to be, so every table remembers its origin:

* a table that a header passes through is implied, and a header of its own may still follow;
* a table that a dotted key leads through gets no header of its own any more;
* a table written out by its header is extended by no dotted key from outside;
* an inline table is complete where it ends.

## Main definitions

* `Node`, `Origin`, `Table` — the trees;
* `Table.descend` — a change at the end of a path;
* `Table.assign`, `Table.define`, `Table.addRow` — what a line of a document does;
* `Node.value?`, `Table.value?` — the tree as JSON.
-/

set_option autoImplicit false

namespace ViewLink.Toml

/-! ## Trees -/

/-- **How a table came to be.** -/
inductive Origin where
  /-- On the way of a header. -/
  | implied
  /-- On the way of a dotted key. -/
  | dotted
  /-- By its own header. -/
  | written
  /-- Between braces. -/
  | inlined
  deriving DecidableEq, Repr

/-- **A value of a document.** -/
inductive Node where
  /-- A string. -/
  | string (s : String)
  /-- An integer. -/
  | integer (n : Int)
  /-- A float. -/
  | float (x : Float)
  /-- A number that neither an integer nor a float can hold, as it is written. -/
  | numeral (text : String)
  /-- A truth value. -/
  | bool (b : Bool)
  /-- A date, a time or both. -/
  | moment (text : String)
  /-- An array between brackets. -/
  | array (items : List Node)
  /-- A table. -/
  | table (origin : Origin) (entries : List (String × Node))
  /-- An array of tables that is written row by row, each under a header. -/
  | rows (rows : List (List (String × Node)))

/-- **A table.** -/
structure Table where
  /-- How it came to be. -/
  origin : Origin
  /-- What it holds. -/
  entries : List (String × Node)

namespace Table

/-- A table with nothing in it. -/
def empty (origin : Origin) : Table := ⟨origin, []⟩

/-- The table as a node. -/
def node (t : Table) : Node := .table t.origin t.entries

/-- What the table holds under a key. -/
def find? (t : Table) (key : String) : Option Node := t.entries.lookup key

/-- Adds an entry, or replaces what is under its key. -/
def insert (t : Table) (key : String) (node : Node) : Table :=
  if (t.find? key).isSome then
    { t with entries := t.entries.map fun e => if e.1 = key then (key, node) else e }
  else { t with entries := t.entries ++ [(key, node)] }

/-! ## Changes -/

/-- Whether a header or, if `dotted`, a dotted key may pass through a table of this origin. -/
def passable (dotted : Bool) : Origin → Bool
  | .implied => true
  | .dotted => true
  | .written => !dotted
  | .inlined => false

/-- **Changes the table at the end of a path**, on the way of a dotted key or of a header. Tables
that are missing come into being, and a dotted key leaves its mark on those that are there; in an
array of tables the way leads through the last row. -/
def descend (dotted : Bool) (change : Table → Option Table) : List String → Table → Option Table
  | [], t => change t
  | key :: path, t =>
    match t.find? key with
    | none => do
      let child ← descend dotted change path (.empty (if dotted then .dotted else .implied))
      return t.insert key child.node
    | some (.table origin entries) =>
      if passable dotted origin then do
        let child ← descend dotted change path ⟨if dotted then .dotted else origin, entries⟩
        return t.insert key child.node
      else none
    | some (.rows rows) =>
      match rows.getLast? with
      | none => none
      | some row => do
        let child ← descend dotted change path ⟨.written, row⟩
        return t.insert key (.rows (rows.dropLast ++ [child.entries]))
    | some _ => none

/-- Adds an entry under a key that is still free. -/
def insertNew (t : Table) (key : String) (node : Node) : Option Table :=
  if (t.find? key).isSome then none else some (t.insert key node)

/-- **What a key with its value does**, given the last part of the key apart. The parts before it
lead to a table that has no header of its own and is no row. -/
def assign (t : Table) (path : List String) (key : String) (node : Node) : Option Table :=
  match path with
  | [] => t.insertNew key node
  | _ :: _ =>
    descend true (fun t => if t.origin = .dotted then t.insertNew key node else none) path t

/-- **What the header of a table does**: it writes out a table that is new or so far implied. -/
def define (t : Table) (path : List String) (key : String) : Option Table :=
  descend false
    (fun t => match t.find? key with
      | none => some (t.insert key (.table .written []))
      | some (.table .implied entries) => some (t.insert key (.table .written entries))
      | some _ => none)
    path t

/-- **What the header of a row does**: it adds a row to an array of tables, or starts one. -/
def addRow (t : Table) (path : List String) (key : String) : Option Table :=
  descend false
    (fun t => match t.find? key with
      | none => some (t.insert key (.rows [[]]))
      | some (.rows rows) => some (t.insert key (.rows (rows ++ [[]])))
      | some _ => none)
    path t

end Table

/-! ## As JSON -/

/-- The only member of the object that stands for a date or a time. -/
def momentKey : String := "$moment"

mutual

/-- **A node as JSON**, if every number in it can be held. An integer beyond the integers of JSON
has no form there and becomes `null`, and a date or a time becomes an object of one member. -/
def Node.value? : Node → Option Json.Value
  | .string s => some (.string s)
  | .integer n => some ((Json.Value.ofInt? n).getD .null)
  | .float x => some (.ofFloat x)
  | .numeral _ => none
  | .bool b => some (.bool b)
  | .moment text => some (.ofPairs [(momentKey, .string text)])
  | .array items => (values? items).map .array
  | .table _ entries => (members? entries).map .ofPairs
  | .rows rows => (objects? rows).map .array

/-- The items of an array as JSON. -/
def values? : List Node → Option (List Json.Value)
  | [] => some []
  | node :: nodes => do
    let value ← node.value?
    let values ← values? nodes
    return value :: values

/-- The entries of a table as JSON. -/
def members? : List (String × Node) → Option (List (String × Json.Value))
  | [] => some []
  | (key, node) :: entries => do
    let value ← node.value?
    let members ← members? entries
    return (key, value) :: members

/-- The rows of an array of tables as JSON. -/
def objects? : List (List (String × Node)) → Option (List Json.Value)
  | [] => some []
  | row :: rows => do
    let members ← members? row
    let objects ← objects? rows
    return .ofPairs members :: objects

end

/-- A table as JSON, if every number in it can be held. -/
def Table.value? (t : Table) : Option Json.Value := (members? t.entries).map .ofPairs

end ViewLink.Toml
