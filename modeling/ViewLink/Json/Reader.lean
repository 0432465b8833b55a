import ViewLink.Json.Scan

/-!
# Reading JSON text

The reader of values is defined by recursion on the nesting it still allows: a value that may nest
`n + 1` deep is a scalar, or an array or object of values that may nest `n` deep. At nesting zero
the opening bracket itself is refused. A text may nest `maxNesting` arrays and objects.

The elements of an array are read one after the other, each followed by a comma or by the closing
bracket. Since each takes a byte at least, the number of bytes bounds the number of rounds, and it
is what the loops over elements recurse on.

## Main definitions

* `readValue` — a value of limited nesting, and the bytes after it;
* `Value.read` — a whole text.
-/

set_option autoImplicit false

namespace ViewLink.Json

/-! ## Arrays -/

/-- The items after the first one, up to the closing bracket, in at most this many rounds. -/
def readMoreItems (item : Reader Value) : Nat → Reader (List Value)
  | 0, _ => .error .ended
  | rounds + 1, bs =>
    match skipBlank bs with
    | [] => .error .ended
    | Ascii.closeBracket :: rest => .ok ([], rest)
    | Ascii.comma :: rest =>
      match skipBlank rest with
      | [] => .error .ended
      | Ascii.closeBracket :: _ => .error .malformed
      | _ => do
        let (v, rest) ← item rest
        let (vs, rest) ← readMoreItems item rounds rest
        return (v :: vs, rest)
    | _ => .error .malformed

/-- **The items of an array**, after its opening bracket and up to its closing one. -/
def readItems (item : Reader Value) : Reader (List Value) := fun bs =>
  match skipBlank bs with
  | [] => .error .ended
  | Ascii.closeBracket :: rest => .ok ([], rest)
  | _ => do
    let (v, rest) ← item bs
    let (vs, rest) ← readMoreItems item (rest.length + 1) rest
    return (v :: vs, rest)

/-! ## Objects -/

/-- One member, after the quotation mark that opens its key. -/
def readMember (item : Reader Value) : Reader (String × Value) := fun bs => do
  let (key, rest) ← readString bs
  match skipBlank rest with
  | [] => .error .ended
  | Ascii.colon :: rest => do
    let (v, rest) ← item rest
    return ((key, v), rest)
  | _ => .error .malformed

/-- The members after the first one, up to the closing brace, in at most this many rounds. -/
def readMoreMembers (item : Reader Value) : Nat → Reader (List (String × Value))
  | 0, _ => .error .ended
  | rounds + 1, bs =>
    match skipBlank bs with
    | [] => .error .ended
    | Ascii.closeBrace :: rest => .ok ([], rest)
    | Ascii.comma :: rest =>
      match skipBlank rest with
      | [] => .error .ended
      | Ascii.quote :: rest => do
        let (m, rest) ← readMember item rest
        let (ms, rest) ← readMoreMembers item rounds rest
        return (m :: ms, rest)
      | _ => .error .malformed
    | _ => .error .malformed

/-- **The members of an object**, after its opening brace and up to its closing one, in the order
of the text. -/
def readMembers (item : Reader Value) : Reader (List (String × Value)) := fun bs =>
  match skipBlank bs with
  | [] => .error .ended
  | Ascii.closeBrace :: rest => .ok ([], rest)
  | Ascii.quote :: rest => do
    let (m, rest) ← readMember item rest
    let (ms, rest) ← readMoreMembers item (rest.length + 1) rest
    return (m :: ms, rest)
  | _ => .error .malformed

/-! ## Values -/

/-- A scalar, from its first byte on. -/
def readScalar : Reader Value
  | [] => .error .ended
  | b :: bs =>
    if b = 0x6E then do return (.null, ← readWord [0x75, 0x6C, 0x6C] bs)
    else if b = 0x74 then do return (.bool true, ← readWord [0x72, 0x75, 0x65] bs)
    else if b = 0x66 then do return (.bool false, ← readWord [0x61, 0x6C, 0x73, 0x65] bs)
    else if b = Ascii.quote then do
      let (s, rest) ← readString bs
      return (.string s, rest)
    else if b = Ascii.minus || Ascii.isDigit b then do
      let (n, rest) ← readNumber (b :: bs)
      return (.number n, rest)
    else .error .malformed

/-- **A value that nests at most so many arrays and objects**, after any blanks. -/
def readValue : Nat → Reader Value
  | 0, bs =>
    match skipBlank bs with
    | Ascii.openBracket :: _ => .error .malformed
    | Ascii.openBrace :: _ => .error .malformed
    | rest => readScalar rest
  | nesting + 1, bs =>
    match skipBlank bs with
    | Ascii.openBracket :: rest => do
      let (vs, rest) ← readItems (readValue nesting) rest
      return (.array vs, rest)
    | Ascii.openBrace :: rest => do
      let (ms, rest) ← readMembers (readValue nesting) rest
      return (.ofPairs ms, rest)
    | rest => readScalar rest

/-- The most arrays and objects that a text may nest. -/
def maxNesting : Nat := 127

/-- **The value of a whole text**, which may have blanks around it. -/
def Value.read (bs : Bytes) : Except Fault Value := do
  let (v, rest) ← readValue maxNesting bs
  match skipBlank rest with
  | [] => return v
  | _ => .error .malformed

/-- The value of a string that holds JSON. -/
def Value.ofText? (s : String) : Option Value := (Value.read (Text.bytes s)).toOption

end ViewLink.Json
