import ViewLink.Json.Reader

/-!
# Numbered lists

Both directions of the wire carry the same shape: a two-element array of a sequence number and a
list of values. This module reads that shape. `readPair` goes through the bytes once, asks for the
types as it meets them, and reports the first problem; what comes after a value of the wrong type
is not looked at. `Value.asPair?` takes the same shape from a value that has been read already.

The two kinds of message differ in their second element alone, so `readPair` is given the reader
for it: `readList` accepts a list, `readListOrNull` accepts `null` as an empty list too.

## Main definitions

* `mistypedFault` — the fault of a value of the wrong type;
* `readSequence`, `readList`, `readListOrNull` — the elements;
* `readPair` — the whole text, `Value.asPair?` — the same from a value.
-/

set_option autoImplicit false

namespace ViewLink.Wire

open Json

/-! ## Values of the wrong type -/

/-- **The fault of a value that has the wrong type.** A scalar is read to its end first, and it may
turn out not to be JSON; an array or an object is of the wrong type at its bracket. -/
def mistypedFault (bs : Bytes) : Fault :=
  match bs with
  | Ascii.openBracket :: _ => .mistyped
  | Ascii.openBrace :: _ => .mistyped
  | _ =>
    match readScalar bs with
    | .ok _ => .mistyped
    | .error fault => fault

/-! ## The elements -/

/-- A sequence number: an unsigned number. -/
def readSequence : Reader UInt64 := fun bs =>
  match skipBlank bs with
  | [] => .error .ended
  | b :: rest =>
    if b = Ascii.minus || Ascii.isDigit b then do
      match ← readNumber (b :: rest) with
      | (.unsigned n, rest) => return (n, rest)
      | _ => .error .mistyped
    else .error (mistypedFault (b :: rest))

/-- The nesting left for the values of the list: the pair and the list take two. -/
def valueNesting : Nat := maxNesting - 2

/-- A list of values. -/
def readList : Reader (List Value) := fun bs =>
  match skipBlank bs with
  | [] => .error .ended
  | Ascii.openBracket :: rest => readItems (readValue valueNesting) rest
  | rest => .error (mistypedFault rest)

/-- A list of values, or `null` for the empty one. -/
def readListOrNull : Reader (List Value) := fun bs =>
  match skipBlank bs with
  | 0x6E :: rest => do return ([], ← readWord [0x75, 0x6C, 0x6C] rest)
  | rest => readList rest

/-! ## The pair -/

/-- The end of the pair and of the text. Nothing but blanks may follow the closing bracket. -/
def readEnd (bs : Bytes) : Except Fault Unit :=
  match skipBlank bs with
  | [] => .error .ended
  | Ascii.closeBracket :: rest =>
    match skipBlank rest with
    | [] => .ok ()
    | _ => .error .malformed
  | _ => .error .malformed

/-- **A sequence number and a list**, as a whole text. -/
def readPair (list : Reader (List Value)) (bs : Bytes) : Except Fault (UInt64 × List Value) :=
  match skipBlank bs with
  | [] => .error .ended
  | Ascii.openBracket :: rest =>
    match skipBlank rest with
    | [] => .error .ended
    | Ascii.closeBracket :: _ => .error .mistyped
    | _ => do
      let (sequence, rest) ← readSequence rest
      match skipBlank rest with
      | [] => .error .ended
      | Ascii.closeBracket :: _ => .error .mistyped
      | Ascii.comma :: rest =>
        match skipBlank rest with
        | [] => .error .ended
        | Ascii.closeBracket :: _ => .error .malformed
        | _ => do
          let (values, rest) ← list rest
          readEnd rest
          return (sequence, values)
      | _ => .error .malformed
  | rest => .error (mistypedFault rest)

/-- **A sequence number and a list**, as a value. -/
def asPair? : Value → Option (UInt64 × List Value)
  | .array [.number (.unsigned sequence), .array values] => some (sequence, values)
  | _ => none

/-! ## Writing -/

/-- The value of a sequence number and a list. -/
def ofPair (sequence : UInt64) (values : List Value) : Value :=
  .array [.number (.unsigned sequence), .array values]

end ViewLink.Wire
