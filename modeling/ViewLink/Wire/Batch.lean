import ViewLink.Command.Validate
import ViewLink.Wire.Pair

/-!
# Batches and results

Commands travel to the front end in numbered batches, `[sequence, commands]`, and for each batch
its results come back as `[sequence, results]`, the `i`-th result being the value of the `i`-th
command. A batch that a dispatcher sends has been validated; one that is read from the wire holds
whatever the line held.

## Main definitions

* `Batch`, `Batch.text`, `Batch.read`, `Batch.ofValue` — batches and their text;
* `Results`, `Results.text`, `Results.parse` — results and their lines;
* `PayloadError` — why a line holds no results.
-/

set_option autoImplicit false

namespace ViewLink

open Json (Value Fault)

/-! ## Batches -/

/-- **A numbered batch of commands.** -/
structure Batch where
  /-- The number under which results come back. -/
  sequence : UInt64
  /-- The commands, in the order in which they are sent. -/
  commands : List Value

namespace Batch

/-- The batch as JSON. -/
def value (b : Batch) : Value := Wire.ofPair b.sequence b.commands

/-- **The text of a batch**, one line without its end. -/
def text (b : Batch) : String := b.value.text

/-- The octets of the text. -/
def bytes (b : Batch) : Bytes := Text.bytes b.text

/-- **The batch that a text holds.** -/
def read (bs : Bytes) : Except Fault Batch := do
  let (sequence, commands) ← Wire.readPair Wire.readList bs
  return ⟨sequence, commands⟩

/-- The batch that a value holds. -/
def ofValue (v : Value) : Except Fault Batch :=
  match Wire.asPair? v with
  | some (sequence, commands) => .ok ⟨sequence, commands⟩
  | none => .error .mistyped

/-- Validates the commands of the batch at the top level. -/
def check (b : Batch) : Except Command.Violation (List Value) :=
  Command.checkAll true (b.commands.map .json)

end Batch

/-! ## Results -/

/-- **The results of one batch.** -/
structure Results where
  /-- The number of the batch. -/
  sequence : UInt64
  /-- The values of its commands, in their order. -/
  values : List Value

/-- **Why a line holds no results.** -/
inductive PayloadError where
  /-- There is nothing on the line. -/
  | empty
  /-- The line is not a pair of a sequence number and a list. -/
  | malformed (fault : Fault)
  deriving DecidableEq, Repr

/-- The blank bytes that may stand at the end of a line. -/
def isLineBlank (b : UInt8) : Bool :=
  b == Ascii.space || b == Ascii.tab || b == Ascii.newline || b == Ascii.formFeed
    || b == Ascii.carriageReturn

/-- The line without the blanks at its end. -/
def trimLineEnd (line : Bytes) : Bytes := (line.reverse.dropWhile isLineBlank).reverse

namespace Results

/-- The results as JSON. -/
def value (r : Results) : Value := Wire.ofPair r.sequence r.values

/-- The text of the results. -/
def text (r : Results) : String := r.value.text

/-- **The results that a line holds.** Blanks at its end are ignored, and `null` in place of the
list means that there are none. -/
def parse (line : Bytes) : Except PayloadError Results :=
  match trimLineEnd line with
  | [] => .error .empty
  | trimmed =>
    match Wire.readPair Wire.readListOrNull trimmed with
    | .error fault => .error (.malformed fault)
    | .ok (sequence, values) => .ok ⟨sequence, values⟩

end Results

/-- The wording of a payload error, given what the JSON reader has to say about the fault. -/
def PayloadError.message (explain : Fault → String) : PayloadError → String
  | empty => "empty result payload"
  | malformed fault => "malformed result payload: " ++ explain fault

/-- What the error is caused by, given the same. -/
def PayloadError.causes (explain : Fault → String) : PayloadError → List String
  | empty => []
  | malformed fault => [explain fault]

end ViewLink
