import ViewLink.Json.Printer
import ViewLink.Log.Event

/-!
# Log lines

An event is shown either as one JSON object, whose members are the fields of the event beside its
level, message and target, or as one compact line for a person to read. A compact line goes to a
terminal, so the control characters that a terminal would act on are spelled out in its message.

Lines are given here without their time.
-/

set_option autoImplicit false

namespace ViewLink.Log

open Json (Value)

/-- **How events are shown.** -/
inductive Format where
  /-- One JSON object per event. -/
  | json
  /-- One short line per event. -/
  | compact
  deriving DecidableEq, Repr

namespace Format

/-- The format as a configuration writes it. -/
def word : Format → String
  | json => "json"
  | compact => "compact"

/-- All formats. -/
def all : List Format := [json, compact]

/-- The format written so, in any case. -/
def ofWord? (text : String) : Option Format := all.find? (·.word = text.toLower)

/-- Whether lines are meant for a program. -/
def isStructured : Format → Bool
  | json => true
  | compact => false

end Format

/-! ## JSON lines -/

/-- A field as JSON. -/
def Field.value : Field → Value
  | count n => .ofNat n
  | flag b => .bool b
  | text s => .string s

/-- The event as a JSON object. -/
def Event.value (e : Event) : Value :=
  .ofPairs
    (("level", .string e.level.name) :: ("target", .string e.target)
      :: ("message", .string e.message) :: e.fields.map fun f => (f.1, f.2.value))

/-! ## Compact lines -/

/-- A field as text. -/
def Field.plain : Field → String
  | count n => toString n
  | flag b => if b then "true" else "false"
  | text s => s

/-- The characters that a terminal acts on, spelled out. -/
def spelled (c : Char) : List Char :=
  let hex := Nat.toDigits 16 c.toNat
  if c.toNat = 0x1B || c.toNat = 0x7F then '\\' :: 'x' :: hex
  else if c.toNat = 0x07 || c.toNat = 0x08 || c.toNat = 0x0C then '\\' :: 'x' :: '0' :: hex
  else if 0x80 ≤ c.toNat && c.toNat ≤ 0x9F then '\\' :: 'u' :: '\x7b' :: hex ++ ['\x7d']
  else [c]

/-- The event on one line: the level, flush right in five columns, the target, the message and the
fields. -/
def Event.compact (e : Event) : String :=
  let pad := String.ofList (List.replicate (5 - e.level.name.length) ' ')
  let message := String.ofList (e.message.toList.flatMap spelled)
  let fields := e.fields.map fun f => " " ++ f.1 ++ "=" ++ f.2.plain
  pad ++ e.level.name ++ " " ++ e.target ++ ": " ++ message ++ String.join fields

/-- **The line of an event.** -/
def Format.line (format : Format) (e : Event) : String :=
  match format with
  | json => e.value.text
  | compact => e.compact

end ViewLink.Log
