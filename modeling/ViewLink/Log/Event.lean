/-!
# Log events

The parts of this library report what they do as events. An event has a level, the part it comes
from, a message and named fields. Reporting decides nothing: an operation gives its events beside
its result, and whoever calls it shows them or drops them.
-/

set_option autoImplicit false

namespace ViewLink.Log

/-- **How much an event matters**, the most important level first. -/
inductive Level where
  /-- Something failed for good. -/
  | error
  /-- Something failed and the caller is told. -/
  | warn
  /-- A step that an operator wants to see. -/
  | info
  /-- A step that a developer wants to see. -/
  | debug
  /-- Everything else. -/
  | trace
  deriving DecidableEq, Repr

namespace Level

/-- The rank of a level: the least important one has the highest. -/
def rank : Level → Nat
  | error => 1
  | warn => 2
  | info => 3
  | debug => 4
  | trace => 5

/-- The level as a log line shows it. -/
def name : Level → String
  | error => "ERROR"
  | warn => "WARN"
  | info => "INFO"
  | debug => "DEBUG"
  | trace => "TRACE"

/-- All levels. -/
def all : List Level := [error, warn, info, debug, trace]

/-- The level with this name in any case. -/
def ofName? (text : String) : Option Level := all.find? (·.name.toLower = text.toLower)

end Level

/-- The value of a field. -/
inductive Field where
  /-- A number. -/
  | count (n : Nat)
  /-- A truth value. -/
  | flag (b : Bool)
  /-- A text. -/
  | text (s : String)
  deriving DecidableEq, Repr

/-- **A log event.** -/
structure Event where
  /-- How much it matters. -/
  level : Level
  /-- The part of the library it comes from. -/
  target : String
  /-- What happened. -/
  message : String
  /-- The particulars, in the order in which they are shown. -/
  fields : List (String × Field)
  deriving DecidableEq, Repr

end ViewLink.Log
