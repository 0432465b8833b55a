import ViewLink.Log.Filter
import ViewLink.Log.Format

/-!
# Subscribers

A subscriber shows the events that its filter lets through. One of them can be installed for the
whole process, once. The library installs its own at most once and leaves later requests alone; a
host may have installed one of its own before, and then the library's request fails.
-/

set_option autoImplicit false

namespace ViewLink.Log

/-- **Why a subscriber could not be set up.** -/
inductive SetupError where
  /-- The filter expression cannot be read. -/
  | badFilter (expression : String)
  /-- The host has installed a subscriber of its own. -/
  | alreadyInstalled
  deriving DecidableEq, Repr

/-- The wording of the error, given the diagnosis of its cause. -/
def SetupError.message (diagnosis : String) : SetupError → String
  | badFilter expression => "invalid log filter '" ++ expression ++ "': " ++ diagnosis
  | alreadyInstalled => "failed to install telemetry subscriber: " ++ diagnosis

/-- What the error is caused by, given the diagnosis. -/
def SetupError.causes (diagnosis : String) : SetupError → List String
  | badFilter _ => []
  | alreadyInstalled => [diagnosis]

/-- **A subscriber.** -/
structure Subscriber where
  /-- Which events it shows. -/
  filter : Filter
  /-- How it shows them. -/
  format : Format

namespace Subscriber

/-- The subscriber for a filter expression. -/
def make (expression : String) (format : Format) : Except SetupError Subscriber :=
  match Filter.parse? expression with
  | none => .error (.badFilter expression)
  | some filter => .ok ⟨filter, format⟩

/-- **The lines of the events that are let through.** -/
def lines (s : Subscriber) (events : List Event) : List String :=
  (events.filter s.filter.admits).map s.format.line

end Subscriber

/-! ## Installing -/

/-- **Whose subscriber is installed for the process.** -/
inductive Installation where
  /-- None is. -/
  | nobody
  /-- The library's. -/
  | library
  /-- The host's. -/
  | host
  deriving DecidableEq, Repr

namespace Installation

/-- Installs the library's subscriber, unless it is installed already; then the request is ignored
without a look at its filter. -/
def initialise (i : Installation) (expression : String) (format : Format) :
    Except SetupError Unit × Installation :=
  match i with
  | library => (.ok (), library)
  | _ =>
    match Subscriber.make expression format with
    | .error e => (.error e, i)
    | .ok _ => if i = host then (.error .alreadyInstalled, i) else (.ok (), library)

/-- Installs a subscriber of the host, and tells whether it could be installed. -/
def hostInstalls (i : Installation) (expression : String) (format : Format) :
    Except SetupError Bool × Installation :=
  match Subscriber.make expression format with
  | .error e => (.error e, i)
  | .ok _ => if i = nobody then (.ok true, host) else (.ok false, i)

end Installation

end ViewLink.Log
