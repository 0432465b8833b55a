import ViewLink.Config.Basic
import ViewLink.Transport.Basic

/-!
# The dispatcher

The dispatcher is what calling code drives the front end with. It validates a batch of commands as a
whole, numbers it, registers a callback for its results if there is one, and has a transport deliver
it. Results come back later and in any order, and they find their callback by the number of their
batch alone.

Two rules hold throughout. A batch that fails validation is never numbered and never reaches the
transport; a batch that passes has its number for good, whether it can be delivered or not. And a
callback stays registered from its delivery to the first results for its number.

A callback here is a value of any type `κ`. The dispatcher never runs it; it gives it back when its
results arrive.

## Main definitions

* `Dispatcher`, `Dispatcher.new` — the dispatcher and its first state;
* `SendError` — why a batch was not sent;
* `Dispatcher.send`, `Dispatcher.fix` — batches on their way out;
* `Dispatcher.receiveResults`, `Dispatcher.receiveEvent` — what comes back.
-/

set_option autoImplicit false

namespace ViewLink

/-! ## Errors -/

/-- **Why a batch was not sent.** -/
inductive SendError where
  /-- One of its commands is no command. Nothing happened. -/
  | rejected (violation : Command.Violation)
  /-- It was numbered, but not delivered. -/
  | undelivered (sequence : UInt64) (error : DeliveryError)

/-- The wording of the error. -/
def SendError.message : SendError → String
  | rejected violation => "command batch rejected: " ++ violation.message
  | undelivered sequence error =>
    "transport failed to deliver batch " ++ toString sequence ++ ": " ++ error.message

/-- What the error is caused by, and what that is caused by. -/
def SendError.causes : SendError → List String
  | rejected violation => [violation.message]
  | undelivered _ error => error.message :: error.causes

/-! ## State -/

/-- **A dispatcher** over a transport, with callbacks of type `κ`. -/
structure Dispatcher (τ κ : Type) where
  /-- The transport. -/
  transport : τ
  /-- The number of the next batch. -/
  nextSequence : UInt64 := 0
  /-- The callbacks that wait for results, each under the number of its batch. -/
  pending : List (UInt64 × κ) := []
  /-- What the front end reported last. -/
  eventData : Json.Object := .nil
  /-- The size of the view. -/
  view : ViewSettings := {}

/-- **What comes of an operation**: an answer, the dispatcher afterwards, and what was logged. -/
structure Step (τ κ α : Type) where
  /-- The answer. -/
  answer : α
  /-- The dispatcher afterwards. -/
  dispatcher : Dispatcher τ κ
  /-- What was logged. -/
  log : List Log.Event

namespace Dispatcher

variable {τ κ : Type}

/-- A dispatcher that has sent nothing, with the view of a configuration. -/
def new (transport : τ) (config : Config) : Dispatcher τ κ := { transport, view := config.view }

/-- Whether a callback waits for the results of this batch. -/
def isPending (d : Dispatcher τ κ) (sequence : UInt64) : Bool :=
  (d.pending.lookup sequence).isSome

/-- The callbacks without the one under this number. -/
def withdraw (sequence : UInt64) (pending : List (UInt64 × κ)) : List (UInt64 × κ) :=
  pending.filter (·.1 ≠ sequence)

theorem lookup_withdraw_self (sequence : UInt64) (pending : List (UInt64 × κ)) :
    (withdraw sequence pending).lookup sequence = none := by
  rw [List.lookup_eq_none_iff]
  intro entry member
  have hne : entry.1 ≠ sequence := by simpa using (List.mem_filter.1 member).2
  simpa using fun e => hne e.symm

theorem lookup_withdraw_of_ne {sequence other : UInt64} (h : other ≠ sequence)
    (pending : List (UInt64 × κ)) :
    (withdraw sequence pending).lookup other = pending.lookup other := by
  induction pending with
  | nil => rfl
  | cons entry rest ih =>
    obtain ⟨key, callback⟩ := entry
    rw [withdraw] at ih
    by_cases hk : key = sequence
    · have hne : (other == key) = false := by simpa [hk] using h
      rw [withdraw, List.filter_cons_of_neg (by simpa using hk), List.lookup_cons, hne]
      exact ih
    · rw [withdraw, List.filter_cons_of_pos (by simpa using hk), List.lookup_cons,
        List.lookup_cons, ih]

/-- The callbacks with this one, if it is there, under its number. -/
def register (sequence : UInt64) (callback : Option κ) (pending : List (UInt64 × κ)) :
    List (UInt64 × κ) :=
  match callback with
  | none => pending
  | some callback => withdraw sequence pending ++ [(sequence, callback)]

/-- The part of the library that log events about dispatching come from. -/
def logTarget : String := "cytobridge::dispatch"

/-! ## Sending -/

/-- The log event before a batch is delivered. -/
def dispatchingEvent (batch : Batch) (callback : Option κ) : Log.Event :=
  ⟨.debug, logTarget, "dispatching command batch",
    [("sequence", .count batch.sequence.toNat), ("commands", .count batch.commands.length),
      ("has_callback", .flag callback.isSome)]⟩

/-- The log event after a delivery that failed. -/
def undeliveredEvent (sequence : UInt64) (error : DeliveryError) : Log.Event :=
  ⟨.warn, logTarget, "transport rejected command batch",
    [("sequence", .count sequence.toNat), ("error", .text error.message)]⟩

/-- **Sends a batch of commands**, with a callback for its results if there is one. The answer is
the number of the batch. -/
def send [Transport τ] (d : Dispatcher τ κ) (commands : List Command) (callback : Option κ) :
    Step τ κ (Except SendError UInt64) :=
  match Command.checkAll true commands with
  | .error violation => ⟨.error (.rejected violation), d, []⟩
  | .ok values =>
    let sequence := d.nextSequence
    let batch : Batch := ⟨sequence, values⟩
    let delivery := Transport.deliver d.transport batch
    let d := { d with transport := delivery.transport, nextSequence := sequence + 1 }
    match delivery.outcome with
    | .ok () =>
      ⟨.ok sequence, { d with pending := register sequence callback d.pending },
        dispatchingEvent batch callback :: delivery.log⟩
    | .error error =>
      ⟨.error (.undelivered sequence error), { d with pending := withdraw sequence d.pending },
        dispatchingEvent batch callback :: delivery.log ++ [undeliveredEvent sequence error]⟩

/-- The commands that make mouse events follow the scrolling of the view: the fix itself, and
unless they are to be kept the removal of all elements. -/
def fixCommands (keepElements : Bool) : List Command :=
  let fix := Builder.callFunction "fix" []
  let removal := (Builder.callFunction "elements" []).callMethod "remove" []
  let calls := if keepElements then [fix] else [fix, removal]
  calls.map fun call => .node (.call call)

/-- **Makes mouse events follow the scrolling of the view.** -/
def fix [Transport τ] (d : Dispatcher τ κ) (keepElements : Bool) :
    Step τ κ (Except SendError UInt64) :=
  d.send (fixCommands keepElements) none

/-! ## Receiving -/

/-- The log event for results that nobody waits for. -/
def unclaimedEvent (results : Results) : Log.Event :=
  ⟨.debug, logTarget, "no callback registered for results",
    [("sequence", .count results.sequence.toNat)]⟩

/-- The log event for results that go to their callback. -/
def deliveringEvent (results : Results) : Log.Event :=
  ⟨.debug, logTarget, "delivering results to callback",
    [("sequence", .count results.sequence.toNat), ("results", .count results.values.length)]⟩

/-- **Takes in results.** The answer is the callback that has waited for them; it waits no more. -/
def receiveResults (d : Dispatcher τ κ) (results : Results) : Step τ κ (Option κ) :=
  match d.pending.lookup results.sequence with
  | none => ⟨none, d, [unclaimedEvent results]⟩
  | some callback =>
    ⟨some callback, { d with pending := withdraw results.sequence d.pending },
      [deliveringEvent results]⟩

/-- **Takes in event data**, in place of what was reported before. -/
def receiveEvent (d : Dispatcher τ κ) (data : Json.Object) : Step τ κ Unit :=
  ⟨(), { d with eventData := data },
    [⟨.debug, logTarget, "received front-end event data", [("keys", .count data.length)]⟩]⟩

end Dispatcher

end ViewLink
