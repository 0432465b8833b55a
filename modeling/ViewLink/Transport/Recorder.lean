import ViewLink.Transport.Basic

/-!
# Transports that only record

Two transports stand in for a front end where there is none. A `Recorder` keeps every batch, unless
it is closed. A `Rehearsal` keeps every batch too, and lets its deliveries end as a script says.
-/

set_option autoImplicit false

namespace ViewLink

/-! ## Recording -/

/-- **A transport that keeps every batch**, or is closed and takes none. -/
structure Recorder where
  /-- The batches, in the order of their delivery. -/
  batches : List Batch := []
  /-- Whether it is closed. -/
  isClosed : Bool := false
  deriving Inhabited

namespace Recorder

/-- The batch delivered last. -/
def last? (r : Recorder) : Option Batch := r.batches.getLast?

/-- **Keeps a batch.** -/
def deliver (r : Recorder) (batch : Batch) : Delivery Recorder :=
  if r.isClosed then ⟨r, .error (.closed "recording transport is closed"), []⟩
  else ⟨{ r with batches := r.batches ++ [batch] }, .ok (), []⟩

instance : Transport Recorder := ⟨deliver⟩

end Recorder

/-! ## Rehearsing -/

/-- **How a rehearsed delivery ends.** A failure that names a batch names the one delivered, unless
it is given another number. -/
inductive Ending where
  /-- The batch is taken. -/
  | taken
  /-- It could not be written. -/
  | unwritable (sequence : Option UInt64) (description : String)
  /-- The channel did not take it. -/
  | channel (sequence : Option UInt64) (description : String)
  /-- There is no channel any more. -/
  | closed (description : String)
  deriving DecidableEq, Repr

/-- What the delivery of a batch with this number comes to. -/
def Ending.outcome (sequence : UInt64) : Ending → Except DeliveryError Unit
  | taken => .ok ()
  | unwritable other description => .error (.unwritable (other.getD sequence) description)
  | channel other description => .error (.channel (other.getD sequence) (.other description))
  | closed description => .error (.closed description)

/-- **A transport whose deliveries end as a script says**, and well when the script is over. -/
structure Rehearsal where
  /-- The batches, in the order of their delivery, whatever came of it. -/
  batches : List Batch := []
  /-- How the next deliveries end. -/
  script : List Ending := []
  deriving Inhabited

namespace Rehearsal

/-- **Keeps a batch** and lets its delivery end as the script says. -/
def deliver (r : Rehearsal) (batch : Batch) : Delivery Rehearsal :=
  ⟨⟨r.batches ++ [batch], r.script.tail⟩,
    (r.script.headD .taken).outcome batch.sequence, []⟩

instance : Transport Rehearsal := ⟨deliver⟩

end Rehearsal

end ViewLink
