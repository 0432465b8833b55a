import ViewLink.Log.Event
import ViewLink.Wire.Batch

/-!
# Transports

A transport carries batches to the front end. It is asked to deliver one batch at a time, and it
either takes the batch or says why it did not. A batch that could not be delivered is not tried
again.

## Main definitions

* `ChannelFault`, `DeliveryError` — why a batch was not delivered;
* `Transport` — what can be asked to deliver, `Delivery` — what comes of it.
-/

set_option autoImplicit false

namespace ViewLink

/-! ## Failures -/

/-- **What is wrong with a channel that does not take all bytes.** -/
inductive ChannelFault where
  /-- The other end is gone. -/
  | gone
  /-- The channel takes no more bytes, though nothing is wrong with it. -/
  | stuck
  /-- The bytes were taken and then not passed on. -/
  | unflushed
  /-- Something else. -/
  | other (description : String)
  deriving DecidableEq, Repr

/-- The wording of a channel fault. -/
def ChannelFault.message : ChannelFault → String
  | gone => "relay gone"
  | stuck => "failed to write whole buffer"
  | unflushed => "flush failed"
  | other description => description

/-- **Why a batch was not delivered.** -/
inductive DeliveryError where
  /-- The batch could not be written as JSON. -/
  | unwritable (sequence : UInt64) (description : String)
  /-- The channel did not take it. -/
  | channel (sequence : UInt64) (fault : ChannelFault)
  /-- There is no channel any more. -/
  | closed (description : String)
  deriving DecidableEq, Repr

/-- The wording of the error. -/
def DeliveryError.message : DeliveryError → String
  | unwritable sequence description =>
    "failed to serialise command batch " ++ toString sequence ++ ": " ++ description
  | channel sequence fault =>
    "I/O error delivering command batch " ++ toString sequence ++ ": " ++ fault.message
  | closed description => "transport closed: " ++ description

/-- What the error is caused by. -/
def DeliveryError.causes : DeliveryError → List String
  | unwritable _ description => [description]
  | channel _ fault => [fault.message]
  | closed _ => []

/-! ## Transports -/

/-- **What comes of a delivery.** -/
structure Delivery (τ : Type) where
  /-- The transport afterwards. -/
  transport : τ
  /-- Whether the batch was taken. -/
  outcome : Except DeliveryError Unit
  /-- What was logged. -/
  log : List Log.Event

/-- **A transport.** -/
class Transport (τ : Type) where
  /-- Delivers a batch, or fails to. -/
  deliver : τ → Batch → Delivery τ

end ViewLink
