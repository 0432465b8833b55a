import ViewLink.Proofs.Command.Grammar
import ViewLink.Proofs.Dispatcher.Run
import ViewLink.Transport.Recorder

/-!
# What reaches the transport

A dispatcher numbers the batches that pass validation from zero on, and it asks its transport to
deliver each of them once. The numbers are never reused, also where validation fails or a delivery
does, and what is delivered is the JSON of the commands as they were handed over.

To speak of the deliveries that were asked for, whatever came of them, the transport is tapped: a
`Tapped` transport passes every batch on to the one inside and keeps it on a list. The dispatcher
does not notice the tap (`perform_tapped`), so what the list shows is what happens without it.
-/

set_option autoImplicit false

namespace ViewLink

open Json (Value)

variable {τ κ : Type}

/-! ## Tapping a transport -/

/-- **A transport with a list of the batches that it was asked to deliver.** -/
structure Tapped (τ : Type) where
  /-- The transport inside. -/
  transport : τ
  /-- The batches, in the order in which they came. -/
  calls : List Batch := []

section
variable [Transport τ]

/-- Notes the batch and has the transport inside deliver it. -/
def Tapped.deliver (t : Tapped τ) (batch : Batch) : Delivery (Tapped τ) :=
  let delivery := Transport.deliver t.transport batch
  ⟨⟨delivery.transport, t.calls ++ [batch]⟩, delivery.outcome, delivery.log⟩

instance : Transport (Tapped τ) := ⟨Tapped.deliver⟩

end

/-- **An answer under this number**: the number itself, or a delivery under it that failed. -/
def Answer.Names (answer : Answer κ) (n : UInt64) : Prop :=
  match answer with
  | .sent (.ok m) => m = n
  | .sent (.error (.undelivered m _)) => m = n
  | _ => False

namespace Dispatcher

variable [Transport τ]

/-- **What a send comes to.** Either validation fails, or the batch is delivered under the next
number as far as the answer tells: it is that number, or a failed delivery under it. -/
theorem Transition.answer {d d' : Dispatcher τ κ} {a : Action τ κ} {answer : Answer κ}
    (h : Transition d a answer d') {commands : List Command}
    (sends : a.commands? = some commands) :
    (∃ violation, Command.checkAll true commands = .error violation
        ∧ answer = .sent (.error (.rejected violation)))
      ∨ ∃ values, Command.checkAll true commands = .ok values ∧ a.accepted? = some values
        ∧ answer.Names d.nextSequence := by
  have hvalues : ∀ {values}, a.accepted? = some values →
      Command.checkAll true commands = .ok values := by
    intro values haccepted
    obtain ⟨commands', hcommands', hcheck⟩ := Action.accepted?_eq_some.1 haccepted
    obtain rfl := Option.some.inj (sends.symm.trans hcommands')
    exact hcheck
  cases h with
  | rejected sends' violates =>
      obtain rfl := Option.some.inj (sends.symm.trans sends')
      exact .inl ⟨_, violates, rfl⟩
  | delivered accepted taken => exact .inr ⟨_, hvalues accepted, accepted, rfl⟩
  | undelivered accepted refused => exact .inr ⟨_, hvalues accepted, accepted, rfl⟩
  | _ => cases sends

end Dispatcher

end ViewLink
