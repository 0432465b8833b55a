import ViewLink.Proofs.Dispatcher.Registry

/-!
# Sends that fail

A send fails at one of two points. A batch with a command that is none fails before anything is
done: the dispatcher is what it was. A batch that passes but cannot be delivered fails after it has
been numbered: the number is spent and the transport is what the delivery has left of it. The
callbacks, the event data and the view are the same as before in either case.

That the callbacks are the same after a failed delivery is not a matter of course. Something is
withdrawn from their list, and it is the new callback alone because no other one waits under a
number that has not been given away (`Agrees.send_of_delivery_error`).
-/

set_option autoImplicit false

namespace ViewLink

open Json (Value)

/-! ## Batches with a command that is none -/

namespace Command

/-- **The first command that fails decides**, wherever it stands in the batch. -/
theorem checkAll_of_failing {top : Bool} {commands : List Command}
    (h : ∃ c ∈ commands, ∀ v, c.check top ≠ .ok v) :
    ∃ passed c rest violation, commands = passed ++ c :: rest
      ∧ (∀ p ∈ passed, ∃ v, p.check top = .ok v)
      ∧ c.check top = .error violation ∧ checkAll top commands = .error violation := by
  induction commands with
  | nil =>
      obtain ⟨c, hc, -⟩ := h
      cases hc
  | cons command commands ih =>
      cases hcheck : command.check top with
      | error violation =>
          refine ⟨[], command, commands, violation, rfl, by simp, hcheck, ?_⟩
          rw [checkAll, hcheck]
          rfl
      | ok v =>
          -- This one passes, so the command that fails is among the others.
          have hrest : ∃ c ∈ commands, ∀ v, c.check top ≠ .ok v := by
            obtain ⟨c, hc, hfails⟩ := h
            rcases List.mem_cons.1 hc with rfl | hc
            · exact absurd hcheck (hfails v)
            · exact ⟨c, hc, hfails⟩
          obtain ⟨passed, c, rest, violation, rfl, hpassed, hc, hall⟩ := ih hrest
          refine ⟨command :: passed, c, rest, violation, rfl, ?_, hc, ?_⟩
          · exact List.forall_mem_cons.2 ⟨⟨v, hcheck⟩, hpassed⟩
          · rw [checkAll, hcheck, hall]
            rfl

end Command

variable {τ κ : Type}

namespace Dispatcher

/-! ## One failed send -/

theorem receiveResults_of_lookup {d : Dispatcher τ κ} {n : UInt64} {found : Option κ}
    (h : d.pending.lookup n = found) (results : List Value) :
    (d.receiveResults ⟨n, results⟩).answer = found := by
  cases found <;> simp only [receiveResults, h]

theorem Agrees.toNat_next_add_one {h : History τ κ} {d : Dispatcher τ κ} (agrees : Agrees h d)
    (few : h.sends + 1 < UInt64.size) : (d.nextSequence + 1).toNat = d.nextSequence.toNat + 1 := by
  have hnext := agrees.toNat_next (Nat.lt_of_succ_lt few)
  have hone : (1 : UInt64).toNat = 1 := rfl
  have hfits : d.nextSequence.toNat + 1 < 2 ^ 64 := by
    rw [hnext]
    exact few
  rw [UInt64.toNat_add, hone, Nat.mod_eq_of_lt hfits]

variable [Transport τ]

/-- A batch that does not pass changes nothing. -/
theorem send_of_checkAll_error (d : Dispatcher τ κ) {commands : List Command}
    {violation : Command.Violation} (h : Command.checkAll true commands = .error violation)
    (callback : Option κ) : d.send commands callback = ⟨.error (.rejected violation), d, []⟩ := by
  rw [send, h]

/-- **A batch that is not delivered changes the transport and the next number**, and nothing else:
under its number nobody waited, so the callback that is withdrawn is its own. -/
theorem Agrees.send_of_delivery_error {h : History τ κ} {d : Dispatcher τ κ} (agrees : Agrees h d)
    (few : h.sends < UInt64.size) {commands : List Command} {values : List Value}
    {error : DeliveryError} (hcheck : Command.checkAll true commands = .ok values)
    (houtcome : (d.delivery values).outcome = .error error) (callback : Option κ) :
    (d.send commands callback).answer = .error (.undelivered d.nextSequence error)
      ∧ (d.send commands callback).dispatcher
          = { d with
              transport := (d.delivery values).transport
              nextSequence := d.nextSequence + 1 } := by
  have hsame := withdraw_of_lookup_none (agrees.lookup_next few)
  rw [delivery] at houtcome
  constructor
  · simp only [send, hcheck, houtcome]
  · simp only [send, hcheck, houtcome, hsame]
    rfl

/-! ## Both failures -/

/-- **Failed sends leave exactly the promised state.** A batch with a command that does not turn
into JSON, or whose JSON is no command, is rejected for the first of these, and the dispatcher with
its transport is what it was. A batch that passes and is not delivered is answered with its number.
This number is spent, the transport is what the delivery has left of it, and that is all: every
callback that waited before waits on and runs when its own results come, the new one is gone and
runs for no results, and event data and view are the same. -/
theorem failed_send_frame (transport : τ) (config : Config) (before : List (Action τ κ))
    (few : (accepted before).length + 1 < UInt64.size) (commands : List Command)
    (callback : Option κ) :
    let d : Dispatcher τ κ := (new transport config).after before
    let sent := d.send commands callback
    ((∃ c ∈ commands, ∀ v, c.toJson = .ok v → ¬ Command.Valid true v) →
      ∃ passed c rest violation, commands = passed ++ c :: rest
        ∧ (∀ p ∈ passed, ∃ v, p.toJson = .ok v ∧ Command.Valid true v)
        ∧ c.check true = .error violation
        ∧ sent.answer = .error (.rejected violation) ∧ sent.dispatcher = d)
    ∧ ∀ values error, commands.map Command.toJson = values.map .ok →
        (∀ v ∈ values, Command.Valid true v) →
        (Transport.deliver d.transport ⟨d.nextSequence, values⟩).outcome = .error error →
          sent.answer = .error (.undelivered d.nextSequence error)
          ∧ sent.dispatcher.nextSequence.toNat = d.nextSequence.toNat + 1
          ∧ sent.dispatcher.transport
              = (Transport.deliver d.transport ⟨d.nextSequence, values⟩).transport
          ∧ sent.dispatcher.pending = d.pending
          ∧ sent.dispatcher.eventData = d.eventData
          ∧ sent.dispatcher.view = d.view
          ∧ (∀ n waiting, History.Awaits ((new transport config).history before) n waiting →
              ∀ results, (sent.dispatcher.receiveResults ⟨n, results⟩).answer = some waiting)
          ∧ sent.dispatcher.isPending d.nextSequence = false
          ∧ ∀ results,
              (sent.dispatcher.receiveResults ⟨d.nextSequence, results⟩).answer = none := by
  intro d sent
  have hsends : History.sends ((new (κ := κ) transport config).history before) + 1
      < UInt64.size := by rwa [sends_history]
  have hfew := Nat.lt_of_succ_lt hsends
  have agrees : Agrees ((new transport config).history before) d :=
    agrees_after transport config before (Nat.lt_of_succ_lt few)
  constructor
  · rintro ⟨c, hc, hfails⟩
    have hfailing : ∃ c ∈ commands, ∀ v, c.check true ≠ .ok v := by
      refine ⟨c, hc, fun v hv => ?_⟩
      obtain ⟨hjson, hvalid⟩ := Command.check_eq_ok.1 hv
      exact hfails v hjson hvalid
    obtain ⟨passed, c, rest, violation, hsplit, hpassed, hcheck, hall⟩ :=
      Command.checkAll_of_failing hfailing
    have hsent : sent = ⟨.error (.rejected violation), d, []⟩ :=
      d.send_of_checkAll_error hall callback
    refine ⟨passed, c, rest, violation, hsplit, fun p hp => ?_, hcheck, ?_, ?_⟩
    · obtain ⟨v, hv⟩ := hpassed p hp
      exact ⟨v, Command.check_eq_ok.1 hv⟩
    · rw [hsent]
    · rw [hsent]
  · intro values error hjson hvalid houtcome
    have hcheck := Command.checkAll_eq_ok.2 ⟨hjson, hvalid⟩
    obtain ⟨hanswer, hdispatcher⟩ :=
      agrees.send_of_delivery_error hfew hcheck houtcome callback
    have hsent : sent.dispatcher
        = { d with
            transport := (Transport.deliver d.transport ⟨d.nextSequence, values⟩).transport
            nextSequence := d.nextSequence + 1 } := hdispatcher
    have hgone : d.pending.lookup d.nextSequence = none := agrees.lookup_next hfew
    rw [hsent]
    refine ⟨hanswer, agrees.toNat_next_add_one hsends, rfl, rfl, rfl, rfl, ?_, ?_, ?_⟩
    · intro n waiting hawaits
      exact receiveResults_of_lookup ((agrees.lookup n waiting).2 hawaits)
    · simp only [isPending, hgone, Option.isSome_none]
    · exact receiveResults_of_lookup hgone

/-- A batch with a command as JSON and one of the builder. -/
def mixedCommands : List Command :=
  [.json (.array [.string "fun", .string "fit"]),
    .node (.call ((Builder.callFunction "nodes" []).callMethod "lock" []))]

/-- The same batch with a last command that refers to a function deep inside and never calls it. -/
def uncalledCommands : List Command :=
  mixedCommands ++ [.node (.call (Builder.callFunction "add" [.node (.list
    [.node (.functionRef "fit")])]))]

/-- With one callback that waits a batch is rejected and another one is not delivered. -/
theorem failed_send_of_mixedCommands :
    let waiting : List (Action Rehearsal Nat) := [.send mixedCommands (some 7)]
    let d := (new ⟨[], [.taken, .closed "gone"]⟩ {}).after waiting
    let rejected := d.send uncalledCommands (some 8)
    let undelivered := d.send mixedCommands (some 9)
    rejected.answer = .error (.rejected (.uncalled (.function "fit"))) ∧ rejected.dispatcher = d
      ∧ undelivered.answer = .error (.undelivered 1 (.closed "gone"))
      ∧ undelivered.dispatcher.nextSequence.toNat = 2
      ∧ (undelivered.dispatcher.receiveResults ⟨0, [.null]⟩).answer = some 7
      ∧ (undelivered.dispatcher.receiveResults ⟨1, [.null]⟩).answer = none := by
  intro waiting d rejected undelivered
  have hfew : (accepted waiting).length + 1 < UInt64.size := by decide
  obtain ⟨values, hvalues⟩ : ∃ values, Command.checkAll true mixedCommands = .ok values :=
    ⟨_, rfl⟩
  obtain ⟨hjson, hvalid⟩ := Command.checkAll_eq_ok.1 hvalues
  have huncalled : ∃ c ∈ uncalledCommands, ∀ v, c.toJson = .ok v → ¬ Command.Valid true v := by
    refine ⟨_, List.mem_append_right _ (List.mem_singleton_self _), fun v hv => ?_⟩
    cases hv
  obtain ⟨-, -, -, -, -, -, -, -, hsame⟩ :=
    (failed_send_frame ⟨[], [.taken, .closed "gone"]⟩ {} waiting hfew uncalledCommands
      (some 8)).1 huncalled
  obtain ⟨hanswer, hnumber, -, -, -, -, hwaiting, -, hgone⟩ :=
    (failed_send_frame ⟨[], [.taken, .closed "gone"]⟩ {} waiting hfew mixedCommands
      (some 9)).2 values (.closed "gone") hjson hvalid rfl
  have hawaits : History.Awaits ((new ⟨[], [.taken, .closed "gone"]⟩ {}).history waiting) 0 7 :=
    ((agrees_after _ _ waiting (Nat.lt_of_succ_lt hfew)).lookup 0 7).1 rfl
  exact ⟨rfl, hsame, hanswer, hnumber, hwaiting 0 7 hawaits _, hgone _⟩

end Dispatcher

end ViewLink
