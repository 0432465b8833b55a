import Mathlib.Data.List.Induction
import ViewLink.Dispatcher.Basic
import ViewLink.Proofs.Command.Grammar

/-!
# Runs of a dispatcher

Calling code does four things with a dispatcher: it sends batches, it asks for the fix, it hands
over results and it hands over event data. In between the transport may change by itself, as a pipe
does that breaks and recovers. An `Action` is one of these, an `Answer` is what comes of it, and a
run is a list of actions from a first state on.

What a single action can do is said once, by `Transition`: there are seven cases, among them the
three outcomes of a send. Everything about runs is proved from it by induction on the list of
actions, taken at its end, where the next action is performed.

## Main definitions

* `Action`, `Answer`, `Dispatcher.perform` — one action and its answer;
* `Action.accepted?`, `batches` — the batches that pass validation, with their numbers;
* `Dispatcher.after`, `Dispatcher.history` — where a run leads and what was answered on the way;
* `Dispatcher.Transition` — what an action can do.
-/

set_option autoImplicit false

namespace ViewLink

open Json (Value)

variable {τ κ : Type}

/-! ## Actions and answers -/

/-- **What can be done with a dispatcher**, and what can happen to its transport meanwhile. -/
inductive Action (τ κ : Type) where
  /-- A batch is sent, with a callback for its results if there is one. -/
  | send (commands : List Command) (callback : Option κ)
  /-- The fix is sent. -/
  | fix (keepElements : Bool)
  /-- Results arrive. -/
  | results (results : Results)
  /-- Event data arrives. -/
  | event (data : Json.Object)
  /-- The transport changes by itself. -/
  | change (effect : τ → τ)

/-- **What comes of an action.** -/
inductive Answer (κ : Type) where
  /-- A batch was sent under this number, or why it was not. -/
  | sent (outcome : Except SendError UInt64)
  /-- A callback was run with results, or nobody waited for them. -/
  | fired (firing : Option (κ × Results))
  /-- Nothing that a caller would see. -/
  | noted

namespace Action

/-- The commands that an action sends, if it sends any. -/
def commands? : Action τ κ → Option (List Command)
  | send commands _ => some commands
  | fix keepElements => some (Dispatcher.fixCommands keepElements)
  | _ => none

/-- The callback that an action registers, if it registers one. -/
def callback? : Action τ κ → Option κ
  | send _ callback => callback
  | _ => none

/-- **The commands of a send that passes validation**, as JSON. -/
def accepted? (a : Action τ κ) : Option (List Value) :=
  a.commands?.bind fun commands => (Command.checkAll true commands).toOption

theorem accepted?_eq_some {a : Action τ κ} {values : List Value} :
    a.accepted? = some values
      ↔ ∃ commands, a.commands? = some commands ∧ Command.checkAll true commands = .ok values := by
  rw [accepted?, Option.bind_eq_some_iff]
  refine exists_congr fun commands => and_congr_right fun _ => ?_
  cases Command.checkAll true commands <;> simp [Except.toOption]

end Action

/-- The batches that pass validation in the course of a run, without their numbers. -/
def accepted (actions : List (Action τ κ)) : List (List Value) := actions.filterMap Action.accepted?

/-- **The batches that pass validation in the course of a run**, numbered from zero on. -/
def batches (actions : List (Action τ κ)) : List Batch :=
  (accepted actions).mapIdx fun i values => ⟨UInt64.ofNat i, values⟩

theorem accepted_concat (actions : List (Action τ κ)) (a : Action τ κ) :
    accepted (actions ++ [a]) = accepted actions ++ a.accepted?.toList := by
  rw [accepted, List.filterMap_append, accepted]
  cases h : a.accepted? <;> simp [h]

theorem batches_concat_of_none {actions : List (Action τ κ)} {a : Action τ κ}
    (h : a.accepted? = none) : batches (actions ++ [a]) = batches actions := by
  rw [batches, accepted_concat, h, Option.toList_none, List.append_nil, batches]

theorem batches_concat_of_some {actions : List (Action τ κ)} {a : Action τ κ}
    {values : List Value} (h : a.accepted? = some values) :
    batches (actions ++ [a])
      = batches actions ++ [⟨UInt64.ofNat (accepted actions).length, values⟩] := by
  rw [batches, accepted_concat, h, Option.toList_some, List.mapIdx_concat, batches]

theorem length_accepted_le {before actions : List (Action τ κ)} (h : before <+: actions) :
    (accepted before).length ≤ (accepted actions).length :=
  (h.filterMap Action.accepted?).length_le

/-- The numbers ascend for as long as 64 bits can count. -/
theorem pairwise_batches {actions : List (Action τ κ)}
    (few : (accepted actions).length ≤ UInt64.size) :
    (batches actions).Pairwise fun b c => b.sequence < c.sequence := by
  refine List.pairwise_iff_getElem.2 fun i j hi hj hij => ?_
  simp only [batches, List.length_mapIdx] at hi hj
  simp only [batches, List.getElem_mapIdx, UInt64.lt_iff_toNat_lt]
  rw [UInt64.toNat_ofNat_of_lt' (by omega), UInt64.toNat_ofNat_of_lt' (by omega)]
  exact hij

theorem valid_of_mem_batches {actions : List (Action τ κ)} {b : Batch} (h : b ∈ batches actions) :
    ∀ v ∈ b.commands, Command.Valid true v := by
  obtain ⟨i, hi, rfl⟩ := List.mem_mapIdx.1 h
  obtain ⟨a, -, haccepted⟩ := List.mem_filterMap.1 (List.getElem_mem hi)
  obtain ⟨commands, -, hcheck⟩ := Action.accepted?_eq_some.1 haccepted
  exact (Command.checkAll_eq_ok.1 hcheck).2

/-- Applies a function to the answer. -/
def Step.map {α β : Type} (f : α → β) (s : Step τ κ α) : Step τ κ β :=
  ⟨f s.answer, s.dispatcher, s.log⟩

namespace Dispatcher

section
variable [Transport τ]

/-- **Performs an action.** A callback that has waited for results is run with them. -/
def perform (d : Dispatcher τ κ) : Action τ κ → Step τ κ (Answer κ)
  | .send commands callback => (d.send commands callback).map .sent
  | .fix keepElements => (d.fix keepElements).map .sent
  | .results results =>
    (d.receiveResults results).map fun callback => .fired (callback.map fun c => (c, results))
  | .event data => (d.receiveEvent data).map fun _ => .noted
  | .change effect => ⟨.noted, { d with transport := effect d.transport }, []⟩

/-! ## Runs -/

/-- **The dispatcher after a run.** -/
def after (d : Dispatcher τ κ) (actions : List (Action τ κ)) : Dispatcher τ κ :=
  actions.foldl (fun d a => (d.perform a).dispatcher) d

/-- **The actions of a run with their answers**, in order. -/
def history (d : Dispatcher τ κ) : List (Action τ κ) → List (Action τ κ × Answer κ)
  | [] => []
  | a :: actions => (a, (d.perform a).answer) :: (d.perform a).dispatcher.history actions

theorem after_append (d : Dispatcher τ κ) (as bs : List (Action τ κ)) :
    d.after (as ++ bs) = (d.after as).after bs :=
  List.foldl_append

theorem after_concat (d : Dispatcher τ κ) (actions : List (Action τ κ)) (a : Action τ κ) :
    d.after (actions ++ [a]) = ((d.after actions).perform a).dispatcher := by
  rw [after_append]
  rfl

theorem history_append (d : Dispatcher τ κ) (as bs : List (Action τ κ)) :
    d.history (as ++ bs) = d.history as ++ (d.after as).history bs := by
  induction as generalizing d with
  | nil => rfl
  | cons a as ih =>
      rw [List.cons_append, history, ih, history]
      rfl

theorem history_concat (d : Dispatcher τ κ) (actions : List (Action τ κ)) (a : Action τ κ) :
    d.history (actions ++ [a])
      = d.history actions ++ [(a, ((d.after actions).perform a).answer)] := by
  rw [history_append]
  rfl

theorem map_fst_history (d : Dispatcher τ κ) (actions : List (Action τ κ)) :
    (d.history actions).map Prod.fst = actions := by
  induction actions generalizing d with
  | nil => rfl
  | cons a actions ih => rw [history, List.map_cons, ih]

/-- What a run answers to an action is what the action answers where the run has led. -/
theorem getElem?_history (d : Dispatcher τ κ) (before later : List (Action τ κ))
    (a : Action τ κ) :
    (d.history (before ++ a :: later))[before.length]?
      = some (a, ((d.after before).perform a).answer) := by
  have hlength : (d.history before).length = before.length := by
    rw [← List.length_map Prod.fst, map_fst_history]
  rw [history_append, List.getElem?_append_right (Nat.le_of_eq hlength), hlength, Nat.sub_self]
  rfl

/-! ## What an action can do -/

/-- What the delivery of a batch comes to, under the next number. -/
def delivery (d : Dispatcher τ κ) (values : List Value) : Delivery τ :=
  Transport.deliver d.transport ⟨d.nextSequence, values⟩

/-- **What an action can do** to a dispatcher: the answer and the dispatcher afterwards. -/
inductive Transition (d : Dispatcher τ κ) : Action τ κ → Answer κ → Dispatcher τ κ → Prop where
  /-- A batch does not pass validation. -/
  | rejected {a : Action τ κ} {commands : List Command} {violation : Command.Violation}
      (sends : a.commands? = some commands)
      (violates : Command.checkAll true commands = .error violation) :
      Transition d a (.sent (.error (.rejected violation))) d
  /-- A batch is delivered. -/
  | delivered {a : Action τ κ} {values : List Value} (accepted : a.accepted? = some values)
      (taken : (d.delivery values).outcome = .ok ()) :
      Transition d a (.sent (.ok d.nextSequence))
        { d with
          transport := (d.delivery values).transport
          nextSequence := d.nextSequence + 1
          pending := register d.nextSequence a.callback? d.pending }
  /-- A batch cannot be delivered. -/
  | undelivered {a : Action τ κ} {values : List Value} {error : DeliveryError}
      (accepted : a.accepted? = some values)
      (refused : (d.delivery values).outcome = .error error) :
      Transition d a (.sent (.error (.undelivered d.nextSequence error)))
        { d with
          transport := (d.delivery values).transport
          nextSequence := d.nextSequence + 1
          pending := withdraw d.nextSequence d.pending }
  /-- Results arrive that nobody waits for. -/
  | ignored {results : Results} (unclaimed : d.pending.lookup results.sequence = none) :
      Transition d (.results results) (.fired none) d
  /-- Results arrive and their callback is run. -/
  | fired {results : Results} {callback : κ}
      (claimed : d.pending.lookup results.sequence = some callback) :
      Transition d (.results results) (.fired (some (callback, results)))
        { d with pending := withdraw results.sequence d.pending }
  /-- Event data arrives. -/
  | event {data : Json.Object} : Transition d (.event data) .noted { d with eventData := data }
  /-- The transport changes. -/
  | change {effect : τ → τ} :
      Transition d (.change effect) .noted { d with transport := effect d.transport }

theorem transition_send (d : Dispatcher τ κ) {a : Action τ κ} {commands : List Command}
    (sends : a.commands? = some commands) :
    Transition d a (.sent (d.send commands a.callback?).answer)
      (d.send commands a.callback?).dispatcher := by
  cases hcheck : Command.checkAll true commands with
  | error violation =>
      simp only [send, hcheck]
      exact .rejected sends hcheck
  | ok values =>
      have haccepted : a.accepted? = some values := Action.accepted?_eq_some.2 ⟨_, sends, hcheck⟩
      cases houtcome : (d.delivery values).outcome with
      | error error =>
          have h := houtcome
          rw [delivery] at h
          simp only [send, hcheck, h]
          exact .undelivered haccepted houtcome
      | ok done =>
          have h := houtcome
          rw [delivery] at h
          simp only [send, hcheck, h]
          exact .delivered haccepted houtcome

/-- **Performing an action is a transition.** -/
theorem transition_perform (d : Dispatcher τ κ) (a : Action τ κ) :
    Transition d a (d.perform a).answer (d.perform a).dispatcher := by
  cases a with
  | send commands callback => exact d.transition_send rfl
  | fix keepElements => exact d.transition_send rfl
  | results results =>
      cases hlookup : d.pending.lookup results.sequence with
      | none =>
          simp only [perform, receiveResults, hlookup]
          exact .ignored hlookup
      | some callback =>
          simp only [perform, receiveResults, hlookup]
          exact .fired hlookup
  | event data => exact .event
  | change effect => exact .change

theorem transition_of_mem_history {d : Dispatcher τ κ} {actions : List (Action τ κ)}
    {e : Action τ κ × Answer κ} (h : e ∈ d.history actions) :
    ∃ d₁ d₂, Transition d₁ e.1 e.2 d₂ := by
  induction actions generalizing d with
  | nil => cases h
  | cons a actions ih =>
      rcases List.mem_cons.1 h with rfl | h
      · exact ⟨d, _, d.transition_perform a⟩
      · exact ih h

/-! ## What a run keeps

The number of the next batch and the transport change together, and in two ways only: a batch that
passes validation is delivered under the next number, or the transport changes by itself. -/

theorem Transition.transport {d d' : Dispatcher τ κ} {a : Action τ κ} {answer : Answer κ}
    (h : Transition d a answer d') :
    (∃ values, a.accepted? = some values ∧ d'.nextSequence = d.nextSequence + 1
        ∧ d'.transport = (d.delivery values).transport)
      ∨ (a.accepted? = none ∧ d'.nextSequence = d.nextSequence
        ∧ (d'.transport = d.transport ∨ ∃ f, a = .change f ∧ d'.transport = f d.transport)) := by
  cases h with
  | rejected sends violates =>
      refine .inr ⟨?_, rfl, .inl rfl⟩
      rw [Action.accepted?, sends, Option.bind_some, violates]
      rfl
  | delivered accepted taken => exact .inl ⟨_, accepted, rfl, rfl⟩
  | undelivered accepted refused => exact .inl ⟨_, accepted, rfl, rfl⟩
  | ignored unclaimed => exact .inr ⟨rfl, rfl, .inl rfl⟩
  | fired claimed => exact .inr ⟨rfl, rfl, .inl rfl⟩
  | event => exact .inr ⟨rfl, rfl, .inl rfl⟩
  | change => exact .inr ⟨rfl, rfl, .inr ⟨_, rfl, rfl⟩⟩

/-- **The next number counts the batches that have passed validation**, as far as 64 bits can. -/
theorem nextSequence_after (transport : τ) (config : Config) (actions : List (Action τ κ)) :
    ((new transport config).after actions).nextSequence
      = UInt64.ofNat (accepted actions).length := by
  induction actions using List.reverseRecOn with
  | nil => rfl
  | append_singleton actions a ih =>
      rw [after_concat, accepted_concat]
      rcases (transition_perform _ a).transport with ⟨values, hsome, hnext, -⟩ | ⟨hnone, hnext, -⟩
      · rw [hnext, ih, hsome, Option.toList_some, List.length_append, List.length_singleton,
          UInt64.ofNat_add]
        rfl
      · rw [hnext, ih, hnone, Option.toList_none, List.append_nil]

/-- **What every delivery keeps, a run keeps.** A property of the batches delivered so far and the
transport holds after every run if it holds at first, a delivery keeps it and so does every change
that the transport undergoes. -/
theorem transport_after {P : List Batch → τ → Prop} {transport : τ} (config : Config)
    {actions : List (Action τ κ)} (first : P [] transport)
    (deliver : ∀ bs t b, P bs t → P (bs ++ [b]) (Transport.deliver t b).transport)
    (change : ∀ f, .change f ∈ actions → ∀ bs t, P bs t → P bs (f t)) :
    P (batches actions) ((new (κ := κ) transport config).after actions).transport := by
  -- By induction on the run, taken at its end, with the batches and the transport side by side.
  induction actions using List.reverseRecOn with
  | nil => exact first
  | append_singleton actions a ih =>
      have hrun := ih fun f hf => change f (List.mem_append_left _ hf)
      rw [after_concat]
      rcases (transition_perform _ a).transport with
        ⟨values, hsome, -, htransport⟩ | ⟨hnone, -, htransport | ⟨f, rfl, htransport⟩⟩
      · rw [htransport, batches_concat_of_some hsome, delivery, nextSequence_after]
        exact deliver _ _ _ hrun
      · rw [htransport, batches_concat_of_none hnone]
        exact hrun
      · rw [htransport, batches_concat_of_none hnone]
        exact change f (by simp) _ _ hrun

end

end Dispatcher

end ViewLink
