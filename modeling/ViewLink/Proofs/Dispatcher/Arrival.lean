import ViewLink.Proofs.Dispatcher.Registry

/-!
# The order in which results arrive

Results find their callback by the number of their batch alone, so it does not matter when they
arrive relative to anything that has nothing to do with this number. Two actions in a row, one of
which hands over results, can change places unless the other brings results for the same number or
is the send that the number goes to (`Concerns`).

All of it comes from one fact. Handing over results only withdraws what is registered under their
number, and every action that does not concern the number does the same with or without this
registration (`perform_without`).

## Main definitions

* `Dispatcher.without`, `Dispatcher.firing` — what results leave behind, and what they run;
* `Dispatcher.Concerns` — the actions that results cannot change places with.
-/

set_option autoImplicit false

namespace ViewLink

variable {τ κ : Type}

namespace Dispatcher

/-! ## Registrations under different numbers -/

theorem withdraw_comm (m n : UInt64) (pending : List (UInt64 × κ)) :
    withdraw m (withdraw n pending) = withdraw n (withdraw m pending) :=
  List.filter_comm _ _ _

theorem withdraw_register {m n : UInt64} (h : m ≠ n) (callback : Option κ)
    (pending : List (UInt64 × κ)) :
    withdraw m (register n callback pending) = register n callback (withdraw m pending) := by
  cases callback with
  | none => rfl
  | some callback =>
      have hkept : withdraw m [(n, callback)] = [(n, callback)] :=
        List.filter_cons_of_pos (by simpa using h.symm)
      calc withdraw m (withdraw n pending ++ [(n, callback)])
          = withdraw m (withdraw n pending) ++ withdraw m [(n, callback)] :=
            List.filter_append ..
        _ = withdraw n (withdraw m pending) ++ [(n, callback)] := by
            rw [withdraw_comm, hkept]

theorem lookup_register_of_ne {m n : UInt64} (h : m ≠ n) (callback : Option κ)
    (pending : List (UInt64 × κ)) :
    (register n callback pending).lookup m = pending.lookup m := by
  cases callback with
  | none => rfl
  | some callback =>
      have hne : (m == n) = false := by simpa using h
      rw [register, List.lookup_append, lookup_withdraw_of_ne h, List.lookup_cons, hne,
        List.lookup_nil, Option.or_none]

/-! ## Results -/

/-- The dispatcher without what is registered under this number. -/
def without (d : Dispatcher τ κ) (n : UInt64) : Dispatcher τ κ :=
  { d with pending := withdraw n d.pending }

/-- The callback that results run, with these results, if one waits for them. -/
def firing (d : Dispatcher τ κ) (r : Results) : Option (κ × Results) :=
  (d.pending.lookup r.sequence).map fun callback => (callback, r)

/-- **The action concerns the results for this number**: it brings such results, or it is the send
that the number goes to. -/
def Concerns (d : Dispatcher τ κ) (a : Action τ κ) (n : UInt64) : Prop :=
  (∃ r, a = .results r ∧ r.sequence = n) ∨ (a.accepted?.isSome ∧ d.nextSequence = n)

theorem Concerns.ne_of_results {d : Dispatcher τ κ} {r : Results} {n : UInt64}
    (h : ¬ d.Concerns (.results r) n) : r.sequence ≠ n :=
  fun heq => h (.inl ⟨r, rfl, heq⟩)

theorem Concerns.ne_of_accepted {d : Dispatcher τ κ} {a : Action τ κ} {n : UInt64}
    (h : ¬ d.Concerns a n) (accepted : a.accepted?.isSome) : n ≠ d.nextSequence :=
  fun heq => h (.inr ⟨accepted, heq.symm⟩)

theorem not_concerns_results {d : Dispatcher τ κ} {r r' : Results}
    (h : r'.sequence ≠ r.sequence) : ¬ d.Concerns (.results r') r.sequence := by
  rintro (⟨q, hq, hsequence⟩ | ⟨haccepted, -⟩)
  · cases hq
    exact h hsequence
  · cases haccepted

variable [Transport τ]

/-- **What comes of results.** They run what is registered under their number, and nothing else of
the dispatcher changes. -/
theorem perform_results (d : Dispatcher τ κ) (r : Results) :
    (d.perform (.results r)).answer = .fired (d.firing r)
      ∧ (d.perform (.results r)).dispatcher = d.without r.sequence := by
  cases h : d.pending.lookup r.sequence with
  | none =>
      simp only [perform, receiveResults, firing, without, h, withdraw_of_lookup_none h]
      exact ⟨rfl, rfl⟩
  | some callback =>
      simp only [perform, receiveResults, firing, without, h]
      exact ⟨rfl, rfl⟩

/-! ## Changing places -/

theorem send_without {d : Dispatcher τ κ} {n : UInt64} (commands : List Command)
    (callback : Option κ)
    (h : (Command.checkAll true commands).toOption.isSome → n ≠ d.nextSequence) :
    (d.without n).send commands callback
      = ⟨(d.send commands callback).answer, (d.send commands callback).dispatcher.without n,
          (d.send commands callback).log⟩ := by
  cases hcheck : Command.checkAll true commands with
  | error violation => simp only [send, hcheck]
  | ok values =>
      have hne : n ≠ d.nextSequence := h (by rw [hcheck]; rfl)
      -- The delivery is the same: it depends on the transport and the next number only.
      have hdelivery : Transport.deliver (d.without n).transport
            ⟨(d.without n).nextSequence, values⟩
          = Transport.deliver d.transport ⟨d.nextSequence, values⟩ := rfl
      cases houtcome : (Transport.deliver d.transport ⟨d.nextSequence, values⟩).outcome with
      | error error =>
          simp only [send, hcheck, hdelivery, houtcome]
          simp only [without, withdraw_comm]
      | ok done =>
          simp only [send, hcheck, hdelivery, houtcome]
          simp only [without, withdraw_register hne]

/-- **An action that does not concern a number does the same without what is registered under
it.** -/
theorem perform_without {d : Dispatcher τ κ} {a : Action τ κ} {n : UInt64}
    (h : ¬ d.Concerns a n) :
    ((d.without n).perform a).answer = (d.perform a).answer
      ∧ ((d.without n).perform a).dispatcher = (d.perform a).dispatcher.without n := by
  cases a with
  | send commands callback =>
      have hsend := send_without commands callback (Concerns.ne_of_accepted h)
      simp only [perform, hsend]
      exact ⟨rfl, rfl⟩
  | fix keepElements =>
      have hsend := send_without (fixCommands keepElements) none (Concerns.ne_of_accepted h)
      simp only [perform, fix, hsend]
      exact ⟨rfl, rfl⟩
  | results r =>
      have hne := Concerns.ne_of_results h
      obtain ⟨hanswer, hdispatcher⟩ := (d.without n).perform_results r
      obtain ⟨hanswer', hdispatcher'⟩ := d.perform_results r
      rw [hanswer, hanswer', hdispatcher, hdispatcher']
      constructor
      · simp only [firing, without, lookup_withdraw_of_ne hne]
      · simp only [without, withdraw_comm]
  | event data => exact ⟨rfl, rfl⟩
  | change effect => exact ⟨rfl, rfl⟩

/-- An action that does not concern a number leaves what is registered under it. -/
theorem lookup_perform {d : Dispatcher τ κ} {a : Action τ κ} {n : UInt64}
    (h : ¬ d.Concerns a n) :
    (d.perform a).dispatcher.pending.lookup n = d.pending.lookup n := by
  have htransition := d.transition_perform a
  generalize (d.perform a).answer = answer at htransition
  generalize (d.perform a).dispatcher = d' at htransition
  cases htransition with
  | rejected sends violates => rfl
  | delivered accepted taken =>
      have hne := Concerns.ne_of_accepted h (by rw [accepted]; rfl)
      exact lookup_register_of_ne hne _ _
  | undelivered accepted refused =>
      have hne := Concerns.ne_of_accepted h (by rw [accepted]; rfl)
      exact lookup_withdraw_of_ne hne _
  | ignored unclaimed => rfl
  | fired claimed => exact lookup_withdraw_of_ne (Concerns.ne_of_results h).symm _
  | event => rfl
  | change => rfl

theorem firing_perform {d : Dispatcher τ κ} {a : Action τ κ} {r : Results}
    (h : ¬ d.Concerns a r.sequence) : (d.perform a).dispatcher.firing r = d.firing r := by
  rw [firing, lookup_perform h, firing]

/-- **Results and an action that does not concern them change places.** -/
theorem results_change_places {d : Dispatcher τ κ} {a : Action τ κ} {r : Results}
    (h : ¬ d.Concerns a r.sequence) :
    d.after [.results r, a] = d.after [a, .results r]
      ∧ d.history [.results r, a]
          = [(.results r, .fired (d.firing r)), (a, (d.perform a).answer)]
      ∧ d.history [a, .results r]
          = [(a, (d.perform a).answer), (.results r, .fired (d.firing r))] := by
  obtain ⟨hanswer, hdispatcher⟩ := d.perform_results r
  obtain ⟨hanswer', hdispatcher'⟩ := perform_without h
  obtain ⟨hlate, hlast⟩ := (d.perform a).dispatcher.perform_results r
  refine ⟨?_, ?_, ?_⟩
  · show ((d.perform (.results r)).dispatcher.perform a).dispatcher
      = ((d.perform a).dispatcher.perform (.results r)).dispatcher
    rw [hdispatcher, hdispatcher', hlast]
  · simp only [history, hanswer, hdispatcher, hanswer']
  · simp only [history, hlate, firing_perform h]

/-! ## Any order -/

/-- Handing over results, and nothing else. -/
abbrev arrivals (rs : List Results) : List (Action τ κ) := rs.map .results

/-- **Results for different numbers run what was registered at first.** -/
theorem history_arrivals (d : Dispatcher τ κ) {rs : List Results}
    (distinct : (rs.map Results.sequence).Nodup) :
    d.history (arrivals rs) = rs.map fun r => (.results r, .fired (d.firing r)) := by
  induction rs generalizing d with
  | nil => rfl
  | cons r rs ih =>
      rw [List.map_cons, List.nodup_cons] at distinct
      have hrest : ∀ q ∈ rs, (d.perform (.results r)).dispatcher.firing q = d.firing q := by
        intro q hq
        refine firing_perform (not_concerns_results fun heq => distinct.1 ?_)
        exact heq ▸ List.mem_map_of_mem hq
      rw [arrivals, List.map_cons, history, ih _ distinct.2, (d.perform_results r).1,
        List.map_cons]
      congr 1
      exact List.map_congr_left fun q hq => by rw [hrest q hq]

/-- Results for different numbers leave the same behind in any order. -/
theorem after_arrivals_perm (d : Dispatcher τ κ) {rs rs' : List Results} (h : rs.Perm rs') :
    d.after (arrivals rs) = d.after (arrivals rs') := by
  refine (h.map Action.results).foldl_eq' ?_ d
  intro a ha b hb current
  obtain ⟨r, -, rfl⟩ := List.mem_map.1 ha
  obtain ⟨q, -, rfl⟩ := List.mem_map.1 hb
  rw [(current.perform_results r).2, (current.perform_results q).2,
    (Dispatcher.perform_results _ q).2, (Dispatcher.perform_results _ r).2]
  simp only [without, withdraw_comm]

/-- **The order in which results arrive is immaterial.** In every state two actions in a row, one of
which hands over results while the other does not concern them, may change places: the dispatcher
afterwards is the same, and so is the answer of each of the two, which says what callback it ran
with what results. So results for different numbers may be handed over in any order: the dispatcher
afterwards is the same, and the same callbacks run with the same results. -/
theorem arrival_order_immaterial (d : Dispatcher τ κ) :
    (∀ (r : Results) (a : Action τ κ), ¬ d.Concerns a r.sequence →
      d.after [.results r, a] = d.after [a, .results r]
        ∧ ∃ fired answer, d.history [.results r, a] = [(.results r, fired), (a, answer)]
          ∧ d.history [a, .results r] = [(a, answer), (.results r, fired)])
    ∧ ∀ rs rs' : List Results, rs.Perm rs' → (rs.map Results.sequence).Nodup →
        d.after (arrivals rs) = d.after (arrivals rs')
          ∧ d.history (arrivals rs) = rs.map (fun r => (.results r, .fired (d.firing r)))
          ∧ d.history (arrivals rs') = rs'.map (fun r => (.results r, .fired (d.firing r))) := by
  constructor
  · intro r a h
    obtain ⟨hafter, hfirst, hsecond⟩ := results_change_places h
    exact ⟨hafter, _, _, hfirst, hsecond⟩
  · intro rs rs' hperm distinct
    have distinct' : (rs'.map Results.sequence).Nodup :=
      (hperm.map Results.sequence).nodup_iff.1 distinct
    exact ⟨d.after_arrivals_perm hperm, d.history_arrivals distinct,
      d.history_arrivals distinct'⟩

/-- A dispatcher with two callbacks that wait, whose next delivery will fail. -/
def twoWaiting : Dispatcher Rehearsal Nat :=
  let fit : Command := .json (.array [.string "fun", .string "fit"])
  (new ⟨[], [.taken, .taken, .closed "gone"]⟩ {}).after
    [.send [fit] (some 7), .send [fit] (some 8)]

/-- Results change places with a send that fails, and three results, one of which nobody waits for,
come in another order. -/
theorem arrival_order_of_twoWaiting :
    let late : Results := ⟨1, [.null]⟩
    let early : Results := ⟨0, []⟩
    let stray : Results := ⟨2, []⟩
    let send : Action Rehearsal Nat :=
      .send [.json (.array [.string "fun", .string "fit"])] (some 9)
    ¬ twoWaiting.Concerns send late.sequence
      ∧ twoWaiting.after [.results late, send] = twoWaiting.after [send, .results late]
      ∧ twoWaiting.after (arrivals [late, stray, early])
          = twoWaiting.after (arrivals [early, late, stray])
      ∧ twoWaiting.history (arrivals [late, stray, early])
          = [(.results late, .fired (some (8, late))), (.results stray, .fired none),
            (.results early, .fired (some (7, early)))] := by
  intro late early stray send
  have hfree : ¬ twoWaiting.Concerns send late.sequence := by
    rintro (⟨r, hr, -⟩ | ⟨-, hnext⟩)
    · simp [send] at hr
    · exact absurd hnext (by decide)
  have hperm : [late, stray, early].Perm [early, late, stray] :=
    @List.perm_append_comm _ [late, stray] [early]
  obtain ⟨hswap, horder⟩ := arrival_order_immaterial twoWaiting
  obtain ⟨hafter, hhistory, -⟩ := horder _ _ hperm (by decide)
  exact ⟨hfree, (hswap late send hfree).1, hafter, hhistory⟩

end Dispatcher

end ViewLink
