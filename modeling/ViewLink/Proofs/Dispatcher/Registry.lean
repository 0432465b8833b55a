import Mathlib.Data.Set.Card
import ViewLink.Proofs.Dispatcher.Run
import ViewLink.Transport.Recorder

/-!
# Which callbacks wait

The dispatcher keeps its callbacks in a list that sends and results add to and take from. What the
list holds can be read off the history of the run alone: the callback of a send waits when its batch
was delivered and no results for its number have come since (`History.Awaits`).

The two agree after every run (`Agrees`). One fact carries the proof: a callback waits only under a
number that has been given away already, so the number of the next send is free, and what is
registered or withdrawn under it concerns no other send.
-/

set_option autoImplicit false

namespace ViewLink

open Json (Value)

variable {τ κ : Type}

/-! ## Histories -/

/-- **The actions of a run with their answers.** -/
abbrev History (τ κ : Type) := List (Action τ κ × Answer κ)

namespace History

/-- The number of sends that have passed validation. -/
def sends (h : History τ κ) : Nat := (accepted (h.map Prod.fst)).length

/-- **What comes after `h` is the send under this number**: it passes validation, as so many sends
did before. -/
def IsSend (h : History τ κ) (e : Action τ κ × Answer κ) (s : UInt64) : Prop :=
  e.1.accepted?.isSome ∧ h.sends = s.toNat

/-- The send under this number registers a callback, and its batch is delivered. -/
def Registers (h : History τ κ) (e : Action τ κ × Answer κ) (s : UInt64) (callback : κ) : Prop :=
  IsSend h e s ∧ e.1.callback? = some callback ∧ ∃ n, e.2 = .sent (.ok n)

/-- Results for this number arrive. -/
def Brings (e : Action τ κ × Answer κ) (s : UInt64) : Prop :=
  ∃ r, e.1 = .results r ∧ r.sequence = s

/-- **A callback waits for results under this number.** The send under the number has registered it,
its batch has been delivered, and no results for the number have arrived since. -/
def Awaits (h : History τ κ) (s : UInt64) (callback : κ) : Prop :=
  ∃ before e later, h = before ++ e :: later ∧ Registers before e s callback
    ∧ ∀ e' ∈ later, ¬ Brings e' s

theorem sends_concat (h : History τ κ) (e : Action τ κ × Answer κ) :
    sends (h ++ [e]) = h.sends + e.1.accepted?.toList.length := by
  rw [sends, List.map_append, List.map_singleton, accepted_concat, List.length_append, sends]

theorem sends_le_append (h h' : History τ κ) : h.sends ≤ sends (h ++ h') := by
  rw [sends, sends, List.map_append, accepted, accepted, List.filterMap_append,
    List.length_append]
  exact Nat.le_add_right _ _

/-- What waits after one more action: what has waited, unless its results have come, and what the
action registers. -/
theorem awaits_concat {h : History τ κ} {e : Action τ κ × Answer κ} {s : UInt64} {callback : κ} :
    Awaits (h ++ [e]) s callback
      ↔ Awaits h s callback ∧ ¬ Brings e s ∨ Registers h e s callback := by
  constructor
  · rintro ⟨before, x, later, heq, hreg, hlater⟩
    -- The send that registers it is the last entry, or the last entry comes after it.
    rcases List.eq_nil_or_concat later with rfl | ⟨later, y, rfl⟩
    · obtain ⟨rfl, hx⟩ := List.append_inj' heq rfl
      obtain rfl := List.head_eq_of_cons_eq hx
      exact .inr hreg
    · have heq' : h ++ [e] = (before ++ x :: later) ++ [y] := by rw [heq]; simp
      obtain ⟨rfl, hy⟩ := List.append_inj' heq' rfl
      obtain rfl := List.head_eq_of_cons_eq hy
      exact .inl ⟨⟨before, x, later, rfl, hreg, fun e' he' => hlater e' (by simp [he'])⟩,
        hlater e (by simp)⟩
  · rintro (⟨⟨before, x, later, rfl, hreg, hlater⟩, hnot⟩ | hreg)
    · refine ⟨before, x, later ++ [e], by simp, hreg, ?_⟩
      intro e' he'
      rcases List.mem_append.1 he' with he' | he'
      · exact hlater e' he'
      · rwa [List.mem_singleton.1 he']
    · exact ⟨h, e, [], rfl, hreg, by simp⟩

theorem awaits_concat_of_quiet {h : History τ κ} {e : Action τ κ × Answer κ} {s : UInt64}
    {callback : κ} (quiet : ¬ Brings e s) (silent : ¬ Registers h e s callback) :
    Awaits (h ++ [e]) s callback ↔ Awaits h s callback := by
  rw [awaits_concat]
  exact ⟨fun w => (w.resolve_right silent).1, fun w => .inl ⟨w, quiet⟩⟩

theorem not_brings_of_commands? {a : Action τ κ} {answer : Answer κ} {commands : List Command}
    (sends : a.commands? = some commands) (s : UInt64) : ¬ Brings (a, answer) s := by
  rintro ⟨r, rfl, -⟩
  cases sends

theorem not_brings_of_accepted? {a : Action τ κ} {answer : Answer κ} {values : List Value}
    (h : a.accepted? = some values) (s : UInt64) : ¬ Brings (a, answer) s := by
  obtain ⟨commands, sends, -⟩ := Action.accepted?_eq_some.1 h
  exact not_brings_of_commands? sends s

/-- Only a send that passes validation registers a callback. -/
theorem not_registers_of_accepted? {h : History τ κ} {a : Action τ κ} {answer : Answer κ}
    (hnone : a.accepted? = none) (s : UInt64) (callback : κ) :
    ¬ Registers h (a, answer) s callback := by
  rintro ⟨⟨hsome, -⟩, -⟩
  rw [hnone] at hsome
  cases hsome

/-- Only a send that is delivered registers a callback. -/
theorem not_registers_of_unsent {h : History τ κ} {a : Action τ κ} {answer : Answer κ}
    (unsent : ∀ n, answer ≠ .sent (.ok n)) (s : UInt64) (callback : κ) :
    ¬ Registers h (a, answer) s callback := by
  rintro ⟨-, -, n, hn⟩
  exact unsent n hn

theorem not_awaits_nil (s : UInt64) (callback : κ) : ¬ Awaits ([] : History τ κ) s callback := by
  rintro ⟨before, e, later, h, -⟩
  simp at h

theorem sends_concat_of_isSend {h : History τ κ} {e : Action τ κ × Answer κ} {s : UInt64}
    (send : IsSend h e s) : sends (h ++ [e]) = s.toNat + 1 := by
  obtain ⟨values, hvalues⟩ := Option.isSome_iff_exists.1 send.1
  rw [sends_concat, hvalues, send.2]
  rfl

theorem lt_sends_of_isSend {before later : History τ κ} {e : Action τ κ × Answer κ} {s : UInt64}
    (send : IsSend before e s) : s.toNat < sends (before ++ e :: later) := by
  have hle := sends_le_append (before ++ [e]) later
  rw [sends_concat_of_isSend send, List.append_assoc, List.singleton_append] at hle
  exact hle

/-- **A callback waits only under a number that has been given away.** -/
theorem Awaits.lt_sends {h : History τ κ} {s : UInt64} {callback : κ} (w : Awaits h s callback) :
    s.toNat < h.sends := by
  obtain ⟨before, e, later, rfl, hreg, -⟩ := w
  exact lt_sends_of_isSend hreg.1

/-! ### Results that nobody waits for -/

/-- **Why nobody waits for results under a number.** -/
inductive Unclaimed (h : History τ κ) (s : UInt64) : Prop where
  /-- No send has the number yet. -/
  | unassigned (future : h.sends ≤ s.toNat)
  /-- The send under the number has no callback. -/
  | uncalled {before later : History τ κ} {e : Action τ κ × Answer κ}
      (split : h = before ++ e :: later) (send : IsSend before e s) (none : e.1.callback? = none)
  /-- The batch under the number was not delivered. -/
  | undelivered {before later : History τ κ} {e : Action τ κ × Answer κ}
      (split : h = before ++ e :: later) (send : IsSend before e s)
      (failed : ∀ n, e.2 ≠ .sent (.ok n))
  /-- Results for the number have arrived since it was sent. -/
  | answered {before later : History τ κ} {e e' : Action τ κ × Answer κ}
      (split : h = before ++ e :: later) (send : IsSend before e s) (member : e' ∈ later)
      (brings : Brings e' s)

/-- **A number belongs to one send.** -/
theorem isSend_unique {before before' later later' : History τ κ}
    {e e' : Action τ κ × Answer κ} {s : UInt64} (send : IsSend before e s)
    (send' : IsSend before' e' s) (h : before ++ e :: later = before' ++ e' :: later') :
    before = before' ∧ e = e' ∧ later = later' := by
  -- If one of the two came first, the other would not have the same number of sends before it.
  rcases List.append_eq_append_iff.1 h with ⟨gap, hbefore, hgap⟩ | ⟨gap, hbefore, hgap⟩
  · cases gap with
    | nil =>
        obtain ⟨he, hlater⟩ := List.cons.inj hgap
        exact ⟨by simpa using hbefore.symm, he, hlater⟩
    | cons x gap =>
        obtain ⟨rfl, -⟩ := List.cons.inj hgap
        have hlt : s.toNat < before'.sends := hbefore ▸ lt_sends_of_isSend send
        exact absurd send'.2 (Nat.ne_of_gt hlt)
  · cases gap with
    | nil =>
        obtain ⟨he, hlater⟩ := List.cons.inj hgap
        exact ⟨by simpa using hbefore, he.symm, hlater.symm⟩
    | cons x gap =>
        obtain ⟨rfl, -⟩ := List.cons.inj hgap
        have hlt : s.toNat < before.sends := hbefore ▸ lt_sends_of_isSend send'
        exact absurd send.2 (Nat.ne_of_gt hlt)

theorem Unclaimed.not_awaits {h : History τ κ} {s : UInt64} (unclaimed : Unclaimed h s)
    (callback : κ) : ¬ h.Awaits s callback := by
  intro w
  cases unclaimed with
  | unassigned future => exact absurd w.lt_sends (Nat.not_lt.2 future)
  | uncalled split send none =>
      obtain ⟨before, e, later, rfl, ⟨send', hcallback, -⟩, -⟩ := w
      obtain ⟨-, rfl, -⟩ := isSend_unique send' send split
      rw [none] at hcallback
      cases hcallback
  | undelivered split send failed =>
      obtain ⟨before, e, later, rfl, ⟨send', -, n, hn⟩, -⟩ := w
      obtain ⟨-, rfl, -⟩ := isSend_unique send' send split
      exact failed n hn
  | answered split send member brings =>
      obtain ⟨before, e, later, rfl, ⟨send', -, -⟩, hlater⟩ := w
      obtain ⟨-, -, rfl⟩ := isSend_unique send' send split
      exact hlater _ member brings

/-! ### Results that ran a callback -/

/-- The number of the results with which an entry ran a callback. -/
def firedNumber? (e : Action τ κ × Answer κ) : Option UInt64 :=
  match e.2 with
  | .fired (some (_, r)) => some r.sequence
  | _ => none

/-- **The numbers of the results that ran a callback**, in their order. -/
def firedNumbers (h : History τ κ) : List UInt64 := h.filterMap firedNumber?

theorem firedNumbers_concat (h : History τ κ) (e : Action τ κ × Answer κ) :
    firedNumbers (h ++ [e]) = h.firedNumbers ++ (firedNumber? e).toList := by
  rw [firedNumbers, List.filterMap_append, firedNumbers]
  cases he : firedNumber? e <;> simp [he]

/-- **A number for which nobody waits any more**: it has been given away, and nobody waits. -/
def Spent (h : History τ κ) (s : UInt64) : Prop :=
  s.toNat < h.sends ∧ ∀ callback, ¬ h.Awaits s callback

/-- Once spent, a number stays so. -/
theorem Spent.concat {h : History τ κ} {s : UInt64} (spent : Spent h s)
    (e : Action τ κ × Answer κ) : Spent (h ++ [e]) s := by
  refine ⟨Nat.lt_of_lt_of_le spent.1 (sends_le_append h [e]), fun callback w => ?_⟩
  rcases awaits_concat.1 w with ⟨w, -⟩ | ⟨⟨-, hsends⟩, -⟩
  · exact spent.2 callback w
  -- The next send has a greater number.
  · exact absurd hsends (Nat.ne_of_gt spent.1)

end History

namespace Dispatcher

/-! ## The list of callbacks -/

theorem lookup_register {n s : UInt64} {callback : Option κ} {pending : List (UInt64 × κ)}
    (free : pending.lookup n = none) :
    (register n callback pending).lookup s = if s = n then callback else pending.lookup s := by
  cases callback with
  | none =>
      split
      · next h => rw [h]; exact free
      · rfl
  | some callback =>
      rw [register, List.lookup_append]
      by_cases h : s = n
      · rw [if_pos h, h, lookup_withdraw_self, Option.none_or, List.lookup_cons_self]
      · have hne : (s == n) = false := by simpa using h
        rw [if_neg h, lookup_withdraw_of_ne h, List.lookup_cons, hne, List.lookup_nil,
          Option.or_none]

theorem lookup_withdraw {n s : UInt64} {pending : List (UInt64 × κ)} :
    (withdraw n pending).lookup s = if s = n then none else pending.lookup s := by
  split
  · next h => rw [h, lookup_withdraw_self]
  · next h => rw [lookup_withdraw_of_ne h]

/-- Where nothing is registered nothing is withdrawn. -/
theorem withdraw_of_lookup_none {n : UInt64} {pending : List (UInt64 × κ)}
    (h : pending.lookup n = none) : withdraw n pending = pending := by
  refine List.filter_eq_self.2 fun entry hentry => ?_
  have hne : n ≠ entry.1 := by simpa using List.lookup_eq_none_iff.1 h entry hentry
  simpa using hne.symm

theorem nodup_withdraw {n : UInt64} {pending : List (UInt64 × κ)}
    (h : (pending.map Prod.fst).Nodup) : ((withdraw n pending).map Prod.fst).Nodup :=
  h.sublist (List.filter_sublist.map Prod.fst)

theorem nodup_register {n : UInt64} {callback : Option κ} {pending : List (UInt64 × κ)}
    (h : (pending.map Prod.fst).Nodup) :
    ((register n callback pending).map Prod.fst).Nodup := by
  cases callback with
  | none => exact h
  | some callback =>
      have hfresh : n ∉ (withdraw n pending).map Prod.fst := by
        intro hn
        obtain ⟨entry, hentry, rfl⟩ := List.mem_map.1 hn
        simpa using (List.mem_filter.1 hentry).2
      rw [register, List.map_append, List.map_singleton, ← List.concat_eq_append]
      exact (nodup_withdraw h).concat hfresh

/-! ## The list and the history -/

/-- **The list of callbacks says what the history says**, and it says it once. -/
structure Agrees (h : History τ κ) (d : Dispatcher τ κ) : Prop where
  /-- The next number counts the sends so far. -/
  next : d.nextSequence = UInt64.ofNat h.sends
  /-- A callback stands in the list when it waits. -/
  lookup : ∀ s callback, d.pending.lookup s = some callback ↔ h.Awaits s callback
  /-- Each number stands in the list at most once. -/
  nodup : (d.pending.map Prod.fst).Nodup

theorem agrees_new (transport : τ) (config : Config) :
    Agrees [] (new (κ := κ) transport config) := by
  refine ⟨rfl, fun s callback => ?_, List.nodup_nil⟩
  constructor
  · intro h
    cases h
  · intro h
    exact absurd h (History.not_awaits_nil s callback)

theorem Agrees.toNat_next {h : History τ κ} {d : Dispatcher τ κ} (agrees : Agrees h d)
    (few : h.sends < UInt64.size) : d.nextSequence.toNat = h.sends := by
  rw [agrees.next, UInt64.toNat_ofNat_of_lt' few]

/-- **Nobody waits under the number of the next send.** -/
theorem Agrees.not_awaits_next {h : History τ κ} {d : Dispatcher τ κ} (agrees : Agrees h d)
    (few : h.sends < UInt64.size) (callback : κ) : ¬ h.Awaits d.nextSequence callback := by
  intro w
  have hlt := w.lt_sends
  rw [agrees.toNat_next few] at hlt
  exact Nat.lt_irrefl _ hlt

theorem Agrees.lookup_next {h : History τ κ} {d : Dispatcher τ κ} (agrees : Agrees h d)
    (few : h.sends < UInt64.size) : d.pending.lookup d.nextSequence = none := by
  cases hlookup : d.pending.lookup d.nextSequence with
  | none => rfl
  | some callback =>
      exact absurd ((agrees.lookup _ _).1 hlookup) (agrees.not_awaits_next few callback)

section
variable {h : History τ κ} {d d' : Dispatcher τ κ} {a : Action τ κ} {answer : Answer κ}

/-- A delivery: its callback waits under the number of this send, where nobody waited before. -/
theorem Agrees.lookup_delivered (agrees : Agrees h d) (few : h.sends < UInt64.size)
    {values : List Value} (accepted : a.accepted? = some values) (s : UInt64) (callback : κ) :
    (register d.nextSequence a.callback? d.pending).lookup s = some callback
      ↔ History.Awaits (h ++ [(a, .sent (.ok d.nextSequence))]) s callback := by
  have hnext := agrees.toNat_next few
  rw [lookup_register (agrees.lookup_next few), History.awaits_concat]
  by_cases hs : s = d.nextSequence
  · subst hs
    rw [if_pos rfl]
    constructor
    · intro hcallback
      exact .inr ⟨⟨by rw [accepted]; rfl, hnext.symm⟩, hcallback, _, rfl⟩
    · rintro (⟨w, -⟩ | ⟨-, hcallback, -⟩)
      · exact absurd w (agrees.not_awaits_next few callback)
      · exact hcallback
  · rw [if_neg hs, agrees.lookup]
    constructor
    · intro w
      exact .inl ⟨w, History.not_brings_of_accepted? accepted s⟩
    · rintro (⟨w, -⟩ | ⟨⟨-, hsends⟩, -⟩)
      · exact w
      · exact absurd (UInt64.toNat.inj (hsends.symm.trans hnext.symm)) hs

/-- Results that run a callback: it waits no more, and the others wait on. -/
theorem Agrees.lookup_fired (agrees : Agrees h d) (results : Results) (s : UInt64)
    (callback : κ) :
    (withdraw results.sequence d.pending).lookup s = some callback
      ↔ History.Awaits (h ++ [(.results results, answer)]) s callback := by
  rw [lookup_withdraw, History.awaits_concat]
  by_cases hs : s = results.sequence
  · subst hs
    rw [if_pos rfl]
    constructor
    · intro hnone
      cases hnone
    · rintro (⟨-, hnot⟩ | hreg)
      · exact absurd ⟨results, rfl, rfl⟩ hnot
      · exact absurd hreg (History.not_registers_of_accepted? rfl _ callback)
  · rw [if_neg hs, agrees.lookup]
    constructor
    · intro w
      refine .inl ⟨w, ?_⟩
      rintro ⟨r, hr, rfl⟩
      cases hr
      exact hs rfl
    · rintro (⟨w, -⟩ | hreg)
      · exact w
      · exact absurd hreg (History.not_registers_of_accepted? rfl s callback)

variable [Transport τ]

theorem Agrees.next_step (agrees : Agrees h d) (transition : Transition d a answer d') :
    d'.nextSequence = UInt64.ofNat (History.sends (h ++ [(a, answer)])) := by
  rw [History.sends_concat]
  rcases transition.transport with ⟨values, hsome, hnext, -⟩ | ⟨hnone, hnext, -⟩
  · rw [hnext, agrees.next, hsome, UInt64.ofNat_add]
    rfl
  · rw [hnext, agrees.next, hnone]
    rfl

theorem Agrees.lookup_step (agrees : Agrees h d) (few : h.sends < UInt64.size)
    (transition : Transition d a answer d') (s : UInt64) (callback : κ) :
    d'.pending.lookup s = some callback ↔ History.Awaits (h ++ [(a, answer)]) s callback := by
  cases transition with
  | rejected sends violates =>
      rw [History.awaits_concat_of_quiet (History.not_brings_of_commands? sends s)
        (History.not_registers_of_unsent (fun n hn => by cases hn) s callback)]
      exact agrees.lookup s callback
  | delivered accepted taken => exact agrees.lookup_delivered few accepted s callback
  | undelivered accepted refused =>
      rw [lookup_withdraw, History.awaits_concat_of_quiet
        (History.not_brings_of_accepted? accepted s)
        (History.not_registers_of_unsent (fun n hn => by cases hn) s callback)]
      by_cases hs : s = d.nextSequence
      · -- Nothing is withdrawn: the number is new, and nobody waits under it.
        subst hs
        rw [if_pos rfl]
        constructor
        · intro hnone
          cases hnone
        · intro w
          exact absurd w (agrees.not_awaits_next few callback)
      · rw [if_neg hs]
        exact agrees.lookup s callback
  | @ignored results unclaimed =>
      rw [History.awaits_concat]
      constructor
      · intro hlookup
        refine .inl ⟨(agrees.lookup s callback).1 hlookup, ?_⟩
        rintro ⟨r, hr, rfl⟩
        cases hr
        rw [unclaimed] at hlookup
        cases hlookup
      · rintro (⟨w, -⟩ | hreg)
        · exact (agrees.lookup s callback).2 w
        · exact absurd hreg (History.not_registers_of_accepted? rfl s callback)
  | fired claimed => exact agrees.lookup_fired _ s callback
  | event =>
      rw [History.awaits_concat_of_quiet (by rintro ⟨r, hr, -⟩; cases hr)
        (History.not_registers_of_accepted? rfl s callback)]
      exact agrees.lookup s callback
  | change =>
      rw [History.awaits_concat_of_quiet (by rintro ⟨r, hr, -⟩; cases hr)
        (History.not_registers_of_accepted? rfl s callback)]
      exact agrees.lookup s callback

theorem Agrees.nodup_step (agrees : Agrees h d) (transition : Transition d a answer d') :
    (d'.pending.map Prod.fst).Nodup := by
  cases transition with
  | rejected sends violates => exact agrees.nodup
  | delivered accepted taken => exact nodup_register agrees.nodup
  | undelivered accepted refused => exact nodup_withdraw agrees.nodup
  | ignored unclaimed => exact agrees.nodup
  | fired claimed => exact nodup_withdraw agrees.nodup
  | event => exact agrees.nodup
  | change => exact agrees.nodup

/-- **One action keeps the agreement.** -/
theorem Agrees.step (agrees : Agrees h d) (few : h.sends < UInt64.size)
    (transition : Transition d a answer d') : Agrees (h ++ [(a, answer)]) d' :=
  ⟨agrees.next_step transition, agrees.lookup_step few transition, agrees.nodup_step transition⟩

end

theorem sends_history [Transport τ] (d : Dispatcher τ κ) (actions : List (Action τ κ)) :
    History.sends (d.history actions) = (accepted actions).length := by
  rw [History.sends, map_fst_history]

/-- **The list of callbacks agrees with the history after every run.** -/
theorem agrees_after [Transport τ] (transport : τ) (config : Config)
    (actions : List (Action τ κ)) (few : (accepted actions).length < UInt64.size) :
    Agrees ((new transport config).history actions) ((new transport config).after actions) := by
  induction actions using List.reverseRecOn with
  | nil => exact agrees_new transport config
  | append_singleton actions a ih =>
      have hfew : (accepted actions).length < UInt64.size :=
        Nat.lt_of_le_of_lt (length_accepted_le (List.prefix_append actions [a])) few
      rw [after_concat, history_concat]
      exact (ih hfew).step (by rwa [sends_history]) (transition_perform _ a)

/-! ## What a run says about its callbacks -/

theorem Agrees.isPending {h : History τ κ} {d : Dispatcher τ κ} (agrees : Agrees h d)
    (s : UInt64) : d.isPending s ↔ ∃ callback, h.Awaits s callback := by
  rw [Dispatcher.isPending, Option.isSome_iff_exists]
  exact exists_congr fun callback => agrees.lookup s callback

theorem Agrees.length_pending {h : History τ κ} {d : Dispatcher τ κ} (agrees : Agrees h d) :
    d.pending.length = {s | ∃ callback, h.Awaits s callback}.ncard := by
  -- No number stands in the list twice, so its length counts the numbers in it.
  have hset : {s | ∃ callback, h.Awaits s callback}
      = ((d.pending.map Prod.fst).toFinset : Set UInt64) := by
    ext s
    rw [Finset.mem_coe, List.mem_toFinset, List.mem_map]
    show (∃ callback, h.Awaits s callback) ↔ _
    rw [← agrees.isPending, Dispatcher.isPending, List.lookup_isSome_iff]
    refine exists_congr fun entry => and_congr_right fun _ => ?_
    rw [beq_iff_eq]
    exact eq_comm
  rw [hset, Set.ncard_coe_finset, List.toFinset_card_of_nodup agrees.nodup, List.length_map]

/-- An action that runs a callback leaves its number spent, and the number was not spent before. -/
theorem Agrees.spent_of_fired [Transport τ] {h : History τ κ} {d d' : Dispatcher τ κ}
    {a : Action τ κ} {answer : Answer κ} {s : UInt64} (agrees : Agrees h d)
    (transition : Transition d a answer d') (fired : History.firedNumber? (a, answer) = some s) :
    ¬ h.Spent s ∧ History.Spent (h ++ [(a, answer)]) s := by
  cases transition with
  | @fired results callback claimed =>
      obtain rfl : results.sequence = s := Option.some.inj fired
      have w : h.Awaits results.sequence callback := (agrees.lookup _ _).1 claimed
      refine ⟨fun spent => spent.2 callback w, ?_, fun other w' => ?_⟩
      · exact Nat.lt_of_lt_of_le w.lt_sends (History.sends_le_append h _)
      · rcases History.awaits_concat.1 w' with ⟨-, hnot⟩ | hreg
        · exact hnot ⟨results, rfl, rfl⟩
        · exact History.not_registers_of_accepted? rfl _ other hreg
  | _ => cases fired

/-- **Numbers under which a callback has been run are spent**, and none comes twice. -/
theorem firedNumbers_after [Transport τ] (transport : τ) (config : Config)
    (actions : List (Action τ κ)) (few : (accepted actions).length < UInt64.size) :
    (History.firedNumbers ((new transport config).history actions)).Nodup
      ∧ ∀ s ∈ History.firedNumbers ((new transport config).history actions),
          History.Spent ((new transport config).history actions) s := by
  induction actions using List.reverseRecOn with
  | nil => exact ⟨List.nodup_nil, by simp [History.firedNumbers, history]⟩
  | append_singleton actions a ih =>
      have hfew : (accepted actions).length < UInt64.size :=
        Nat.lt_of_le_of_lt (length_accepted_le (List.prefix_append actions [a])) few
      obtain ⟨hnodup, hspent⟩ := ih hfew
      have hagrees := agrees_after (κ := κ) transport config actions hfew
      have htransition := transition_perform ((new transport config).after actions) a
      rw [history_concat, History.firedNumbers_concat]
      cases hfired : History.firedNumber?
          (a, (((new transport config).after actions).perform a).answer) with
      | none =>
          rw [Option.toList_none, List.append_nil]
          exact ⟨hnodup, fun s hs => (hspent s hs).concat _⟩
      -- The number that comes up was not spent until now, so it is none of those before.
      | some n =>
          obtain ⟨hnot, hn⟩ := hagrees.spent_of_fired htransition hfired
          rw [Option.toList_some, ← List.concat_eq_append]
          refine ⟨hnodup.concat fun hmem => hnot (hspent n hmem), fun s hs => ?_⟩
          rcases List.mem_append.1 (List.concat_eq_append ▸ hs) with hs | hs
          · exact (hspent s hs).concat _
          · rwa [List.mem_singleton.1 hs]

theorem brings_of_firedNumber? [Transport τ] {d d' : Dispatcher τ κ} {a : Action τ κ}
    {answer : Answer κ} {s : UInt64} (transition : Transition d a answer d')
    (fired : History.firedNumber? (a, answer) = some s) : History.Brings (a, answer) s := by
  cases transition with
  | @fired results callback claimed => exact ⟨results, rfl, Option.some.inj fired⟩
  | _ => cases fired

/-- What results come to: they run the callback that waits for them, and without one nothing
happens. -/
theorem Agrees.results [Transport τ] {h : History τ κ} {d : Dispatcher τ κ} (agrees : Agrees h d)
    (r : Results) :
    ∃ firing, (d.perform (.results r)).answer = .fired firing
      ∧ (firing.isSome ↔ d.isPending r.sequence)
      ∧ (∀ callback r', firing = some (callback, r') ↔ h.Awaits r.sequence callback ∧ r' = r)
      ∧ (firing = none → (d.perform (.results r)).dispatcher = d) := by
  have hlookup := agrees.lookup r.sequence
  cases hfound : d.pending.lookup r.sequence with
  | none =>
      refine ⟨none, ?_, ?_, ?_, ?_⟩
      · simp only [perform, receiveResults, hfound]
        rfl
      · simp [Dispatcher.isPending, hfound]
      · intro callback r'
        rw [← hlookup, hfound]
        simp
      · intro _
        simp only [perform, receiveResults, hfound]
        rfl
  | some claimer =>
      refine ⟨some (claimer, r), ?_, ?_, ?_, ?_⟩
      · simp only [perform, receiveResults, hfound]
        rfl
      · simp [Dispatcher.isPending, hfound]
      · intro callback r'
        rw [← hlookup, hfound, Option.some.injEq, Option.some.injEq, Prod.mk.injEq]
        exact and_congr_right fun _ => eq_comm
      · intro hnone
        cases hnone

/-- **The registry of callbacks over whole runs.** After every part of a run a number is pending
exactly when its callback waits, and the list is as long as there are such numbers. Results run the
callback that waits for them, with these results, and no other; results that nobody waits for change
nothing. And no number comes up twice among the results that run a callback. -/
theorem registry_of_run [Transport τ] (transport : τ) (config : Config)
    (actions : List (Action τ κ)) (few : (accepted actions).length < UInt64.size) :
    let first : Dispatcher τ κ := new transport config
    (∀ before, before <+: actions →
      (∀ s, (first.after before).isPending s
          ↔ ∃ callback, History.Awaits (first.history before) s callback)
        ∧ (first.after before).pending.length
          = {s | ∃ callback, History.Awaits (first.history before) s callback}.ncard)
    ∧ (∀ before r later, actions = before ++ .results r :: later →
        ∃ firing, (first.history actions)[before.length]? = some (.results r, .fired firing)
          ∧ (firing.isSome ↔ (first.after before).isPending r.sequence)
          ∧ (∀ callback r', firing = some (callback, r')
              ↔ History.Awaits (first.history before) r.sequence callback ∧ r' = r)
          ∧ (History.Unclaimed (first.history before) r.sequence →
              firing = none ∧ first.after (before ++ [.results r]) = first.after before))
    ∧ (∀ e ∈ first.history actions, ∀ s, History.firedNumber? e = some s → History.Brings e s)
    ∧ (History.firedNumbers (first.history actions)).Nodup := by
  intro first
  have hfew : ∀ before, before <+: actions → (accepted before).length < UInt64.size :=
    fun before h => Nat.lt_of_le_of_lt (length_accepted_le h) few
  have hagrees : ∀ before, before <+: actions →
      Agrees (first.history before) (first.after before) :=
    fun before h => agrees_after transport config before (hfew before h)
  refine ⟨?_, ?_, ?_, (firedNumbers_after transport config actions few).1⟩
  · intro before h
    exact ⟨(hagrees before h).isPending, (hagrees before h).length_pending⟩
  · rintro before r later rfl
    obtain ⟨firing, hanswer, hpending, hfiring, hnone⟩ :=
      (hagrees before (List.prefix_append _ _)).results r
    refine ⟨firing, ?_, hpending, hfiring, fun unclaimed => ?_⟩
    · rw [getElem?_history, hanswer]
    · have hunfired : firing = none := by
        cases firing with
        | none => rfl
        | some f => exact absurd ((hfiring f.1 f.2).1 rfl).1 (unclaimed.not_awaits f.1)
      refine ⟨hunfired, ?_⟩
      rw [after_concat]
      exact hnone hunfired
  · intro e he s fired
    obtain ⟨d₁, d₂, htransition⟩ := transition_of_mem_history he
    exact brings_of_firedNumber? htransition fired

/-- Two batches with callbacks, the second of which is not delivered. Results for the first come
before it is sent and twice afterwards, results for the second come too. -/
def answeredRun : List (Action Rehearsal Nat) :=
  let fit : Command := .json (.array [.string "fun", .string "fit"])
  [.results ⟨0, []⟩, .send [fit] (some 7), .send [fit] (some 8), .results ⟨0, []⟩,
    .results ⟨0, []⟩, .results ⟨1, []⟩]

theorem registry_of_answeredRun :
    (accepted answeredRun).length < UInt64.size
      ∧ History.firedNumbers
          ((new ⟨[], [.taken, .closed "gone"]⟩ {}).history answeredRun) = [0]
      ∧ (History.firedNumbers
          ((new ⟨[], [.taken, .closed "gone"]⟩ {}).history answeredRun)).Nodup
      ∧ ∃ callback, History.Awaits
          ((new ⟨[], [.taken, .closed "gone"]⟩ {}).history (answeredRun.take 2)) 0 callback := by
  have h := registry_of_run ⟨[], [.taken, .closed "gone"]⟩ {} answeredRun (by decide)
  exact ⟨by decide, by decide, h.2.2.2, ((h.1 _ (List.take_prefix 2 _)).1 0).1 rfl⟩

end Dispatcher

end ViewLink
