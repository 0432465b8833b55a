import ViewLink.Proofs.Transport.Pipe

/-!
# Pipes that fail and recover

A pipe may fail in the middle of a line and take bytes again later. Nothing is written in between
that would end the line, so the next batch continues it. A batch whose delivery succeeds has a line
of its own if and only if nothing unfinished stands in front of it (`acknowledged_line`). Otherwise
its text is the end of a line that begins with pieces of batches that were not delivered.

The reason is one step: a delivery ends the unfinished line with the text of its batch, or it adds
the beginning of this text to it (`lines_deliver`).

## Main definitions

* `Pipe.Event`, `Pipe.after` — what happens to a pipe, and where a history leads;
* `Pipe.Stops` — a delivery that ends within its line.
-/

set_option autoImplicit false

namespace ViewLink.Pipe

/-! ## Histories -/

/-- **What happens to a pipe.** -/
inductive Event where
  /-- A batch is delivered, or not. -/
  | delivery (batch : Batch)
  /-- The pipe changes by itself, as it does when it breaks or recovers. -/
  | change (effect : Pipe → Pipe)

/-- The pipe after an event. -/
def perform (p : Pipe) : Event → Pipe
  | .delivery batch => (Transport.deliver p batch).transport
  | .change effect => effect p

/-- **The pipe after a history.** -/
def after (p : Pipe) (history : List Event) : Pipe := history.foldl perform p

/-- **The delivery ends within its line**: it writes something, but not all of the text or not the
newline behind it. -/
def Stops (p : Pipe) (b : Batch) : Prop :=
  ∃ taken, taken ≠ [] ∧ taken <+: b.bytes
    ∧ (Transport.deliver p b).transport.written = p.written ++ taken

/-! ## One delivery -/

/-- **What a delivery makes of the lines.** Either it ends the unfinished line, or it leaves it
unfinished and fails. -/
theorem lines_deliver (p : Pipe) (b : Batch) :
    (linesOf (Transport.deliver p b).transport.written
        = linesOf p.written ++ [unfinished p.written ++ b.bytes]
      ∧ unfinished (Transport.deliver p b).transport.written = [])
    ∨ ((Transport.deliver p b).outcome ≠ .ok ()
      ∧ ((Transport.deliver p b).transport.written = p.written ∨ p.Stops b)) := by
  obtain ⟨taken, htaken, hwritten, hok⟩ := p.written_deliver b
  rcases List.prefix_concat_iff.1 htaken with hall | hcut
  · left
    have hlined := (lined_linesOf p.written).append_line (newline_not_mem_bytes b)
    rw [hwritten, hall]
    exact ⟨hlined.linesOf_eq, hlined.unfinished_eq⟩
  · right
    constructor
    · intro houtcome
      have hlength := hcut.length_le
      rw [hok houtcome, List.length_append, List.length_singleton] at hlength
      omega
    · by_cases hnil : taken = []
      · left
        rw [hwritten, hnil, List.append_nil]
      · right
        exact ⟨taken, hnil, hcut, hwritten⟩

/-- A delivery that does not end within its line leaves nothing unfinished that was not before. -/
theorem unfinished_deliver {p : Pipe} {b : Batch} (h : unfinished p.written = [])
    (whole : ¬ p.Stops b) : unfinished (Transport.deliver p b).transport.written = [] := by
  rcases p.lines_deliver b with ⟨-, hunfinished⟩ | ⟨-, hsame | hstops⟩
  · exact hunfinished
  · rw [hsame, h]
  · exact absurd hstops whole

/-! ## Histories of deliveries -/

/-- If no delivery of a history ends within its line, nothing is unfinished after it. -/
theorem unfinished_after {p : Pipe} (h : unfinished p.written = []) {history : List Event}
    (keeps : ∀ f, .change f ∈ history → ∀ p : Pipe, (f p).written = p.written)
    (whole : ∀ earlier b later, history = earlier ++ .delivery b :: later →
      ¬ (p.after earlier).Stops b) :
    unfinished (p.after history).written = [] := by
  induction history generalizing p with
  | nil => exact h
  | cons event history ih =>
      have hfirst : unfinished (p.perform event).written = [] := by
        cases event with
        | delivery b => exact unfinished_deliver h (whole [] b history rfl)
        | change f =>
            show unfinished (f p).written = []
            rw [keeps f (by simp) p, h]
      refine ih hfirst (fun f hf => keeps f (List.mem_cons_of_mem _ hf)) ?_
      rintro earlier b later rfl
      exact whole (event :: earlier) b later rfl

/-- **The line of a batch whose delivery succeeds**, whatever the pipe did before. It begins with
what was unfinished, so the batch has a line of its own if and only if nothing was, or a line with
the same text had been written already. After a history in which no delivery ended within its line
nothing is unfinished. -/
theorem acknowledged_line (pipe : Pipe) (fresh : pipe.written = []) (history : List Event)
    (keeps : ∀ f, .change f ∈ history → ∀ p : Pipe, (f p).written = p.written) (b : Batch)
    (acknowledged : (Transport.deliver (pipe.after history) b).outcome = .ok ()) :
    let before := (pipe.after history).written
    let written := (Transport.deliver (pipe.after history) b).transport.written
    linesOf written = linesOf before ++ [unfinished before ++ b.bytes]
      ∧ unfinished written = []
      ∧ (b.bytes ∈ linesOf written ↔ unfinished before = [] ∨ b.bytes ∈ linesOf before)
      ∧ ((∀ earlier c later, history = earlier ++ .delivery c :: later →
            ¬ (pipe.after earlier).Stops c) →
          b.bytes ∈ linesOf written) := by
  intro before written
  have hline : linesOf written = linesOf before ++ [unfinished before ++ b.bytes]
      ∧ unfinished written = [] := by
    rcases lines_deliver (pipe.after history) b with hends | ⟨hfails, -⟩
    · exact hends
    · exact absurd acknowledged hfails
  have hmem : b.bytes ∈ linesOf written ↔ unfinished before = [] ∨ b.bytes ∈ linesOf before := by
    rw [hline.1, List.mem_append, List.mem_singleton, List.self_eq_append_left]
    exact Or.comm
  refine ⟨hline.1, hline.2, hmem, fun whole => hmem.2 (.inl ?_)⟩
  have hfirst : unfinished pipe.written = [] := by
    rw [fresh]
    rfl
  exact unfinished_after hfirst keeps whole

/-- A batch with a call of a function without arguments. -/
def fitBatch (sequence : UInt64) : Batch := ⟨sequence, [.array [.string "fun", .string "fit"]]⟩

/-- A delivery is cut inside a string, and then the pipe recovers. -/
def tornHistory : List Event :=
  [.delivery (fitBatch 0), .change fun p => { p with room := none }]

theorem written_of_change_mem_tornHistory (f : Pipe → Pipe) (hf : .change f ∈ tornHistory)
    (p : Pipe) : (f p).written = p.written := by
  have hf : f = fun p => { p with room := none } := by simpa [tornHistory] using hf
  rw [hf]

/-- The next batch continues the line, and the one after it has its own again. -/
theorem acknowledged_line_of_tornHistory :
    let torn : Pipe := { room := some 9 }
    let glued := Transport.deliver (torn.after tornHistory) (fitBatch 1)
    let whole := Transport.deliver glued.transport (fitBatch 2)
    (glued.outcome = .ok () ∧ (fitBatch 1).bytes ∉ linesOf glued.transport.written)
      ∧ whole.outcome = .ok () ∧ (fitBatch 2).bytes ∈ linesOf whole.transport.written := by
  intro torn glued whole
  have hglued : glued.outcome = .ok () := by decide +kernel
  have hwhole : whole.outcome = .ok () := by decide +kernel
  have hsecond := acknowledged_line torn rfl tornHistory written_of_change_mem_tornHistory
    (fitBatch 1) hglued
  have hthird := acknowledged_line torn rfl (tornHistory ++ [Event.delivery (fitBatch 1)])
    (fun f hf => written_of_change_mem_tornHistory f (by simpa using hf)) (fitBatch 2) hwhole
  refine ⟨⟨hglued, fun hmem => ?_⟩, hwhole, hthird.2.2.1.2 (.inl hsecond.2.1)⟩
  have hbefore := hsecond.2.2.1.1 hmem
  revert hbefore
  decide +kernel

/-- **A batch may be lost although its delivery succeeds.** -/
theorem acknowledged_line_lost :
    ¬ ∀ (pipe : Pipe) (history : List Event) (b : Batch), pipe.written = [] →
      (∀ f, .change f ∈ history → ∀ p : Pipe, (f p).written = p.written) →
      (Transport.deliver (pipe.after history) b).outcome = .ok () →
        b.bytes ∈ linesOf (Transport.deliver (pipe.after history) b).transport.written := by
  intro h
  have hmem := h { room := some 9 } tornHistory (fitBatch 1) rfl
    written_of_change_mem_tornHistory (by decide +kernel)
  revert hmem
  decide +kernel

end ViewLink.Pipe
