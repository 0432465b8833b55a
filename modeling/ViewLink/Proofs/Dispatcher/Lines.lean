import ViewLink.Proofs.Dispatcher.Run
import ViewLink.Proofs.Transport.Pipe
import ViewLink.Proofs.Wire.RoundTrip
import ViewLink.Proofs.Wire.Torn

/-!
# What a relay makes of the bytes

A relay at the other end of a pipe splits what it gets at the newlines and tries to read each line
as a batch. The pipe may have failed anywhere and recovered later, so some lines hold the beginnings
of several batches, one behind the other, before a whole one. The relay refuses these, and the
batches it does read are batches that were sent, each at most once and in the order of their
numbers.

The invariant is `Framed`. It says of the bytes written so far that they are lines and a rest, that
the lines which can be read are the texts of some of the batches, in their order, and that the rest,
if there is one, begins with an opening bracket. The last part is what `Batch.read_torn` needs when
the line of the rest is ended by a whole batch.
-/

set_option autoImplicit false

namespace ViewLink

open Json (Value itemsFloats ReadsBack)

/-- Whether a line can be read as a batch. -/
def isBatch (line : Bytes) : Bool := (Batch.read line).isOk

/-- The batch begins with a bracket, and so does whatever is left of it. -/
def Begun (rest : Bytes) : Prop := rest = [] ∨ ∃ torn, rest = Ascii.openBracket :: torn

/-- **What has been written on behalf of these batches.** -/
def Framed (bs : List Batch) (written : Bytes) : Prop :=
  ∃ lines rest, Lined written lines rest ∧ Begun rest
    ∧ ∃ sent : List Batch, sent.Sublist bs ∧ lines.filter isBatch = sent.map Batch.bytes

theorem begun_append {rest taken : Bytes} {b : Batch} (h : Begun rest) (ht : taken <+: b.bytes) :
    Begun (rest ++ taken) := by
  rcases h with rfl | ⟨torn, rfl⟩
  · obtain ⟨later, hlater⟩ := ht
    cases taken with
    | nil => exact .inl rfl
    | cons c taken =>
        rw [Batch.bytes_eq] at hlater
        obtain ⟨rfl, -⟩ := List.cons.inj hlater
        exact .inr ⟨taken, rfl⟩
  · exact .inr ⟨torn ++ taken, rfl⟩

/-- Only a whole batch at the beginning of its line can be read. -/
theorem filter_isBatch_rest {rest : Bytes} (h : Begun rest) {b : Batch} (hb : b.Sendable) :
    ∃ sent : List Batch, sent.Sublist [b]
      ∧ [rest ++ b.bytes].filter isBatch = sent.map Batch.bytes := by
  rcases h with rfl | ⟨torn, rfl⟩
  · rw [List.nil_append]
    cases hread : isBatch b.bytes with
    | true => exact ⟨[b], List.Sublist.refl _, by simp [hread]⟩
    | false => exact ⟨[], List.nil_sublist _, by simp [hread]⟩
  · obtain ⟨fault, hfault⟩ := Batch.read_torn torn hb
    have hread : isBatch (Ascii.openBracket :: torn ++ b.bytes) = false := by
      rw [isBatch, hfault]
      rfl
    exact ⟨[], List.nil_sublist _, by simp only [List.filter_cons, hread]; rfl⟩

/-- **A delivery keeps the frame**, however much of its line it writes. -/
theorem Framed.deliver {bs : List Batch} {written taken : Bytes} {b : Batch}
    (h : Framed bs written) (hb : b.Sendable) (ht : taken <+: b.bytes ++ [Ascii.newline]) :
    Framed (bs ++ [b]) (written ++ taken) := by
  obtain ⟨lines, rest, hlined, hbegun, sent, hsent, hread⟩ := h
  rcases List.prefix_concat_iff.1 ht with rfl | ht
  -- The whole line is written, newline included, so it ends the line of the rest.
  · obtain ⟨more, hmore, hline⟩ := filter_isBatch_rest hbegun hb
    refine ⟨_, _, hlined.append_line (newline_not_mem_bytes b), .inl rfl, sent ++ more,
      hsent.append hmore, ?_⟩
    rw [List.filter_append, hread, hline, List.map_append]
  -- The line is cut before its newline and adds to the rest.
  · have hnewline : Ascii.newline ∉ taken := fun h => newline_not_mem_bytes b (ht.subset h)
    exact ⟨_, _, hlined.append hnewline, begun_append hbegun ht, sent,
      hsent.trans (List.sublist_append_left _ _), hread⟩

/-! ## Runs over a pipe -/

namespace Dispatcher

variable {κ : Type}

theorem framed_after {pipe : Pipe} (fresh : pipe.written = []) (config : Config)
    {actions : List (Action Pipe κ)}
    (keeps : ∀ f, .change f ∈ actions → ∀ p : Pipe, (f p).written = p.written) :
    Framed (batches actions) ((new (κ := κ) pipe config).after actions).transport.written := by
  have hsendable : ∀ b ∈ batches actions, b.Sendable := fun b hb => valid_of_mem_batches hb
  revert hsendable
  refine transport_after
    (P := fun bs (t : Pipe) => (∀ b ∈ bs, b.Sendable) → Framed bs t.written) config ?_ ?_ ?_
  · intro _
    rw [fresh]
    exact ⟨[], [], .nil, .inl rfl, [], List.Sublist.refl _, rfl⟩
  · intro bs t b hbs hsendable
    obtain ⟨hsendable, hb⟩ := List.forall_mem_append.1 hsendable
    obtain ⟨taken, htaken, hwritten, -⟩ := t.written_deliver b
    rw [hwritten]
    exact (hbs hsendable).deliver (hb b (by simp)) htaken
  · intro f hf bs t hbs
    rw [keeps f hf t]
    exact hbs

/-- Beginnings of batches, one behind the other, begin with a bracket. -/
theorem begun_flatten {torn : List Bytes} (h : ∀ t ∈ torn, ∃ a : Batch, t <+: a.bytes) :
    Begun torn.flatten := by
  induction torn using List.reverseRecOn with
  | nil => exact .inl rfl
  | append_singleton torn t ih =>
      rw [List.forall_mem_append] at h
      obtain ⟨a, ha⟩ := h.2 t (by simp)
      rw [List.flatten_append, List.flatten_singleton]
      exact begun_append (ih h.1) ha

/-- **No phantom, altered, repeated or reordered batch on the wire**, whatever the pipe does in
between. Of the lines that a run has written those that can be read are the texts of some of its
batches, in the order of their numbers, and each is read as the batch it is, at least if its floats
are. The number is right in any case. A line of one or more beginnings and a whole batch cannot be
read. -/
theorem readable_lines_of_run (pipe : Pipe) (fresh : pipe.written = []) (config : Config)
    (actions : List (Action Pipe κ))
    (keeps : ∀ f, .change f ∈ actions → ∀ p : Pipe, (f p).written = p.written) :
    (∃ sent : List Batch, sent.Sublist (batches actions)
      ∧ (linesOf ((new (κ := κ) pipe config).after actions).transport.written).filter isBatch
          = sent.map Batch.bytes
      ∧ (∀ b ∈ sent, b.Sendable ∧ ∃ r, Batch.read b.bytes = .ok r ∧ r.sequence = b.sequence
          ∧ ((∀ x ∈ itemsFloats b.commands, ReadsBack x) → r = b))
      ∧ ((accepted actions).length ≤ UInt64.size →
          sent.Pairwise fun b c => b.sequence < c.sequence))
    ∧ ∀ (torn : List Bytes) (b : Batch), torn ≠ [] →
        (∀ t ∈ torn, t ≠ [] ∧ ∃ a : Batch, t <+: a.bytes) → b.Sendable →
          ∃ fault, Batch.read (torn.flatten ++ b.bytes) = .error fault := by
  constructor
  · obtain ⟨lines, rest, hlined, -, sent, hsent, hread⟩ := framed_after fresh config keeps
    refine ⟨sent, hsent, by rw [hlined.linesOf_eq, hread], ?_,
      fun few => (pairwise_batches few).sublist hsent⟩
    intro b hb
    refine ⟨valid_of_mem_batches (hsent.subset hb), ?_⟩
    -- The line of the batch can be read, so its nesting is within the limit of the reader.
    have hmem : b.bytes ∈ lines.filter isBatch := hread ▸ List.mem_map_of_mem hb
    cases hr : Batch.read b.bytes with
    | error fault =>
        have hfalse := (List.mem_filter.1 hmem).2
        rw [isBatch, hr] at hfalse
        cases hfalse
    | ok r =>
        refine ⟨r, rfl, Batch.sequence_of_read hr, fun hfloats => ?_⟩
        rw [Batch.read_bytes hfloats, Json.within] at hr
        split at hr
        · cases hr
          rfl
        · cases hr
  · intro torn b hne htorn hb
    have hbegun := begun_flatten fun t ht => (htorn t ht).2
    rcases hbegun with hnil | ⟨more, hmore⟩
    -- There is something in front of the batch.
    · obtain ⟨t, ht⟩ := List.exists_mem_of_ne_nil torn hne
      exact absurd (List.flatten_eq_nil_iff.1 hnil t ht) (htorn t ht).1
    · rw [hmore]
      exact Batch.read_torn more hb

/-- A call of a function without arguments. -/
def fitCall : Value := .array [.string "fun", .string "fit"]

/-- The first batch is cut inside a string, the pipe recovers, and two more batches are sent. -/
def tornRun : List (Action Pipe Nat) :=
  [.send [.json fitCall] none, .change fun p => { p with room := none },
    .send [.json fitCall] (some 1), .send [.json fitCall] none]

theorem readable_lines_of_tornRun :
    let lines := linesOf ((new (κ := Nat) { room := some 9 } {}).after tornRun).transport.written
    lines.map isBatch = [false, true]
      ∧ (∃ sent : List Batch, sent.Sublist (batches tornRun)
          ∧ lines.filter isBatch = sent.map Batch.bytes
          ∧ (∀ b ∈ sent, Batch.read b.bytes = .ok b)
          ∧ sent.Pairwise fun b c => b.sequence < c.sequence)
      ∧ ∃ fault, Batch.read (Batch.bytes ⟨0, [fitCall]⟩ ++ Batch.bytes ⟨1, [fitCall]⟩)
          = .error fault := by
  have hkeeps : ∀ f, .change f ∈ tornRun → ∀ p : Pipe, (f p).written = p.written := by
    intro f hf p
    have hf : f = fun p => { p with room := none } := by simpa [tornRun] using hf
    rw [hf]
  have hfloats : ∀ b ∈ batches tornRun, itemsFloats b.commands = [] := by decide
  obtain ⟨⟨sent, hsent, hlines, hread, hincreasing⟩, htorn⟩ :=
    readable_lines_of_run { room := some 9 } rfl {} tornRun hkeeps
  refine ⟨by decide +kernel, ⟨sent, hsent, hlines, fun b hb => ?_, hincreasing (by decide)⟩, ?_⟩
  · obtain ⟨-, r, hr, -, hb'⟩ := hread b hb
    rw [hr, hb' (by simp [hfloats b (hsent.subset hb)])]
  · have hsendable : Batch.Sendable ⟨1, [fitCall]⟩ := by
      intro v hv
      obtain rfl := List.mem_singleton.1 hv
      exact .function (by simp)
    have h := htorn [Batch.bytes ⟨0, [fitCall]⟩] _ (by simp)
      (by simpa using ⟨by decide +kernel, _, List.prefix_refl _⟩) hsendable
    simpa using h

end Dispatcher

end ViewLink
