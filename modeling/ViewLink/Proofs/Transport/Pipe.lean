import Mathlib.Data.List.Induction
import ViewLink.Proofs.Json.Printed
import ViewLink.Proofs.Transport.Room

/-!
# What a pipe has taken

Whatever a pipe does in the course of a delivery, the bytes that it takes are the first ones of the
line that it was given, and the delivery succeeds only if they are all of it. Nothing that it has
taken before changes.

A relay at the other end sees these bytes as lines. `linesOf` are the lines that are ended; what
stands behind the last newline is not a line yet, but `unfinished`. The text of a batch holds no
newline, so a delivery ends one line at most.
-/

set_option autoImplicit false

namespace ViewLink

/-! ## Lines -/

/-- **The lines that are ended**, without their newlines. -/
def linesOf (bs : Bytes) : List Bytes := (bs.splitOn Ascii.newline).dropLast

/-- **What stands behind the last of them.** -/
def unfinished (bs : Bytes) : Bytes := (bs.splitOn Ascii.newline).getLastD []

/-- The bytes of these lines, each with its newline. -/
def joinLines (lines : List Bytes) : Bytes := lines.flatMap (· ++ [Ascii.newline])

/-- **The bytes are these lines**, each of them ended, **and this rest**, which is not. -/
structure Lined (bs : Bytes) (lines : List Bytes) (rest : Bytes) : Prop where
  /-- The lines and the rest, one after the other. -/
  eq_join : bs = joinLines lines ++ rest
  /-- A line ends at its first newline. -/
  newline_not_mem : ∀ line ∈ lines, Ascii.newline ∉ line
  /-- The rest is not ended. -/
  newline_not_mem_rest : Ascii.newline ∉ rest

namespace Lined

theorem nil : Lined [] [] [] := ⟨rfl, by simp, by simp⟩

/-- A split at the newlines finds the lines and the rest. -/
theorem splitOn_eq {bs rest : Bytes} {lines : List Bytes} (h : Lined bs lines rest) :
    bs.splitOn Ascii.newline = lines ++ [rest] := by
  obtain ⟨rfl, hlines, hrest⟩ := h
  induction lines with
  | nil => exact List.splitOn_eq_singleton hrest
  | cons line lines ih =>
      obtain ⟨hline, hlines⟩ := List.forall_mem_cons.1 hlines
      calc (joinLines (line :: lines) ++ rest).splitOn Ascii.newline
          = (line ++ Ascii.newline :: (joinLines lines ++ rest)).splitOn Ascii.newline := by
            simp [joinLines]
        _ = line :: (joinLines lines ++ rest).splitOn Ascii.newline :=
            List.splitOn_append_cons_self_of_not_mem hline _
        _ = line :: lines ++ [rest] := by rw [ih hlines, List.cons_append]

theorem linesOf_eq {bs rest : Bytes} {lines : List Bytes} (h : Lined bs lines rest) :
    linesOf bs = lines := by
  rw [linesOf, h.splitOn_eq, List.dropLast_concat]

theorem unfinished_eq {bs rest : Bytes} {lines : List Bytes} (h : Lined bs lines rest) :
    unfinished bs = rest := by
  rw [unfinished, h.splitOn_eq]
  simp

/-- Bytes without a newline go to the rest. -/
theorem append {bs rest more : Bytes} {lines : List Bytes} (h : Lined bs lines rest)
    (hmore : Ascii.newline ∉ more) : Lined (bs ++ more) lines (rest ++ more) := by
  refine ⟨by rw [h.eq_join, List.append_assoc], h.newline_not_mem, ?_⟩
  rw [List.mem_append, not_or]
  exact ⟨h.newline_not_mem_rest, hmore⟩

/-- A newline ends the line that the rest has begun. -/
theorem append_line {bs rest more : Bytes} {lines : List Bytes} (h : Lined bs lines rest)
    (hmore : Ascii.newline ∉ more) :
    Lined (bs ++ (more ++ [Ascii.newline])) (lines ++ [rest ++ more]) [] := by
  refine ⟨?_, ?_, by simp⟩
  · simp [h.eq_join, joinLines]
  · rw [List.forall_mem_append]
    exact ⟨h.newline_not_mem, by simpa using ⟨h.newline_not_mem_rest, hmore⟩⟩

/-- Bytes without a rest are empty or end with a newline. -/
theorem ended {bs : Bytes} {lines : List Bytes} (h : Lined bs lines []) :
    bs = [] ∨ ∃ before, bs = before ++ [Ascii.newline] := by
  have hbs : bs = joinLines lines := by
    rw [h.eq_join, List.append_nil]
  rcases List.eq_nil_or_concat lines with rfl | ⟨front, last, rfl⟩
  · left
    exact hbs
  · right
    exact ⟨joinLines front ++ last, by simp [hbs, joinLines]⟩

end Lined

/-- **All bytes are lines and a rest**, whatever they are. -/
theorem lined_linesOf (bs : Bytes) : Lined bs (linesOf bs) (unfinished bs) := by
  have hlined : ∃ lines rest, Lined bs lines rest := by
    -- By induction on the bytes, taken at their end, where a newline ends the rest.
    induction bs using List.reverseRecOn with
    | nil => exact ⟨[], [], .nil⟩
    | append_singleton bs c ih =>
        obtain ⟨lines, rest, h⟩ := ih
        by_cases hc : c = Ascii.newline
        · rw [hc]
          exact ⟨_, _, h.append_line (List.not_mem_nil (a := Ascii.newline))⟩
        · have hmore : Ascii.newline ∉ [c] := by simpa using Ne.symm hc
          exact ⟨_, _, h.append hmore⟩
  obtain ⟨lines, rest, h⟩ := hlined
  rw [h.linesOf_eq, h.unfinished_eq]
  exact h

theorem newline_not_mem_bytes (b : Batch) : Ascii.newline ∉ b.bytes := fun h =>
  absurd (Json.le_of_mem_bytes_text b.value Ascii.newline h) (by decide)

namespace Pipe

/-! ## Deliveries -/

/-- **A delivery of a batch writes the first bytes of its line**, and on success all of them. -/
theorem written_deliver (p : Pipe) (b : Batch) :
    ∃ taken, taken <+: b.bytes ++ [Ascii.newline]
      ∧ (Transport.deliver p b).transport.written = p.written ++ taken
      ∧ ((Transport.deliver p b).outcome = .ok () → taken = b.bytes ++ [Ascii.newline]) := by
  refine ⟨b.line.take (p.reach b.line.length), List.take_prefix _ _, ?_, fun hok => ?_⟩
  · rw [deliver_eq]
    rfl
  · rw [deliver_eq] at hok
    by_cases hwhole : p.reach b.line.length = b.line.length
    · rw [hwhole, List.take_length]
      rfl
    · simp only [if_neg hwhole] at hok
      cases hok

/-! ## Pipes that never fail

Such a pipe has room for all bytes, takes at least one of them with each write, and passes them on.
It may still take them in small portions and be interrupted in between. -/

/-- **The pipe never fails.** -/
structure Unfailing (p : Pipe) : Prop where
  /-- There is no limit to the bytes it takes. -/
  room : p.room = none
  /-- Each write may take a byte. -/
  portion : p.portion ≠ some 0
  /-- Flushing succeeds. -/
  flush : p.flushFails = false

namespace Unfailing

variable {p : Pipe}

/-- **A delivery through a pipe that never fails succeeds**, and the pipe stays as it is. -/
theorem deliver (h : p.Unfailing) (b : Batch) :
    (Transport.deliver p b).outcome = .ok () ∧ (Transport.deliver p b).transport.Unfailing := by
  have hreach : p.reach b.line.length = b.line.length := by
    rw [reach, if_neg h.portion, h.room]
    rfl
  rw [deliver_eq]
  refine ⟨by simp [hreach, h.flush], ⟨?_, h.portion, h.flush⟩⟩
  show p.room.map _ = none
  rw [h.room]
  rfl

end Unfailing

end Pipe

end ViewLink
