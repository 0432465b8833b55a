import ViewLink.Transport.Basic

/-!
# Pipes

A pipe is a transport that carries each batch as a line of text: the JSON of the batch, a newline,
and then everything is flushed, so that a relay at the other end can pass the line on at once.

The pipe takes bytes write by write, and a write may take fewer bytes than it was given, or be
interrupted and have to be repeated. It may also run full. All this is part of the pipe's value
here, with the bytes that it has taken so far. `writeAll` goes on until all bytes are taken or the
pipe takes no more; every write it repeats uses up an interruption and every other one takes a byte,
so it ends.

## Main definitions

* `Pipe`, `Pipe.write` — a pipe and one write to it;
* `Pipe.writeAll`, `Pipe.flush` — all bytes, and what follows them;
* `Pipe.deliver` — a batch as a line.
-/

set_option autoImplicit false

namespace ViewLink

/-! ## Pipes and writes -/

/-- **A pipe**: the bytes it has taken and how it takes more. -/
structure Pipe where
  /-- The bytes taken so far. -/
  written : Bytes := []
  /-- The number of bytes it still takes, if there is a limit. -/
  room : Option Nat := none
  /-- The most bytes that one write takes, if there is a limit. -/
  portion : Option Nat := none
  /-- Whether a full pipe takes nothing instead of being broken. -/
  idlesWhenFull : Bool := false
  /-- The number of writes that will be interrupted first. -/
  interruptions : Nat := 0
  /-- Whether flushing fails. -/
  flushFails : Bool := false
  deriving DecidableEq, Repr, Inhabited

namespace Pipe

/-- **What comes of one write.** -/
inductive Attempt where
  /-- The write was interrupted and has to be repeated. -/
  | interrupted
  /-- So many bytes were taken. -/
  | took (count : Nat)
  /-- The pipe is broken. -/
  | broke
  deriving DecidableEq, Repr

/-- A number under a limit. -/
def atMost (limit : Option Nat) (n : Nat) : Nat :=
  match limit with
  | none => n
  | some most => min most n

/-- The number of bytes that a write of `n` bytes takes. -/
def share (p : Pipe) (n : Nat) : Nat := atMost p.room (atMost p.portion n)

/-- **One write.** -/
def write (p : Pipe) (bs : Bytes) : Attempt × Pipe :=
  let count := p.share bs.length
  if 0 < p.interruptions then
    (.interrupted, { p with interruptions := p.interruptions - 1 })
  else if count = 0 then (if p.idlesWhenFull then .took 0 else .broke, p)
  else
    (.took count,
      { p with written := p.written ++ bs.take count, room := p.room.map (· - count) })

theorem interruptions_write_lt {p q : Pipe} {bs : Bytes} (h : p.write bs = (.interrupted, q)) :
    q.interruptions < p.interruptions := by
  simp only [write] at h
  split at h
  · obtain ⟨-, rfl⟩ := Prod.mk.inj h
    simp only
    omega
  · split at h
    · split at h <;> simp at h
    · simp at h

theorem interruptions_write_took {p q : Pipe} {bs : Bytes} {n : Nat}
    (h : p.write bs = (.took n, q)) : q.interruptions = p.interruptions := by
  simp only [write] at h
  split at h
  · simp at h
  · split at h
    · obtain ⟨-, rfl⟩ := Prod.mk.inj h
      rfl
    · obtain ⟨-, rfl⟩ := Prod.mk.inj h
      rfl

/-! ## Whole lines -/

/-- **Writes all bytes**, or as many as the pipe takes. -/
def writeAll (p : Pipe) (bs : Bytes) : Except ChannelFault Unit × Pipe :=
  if bs = [] then (.ok (), p)
  else match h : p.write bs with
    | (.interrupted, q) => q.writeAll bs
    | (.broke, q) => (.error .gone, q)
    | (.took 0, q) => (.error .stuck, q)
    | (.took (n + 1), q) => q.writeAll (bs.drop (n + 1))
termination_by bs.length + p.interruptions
decreasing_by
  · have := interruptions_write_lt h
    omega
  · have := interruptions_write_took h
    have : bs.length ≠ 0 := by simpa using ‹¬bs = []›
    simp only [List.length_drop]
    omega

/-- Passes the bytes on, or fails to. -/
def flush (p : Pipe) : Except ChannelFault Unit :=
  if p.flushFails then .error .unflushed else .ok ()

/-- Writes a text and the end of its line, and flushes. The first failure ends it. -/
def writeLine (p : Pipe) (text : Bytes) : Except ChannelFault Unit × Pipe :=
  match p.writeAll text with
  | (.error fault, p) => (.error fault, p)
  | (.ok (), p) =>
    match p.writeAll [Ascii.newline] with
    | (.error fault, p) => (.error fault, p)
    | (.ok (), p) => (p.flush, p)

/-! ## Deliveries -/

/-- The part of the library that log events about pipes come from. -/
def logTarget : String := "cytobridge::transport"

/-- The log event before a batch is written. -/
def writingEvent (batch : Batch) : Log.Event :=
  ⟨.debug, logTarget, "writing command batch",
    [("sequence", .count batch.sequence.toNat), ("payload_bytes", .count batch.bytes.length)]⟩

/-- **Delivers a batch as a line.** -/
def deliver (p : Pipe) (batch : Batch) : Delivery Pipe :=
  match p.writeLine batch.bytes with
  | (.ok (), p) => ⟨p, .ok (), [writingEvent batch]⟩
  | (.error fault, p) => ⟨p, .error (.channel batch.sequence fault), [writingEvent batch]⟩

instance : Transport Pipe := ⟨deliver⟩

end Pipe

end ViewLink
