import ViewLink.Transport.Pipe

/-!
# Room for a line

A line goes out in many writes, and a pipe may take it in portions of any size and interrupt the
writes as often as it likes. None of this shows in the end. How much of the line the pipe has taken
depends on the room that was left in it, and whether the delivery succeeded depends on that and on
the flush (`deliver_by_room`).

The writes are followed once, by recursion on the attempts (`writeAll_eq`): together they take the
front part of the bytes for which there is room. Text and newline are two such sequences of writes,
and they take what one sequence would take of the whole line (`writeLine_eq`), also if the room ends
between the two.

## Main definitions

* `Pipe.reach` — how many bytes the pipe takes in the end;
* `Pipe.taking` — the pipe after it has taken some bytes;
* `Pipe.fullFault` — how a pipe without room fails.
-/

set_option autoImplicit false

namespace ViewLink

/-- **The line of a batch**: its text and a newline. -/
def Batch.line (b : Batch) : Bytes := b.bytes ++ [Ascii.newline]

namespace Pipe

/-! ## Limits -/

theorem atMost_le (limit : Option Nat) (n : Nat) : atMost limit n ≤ n := by
  cases limit with
  | none => exact Nat.le_refl n
  | some most => exact Nat.min_le_right most n

theorem atMost_le_atMost (limit : Option Nat) {m n : Nat} (h : m ≤ n) :
    atMost limit m ≤ atMost limit n := by
  cases limit with
  | none => exact h
  | some most =>
      exact Nat.le_min.2 ⟨Nat.min_le_left most m, Nat.le_trans (Nat.min_le_right most m) h⟩

theorem atMost_eq_zero {limit : Option Nat} {n : Nat} :
    atMost limit n = 0 ↔ limit = some 0 ∨ n = 0 := by
  cases limit with
  | none => simp [atMost]
  | some most =>
      rw [Option.some.injEq]
      exact Nat.min_eq_zero_iff

/-- A number is under a limit if the limit is not below it. -/
theorem atMost_eq_self {limit : Option Nat} {n : Nat} :
    atMost limit n = n ↔ ∀ most, limit = some most → n ≤ most := by
  cases limit with
  | none => simp [atMost]
  | some most =>
      simp only [atMost, Option.some.injEq, forall_eq']
      omega

/-! ## How far the room goes -/

/-- **The number of bytes that the pipe takes in the end** of so many. A pipe whose writes take no
byte at all never takes one. -/
def reach (p : Pipe) (n : Nat) : Nat := if p.portion = some 0 then 0 else atMost p.room n

/-- **The pipe after it has taken these bytes.** All interruptions are over by then. -/
def taking (p : Pipe) (bs : Bytes) : Pipe :=
  { p with written := p.written ++ bs, room := p.room.map (· - bs.length), interruptions := 0 }

/-- **How the pipe fails when it takes no more.** -/
def fullFault (p : Pipe) : ChannelFault := if p.idlesWhenFull then .stuck else .gone

theorem reach_le (p : Pipe) (n : Nat) : p.reach n ≤ n := by
  rw [reach]
  split
  · exact Nat.zero_le n
  · exact atMost_le p.room n

theorem reach_le_reach (p : Pipe) {m n : Nat} (h : m ≤ n) : p.reach m ≤ p.reach n := by
  unfold reach
  split
  · exact Nat.le_refl 0
  · exact atMost_le_atMost p.room h

theorem share_le_reach (p : Pipe) (n : Nat) : p.share n ≤ p.reach n := by
  rw [reach]
  split
  · next hportion =>
      have hshare : p.share n = 0 := atMost_eq_zero.2 (.inr (atMost_eq_zero.2 (.inl hportion)))
      exact Nat.le_of_eq hshare
  · exact atMost_le_atMost p.room (atMost_le p.portion n)

/-- A write that takes nothing has found no room. -/
theorem reach_of_share {p : Pipe} {n : Nat} (h : p.share n = 0) : p.reach n = 0 := by
  rw [reach]
  split
  · rfl
  · next hportion =>
      rcases atMost_eq_zero.1 h with hroom | hn
      · exact atMost_eq_zero.2 (.inl hroom)
      · exact atMost_eq_zero.2 (.inr ((atMost_eq_zero.1 hn).resolve_left hportion))

/-- More bytes than there is room for change nothing. -/
theorem reach_add_of_lt {p : Pipe} {n : Nat} (h : p.reach n < n) (m : Nat) :
    p.reach (n + m) = p.reach n := by
  unfold reach at h ⊢
  split
  · rfl
  · next hportion =>
      rw [if_neg hportion] at h
      cases hroom : p.room with
      | none =>
          rw [hroom] at h
          exact absurd h (Nat.lt_irrefl n)
      | some most =>
          rw [hroom] at h
          simp only [atMost] at h ⊢
          omega

/-- Bytes before others use up the room that they take. -/
theorem reach_taking (p : Pipe) (bs : Bytes) (n : Nat) :
    (p.taking bs).reach n = p.reach (bs.length + n) - bs.length := by
  by_cases hportion : p.portion = some 0
  · simp [reach, taking, hportion]
  · cases hroom : p.room with
    | none => simp [reach, taking, hportion, hroom, atMost]
    | some most =>
        simp only [reach, taking, if_neg hportion, hroom, Option.map_some, atMost]
        omega

theorem taking_nil {p : Pipe} (h : p.interruptions = 0) : p.taking [] = p := by
  cases p
  cases h
  simp [taking]

/-- A pipe that has no share for a write has none for the rest of the bytes. -/
theorem stopped_of_share {p : Pipe} {bs : Bytes} (hbs : bs ≠ []) (hshare : p.share bs.length = 0)
    (hnone : p.interruptions = 0) :
    p.reach bs.length ≠ bs.length ∧ p.taking (bs.take (p.reach bs.length)) = p := by
  rw [reach_of_share hshare, List.take_zero]
  exact ⟨Ne.symm (mt List.length_eq_zero_iff.1 hbs), taking_nil hnone⟩

theorem taking_taking (p : Pipe) (xs ys : Bytes) :
    (p.taking xs).taking ys = p.taking (xs ++ ys) := by
  have hroom : (p.room.map (· - xs.length)).map (· - ys.length)
      = p.room.map (· - (xs ++ ys).length) := by
    have hsub : (· - ys.length) ∘ (· - xs.length) = fun most => most - (xs.length + ys.length) :=
      funext fun most => Nat.sub_sub most xs.length ys.length
    rw [Option.map_map, List.length_append, hsub]
  simp only [taking, hroom, List.append_assoc]

/-! ## One write -/

/-- **All that a write can do.** Interruptions come first. After them a write takes its share, and a
pipe that has none for it stays as it is. -/
theorem write_spec (p : Pipe) (bs : Bytes) :
    match p.write bs with
    | (.interrupted, q) => q = { p with interruptions := p.interruptions - 1 }
    | (.broke, q) => p.idlesWhenFull = false ∧ p.share bs.length = 0 ∧ p.interruptions = 0 ∧ q = p
    | (.took 0, q) => p.idlesWhenFull = true ∧ p.share bs.length = 0 ∧ p.interruptions = 0 ∧ q = p
    | (.took (n + 1), q) => n + 1 = p.share bs.length ∧ q = p.taking (bs.take (n + 1)) := by
  by_cases hinterrupted : 0 < p.interruptions
  · have hwrite : p.write bs
        = (.interrupted, { p with interruptions := p.interruptions - 1 }) := by
      simp only [write, if_pos hinterrupted]
    rw [hwrite]
  · have hnone : p.interruptions = 0 := Nat.eq_zero_of_not_pos hinterrupted
    cases hshare : p.share bs.length with
    | zero =>
        cases hidle : p.idlesWhenFull with
        | false =>
            have hwrite : p.write bs = (.broke, p) := by
              simp [write, hnone, hshare, hidle]
            rw [hwrite]
            exact ⟨rfl, rfl, hnone, rfl⟩
        | true =>
            have hwrite : p.write bs = (.took 0, p) := by
              simp [write, hnone, hshare, hidle]
            rw [hwrite]
            exact ⟨rfl, rfl, hnone, rfl⟩
    | succ n =>
        have hlength : (bs.take (n + 1)).length = n + 1 := by
          have hle := Nat.le_trans (p.share_le_reach bs.length) (p.reach_le bs.length)
          rw [List.length_take]
          omega
        have hwrite : p.write bs = (.took (n + 1), p.taking (bs.take (n + 1))) := by
          simp [write, taking, hnone, hshare, hlength]
        rw [hwrite]
        exact ⟨rfl, rfl⟩

/-! ## Whole texts -/

/-- **All writes of some bytes together** take the front part for which there is room. They succeed
if this is all of it. Without a byte to write there is no write that could be interrupted. -/
theorem writeAll_eq (p : Pipe) (bs : Bytes) (h : bs ≠ [] ∨ p.interruptions = 0) :
    p.writeAll bs = (if p.reach bs.length = bs.length then .ok () else .error p.fullFault,
      p.taking (bs.take (p.reach bs.length))) := by
  -- By recursion on the attempts. An interruption leaves the reach as it is, a pipe that takes
  -- nothing has none, and bytes that are taken are the first ones that it reaches.
  fun_induction writeAll p bs with
  | case1 p =>
      have hreach : p.reach 0 = 0 := Nat.eq_zero_of_le_zero (p.reach_le 0)
      simp [hreach, taking_nil (h.resolve_left fun hne => hne rfl)]
  | case2 p bs hbs q hwrite ih =>
      have hspec := p.write_spec bs
      rw [hwrite] at hspec
      obtain rfl := hspec
      exact ih (.inl hbs)
  | case3 p bs hbs q hwrite =>
      have hspec := p.write_spec bs
      rw [hwrite] at hspec
      obtain ⟨hidle, hshare, hnone, rfl⟩ := hspec
      obtain ⟨hreach, htaking⟩ := stopped_of_share hbs hshare hnone
      rw [if_neg hreach, htaking, fullFault, hidle]
      rfl
  | case4 p bs hbs q hwrite =>
      have hspec := p.write_spec bs
      rw [hwrite] at hspec
      obtain ⟨hidle, hshare, hnone, rfl⟩ := hspec
      obtain ⟨hreach, htaking⟩ := stopped_of_share hbs hshare hnone
      rw [if_neg hreach, htaking, fullFault, hidle]
      rfl
  | case5 p bs hbs n q hwrite ih =>
      have hspec := p.write_spec bs
      rw [hwrite] at hspec
      obtain ⟨hn, rfl⟩ := hspec
      have hreach : n + 1 ≤ p.reach bs.length := hn ▸ p.share_le_reach bs.length
      have hle := p.reach_le bs.length
      have hlength : (bs.take (n + 1)).length = n + 1 := by
        rw [List.length_take]
        omega
      have hrest : (p.taking (bs.take (n + 1))).reach (bs.drop (n + 1)).length
          = p.reach bs.length - (n + 1) := by
        rw [reach_taking, hlength, List.length_drop, Nat.add_sub_cancel' (by omega)]
      have hall : p.reach bs.length - (n + 1) = (bs.drop (n + 1)).length
          ↔ p.reach bs.length = bs.length := by
        rw [List.length_drop]
        omega
      have htaken : bs.take (n + 1) ++ (bs.drop (n + 1)).take (p.reach bs.length - (n + 1))
          = bs.take (p.reach bs.length) := by
        rw [← List.take_add, Nat.add_sub_cancel' hreach]
      rw [ih (.inr rfl), hrest, taking_taking, htaken]
      simp only [hall]
      rfl

/-! ## Lines -/

/-- **A line is taken as if it were written at once**: as much of the text and its newline as there
is room for. The pipe is flushed if this is all of it. -/
theorem writeLine_eq (p : Pipe) {text line : Bytes} (h : text ≠ [])
    (hline : line = text ++ [Ascii.newline]) :
    p.writeLine text = (if p.reach line.length = line.length then p.flush else .error p.fullFault,
      p.taking (line.take (p.reach line.length))) := by
  have hlength : line.length = text.length + 1 := by simp [hline]
  have htext := p.writeAll_eq text (.inl h)
  by_cases hfits : p.reach text.length = text.length
  -- The room is enough for the text, so it ends before the newline or goes beyond it.
  · rw [if_pos hfits, hfits, List.take_length] at htext
    have hnewline := (p.taking text).writeAll_eq [Ascii.newline] (.inr rfl)
    have hreach : text.length ≤ p.reach line.length :=
      Nat.le_trans (Nat.le_of_eq hfits.symm) (p.reach_le_reach (by omega))
    have htaken : text ++ [Ascii.newline].take (p.reach line.length - text.length)
        = line.take (p.reach line.length) := by
      have htake : (text ++ [Ascii.newline]).take (p.reach line.length)
          = text.take (p.reach line.length)
            ++ [Ascii.newline].take (p.reach line.length - text.length) := List.take_append
      rw [List.take_of_length_le hreach, ← hline] at htake
      exact htake.symm
    have hall : p.reach line.length - text.length = 1 ↔ p.reach line.length = line.length := by
      omega
    rw [List.length_singleton, reach_taking, ← hlength, taking_taking, htaken] at hnewline
    simp only [hall] at hnewline
    by_cases hend : p.reach line.length = line.length
    · rw [if_pos hend] at hnewline ⊢
      simp only [writeLine, htext, hnewline]
      rfl
    · rw [if_neg hend] at hnewline ⊢
      simp only [writeLine, htext, hnewline]
      rfl
  · have hlt : p.reach text.length < text.length := Nat.lt_of_le_of_ne (p.reach_le _) hfits
    rw [if_neg hfits] at htext
    have hreach : p.reach line.length = p.reach text.length := by
      rw [hlength, reach_add_of_lt hlt]
    have hshort : p.reach text.length ≠ line.length := by omega
    have htaken : line.take (p.reach text.length) = text.take (p.reach text.length) := by
      rw [hline, List.take_append_of_le_length (Nat.le_of_lt hlt)]
    rw [hreach, if_neg hshort, htaken]
    simp only [writeLine, htext]

/-! ## Deliveries -/

theorem bytes_ne_nil (b : Batch) : b.bytes ≠ [] := by
  have hchars : b.value.chars = '[' :: ((Json.Number.unsigned b.sequence).chars
      ++ Json.moreItems [.array b.commands]) := by
    rw [Batch.value, Wire.ofPair, Json.Value.chars, Json.Value.chars]
  intro hnil
  rw [Batch.bytes, Batch.text, Json.Value.text, Text.bytes, String.toList_ofList, hchars] at hnil
  cases hnil

/-- **What a delivery does**, all of it: the pipe takes the front part of the line, and the batch has
been delivered if this is the whole line and flushing succeeds. -/
theorem deliver_eq (p : Pipe) (b : Batch) :
    Transport.deliver p b = ⟨p.taking (b.line.take (p.reach b.line.length)),
      if p.reach b.line.length = b.line.length then
        if p.flushFails then .error (.channel b.sequence .unflushed) else .ok ()
      else .error (.channel b.sequence p.fullFault),
      [writingEvent b]⟩ := by
  have hbytes : b.line = b.bytes ++ [Ascii.newline] := rfl
  have hline := p.writeLine_eq (bytes_ne_nil b) hbytes
  show p.deliver b = _
  by_cases hwhole : p.reach b.line.length = b.line.length
  · rw [if_pos hwhole]
    rw [if_pos hwhole, flush] at hline
    cases hflush : p.flushFails with
    | false =>
        rw [hflush] at hline
        simp only [deliver, hline]
        rfl
    | true =>
        rw [hflush] at hline
        simp only [deliver, hline]
        rfl
  · rw [if_neg hwhole]
    rw [if_neg hwhole] at hline
    simp only [deliver, hline]

/-- **Room and flush decide.** Of a text of `n` bytes and its newline the pipe takes the first
`min c (n + 1)` bytes, where `c` is its room if that is limited. The delivery succeeds if the room is
enough and flushing succeeds. Otherwise the error names the batch, and it says that the other end is
gone, that the channel takes no more, or, with the whole line written, that it was not passed on. The
size of the portions and the interruptions do not matter, as long as a write may take a byte. -/
theorem deliver_by_room (p : Pipe) (portioned : p.portion ≠ some 0) (b : Batch) :
    let n := b.bytes.length
    let line := b.bytes ++ [Ascii.newline]
    let delivery := Transport.deliver p b
    delivery.transport.written = p.written ++ line.take (atMost p.room (n + 1))
      ∧ delivery.transport.room = p.room.map (· - (n + 1))
      ∧ (delivery.outcome = .ok ()
          ↔ (∀ c, p.room = some c → n + 1 ≤ c) ∧ p.flushFails = false)
      ∧ (∀ c, p.room = some c → c < n + 1 →
          delivery.outcome
            = .error (.channel b.sequence (if p.idlesWhenFull then .stuck else .gone)))
      ∧ ((∀ c, p.room = some c → n + 1 ≤ c) → p.flushFails = true →
          delivery.outcome = .error (.channel b.sequence .unflushed)
            ∧ delivery.transport.written = p.written ++ line)
      ∧ ∀ portion interruptions, portion ≠ some 0 →
          let other := Transport.deliver { p with portion, interruptions } b
          other.transport.written = delivery.transport.written
            ∧ other.outcome = delivery.outcome ∧ other.log = delivery.log := by
  intro n line delivery
  have hlength : b.line.length = n + 1 := by simp [Batch.line, n]
  have hreach : p.reach b.line.length = atMost p.room (n + 1) := by
    rw [reach, if_neg portioned, hlength]
  have hfits : p.reach b.line.length = b.line.length ↔ ∀ c, p.room = some c → n + 1 ≤ c := by
    rw [hreach, hlength, atMost_eq_self]
  have hdelivery : delivery = _ := p.deliver_eq b
  have hwritten : delivery.transport.written = p.written ++ line.take (atMost p.room (n + 1)) := by
    rw [← hreach, hdelivery]
    rfl
  refine ⟨hwritten, ?_, ?_, ?_, ?_, ?_⟩
  · rw [hdelivery, hreach]
    cases hroom : p.room with
    | none => simp [taking, hroom]
    | some c =>
        simp only [taking, hroom, List.length_take, hlength, atMost, Option.map_some,
          Option.some.injEq]
        omega
  · rw [hdelivery, ← hfits]
    by_cases h : p.reach b.line.length = b.line.length
    · cases hflush : p.flushFails <;> simp [h]
    · simp [h]
  · intro c hc hlt
    have h : p.reach b.line.length ≠ b.line.length := fun h => by
      have := hfits.1 h c hc
      omega
    simp only [hdelivery, if_neg h]
    rfl
  · intro h hflush
    refine ⟨?_, ?_⟩
    · simp only [hdelivery, if_pos (hfits.2 h), if_pos hflush]
    · rw [hwritten, ← hreach, hfits.2 h]
      exact congrArg _ List.take_length
  · intro portion interruptions portioned' other
    have hother : other = _ := deliver_eq { p with portion, interruptions } b
    have hsame : reach { p with portion, interruptions } = p.reach := by
      funext m
      rw [reach, reach, if_neg portioned, if_neg portioned']
    rw [hother, hdelivery, hsame]
    exact ⟨rfl, rfl, rfl⟩

/-- The room ends between the text and its newline, or it takes both and flushing fails. -/
theorem deliver_by_room_of_narrowPipe :
    let b : Batch := ⟨7, [.array [.string "list"]]⟩
    let narrow : Pipe :=
      { room := some 14, portion := some 3, idlesWhenFull := true, interruptions := 2 }
    let leaky : Pipe := { room := some 15, portion := some 4, flushFails := true }
    (Transport.deliver narrow b).transport.written = Text.bytes "[7,[[\"list\"]]]"
      ∧ (Transport.deliver narrow b).outcome = .error (.channel 7 .stuck)
      ∧ (Transport.deliver { narrow with portion := none, interruptions := 0 } b).outcome
        = .error (.channel 7 .stuck)
      ∧ (Transport.deliver leaky b).transport.written = Text.bytes "[7,[[\"list\"]]]\n"
      ∧ (Transport.deliver leaky b).outcome = .error (.channel 7 .unflushed) := by
  intro b narrow leaky
  have hline : b.bytes = Text.bytes "[7,[[\"list\"]]]" := by decide +kernel
  obtain ⟨hwritten, -, -, hfull, -, hsame⟩ := deliver_by_room narrow (by decide) b
  obtain ⟨-, -, -, -, hflush, -⟩ := deliver_by_room leaky (by decide) b
  have hstuck := hfull 14 rfl (by decide +kernel)
  have hunflushed := hflush (by decide +kernel) rfl
  refine ⟨?_, hstuck, (hsame none 0 (by decide)).2.1.trans hstuck, ?_, hunflushed.1⟩
  · rw [hwritten, hline]
    decide +kernel
  · rw [hunflushed.2, hline]
    decide +kernel

end Pipe

end ViewLink
