import ViewLink.Proofs.Json.Grammar
import ViewLink.Proofs.Wire.Pair
import ViewLink.Wire.Batch

/-!
# The text of a pair

The reader of a pair is given the reader of the list, so what can be said of it without knowing the
list is said here. Up to its comma a text is the front of a pair (`PairFront`), and only behind such a
front is the list read at all: readers that agree there read the same pairs and report the same
faults (`readPair_congr`).

A pair that has been read is a text of the grammar (`PairText`), with nothing but blanks behind its
closing bracket. The other direction holds whatever stands behind the bracket: if these are blanks
the pair is read, and otherwise the text is refused, after all of the pair has been read
(`readPair_complete`).

## Main definitions

* `PairFront` — the text of a pair up to its comma;
* `PairText` — the text of a pair, given the texts of lists.
-/

set_option autoImplicit false

namespace ViewLink

open Json

namespace Wire

/-! ## The grammar -/

/-- **The text of a pair up to its comma**, with blanks before it. -/
inductive PairFront : Bytes → UInt64 → Prop
  | mk {ws ws₁ number ws₂ : Bytes} {n : UInt64} : Blanks ws → Blanks ws₁ →
      NumberText number (.unsigned n) → Blanks ws₂ →
      PairFront (ws ++ Ascii.openBracket :: (ws₁ ++ (number ++ (ws₂ ++ [Ascii.comma])))) n

/-- **The text of a pair up to its closing bracket**, with blanks before it. -/
inductive PairText (list : Bytes → List Value → Prop) : Bytes → UInt64 → List Value → Prop
  | mk {front ws t ws' : Bytes} {n : UInt64} {vs : List Value} : PairFront front n → Blanks ws →
      list t vs → Blanks ws' →
      PairText list (front ++ (ws ++ (t ++ (ws' ++ [Ascii.closeBracket])))) n vs

/-! ## The number -/

theorem reads_sequence : Reads readSequence fun t n => NumberText t (.unsigned n) where
  head := by
    intro t n h
    obtain ⟨b, tail, rfl, hblank, -, hclosing⟩ := (ScalarText.number h).head
    exact ⟨b, tail, rfl, hblank, hclosing⟩
  sound := by
    intro bs n rest h
    obtain ⟨ws, hws, hbs⟩ := exists_blanks bs
    obtain ⟨t, ht, hrest⟩ := readNumber_sound (readSequence_eq_number h)
    exact ⟨ws, t, hws, ht, by rw [← hrest, ← hbs]⟩
  complete := by
    intro ws t n more hws ht hmore
    rw [← readSequence_complete ht hmore, readSequence, readSequence, skipBlank_append hws]

/-- A pair is printed without blanks. -/
theorem pairFront_printed (n : UInt64) :
    PairFront (Ascii.openBracket :: (Text.utf8 (Number.unsigned n).chars ++ [Ascii.comma])) n := by
  have hnone : Blanks [] := by simp [Blanks]
  exact .mk hnone hnone (numberText_unsigned n) hnone

/-- The front of a pair is read in three steps. -/
theorem PairFront.steps {front : Bytes} {n : UInt64} (h : PairFront front n) (atList : Bytes) :
    ∃ inner afterNumber, skipBlank (front ++ atList) = Ascii.openBracket :: inner
      ∧ readSequence inner = .ok (n, afterNumber)
      ∧ skipBlank afterNumber = Ascii.comma :: atList := by
  obtain @⟨ws, ws₁, number, ws₂, n, hws, hws₁, hnumber, hws₂⟩ := h
  have hcomma : skipBlank (ws₂ ++ Ascii.comma :: atList) = Ascii.comma :: atList :=
    skipBlank_blanks hws₂ (by decide) atList
  have hn := reads_sequence.complete hws₁ hnumber
    (apart_blanks hws₂ (apart_cons (b := Ascii.comma) (by decide) atList))
  refine ⟨_, _, ?_, hn, hcomma⟩
  simpa using skipBlank_blanks hws (b := Ascii.openBracket) (by decide) _

/-- Three steps of the reader lead over the front of a pair. -/
theorem exists_pairFront {bs inner afterNumber atList : Bytes} {n : UInt64}
    (hopen : skipBlank bs = Ascii.openBracket :: inner)
    (hn : readSequence inner = .ok (n, afterNumber))
    (hcomma : skipBlank afterNumber = Ascii.comma :: atList) :
    ∃ front, PairFront front n ∧ bs = front ++ atList := by
  obtain ⟨ws, hws, rfl⟩ := skipBlank_eq_cons hopen
  obtain ⟨ws₁, number, hws₁, hnumber, rfl⟩ := reads_sequence.sound hn
  obtain ⟨ws₂, hws₂, rfl⟩ := skipBlank_eq_cons hcomma
  exact ⟨_, .mk hws hws₁ hnumber hws₂, by simp⟩

/-! ## The list -/

variable {list : Reader (List Value)} {text : Bytes → List Value → Prop}

/-- **Behind the front of a pair the list is read.** -/
theorem readPair_of_front (list : Reader (List Value)) {front atList tail : Bytes} {n : UInt64}
    {c : UInt8} (h : PairFront front n) (hc : skipBlank atList = c :: tail)
    (hne : c ≠ Ascii.closeBracket) :
    readPair list (front ++ atList)
      = (list atList >>= fun r => readEnd r.2 >>= fun _ => pure (n, r.1)) := by
  obtain ⟨inner, afterNumber, hopen, hn, hcomma⟩ := h.steps atList
  obtain ⟨b, tail', hb, hbne⟩ := reads_sequence.head_ne hn (c := Ascii.closeBracket) (by decide)
  rw [readPair_of_bracket hopen, readAfterBracket_of_ne hb hbne, hn, ok_bind,
    readAfterNumber_of_comma hcomma hc hne]

/-- **Only behind the front of a pair does the list matter.** -/
theorem readPair_congr {list list' : Reader (List Value)} {bs : Bytes}
    (h : ∀ front n atList, PairFront front n → bs = front ++ atList → list atList = list' atList) :
    readPair list bs = readPair list' bs := by
  unfold readPair
  split
  · rfl
  · next inner hopen =>
      split
      · rfl
      · rfl
      · cases hn : readSequence inner with
        | error fault => rfl
        | ok r =>
            obtain ⟨n, afterNumber⟩ := r
            rw [ok_bind, ok_bind]
            simp only
            split
            · rfl
            · rfl
            · next atList hcomma =>
                obtain ⟨front, hfront, hbs⟩ := exists_pairFront hopen hn hcomma
                rw [h front n atList hfront hbs]
            · rfl
  · rfl

/-! ## The pair -/

/-- The text of a pair ends with a bracket. -/
theorem PairText.concat {pair : Bytes} {n : UInt64} {vs : List Value}
    (h : PairText text pair n vs) : ∃ front, pair = front ++ [Ascii.closeBracket] := by
  obtain @⟨front, ws, t, ws', _, _, -, -, -, -⟩ := h
  exact ⟨front ++ (ws ++ (t ++ ws')), by simp⟩

/-- What has been read is the text of a pair, and only blanks stand behind it. -/
theorem readPair_sound (hlist : Reads list text) {bs : Bytes} {n : UInt64} {vs : List Value}
    (h : readPair list bs = .ok (n, vs)) :
    ∃ pair tail, PairText text pair n vs ∧ Blanks tail ∧ bs = pair ++ tail := by
  obtain ⟨inner, afterNumber, atList, afterList, hopen, hn, hcomma, hvs, hend⟩ := readPair_cases h
  obtain ⟨tail, hclose, htail⟩ := readEnd_eq_ok.1 hend
  obtain ⟨front, hfront, rfl⟩ := exists_pairFront hopen hn hcomma
  obtain ⟨ws, t, hws, ht, rfl⟩ := hlist.sound hvs
  obtain ⟨ws', hws', rfl⟩ := skipBlank_eq_cons hclose
  exact ⟨_, tail, .mk hfront hws ht hws', skipBlank_eq_nil.1 htail, by simp⟩

/-- **The text of a pair is read whatever stands behind it**, and then that must be blanks. -/
theorem readPair_complete (hlist : Reads list text) {pair : Bytes} {n : UInt64} {vs : List Value}
    (h : PairText text pair n vs) (more : Bytes) :
    readPair list (pair ++ more) = match skipBlank more with
      | [] => .ok (n, vs)
      | _ => .error .malformed := by
  obtain @⟨front, ws, t, ws', _, _, hfront, hws, ht, hws'⟩ := h
  have hclose : skipBlank (ws' ++ Ascii.closeBracket :: more) = Ascii.closeBracket :: more :=
    skipBlank_blanks hws' (by decide) more
  have hvs : list (ws ++ (t ++ (ws' ++ Ascii.closeBracket :: more)))
      = .ok (vs, ws' ++ Ascii.closeBracket :: more) :=
    hlist.complete hws ht (apart_blanks hws' (apart_cons (by decide) more))
  -- A list does not begin with the bracket that would end the pair too early.
  obtain ⟨c, tail, hc, hne⟩ := hlist.head_ne hvs (c := Ascii.closeBracket) (by decide)
  have hread := readPair_of_front list hfront hc hne
  rw [hvs, ok_bind, readEnd_of_close hclose] at hread
  simp only [List.append_assoc, List.singleton_append]
  rw [hread]
  cases skipBlank more <;> rfl

end Wire

/-! ## Batches -/

namespace Batch

theorem read_eq_ok {bs : Bytes} {b : Batch} :
    read bs = .ok b ↔ Wire.readPair Wire.readList bs = .ok (b.sequence, b.commands) := by
  rw [read, bind_eq_ok]
  constructor
  · rintro ⟨⟨n, vs⟩, h, hb⟩
    cases hb
    exact h
  · intro h
    exact ⟨_, h, rfl⟩

theorem read_eq_error {bs : Bytes} {fault : Fault} :
    read bs = .error fault ↔ Wire.readPair Wire.readList bs = .error fault := by
  rw [read]
  cases Wire.readPair Wire.readList bs with
  | error fault' =>
      show Except.error fault' = Except.error fault ↔ _
      simp only [Except.error.injEq]
  | ok r =>
      show Except.ok _ = Except.error fault ↔ _
      simp only [reduceCtorEq]

end Batch

end ViewLink
