import ViewLink.Proofs.Json.Numerals
import ViewLink.Wire.Pair

/-!
# The reader of a pair, step by step

A pair is read in a fixed order: the opening bracket, the number, the comma, the list, the closing
bracket and the end of the text, with blanks between them. Before the number and before the list the
reader looks for a closing bracket, to report that elements are missing.

The steps are given names here, so that the reader can be followed forwards, from a text of which
the next byte is known, and backwards, from a pair that has been read (`readPair_cases`).

## Main definitions

* `readAfterBracket`, `readAfterNumber` — what is left to read after the first steps.
-/

set_option autoImplicit false

namespace ViewLink.Wire

open Json

/-- What follows the number. -/
def readAfterNumber (list : Reader (List Value)) (n : UInt64) (bs : Bytes) :
    Except Fault (UInt64 × List Value) :=
  match skipBlank bs with
  | [] => .error .ended
  | Ascii.closeBracket :: _ => .error .mistyped
  | Ascii.comma :: rest =>
    match skipBlank rest with
    | [] => .error .ended
    | Ascii.closeBracket :: _ => .error .malformed
    | _ => list rest >>= fun r => readEnd r.2 >>= fun _ => pure (n, r.1)
  | _ => .error .malformed

/-- What follows the opening bracket. -/
def readAfterBracket (list : Reader (List Value)) (bs : Bytes) :
    Except Fault (UInt64 × List Value) :=
  match skipBlank bs with
  | [] => .error .ended
  | Ascii.closeBracket :: _ => .error .mistyped
  | _ => readSequence bs >>= fun r => readAfterNumber list r.1 r.2

/-! ## Forwards -/

/-- A sequence number is read from the text of an unsigned number. -/
theorem readSequence_complete {t more : Bytes} {n : UInt64} (h : NumberText t (.unsigned n))
    (hmore : Apart more) : readSequence (t ++ more) = .ok (n, more) := by
  have hread := readNumber_complete h hmore
  obtain ⟨b, tail, rfl, hb⟩ := h.head
  have hblank : isBlank b = false := not_blank_of_numeric (numericByte_of_head hb)
  rw [List.cons_append] at hread ⊢
  rw [readSequence, skipBlank_cons hblank]
  simp only [hread]
  rw [if_pos (by simpa using hb)]
  rfl

section
variable {bs tail : Bytes} {b : UInt8}

theorem readPair_of_bracket {inner : Bytes} (h : skipBlank bs = Ascii.openBracket :: inner)
    (list : Reader (List Value)) : readPair list bs = readAfterBracket list inner := by
  rw [readPair, h]
  rfl

theorem readAfterBracket_of_ne (h : skipBlank bs = b :: tail) (hclose : b ≠ Ascii.closeBracket)
    (list : Reader (List Value)) :
    readAfterBracket list bs = (readSequence bs >>= fun r => readAfterNumber list r.1 r.2) := by
  rw [readAfterBracket, h]
  split
  · next h => cases h
  · next h => exact absurd (List.cons.inj h).1 hclose
  · rfl

theorem readAfterNumber_of_comma {mid : Bytes} (hcomma : skipBlank bs = Ascii.comma :: mid)
    (h : skipBlank mid = b :: tail) (hclose : b ≠ Ascii.closeBracket) (list : Reader (List Value))
    (n : UInt64) :
    readAfterNumber list n bs = (list mid >>= fun r => readEnd r.2 >>= fun _ => pure (n, r.1)) := by
  rw [readAfterNumber, hcomma]
  split
  · next h => cases h
  · next h => exact absurd (List.cons.inj h).1 (by decide)
  · next rest hrest =>
      obtain rfl := (List.cons.inj hrest).2
      rw [h]
      split
      · next h => cases h
      · next h => exact absurd (List.cons.inj h).1 hclose
      · rfl
  · next hother => exact absurd rfl (hother mid)

end

/-! ## Backwards -/

theorem readSequence_eq_number {bs rest : Bytes} {n : UInt64}
    (h : readSequence bs = .ok (n, rest)) :
    readNumber (skipBlank bs) = .ok (.unsigned n, rest) := by
  rw [readSequence] at h
  split at h
  · cases h
  · next b tail hbs =>
      split at h
      · obtain ⟨⟨number, rest'⟩, hnumber, hmatch⟩ := bind_eq_ok.1 h
        split at hmatch
        · next hr =>
            cases hr
            cases hmatch
            rw [hbs, hnumber]
        · cases hmatch
      · cases h

theorem readList_cases {bs rest : Bytes} {vs : List Value} (h : readList bs = .ok (vs, rest)) :
    ∃ tail, skipBlank bs = Ascii.openBracket :: tail
      ∧ readItems (readValue valueNesting) tail = .ok (vs, rest) := by
  rw [readList] at h
  split at h
  · cases h
  · next tail hopen => exact ⟨tail, hopen, h⟩
  · cases h

theorem readEnd_of_close {bs rest : Bytes} (h : skipBlank bs = Ascii.closeBracket :: rest) :
    readEnd bs = match skipBlank rest with
      | [] => .ok ()
      | _ => .error .malformed := by
  rw [readEnd, h]
  rfl

theorem readEnd_eq_ok {bs : Bytes} :
    readEnd bs = .ok ()
      ↔ ∃ tail, skipBlank bs = Ascii.closeBracket :: tail ∧ skipBlank tail = [] := by
  constructor
  · intro h
    rw [readEnd] at h
    split at h
    · cases h
    · next tail hclose =>
        split at h
        · next htail => exact ⟨tail, hclose, htail⟩
        · cases h
    · cases h
  · rintro ⟨tail, hclose, htail⟩
    rw [readEnd_of_close hclose, htail]

/-- **A pair that has been read is everything that a pair has**, in its order. -/
theorem readPair_cases {list : Reader (List Value)} {bs : Bytes} {n : UInt64} {vs : List Value}
    (h : readPair list bs = .ok (n, vs)) :
    ∃ inner afterNumber atList afterList, skipBlank bs = Ascii.openBracket :: inner
      ∧ readSequence inner = .ok (n, afterNumber) ∧ skipBlank afterNumber = Ascii.comma :: atList
      ∧ list atList = .ok (vs, afterList) ∧ readEnd afterList = .ok () := by
  rw [readPair] at h
  split at h
  · cases h
  · next inner hopen =>
      split at h
      · cases h
      · cases h
      · obtain ⟨⟨n', afterNumber⟩, hn, h₁⟩ := bind_eq_ok.1 h
        simp only at h₁
        split at h₁
        · cases h₁
        · cases h₁
        · next atList hcomma =>
            split at h₁
            · cases h₁
            · cases h₁
            · obtain ⟨⟨vs', afterList⟩, hvs, h₂⟩ := bind_eq_ok.1 h₁
              obtain ⟨⟨⟩, hend, hpure⟩ := bind_eq_ok.1 h₂
              cases hpure
              exact ⟨inner, afterNumber, atList, afterList, hopen, hn, hcomma, hvs, hend⟩
        · cases h₁
  · cases h

end ViewLink.Wire
