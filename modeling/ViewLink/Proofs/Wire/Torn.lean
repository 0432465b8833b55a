import Mathlib.Data.List.TakeWhile
import ViewLink.Proofs.Command.Grammar
import ViewLink.Proofs.Json.Printed
import ViewLink.Proofs.Wire.Pair
import ViewLink.Wire.Batch

/-!
# Torn batches

A channel that fails in the middle of a batch leaves a prefix of its text, and when the channel
recovers the next batch is written right behind it. The result is a line that starts with an opening
bracket and ends with the whole text of a batch, and no such line is a batch (`read_torn`), wherever
the first text was cut.

The reason is in the brackets. To be read as a batch the line needs its first bracket closed by its
last one and by no other. What was cut off may have left open some brackets, so that the batch at
the end closes its own and they stay open; or it ends inside a string, and then the first quotation
mark of the batch at the end closes this string, with the letter of an indicator right behind it.

## Main definitions

* `Batch.inner` — the text of a batch between its outermost brackets;
* `Batch.Sendable` — the batches that pass validation.
-/

set_option autoImplicit false

namespace ViewLink

open Json

/-! ## What the reader of a batch has seen -/

namespace Wire

theorem readSequence_leads {bs rest : Bytes} {n : UInt64} (d : Nat)
    (h : readSequence bs = .ok (n, rest)) : Leads ⟨d, .outside⟩ bs ⟨d, .outside⟩ rest := by
  have hblanks := Leads.blanks bs d (m := .outside) (.inl rfl)
  exact hblanks.trans (readNumber_leads d (readSequence_eq_number h))

theorem readList_leads {bs rest : Bytes} {vs : List Value} (d : Nat)
    (h : readList bs = .ok (vs, rest)) : Leads ⟨d, .outside⟩ bs ⟨d, .outside⟩ rest := by
  have hblanks := Leads.blanks bs d (m := .outside) (.inl rfl)
  obtain ⟨tail, hopen, hvs⟩ := readList_cases h
  rw [hopen] at hblanks
  exact hblanks.trans (.cons rfl (readItems_leads (readValue_leads _) d hvs))

/-- **A pair is everything between its two brackets.** Between them no bracket closes the first. -/
theorem readPair_leads {bs : Bytes} {r : UInt64 × List Value} (h : readPair readList bs = .ok r) :
    ∃ inner tail, skipBlank bs = Ascii.openBracket :: inner ∧ skipBlank tail = []
      ∧ Leads ⟨0, .outside⟩ inner ⟨0, .outside⟩ (Ascii.closeBracket :: tail) := by
  obtain ⟨inner, afterNumber, atList, afterList, hopen, hn, hcomma, hvs, hend⟩ := readPair_cases h
  obtain ⟨tail, hclose, htail⟩ := readEnd_eq_ok.1 hend
  have hblanks := Leads.blanks afterNumber 0 (m := .outside) (.inl rfl)
  rw [hcomma] at hblanks
  have hlast := Leads.blanks afterList 0 (m := .outside) (.inl rfl)
  rw [hclose] at hlast
  exact ⟨inner, tail, hopen, htail, (readSequence_leads 0 hn).trans
    (hblanks.trans (.cons rfl ((readList_leads 0 hvs).trans hlast)))⟩

end Wire

namespace Batch

/-! ## The text of a batch -/

/-- The text of a batch between its outermost brackets. -/
def inner (b : Batch) : Bytes :=
  Text.utf8 ((Number.unsigned b.sequence).chars ++ ',' :: (Value.array b.commands).chars)

theorem bytes_eq (b : Batch) :
    b.bytes = Ascii.openBracket :: b.inner ++ [Ascii.closeBracket] := by
  have hchars : b.value.chars = '[' :: ((Number.unsigned b.sequence).chars
      ++ ',' :: (Value.array b.commands).chars) ++ [']'] := by
    simp [value, Wire.ofPair, Value.chars, moreItems]
  rw [bytes, text, Value.text, Text.bytes, String.toList_ofList, hchars, Text.utf8_append,
    Text.utf8_cons]
  rfl

/-- Outside of strings the text between the brackets leads back to its own depth. -/
theorem scan_inner (b : Batch) (d : Nat) :
    ∃ m, Mode.Resting m ∧ Place.scan ⟨d, .outside⟩ b.inner = some ⟨d, m⟩ := by
  obtain ⟨m, hm, hcommands⟩ := scan_chars d (.array b.commands)
  refine ⟨m, hm, ?_⟩
  rw [inner, Text.utf8_append, Place.scan_append_of_eq
    (Place.scan_plain (isPlain_utf8_number (.unsigned b.sequence)) d)]
  exact hcommands

/-- **A batch that passes validation.** -/
def Sendable (b : Batch) : Prop := ∀ v ∈ b.commands, Command.Valid true v

/-- A command begins with its indicator, and an indicator begins with a letter. -/
theorem scan_command {v : Value} (h : Command.Valid true v) (d : Nat) (more : Bytes) :
    Place.scan ⟨d, .inString⟩ (Text.utf8 v.chars ++ more) = none := by
  cases h <;> rfl

/-- **Inside a string the text between the brackets does not find its way out.** Without commands it
has no quotation mark, and otherwise the first one has a letter behind it. -/
theorem scan_inner_inString {b : Batch} (h : b.Sendable) (d : Nat) :
    ∀ p ∈ Place.scan ⟨d, .inString⟩ b.inner, p.mode = .inString := by
  have hnumber : Place.scan ⟨d, .inString⟩ (Text.utf8 (Number.unsigned b.sequence).chars)
      = some ⟨d, .inString⟩ := by
    refine scan_ordinary (fun hc => ?_) (fun hc => ?_) d
    · exact absurd (isNumeric_chars _ _ hc) (by decide)
    · exact absurd (isNumeric_chars _ _ hc) (by decide)
  intro p hp
  rw [inner, Text.utf8_append, Place.scan_append_of_eq hnumber] at hp
  cases hcommands : b.commands with
  | nil =>
      rw [hcommands] at hp
      obtain rfl : ⟨d, .inString⟩ = p := Option.some.inj hp
      rfl
  | cons v vs =>
      have hnone := scan_command (h v (by simp [hcommands])) d (Text.utf8 (moreItems vs))
      rw [hcommands] at hp
      have hp' : p ∈ Place.scan ⟨d, .inString⟩ (Text.utf8 (v.chars ++ moreItems vs)) := hp
      rw [Text.utf8_append, hnone] at hp'
      cases hp'

/-! ## Torn batches -/

/-- A pair that is read from brackets around some bytes has these bytes between its brackets. -/
theorem scan_of_readPair {bs : Bytes} {r : UInt64 × List Value}
    (h : Wire.readPair Wire.readList (Ascii.openBracket :: bs ++ [Ascii.closeBracket]) = .ok r) :
    Place.scan ⟨0, .outside⟩ bs = some ⟨0, .outside⟩ := by
  obtain ⟨inner, tail, hbs, htail, used, hinner, hscan⟩ := Wire.readPair_leads h
  obtain rfl : bs ++ [Ascii.closeBracket] = inner := (List.cons.inj hbs).2
  have hblank : ∀ c ∈ tail, isBlank c = true := List.dropWhile_eq_nil_iff.1 htail
  rcases List.eq_nil_or_concat tail with rfl | ⟨tail', c, rfl⟩
  · rw [(List.append_inj' hinner rfl).1]
    exact hscan
  -- The last byte of the text is the closing bracket, so no blank can stand behind the pair.
  · have hconcat : bs ++ [Ascii.closeBracket] = (used ++ Ascii.closeBracket :: tail') ++ [c] := by
      simpa using hinner
    have hlast := List.singleton_inj.1 (List.append_inj' hconcat rfl).2
    have hc := hblank c (by simp)
    rw [← hlast] at hc
    exact absurd hc (by decide)

/-- **No torn text in front of a batch.** A line that begins with an opening bracket and ends with
the whole text of a validated batch is no batch, whatever stands between them. -/
theorem read_torn (torn : Bytes) {b : Batch} (h : b.Sendable) :
    ∃ fault, read (Ascii.openBracket :: torn ++ b.bytes) = .error fault := by
  cases hread : read (Ascii.openBracket :: torn ++ b.bytes) with
  | error fault => exact ⟨fault, rfl⟩
  | ok read =>
      exfalso
      obtain ⟨r, hpair, -⟩ := bind_eq_ok.1 hread
      have hbytes : Ascii.openBracket :: torn ++ b.bytes
          = Ascii.openBracket :: (torn ++ Ascii.openBracket :: b.inner)
            ++ [Ascii.closeBracket] := by
        simp [bytes_eq]
      rw [hbytes] at hpair
      have hscan := scan_of_readPair hpair
      rw [Place.scan_append] at hscan
      -- The place at which the whole text begins is all that matters of what is in front of it.
      obtain ⟨⟨d, mode⟩, -, hrest⟩ := Option.bind_eq_some_iff.1 hscan
      have hinString : Place.scan ⟨d, .inString⟩ b.inner ≠ some ⟨0, .outside⟩ :=
        fun hsome => Mode.noConfusion (scan_inner_inString h d _ hsome)
      cases mode with
      | outside =>
          -- The batch closes its own bracket, so an outer one is open to the end.
          obtain ⟨m, -, hinner⟩ := b.scan_inner (d + 1)
          have hdepth : some (⟨d + 1, m⟩ : Place) = some ⟨0, .outside⟩ := hinner.symm.trans hrest
          cases hdepth
      -- Right after a string an opening bracket is out of place.
      | afterString => cases hrest
      | inString => exact hinString hrest
      | escaped => exact hinString hrest

end Batch

end ViewLink
