import Mathlib.Tactic.IntervalCases
import ViewLink.Proofs.Json.Printed

/-!
# Strings that are read back

The printer escapes a string character by character, and each escape is one that the grammar has. So
what it writes between the quotation marks is a text of the string, and the reader gives the string
back.
-/

set_option autoImplicit false

namespace ViewLink.Json

open Text (utf8 utf8_append utf8_cons)

/-- A control character without a letter of its own is written by its code point. -/
theorem escapeText_control {c : Char} (h : c.toNat < 0x20) :
    EscapeText
      (utf8 ['\\', 'u', '0', '0', hexDigit (c.toNat / 16), hexDigit (c.toNat % 16)]) c := by
  have hunit : ∀ n < 0x20,
      UnitText (utf8 ['\\', 'u', '0', '0', hexDigit (n / 16), hexDigit (n % 16)]) n := by
    intro n hn
    interval_cases n
    all_goals exact .mk rfl
  have hescape := EscapeText.unit (hunit c.toNat h)
    (fun hhalf => absurd h (Nat.not_lt.2 (Nat.le_trans (by decide) hhalf.1)))
    (fun hhalf => absurd h (Nat.not_lt.2 (Nat.le_trans (by decide) hhalf.1)))
  rwa [Char.ofNat_toNat] at hescape

/-- **The printer writes a character as the grammar has it.** -/
theorem charsText_escaped (c : Char) {t : Bytes} {cs : List Char} (h : CharsText t cs) :
    CharsText (utf8 (escaped c) ++ t) (c :: cs) := by
  rcases escaped_cases c with ⟨e, he, hc⟩ | ⟨hcontrol, hc⟩ | ⟨hquote, hbackslash, hle, hc⟩
  · have hall : ∀ p ∈ shortEscapes, EscapeText (utf8 ['\\', p.2]) p.1 := by
      simp only [shortEscapes, List.forall_mem_cons]
      refine ⟨?_, ?_, ?_, ?_, ?_, ?_, ?_, by simp⟩
      all_goals exact .letter (by simp [letterEscapes])
    rw [hc]
    exact .escape (hall (c, e) he) h
  · rw [hc]
    exact .escape (escapeText_control hcontrol) h
  · have hplain : utf8 [c] = String.utf8EncodeChar c := by simp [utf8_cons]
    rw [hc, hplain]
    exact .plain hquote hbackslash hle h

theorem charsText_flatMap_escaped (cs : List Char) :
    CharsText (utf8 (cs.flatMap escaped)) cs := by
  induction cs with
  | nil => exact .nil
  | cons c cs ih =>
      rw [List.flatMap_cons, utf8_append]
      exact charsText_escaped c ih

/-- **A printed string is read back**, after its opening quotation mark. -/
theorem readString_printed (s : String) (bs : Bytes) :
    readString (utf8 (s.toList.flatMap escaped ++ ['"']) ++ bs) = .ok (s, bs) := by
  refine readString_eq_ok.2 ⟨utf8 (s.toList.flatMap escaped), charsText_flatMap_escaped _, ?_⟩
  rw [utf8_append, List.append_assoc]
  rfl

end ViewLink.Json
