import Mathlib.Data.List.DropRight
import ViewLink.Wire.Batch

/-!
# Blanks at the end of a line

A line of results may have blanks at its end, and more bytes count as blanks there than inside of
JSON: the form feed is one of them. Trimming takes away all blanks at the end and nothing else.
-/

set_option autoImplicit false

namespace ViewLink

theorem trimLineEnd_eq (line : Bytes) : trimLineEnd line = line.rdropWhile isLineBlank := rfl

/-- The blanks of JSON are blanks at the end of a line. -/
theorem not_blank_of_not_lineBlank {b : UInt8} (h : isLineBlank b = false) :
    Json.isBlank b = false := by
  simp only [isLineBlank, Bool.or_eq_false_iff] at h
  obtain ⟨⟨⟨⟨hspace, htab⟩, hnewline⟩, -⟩, hreturn⟩ := h
  simp only [Json.isBlank, hspace, hnewline, htab, hreturn, Bool.or_self]

section
variable {blank : UInt8 → Bool}

/-- A trimmed text does not end with a blank. -/
theorem getLast?_rdropWhile (bs : Bytes) :
    ∀ b ∈ (bs.rdropWhile blank).getLast?, blank b = false := by
  intro b hb
  rw [List.rdropWhile, List.getLast?_reverse] at hb
  have hlast := List.head?_dropWhile_not blank bs.reverse
  rw [hb] at hlast
  simpa using hlast

/-- **What is trimmed away are the blanks at the end**, whichever bytes count as blanks. -/
theorem rdropWhile_append {front blanks : Bytes} {last : UInt8}
    (hlast : blank last = false) (hblanks : ∀ c ∈ blanks, blank c = true) :
    (front ++ [last] ++ blanks).rdropWhile blank = front ++ [last] := by
  have hreverse : ∀ c ∈ blanks.reverse, blank c = true := by
    intro c hc
    exact hblanks c (List.mem_reverse.1 hc)
  calc (front ++ [last] ++ blanks).rdropWhile blank
      = ((blanks.reverse ++ last :: front.reverse).dropWhile blank).reverse := by
        simp [List.rdropWhile]
    _ = ((last :: front.reverse).dropWhile blank).reverse := by
        rw [List.dropWhile_append_of_pos hreverse]
    _ = (last :: front.reverse).reverse := by
        rw [List.dropWhile_cons_of_neg (by simp [hlast])]
    _ = front ++ [last] := by simp

end

/-- **A line is what is left of it and blanks**, and no blank is left at the end. -/
theorem trimLineEnd_spec (line : Bytes) :
    ∃ blanks, line = trimLineEnd line ++ blanks ∧ (∀ b ∈ blanks, isLineBlank b = true)
      ∧ ∀ b ∈ (trimLineEnd line).getLast?, isLineBlank b = false := by
  rw [trimLineEnd_eq]
  exact ⟨line.rtakeWhile isLineBlank, List.rdropWhile_append_rtakeWhile.symm,
    fun b => List.mem_rtakeWhile_imp, getLast?_rdropWhile line⟩

/-- Blanks behind a trimmed line are trimmed away again. -/
theorem trimLineEnd_append_blanks (line : Bytes) {more : Bytes}
    (hmore : ∀ b ∈ more, isLineBlank b = true) :
    trimLineEnd (trimLineEnd line ++ more) = trimLineEnd line := by
  obtain ⟨-, -, -, hlast⟩ := trimLineEnd_spec line
  rcases List.eq_nil_or_concat (trimLineEnd line) with hnil | ⟨front, last, hconcat⟩
  · rw [hnil, List.nil_append, trimLineEnd_eq, List.rdropWhile_eq_nil_iff]
    exact hmore
  · rw [hconcat, List.concat_eq_append] at hlast ⊢
    rw [trimLineEnd_eq]
    exact rdropWhile_append (hlast last (by simp)) hmore

/-- Behind a text trimming ends at the last byte that is no blank. -/
theorem trimLineEnd_append_of_not_blank (text : Bytes) {more : Bytes}
    (hmore : ∃ b ∈ more, isLineBlank b = false) :
    ∃ front last, isLineBlank last = false
      ∧ trimLineEnd (text ++ more) = text ++ (front ++ [last]) := by
  obtain ⟨blanks, hsplit, hblanks, hlast⟩ := trimLineEnd_spec more
  rcases List.eq_nil_or_concat (trimLineEnd more) with hnil | ⟨front, last, hconcat⟩
  · exfalso
    obtain ⟨b, hb, hnot⟩ := hmore
    rw [hsplit, hnil, List.nil_append] at hb
    rw [hblanks b hb] at hnot
    cases hnot
  · rw [hconcat, List.concat_eq_append] at hsplit hlast
    have hlast := hlast last (by simp)
    refine ⟨front, last, hlast, ?_⟩
    calc trimLineEnd (text ++ more)
        = (text ++ front ++ [last] ++ blanks).rdropWhile isLineBlank := by
          rw [hsplit, trimLineEnd_eq]
          simp
      _ = text ++ (front ++ [last]) := by
          rw [rdropWhile_append hlast hblanks, List.append_assoc]

/-- Whether a text ends with a blank is seen at its end. -/
theorem not_lineBlank_append (front : Bytes) {other rest : Bytes} {last : UInt8}
    (hlast : isLineBlank last = false)
    (hrest : ∀ b ∈ (other ++ rest).getLast?, isLineBlank b = false) :
    ∀ b ∈ (front ++ [last] ++ rest).getLast?, isLineBlank b = false := by
  rw [List.getLast?_append] at hrest ⊢
  cases hend : rest.getLast? with
  | none => simpa using hlast
  | some b => simpa [hend] using hrest

end ViewLink
