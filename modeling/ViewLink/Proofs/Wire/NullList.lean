import ViewLink.Proofs.Wire.ResultLines

/-!
# Null in the place of a list

Batches and results are read by one reader that differs in the list alone: results may have `null`
for the empty list. Since the list is read only behind the front of a pair, a text without `null` in
this place is the same to both, whether they read the same pair or stop at the same fault
(`decoders_differ_at_null`). This holds for a word that only begins like `null`, too.

A batch with `null` is mistyped whatever follows. Results with `null` are read on, as if the empty
list had been written.
-/

set_option autoImplicit false

namespace ViewLink

open Json

namespace Wire

/-- **The two readers of pairs agree** on a text without `null` in the place of the list. -/
theorem readPair_orNull_eq {bs : Bytes}
    (h : ∀ front ws n rest, PairFront front n → Blanks ws →
      bs ≠ front ++ (ws ++ (nullWord ++ rest))) :
    readPair readListOrNull bs = readPair readList bs := by
  refine readPair_congr fun front n atList hfront hbs => ?_
  refine readListOrNull_of_not_null fun rest hnull => ?_
  obtain ⟨ws, hws, rfl⟩ := skipBlank_eq_cons hnull
  exact h front ws n rest hfront hws hbs

section
variable {front ws : Bytes} {n : UInt64} (hfront : PairFront front n) (hws : Blanks ws)
include hfront hws

/-- **A batch with `null` is mistyped.** -/
theorem readPair_list_null (rest : Bytes) :
    readPair readList (front ++ (ws ++ (nullWord ++ rest))) = .error .mistyped := by
  have hnull : skipBlank (ws ++ (nullWord ++ rest)) = nullWord ++ rest :=
    skipBlank_blanks hws (by decide) _
  rw [readPair_of_front readList hfront hnull (by decide), readList_of_null hnull]
  rfl

/-- **Results with `null` are read on.** -/
theorem readPair_orNull_null (rest : Bytes) :
    readPair readListOrNull (front ++ (ws ++ (nullWord ++ rest)))
      = (readEnd rest >>= fun _ => pure (n, [])) := by
  have hnull : skipBlank (ws ++ (nullWord ++ rest)) = nullWord ++ rest :=
    skipBlank_blanks hws (by decide) _
  rw [readPair_of_front readListOrNull hfront hnull (by decide), readListOrNull_of_null hnull]
  rfl

/-- And so are results with the empty list. -/
theorem readPair_orNull_empty (rest : Bytes) :
    readPair readListOrNull
        (front ++ (ws ++ (Ascii.openBracket :: Ascii.closeBracket :: rest)))
      = (readEnd rest >>= fun _ => pure (n, [])) := by
  have hopen : skipBlank (ws ++ (Ascii.openBracket :: Ascii.closeBracket :: rest))
      = Ascii.openBracket :: Ascii.closeBracket :: rest := skipBlank_blanks hws (by decide) _
  have hlist : readListOrNull (ws ++ (Ascii.openBracket :: Ascii.closeBracket :: rest))
      = .ok ([], rest) := by
    rw [readListOrNull, hopen]
    rfl
  rw [readPair_of_front readListOrNull hfront hopen (by decide), hlist]
  rfl

end

end Wire

namespace Results

/-- A line without blanks at its end is read as it stands. -/
theorem parse_of_trimmed {t : Bytes} (hne : t ≠ [])
    (hlast : ∀ b ∈ t.getLast?, isLineBlank b = false) :
    parse t = match Wire.readPair Wire.readListOrNull t with
      | .error fault => .error (.malformed fault)
      | .ok (n, vs) => .ok ⟨n, vs⟩ := by
  have htrim : trimLineEnd t = t := by
    rw [trimLineEnd_eq, List.rdropWhile_eq_self_iff]
    intro hne
    rw [hlast _ (List.getLast?_eq_some_getLast hne)]
    decide
  have htrimmed : trimLineEnd t ≠ [] := by
    rw [htrim]
    exact hne
  have hparse := parse_of_ne_nil htrimmed
  rw [htrim] at hparse
  exact hparse

end Results

/-- **The two decoders differ at `null` and nowhere else.** Let a text not end with a blank. Where
`null` stands for the list of a pair, the text is mistyped as a batch. As results it is read on, with
the same outcome that it has with the empty list written out. Any other text gives the same number
and the same values to both, or both refuse it for the same fault. -/
theorem decoders_differ_at_null (t : Bytes) (nonempty : t ≠ [])
    (trimmed : ∀ b ∈ t.getLast?, isLineBlank b = false) :
    (∀ front ws n rest, Wire.PairFront front n → Blanks ws →
        t = front ++ (ws ++ (Wire.nullWord ++ rest)) →
          Batch.read t = .error .mistyped
          ∧ Results.parse t = (match Wire.readEnd rest with
              | .error fault => .error (.malformed fault)
              | .ok () => .ok ⟨n, []⟩)
          ∧ Results.parse t = Results.parse
              (front ++ (ws ++ (Ascii.openBracket :: Ascii.closeBracket :: rest))))
      ∧ ((∀ front ws n rest, Wire.PairFront front n → Blanks ws →
            t ≠ front ++ (ws ++ (Wire.nullWord ++ rest))) →
          (∃ n vs, Batch.read t = .ok ⟨n, vs⟩ ∧ Results.parse t = .ok ⟨n, vs⟩)
          ∨ ∃ fault, Batch.read t = .error fault ∧ Results.parse t = .error (.malformed fault)) := by
  have hparse := Results.parse_of_trimmed nonempty trimmed
  constructor
  · rintro front ws n rest hfront hws rfl
    have hend : Results.parse (front ++ (ws ++ (Wire.nullWord ++ rest)))
        = match Wire.readEnd rest with
          | .error fault => .error (.malformed fault)
          | .ok () => .ok ⟨n, []⟩ := by
      rw [hparse, Wire.readPair_orNull_null hfront hws]
      cases Wire.readEnd rest <;> rfl
    refine ⟨Batch.read_eq_error.2 (Wire.readPair_list_null hfront hws rest), hend, ?_⟩
    -- With the empty list the text ends as it did, or it ends with the bracket.
    have hlast : ∀ b ∈
        (front ++ (ws ++ (Ascii.openBracket :: Ascii.closeBracket :: rest))).getLast?,
        isLineBlank b = false := by
      have hbracket : isLineBlank Ascii.closeBracket = false := by decide
      have hrest : ∀ b ∈ (front ++ (ws ++ Wire.nullWord) ++ rest).getLast?,
          isLineBlank b = false := by simpa using trimmed
      simpa using not_lineBlank_append (front ++ (ws ++ [Ascii.openBracket])) hbracket hrest
    rw [hend, Results.parse_of_trimmed (by simp) hlast, Wire.readPair_orNull_empty hfront hws]
    cases Wire.readEnd rest <;> rfl
  · intro hnull
    rw [Wire.readPair_orNull_eq hnull] at hparse
    cases hread : Wire.readPair Wire.readList t with
    | error fault =>
        right
        rw [hread] at hparse
        exact ⟨fault, Batch.read_eq_error.2 hread, hparse⟩
    | ok r =>
        left
        obtain ⟨n, vs⟩ := r
        rw [hread] at hparse
        exact ⟨n, vs, Batch.read_eq_ok.2 hread, hparse⟩

/-- A list that is `null`, and one that is no more than the beginning of this word. -/
theorem decoders_differ_of_nullLines :
    Batch.read (Text.bytes "[7, null]") = .error .mistyped
      ∧ Results.parse (Text.bytes "[7, null]") = .ok ⟨7, []⟩
      ∧ Results.parse (Text.bytes "[7, null,") = .error (.malformed .malformed)
      ∧ ∃ fault, Batch.read (Text.bytes "[7, nul]") = .error fault
        ∧ Results.parse (Text.bytes "[7, nul]") = .error (.malformed fault) := by
  have hspace : Blanks [Ascii.space] := by simp [Blanks, isBlank]
  have hfront : Wire.PairFront (Text.bytes "[7,") 7 := Wire.pairFront_printed 7
  have hwhole := (decoders_differ_at_null (Text.bytes "[7, null]") (by decide +kernel)
    (by decide +kernel)).1 _ _ 7 [Ascii.closeBracket] hfront hspace (by decide +kernel)
  have hgoesOn := (decoders_differ_at_null (Text.bytes "[7, null,") (by decide +kernel)
    (by decide +kernel)).1 _ _ 7 [Ascii.comma] hfront hspace (by decide +kernel)
  have hother := (decoders_differ_at_null (Text.bytes "[7, nul]") (by decide +kernel)
    (by decide +kernel)).2 fun front ws n rest _ _ heq => by
      have hinfix : Wire.nullWord <:+: Text.bytes "[7, nul]" :=
        ⟨front ++ ws, rest, by rw [heq]; simp⟩
      exact absurd hinfix (by decide +kernel)
  have hread : Batch.read (Text.bytes "[7, nul]") = .error .malformed := rfl
  refine ⟨hwhole.1, hwhole.2.1, hgoesOn.2.1, ?_⟩
  rcases hother with ⟨n, vs, hok, -⟩ | hfault
  · rw [hread] at hok
    cases hok
  · exact hfault

end ViewLink
