import ViewLink.Proofs.Wire.LineEnd
import ViewLink.Proofs.Wire.RoundTrip

/-!
# The limit of the round trip

What goes out as a batch or comes back as results is the text of a sequence number and a list, and
reading such a text undoes writing it, up to a limit: the reader nests 127 arrays and objects and
refuses the next one, while the writer nests whatever the values do. So the round trip is exact on
one side of the limit and fails on the other, with nothing in between (`pair_round_trip`).

Results are read from a line, which may have blanks at its end. Since the text of a pair ends with a
bracket, trimming the line takes away these blanks and nothing else.
-/

set_option autoImplicit false

namespace ViewLink

open Json

namespace Wire

/-! ## The two readers of a list -/

/-- A list that may be `null` is read like any other list from its opening bracket on. -/
theorem readListOrNull_bracket (bs : Bytes) :
    readListOrNull (Ascii.openBracket :: bs) = readList (Ascii.openBracket :: bs) := rfl

/-- The text of a pair holds a list and not `null`, so both readers make the same of it. -/
theorem readPair_orNull_printed (n : UInt64) (vs : List Value) :
    readPair readListOrNull (Text.bytes (ofPair n vs).text)
      = readPair readList (Text.bytes (ofPair n vs).text) := by
  have hblank : isBlank Ascii.openBracket = false := by decide
  have hclose : Ascii.openBracket ≠ Ascii.closeBracket := by decide
  rw [bytes_ofPair, readPair_number readListOrNull n hblank hclose,
    readPair_number readList n hblank hclose, readListOrNull_bracket]

/-- The text of a pair ends with a bracket. -/
theorem bytes_ofPair_concat (n : UInt64) (vs : List Value) :
    ∃ front, Text.bytes (ofPair n vs).text = front ++ [Ascii.closeBracket] := by
  refine ⟨Ascii.openBracket :: (Text.utf8 (Number.unsigned n).chars
    ++ Ascii.comma :: Ascii.openBracket :: Text.utf8 (itemsChars vs)), ?_⟩
  rw [bytes_ofPair]
  simp

end Wire

/-! ## Lines of results -/

namespace Results

/-- **Printed results are read back** from a line with any blanks at its end if they do not nest too
deep, and refused if they do. -/
theorem parse_text {r : Results} (h : ∀ x ∈ itemsFloats r.values, ReadsBack x) {blanks : Bytes}
    (hblanks : ∀ c ∈ blanks, isLineBlank c = true) :
    parse (Text.bytes r.text ++ blanks)
      = (within maxNesting r.value.nesting r).mapError PayloadError.malformed := by
  obtain ⟨front, hfront⟩ := Wire.bytes_ofPair_concat r.sequence r.values
  have hbytes : Text.bytes r.text = front ++ [Ascii.closeBracket] := hfront
  have htrim : trimLineEnd (Text.bytes r.text ++ blanks) = Text.bytes r.text := by
    rw [hbytes, trimLineEnd_eq, rdropWhile_append (by decide) hblanks]
  have hpair : Wire.readPair Wire.readListOrNull (Text.bytes r.text)
      = within maxNesting r.value.nesting (r.sequence, r.values) := by
    rw [text, value, Wire.readPair_orNull_printed, Wire.readPair_printed r.sequence h]
  rw [parse, htrim]
  split
  · next hnil => simp [hbytes] at hnil
  · by_cases hle : r.value.nesting ≤ maxNesting
    · rw [hpair, within, if_pos hle, within, if_pos hle]
      rfl
    · rw [hpair, within, if_neg hle, within, if_neg hle]
      rfl

end Results

/-- **The round trip of the wire, with its exact limit.** The text of a batch or of results holds no
control character. If it nests at most 127 arrays and objects it is read back as what it was, and
from a line with blanks at its end too, and if it nests deeper it is refused as malformed. Of the
floats, if there are any, it is assumed that each by itself is read back. -/
theorem pair_round_trip (b : Batch) (r : Results) :
    ((∀ c ∈ b.bytes, 0x20 ≤ c) ∧ ∀ c ∈ Text.bytes r.text, 0x20 ≤ c)
      ∧ ((∀ x ∈ itemsFloats b.commands, ReadsBack x) →
          (b.value.nesting ≤ 127 → Batch.read b.bytes = .ok b)
          ∧ (127 < b.value.nesting → Batch.read b.bytes = .error .malformed))
      ∧ ((∀ x ∈ itemsFloats r.values, ReadsBack x) →
          ∀ blanks, (∀ c ∈ blanks, isLineBlank c = true) →
            (r.value.nesting ≤ 127 → Results.parse (Text.bytes r.text ++ blanks) = .ok r)
            ∧ (127 < r.value.nesting →
                Results.parse (Text.bytes r.text ++ blanks) = .error (.malformed .malformed))) := by
  refine ⟨⟨le_of_mem_bytes_text b.value, le_of_mem_bytes_text r.value⟩, ?_, ?_⟩
  · intro hfloats
    have hread := Batch.read_bytes hfloats
    constructor
    · intro (hle : _ ≤ maxNesting)
      rw [hread, within, if_pos hle]
    · intro (hlt : maxNesting < _)
      rw [hread, within, if_neg (Nat.not_le.2 hlt)]
  · intro hfloats blanks hblanks
    have hparse := Results.parse_text hfloats hblanks
    constructor
    · intro (hle : _ ≤ maxNesting)
      rw [hparse, within, if_pos hle]
      rfl
    · intro (hlt : maxNesting < _)
      rw [hparse, within, if_neg (Nat.not_le.2 hlt)]
      rfl

/-- So many arrays around an empty one. -/
def nested : Nat → Value
  | 0 => .array []
  | n + 1 => .array [nested n]

theorem nesting_nested (n : Nat) : (nested n).nesting = n + 1 := by
  induction n with
  | zero => rfl
  | succ n ih => simp [nested, Value.nesting, itemsNesting, ih]

theorem floats_nested (n : Nat) : (nested n).floats = [] := by
  induction n with
  | zero => rfl
  | succ n ih => simp [nested, Value.floats, itemsFloats, ih]

/-- Results with a string of two lines, a float and an integer that no double holds exactly. -/
def mixedResults : Results :=
  ⟨3, [.string "größer\nals \"1\"", .number (.float 1.5), .ofPairs [("n", .ofNat (2 ^ 53 + 1))]]⟩

/-- A hundred and twenty-seven brackets inside each other are read, the next one is not. -/
theorem pair_round_trip_nested :
    Batch.read (Batch.bytes ⟨7, [nested 124]⟩) = .ok ⟨7, [nested 124]⟩
      ∧ Batch.read (Batch.bytes ⟨7, [nested 125]⟩) = .error .malformed
      ∧ Results.parse (Text.bytes mixedResults.text
          ++ [Ascii.space, Ascii.carriageReturn, Ascii.newline]) = .ok mixedResults
      ∧ Results.parse (Text.bytes (Results.text ⟨7, [nested 125]⟩) ++ [Ascii.newline])
          = .error (.malformed .malformed) := by
  have hfloats : ∀ n, ∀ x ∈ itemsFloats [nested n], ReadsBack x := by
    simp [itemsFloats, floats_nested]
  have hnesting : ∀ n, (Wire.ofPair 7 [nested n]).nesting = n + 3 := by
    simp [Wire.nesting_ofPair, itemsNesting, nesting_nested]
  have hwithin : (Batch.value ⟨7, [nested 124]⟩).nesting ≤ 127 := by
    rw [Batch.value, hnesting]
  have hbeyond : 127 < (Batch.value ⟨7, [nested 125]⟩).nesting := by
    rw [Batch.value, hnesting]
    decide
  have hresults : 127 < (Results.value ⟨7, [nested 125]⟩).nesting := by
    rw [Results.value, hnesting]
    decide
  have hmixed : ∀ x ∈ itemsFloats mixedResults.values, ReadsBack x := by
    have honly : itemsFloats mixedResults.values = [1.5] := rfl
    simpa [honly] using readsBack_three_halves
  have hblanks : ∀ c ∈ [Ascii.space, Ascii.carriageReturn, Ascii.newline],
      isLineBlank c = true := by
    simp [isLineBlank]
  have hblank : ∀ c ∈ [Ascii.newline], isLineBlank c = true := by
    simp [isLineBlank]
  obtain ⟨-, hread, hparse⟩ := pair_round_trip ⟨7, [nested 124]⟩ mixedResults
  obtain ⟨-, hreadDeep, hparseDeep⟩ := pair_round_trip ⟨7, [nested 125]⟩ ⟨7, [nested 125]⟩
  exact ⟨(hread (hfloats 124)).1 hwithin, (hreadDeep (hfloats 125)).2 hbeyond,
    (hparse hmixed _ hblanks).1 (by decide),
    (hparseDeep (hfloats 125) _ hblank).2 hresults⟩

end ViewLink
