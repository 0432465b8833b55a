import ViewLink.Proofs.Json.RoundTrip
import ViewLink.Proofs.Wire.PairText

/-!
# Batches that are read back

The text of a sequence number and a list is read back as this number and this list, with the limit
that `readValue_printed` has: the pair and the list take two levels of the nesting that the reader
allows, the values of the list have the rest.

Whatever the values are, the number comes first and it is an integer. So a batch that can be read at
all is read under its own number.
-/

set_option autoImplicit false

namespace ViewLink

open Json

namespace Wire

/-- The text of a pair, bracket by bracket. -/
theorem bytes_ofPair (n : UInt64) (vs : List Value) :
    Text.bytes (ofPair n vs).text = Ascii.openBracket :: (Text.utf8 (Number.unsigned n).chars
      ++ Ascii.comma :: Ascii.openBracket
        :: (Text.utf8 (itemsChars vs) ++ [Ascii.closeBracket])) := by
  have hchars : (ofPair n vs).chars = '[' :: ((Number.unsigned n).chars
      ++ ',' :: ('[' :: (itemsChars vs ++ [']']))) := by
    rw [ofPair, Value.chars, moreItems, chars_array]
    rfl
  rw [Value.text, Text.bytes, String.toList_ofList, hchars, Text.utf8_cons, Text.utf8_append,
    Text.utf8_cons, Text.utf8_cons, Text.utf8_append]
  rfl

/-! ## Pairs that are read back -/

/-- **The reader of a pair takes in the number, then the list, then the end.** -/
theorem readPair_number (list : Reader (List Value)) (n : UInt64) {b : UInt8}
    (hblank : isBlank b = false) (hclose : b ≠ Ascii.closeBracket) (bs : Bytes) :
    readPair list (Ascii.openBracket
        :: (Text.utf8 (Number.unsigned n).chars ++ Ascii.comma :: b :: bs))
      = (list (b :: bs) >>= fun r => readEnd r.2 >>= fun _ => pure (n, r.1)) := by
  simpa using readPair_of_front list (pairFront_printed n) (skipBlank_cons hblank bs) hclose

/-- The pair and its list nest two levels around the values. -/
theorem nesting_ofPair (n : UInt64) (vs : List Value) :
    (ofPair n vs).nesting = itemsNesting vs + 1 + 1 := by
  simp [ofPair, Value.nesting, itemsNesting]

/-- **A printed pair is read back** if it does not nest too deep, and refused if it does. -/
theorem readPair_printed (n : UInt64) {vs : List Value} (h : ∀ x ∈ itemsFloats vs, ReadsBack x) :
    readPair readList (Text.bytes (ofPair n vs).text)
      = within maxNesting (ofPair n vs).nesting (n, vs) := by
  have hlist : readList (Ascii.openBracket :: (Text.utf8 (itemsChars vs) ++ [Ascii.closeBracket]))
      = within valueNesting (itemsNesting vs) (vs, [Ascii.closeBracket]) :=
    readItems_printed vs valueNesting [Ascii.closeBracket] h
  calc readPair readList (Text.bytes (ofPair n vs).text)
      = (readList (Ascii.openBracket :: (Text.utf8 (itemsChars vs) ++ [Ascii.closeBracket]))
          >>= fun r => readEnd r.2 >>= fun _ => pure (n, r.1)) := by
        rw [bytes_ofPair, readPair_number readList n (by decide) (by decide)]
    _ = within valueNesting (itemsNesting vs) (n, vs) := by
        rw [hlist]
        unfold within
        split <;> rfl
    -- The bracket of the pair and the one of the list each take a level of what is allowed.
    _ = within (valueNesting + 1 + 1) (itemsNesting vs + 1 + 1) (n, vs) := by
        rw [within_succ_succ, within_succ_succ]
    _ = within maxNesting (ofPair n vs).nesting (n, vs) := by
        rw [nesting_ofPair]
        rfl

end Wire

namespace Batch

/-- **A printed batch is read back** if it does not nest too deep, and refused if it does. -/
theorem read_bytes {b : Batch} (h : ∀ x ∈ itemsFloats b.commands, ReadsBack x) :
    read b.bytes = within maxNesting b.value.nesting b := by
  rw [read, bytes, text, value, Wire.readPair_printed b.sequence h, within_map]

/-- **A printed batch that can be read is read under its own number**, also with floats that are not
read back as themselves. -/
theorem sequence_of_read {b r : Batch} (h : read b.bytes = .ok r) : r.sequence = b.sequence := by
  obtain ⟨⟨n, vs⟩, hpair, hr⟩ := bind_eq_ok.1 h
  cases hr
  rw [bytes, text, value, Wire.bytes_ofPair,
    Wire.readPair_number _ _ (by decide) (by decide)] at hpair
  -- Whatever the list is read as, the number stands beside it unchanged.
  obtain ⟨_, _, h₁⟩ := bind_eq_ok.1 hpair
  obtain ⟨_, _, h₂⟩ := bind_eq_ok.1 h₁
  cases h₂
  rfl

end Batch

end ViewLink
