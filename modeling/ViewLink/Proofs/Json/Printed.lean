import ViewLink.Json.Printer
import ViewLink.Proofs.Json.Brackets
import ViewLink.Proofs.Text.Utf8

/-!
# The brackets and the bytes of printed text

What the printer writes has no control characters, since in strings these are escaped and outside of
strings there are none; so a printed text never holds a newline. And its brackets are in order:
under `Place.scan` a printed value leads back to its own depth (`scan_chars`), whatever its strings
hold.
-/

set_option autoImplicit false

namespace ViewLink.Json

open Text (utf8 utf8_append utf8_cons utf8_nil)

/-! ## Numbers -/

/-- The characters of numbers. -/
def isNumeric (c : Char) : Bool := c.isDigit || c == '-' || c == '+' || c == '.' || c == 'e'

theorem isNumeric_of_isDigit {c : Char} (h : c.isDigit = true) : isNumeric c = true := by
  simp [isNumeric, h]

theorem isNumeric_toDigits (n : Nat) : ∀ c ∈ Nat.toDigits 10 n, isNumeric c = true :=
  fun _ hc => isNumeric_of_isDigit (Nat.isDigit_of_mem_toDigits (by decide) (by decide) hc)

theorem isNumeric_replicate (n : Nat) : ∀ c ∈ List.replicate n '0', isNumeric c = true := by
  intro c hc
  rw [List.eq_of_mem_replicate hc]
  decide

theorem isNumeric_digits_ofFloat (x : Float) :
    ∀ c ∈ (Decimal.Digits.ofFloat x).digits, isNumeric c = true := by
  intro c hc
  have hdrop := List.mem_reverse.1 hc
  exact isNumeric_toDigits _ c (List.mem_reverse.1 (List.dropWhile_subset _ hdrop))

theorem isNumeric_positional {n : Decimal.Digits} (h : ∀ c ∈ n.digits, isNumeric c = true) :
    ∀ c ∈ Decimal.Style.positional n, isNumeric c = true := by
  have htake : ∀ k, ∀ c ∈ n.digits.take k, isNumeric c = true :=
    fun k c hc => h c (List.mem_of_mem_take hc)
  have hdrop : ∀ k, ∀ c ∈ n.digits.drop k, isNumeric c = true :=
    fun k c hc => h c (List.mem_of_mem_drop hc)
  unfold Decimal.Style.positional
  -- Zeros before the digits, zeros behind them, or the point among them.
  split
  · simp only [List.forall_mem_cons, List.forall_mem_append]
    exact ⟨by decide, by decide, isNumeric_replicate _, h⟩
  · simp only
    split
    · simp only [List.forall_mem_append]
      exact ⟨⟨h, isNumeric_replicate _⟩, List.all_eq_true.1 rfl⟩
    · simp only [List.forall_mem_cons, List.forall_mem_append]
      exact ⟨htake _, by decide, hdrop _⟩

theorem isNumeric_scientific (style : Decimal.Style) {n : Decimal.Digits}
    (h : ∀ c ∈ n.digits, isNumeric c = true) : ∀ c ∈ style.scientific n, isNumeric c = true := by
  have hmark : ∀ c ∈ (if n.exponent < 0 then ['e', '-'] else
      if style.plusSign then ['e', '+'] else ['e']), isNumeric c = true := by
    split
    · exact List.all_eq_true.1 rfl
    · split <;> exact List.all_eq_true.1 rfl
  have hsize := isNumeric_toDigits n.exponent.natAbs
  unfold Decimal.Style.scientific
  simp only
  -- No digits at all, a single one, and more than one with a point behind the first.
  split
  · simp only [List.cons_append, List.forall_mem_cons, List.forall_mem_append]
    exact ⟨by decide, hmark, hsize⟩
  · next d hdigits =>
      simp only [List.cons_append, List.forall_mem_cons, List.forall_mem_append]
      exact ⟨h d (by simp [hdigits]), hmark, hsize⟩
  · next d ds _ hdigits =>
      simp only [List.cons_append, List.forall_mem_cons, List.forall_mem_append]
      exact ⟨h d (by simp [hdigits]), by decide,
        ⟨fun c hc => h c (by simp [hdigits, hc]), hmark⟩, hsize⟩

theorem isNumeric_chars (n : Number) : ∀ c ∈ n.chars, isNumeric c = true := by
  cases n with
  | unsigned n => exact isNumeric_toDigits n.toNat
  | negative k => exact List.forall_mem_cons.2 ⟨by decide, isNumeric_toDigits (k.val + 1)⟩
  | float x =>
      simp only [Number.chars, Decimal.Style.float, List.forall_mem_append]
      constructor
      · split <;> exact List.all_eq_true.1 rfl
      · split
        · exact List.all_eq_true.1 rfl
        · unfold Decimal.Style.chars
          split
          · exact isNumeric_positional (isNumeric_digits_ofFloat x)
          · exact isNumeric_scientific _ (isNumeric_digits_ofFloat x)

theorem bounds_of_isNumeric {c : Char} (h : isNumeric c = true) :
    0x2B ≤ c.toNat ∧ c.toNat ≤ 0x39 ∨ c = 'e' := by
  simp only [isNumeric, Bool.or_eq_true, beq_iff_eq, Char.isDigit_iff_toNat] at h
  rcases h with (((⟨hzero, hnine⟩ | rfl) | rfl) | rfl) | rfl
  · exact .inl ⟨Nat.le_trans (by decide) hzero, hnine⟩
  · exact .inl (by decide)
  · exact .inl (by decide)
  · exact .inl (by decide)
  · exact .inr rfl

theorem lt_of_isNumeric {c : Char} (h : isNumeric c = true) : c.toNat < 0x80 := by
  rcases bounds_of_isNumeric h with ⟨-, hle⟩ | rfl
  · omega
  · decide

theorem isPlain_of_isNumeric {c : Char} (h : isNumeric c = true) :
    isPlain (UInt8.ofNat c.toNat) = true := by
  have hlt : c.toNat < 256 := Nat.lt_trans (lt_of_isNumeric h) (by decide)
  rcases bounds_of_isNumeric h with ⟨hlow, hhigh⟩ | rfl
  · refine isPlain_of_lt ?_ ?_ <;> rw [UInt8.toNat_ofNat_of_lt' hlt] <;> omega
  · decide

/-- A printed number is a run of plain bytes. -/
theorem isPlain_utf8_number (n : Number) : ∀ b ∈ utf8 n.chars, isPlain b = true := by
  have hnumeric := isNumeric_chars n
  rw [Text.utf8_of_lt fun c hc => lt_of_isNumeric (hnumeric c hc)]
  intro b hb
  obtain ⟨c, hc, rfl⟩ := List.mem_map.1 hb
  exact isPlain_of_isNumeric (hnumeric c hc)

/-! ## Strings -/

/-- The character leaves a string neither open to an escape nor closed. -/
theorem scan_ordinary {cs : List Char} (hquote : '"' ∉ cs) (hbackslash : '\\' ∉ cs) (d : Nat) :
    Place.scan ⟨d, .inString⟩ (utf8 cs) = some ⟨d, .inString⟩ :=
  Place.scan_inString (Text.not_mem_utf8 hquote (by decide))
    (Text.not_mem_utf8 hbackslash (by decide)) d

theorem hexDigit_ordinary {n : Nat} (h : n < 16) :
    0x20 ≤ (hexDigit n).toNat ∧ hexDigit n ≠ '"' ∧ hexDigit n ≠ '\\' := by
  have hall : ∀ n < 16, 0x20 ≤ (hexDigit n).toNat ∧ hexDigit n ≠ '"' ∧ hexDigit n ≠ '\\' := by
    decide
  exact hall n h

/-- The characters with an escape of two characters, and the second one of each. -/
def shortEscapes : List (Char × Char) :=
  [('"', '"'), ('\\', '\\'), ('\x08', 'b'), ('\t', 't'), ('\n', 'n'), ('\x0C', 'f'), ('\r', 'r')]

/-- **The three ways a character stands in a string**: after a backslash, as a code point, and as
itself. -/
theorem escaped_cases (c : Char) :
    (∃ e, (c, e) ∈ shortEscapes ∧ escaped c = ['\\', e])
      ∨ (c.toNat < 0x20
        ∧ escaped c = ['\\', 'u', '0', '0', hexDigit (c.toNat / 16), hexDigit (c.toNat % 16)])
      ∨ (c ≠ '"' ∧ c ≠ '\\' ∧ 0x20 ≤ c.toNat ∧ escaped c = [c]) := by
  have hletter : ∀ n, c.toNat = n → c = Char.ofNat n := by
    rintro n rfl
    exact (Char.ofNat_toNat c).symm
  unfold escaped
  by_cases hquote : c = '"'
  · exact .inl ⟨'"', by simp [shortEscapes, hquote], if_pos hquote⟩
  · rw [if_neg hquote]
    by_cases hbackslash : c = '\\'
    · exact .inl ⟨'\\', by simp [shortEscapes, hbackslash], if_pos hbackslash⟩
    · rw [if_neg hbackslash]
      by_cases hcontrol : c.toNat < 0x20
      · rw [if_pos hcontrol]
        -- Five control characters have a letter.
        split
        · next h => exact .inl ⟨'b', by simp [shortEscapes, hletter _ h], rfl⟩
        · next h => exact .inl ⟨'t', by simp [shortEscapes, hletter _ h], rfl⟩
        · next h => exact .inl ⟨'n', by simp [shortEscapes, hletter _ h], rfl⟩
        · next h => exact .inl ⟨'f', by simp [shortEscapes, hletter _ h], rfl⟩
        · next h => exact .inl ⟨'r', by simp [shortEscapes, hletter _ h], rfl⟩
        · exact .inr (.inl ⟨hcontrol, rfl⟩)
      · exact .inr (.inr ⟨hquote, hbackslash, Nat.not_lt.1 hcontrol, if_neg hcontrol⟩)

/-- The two hexadecimal digits of a control character. -/
theorem hexDigits_ordinary {n : Nat} (h : n < 0x20) :
    ∀ c ∈ [hexDigit (n / 16), hexDigit (n % 16)], 0x20 ≤ c.toNat ∧ c ≠ '"' ∧ c ≠ '\\' := by
  have hhigh := hexDigit_ordinary (n := n / 16) (by omega)
  have hlow := hexDigit_ordinary (n := n % 16) (by omega)
  exact List.forall_mem_cons.2 ⟨hhigh, List.forall_mem_singleton.2 hlow⟩

/-- **A character as it stands in a string leads from inside the string to inside the string.** -/
theorem scan_escaped (c : Char) (d : Nat) :
    Place.scan ⟨d, .inString⟩ (utf8 (escaped c)) = some ⟨d, .inString⟩ := by
  rcases escaped_cases c with ⟨e, he, h⟩ | ⟨hcontrol, h⟩ | ⟨hquote, hbackslash, -, h⟩
  · rw [h]
    have hall : ∀ p ∈ shortEscapes,
        Place.scan ⟨d, .inString⟩ (utf8 ['\\', p.2]) = some ⟨d, .inString⟩ := by
      simp only [shortEscapes, List.forall_mem_cons]
      exact ⟨rfl, rfl, rfl, rfl, rfl, rfl, rfl, by simp⟩
    exact hall (c, e) he
  · rw [h]
    -- For the scan the letter `u` ends the escape, and the digits are like any other character.
    have hdigits := hexDigits_ordinary hcontrol
    show Place.scan ⟨d, .inString⟩
      (utf8 ['0', '0', hexDigit (c.toNat / 16), hexDigit (c.toNat % 16)]) = _
    refine scan_ordinary ?_ ?_ d
    · simpa using ⟨(hdigits _ (by simp)).2.1.symm, (hdigits _ (by simp)).2.1.symm⟩
    · simpa using ⟨(hdigits _ (by simp)).2.2.symm, (hdigits _ (by simp)).2.2.symm⟩
  · rw [h]
    exact scan_ordinary (by simpa using hquote.symm) (by simpa using hbackslash.symm) d

theorem scan_flatMap_escaped (cs : List Char) (d : Nat) :
    Place.scan ⟨d, .inString⟩ (utf8 (cs.flatMap escaped)) = some ⟨d, .inString⟩ := by
  induction cs with
  | nil => rfl
  | cons c cs ih =>
      calc Place.scan ⟨d, .inString⟩ (utf8 ((c :: cs).flatMap escaped))
          = Place.scan ⟨d, .inString⟩ (utf8 (escaped c) ++ utf8 (cs.flatMap escaped)) := by
            rw [List.flatMap_cons, utf8_append]
        _ = Place.scan ⟨d, .inString⟩ (utf8 (cs.flatMap escaped)) :=
            Place.scan_append_of_eq (scan_escaped c d) _
        _ = some ⟨d, .inString⟩ := ih

theorem scan_quoted (s : String) (d : Nat) :
    Place.scan ⟨d, .outside⟩ (utf8 (quoted s)) = some ⟨d, .afterString⟩ := by
  show Place.scan ⟨d, .inString⟩ (utf8 (s.toList.flatMap escaped ++ ['"'])) = _
  rw [utf8_append, Place.scan_append_of_eq (scan_flatMap_escaped s.toList d)]
  rfl

/-! ## Values -/

mutual

/-- **A printed value leads back to its own depth.** -/
theorem scan_chars (d : Nat) : ∀ v : Value, ∃ m, Mode.Resting m
    ∧ Place.scan ⟨d, .outside⟩ (utf8 v.chars) = some ⟨d, m⟩
  | .null => ⟨.outside, .inl rfl, rfl⟩
  | .bool true => ⟨.outside, .inl rfl, rfl⟩
  | .bool false => ⟨.outside, .inl rfl, rfl⟩
  | .number n => ⟨.outside, .inl rfl, Place.scan_plain (isPlain_utf8_number n) d⟩
  | .string s => ⟨.afterString, .inr rfl, scan_quoted s d⟩
  | .array [] => ⟨.outside, .inl rfl, rfl⟩
  | .array (x :: xs) => by
      refine ⟨.outside, .inl rfl, ?_⟩
      obtain ⟨m, hm, hx⟩ := scan_chars (d + 1) x
      show Place.scan ⟨d + 1, .outside⟩ (utf8 (x.chars ++ moreItems xs)) = _
      rw [utf8_append, Place.scan_append_of_eq hx]
      exact scan_moreItems d hm xs
  | .object .nil => ⟨.outside, .inl rfl, rfl⟩
  | .object (.cons k _ v rest) => by
      refine ⟨.outside, .inl rfl, ?_⟩
      obtain ⟨m, hm, hv⟩ := scan_chars (d + 1) v
      show Place.scan ⟨d + 1, .outside⟩
        (utf8 (quoted k ++ ':' :: (v.chars ++ moreMembers rest))) = _
      rw [utf8_append, Place.scan_append_of_eq (scan_quoted k (d + 1))]
      show Place.scan ⟨d + 1, .outside⟩ (utf8 (v.chars ++ moreMembers rest)) = _
      rw [utf8_append, Place.scan_append_of_eq hv]
      exact scan_moreMembers d hm rest

theorem scan_moreItems (d : Nat) {m : Mode} (hm : m.Resting) : ∀ xs : List Value,
    Place.scan ⟨d + 1, m⟩ (utf8 (moreItems xs)) = some ⟨d, .outside⟩
  | [] => Place.scan_cons (Place.step_closing rfl d hm) []
  | x :: xs => by
      obtain ⟨m', hm', hx⟩ := scan_chars (d + 1) x
      have hcomma := Place.scan_cons (Place.step_comma (d + 1) hm) (utf8 (x.chars ++ moreItems xs))
      show Place.scan ⟨d + 1, m⟩ (Ascii.comma :: utf8 (x.chars ++ moreItems xs)) = _
      rw [hcomma, utf8_append, Place.scan_append_of_eq hx]
      exact scan_moreItems d hm' xs

theorem scan_moreMembers (d : Nat) {m : Mode} (hm : m.Resting) {bound : Option String} :
    ∀ ms : Members Value bound,
      Place.scan ⟨d + 1, m⟩ (utf8 (moreMembers ms)) = some ⟨d, .outside⟩
  | .nil => Place.scan_cons (Place.step_closing rfl d hm) []
  | .cons k _ v rest => by
      obtain ⟨m', hm', hv⟩ := scan_chars (d + 1) v
      have hcomma := Place.scan_cons (Place.step_comma (d + 1) hm)
        (utf8 (quoted k ++ ':' :: (v.chars ++ moreMembers rest)))
      show Place.scan ⟨d + 1, m⟩
        (Ascii.comma :: utf8 (quoted k ++ ':' :: (v.chars ++ moreMembers rest))) = _
      rw [hcomma, utf8_append, Place.scan_append_of_eq (scan_quoted k (d + 1))]
      show Place.scan ⟨d + 1, .outside⟩ (utf8 (v.chars ++ moreMembers rest)) = _
      rw [utf8_append, Place.scan_append_of_eq hv]
      exact scan_moreMembers d hm' rest

end

/-! ## No control characters -/

theorem le_of_mem_escaped (c : Char) : ∀ e ∈ escaped c, 0x20 ≤ e.toNat := by
  rcases escaped_cases c with ⟨e, he, h⟩ | ⟨hcontrol, h⟩ | ⟨-, -, hle, h⟩
  · have hall : ∀ p ∈ shortEscapes, 0x20 ≤ p.2.toNat := by simp [shortEscapes]
    simpa [h] using hall (c, e) he
  · simpa [h] using fun e he => (hexDigits_ordinary hcontrol e he).1
  · simpa [h] using hle

theorem le_of_mem_quoted (s : String) : ∀ c ∈ quoted s, 0x20 ≤ c.toNat := by
  simp only [quoted, List.forall_mem_cons, List.forall_mem_append]
  refine ⟨by decide, fun e he => ?_, by decide, by simp⟩
  obtain ⟨c, -, he⟩ := List.mem_flatMap.1 he
  exact le_of_mem_escaped c e he

theorem le_of_mem_number (n : Number) : ∀ c ∈ n.chars, 0x20 ≤ c.toNat := by
  intro c hc
  rcases bounds_of_isNumeric (isNumeric_chars n c hc) with ⟨hle, -⟩ | rfl
  · exact Nat.le_trans (by decide) hle
  · decide

mutual

/-- **A printed value holds no control characters.** -/
theorem le_of_mem_chars : ∀ v : Value, ∀ c ∈ v.chars, 0x20 ≤ c.toNat
  | .null => by simp [Value.chars]
  | .bool true => by simp [Value.chars]
  | .bool false => by simp [Value.chars]
  | .number n => le_of_mem_number n
  | .string s => le_of_mem_quoted s
  | .array [] => by simp [Value.chars]
  | .array (x :: xs) => by
      rw [Value.chars, List.forall_mem_cons, List.forall_mem_append]
      exact ⟨by decide, le_of_mem_chars x, le_of_mem_moreItems xs⟩
  | .object .nil => by simp [Value.chars]
  | .object (.cons k _ v rest) => by
      rw [Value.chars, List.forall_mem_cons, List.forall_mem_append, List.forall_mem_cons,
        List.forall_mem_append]
      exact ⟨by decide, le_of_mem_quoted k, by decide, le_of_mem_chars v,
        le_of_mem_moreMembers rest⟩

theorem le_of_mem_moreItems : ∀ xs : List Value, ∀ c ∈ moreItems xs, 0x20 ≤ c.toNat
  | [] => by simp [moreItems]
  | x :: xs => by
      rw [moreItems, List.forall_mem_cons, List.forall_mem_append]
      exact ⟨by decide, le_of_mem_chars x, le_of_mem_moreItems xs⟩

theorem le_of_mem_moreMembers {bound : Option String} :
    ∀ ms : Members Value bound, ∀ c ∈ moreMembers ms, 0x20 ≤ c.toNat
  | .nil => by simp [moreMembers]
  | .cons k _ v rest => by
      rw [moreMembers, List.forall_mem_cons, List.forall_mem_append, List.forall_mem_cons,
        List.forall_mem_append]
      exact ⟨by decide, le_of_mem_quoted k, by decide, le_of_mem_chars v,
        le_of_mem_moreMembers rest⟩

end

/-- **The octets of a printed value are above the control characters**, and so no newline is among
them. -/
theorem le_of_mem_bytes_text (v : Value) : ∀ b ∈ Text.bytes v.text, 0x20 ≤ b := by
  rw [Value.text, Text.bytes, String.toList_ofList]
  exact Text.le_of_mem_utf8 (le_of_mem_chars v)

end ViewLink.Json
