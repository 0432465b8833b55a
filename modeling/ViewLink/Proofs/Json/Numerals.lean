import Mathlib.Data.List.TakeWhile
import ViewLink.Proofs.Json.Printed

/-!
# Numbers that are read back

The integers are written as the grammar has them, from `-2 ^ 63` to `2 ^ 64 - 1`. Of a float that is
an assumption, `ReadsBack`: its text, all by itself, is read as this float. So what is printed for a
number is a text of it (`numberText_printed`), and the reader gives the number back with anything
behind it that does not belong to it. In printed text that is a comma or a closing bracket.
-/

set_option autoImplicit false

namespace ViewLink.Json

open Text (utf8)

/-! ## Integers -/

/-- The octets of a decimal number. -/
def decimal (n : Nat) : Bytes := utf8 (Nat.toDigits 10 n)

/-- The octet of a decimal digit. -/
def digit (n : Nat) : UInt8 := UInt8.ofNat (0x30 + n)

theorem isDigit_digit {n : Nat} (h : n < 10) : Ascii.isDigit (digit n) = true := by
  have hall : ∀ n < 10, Ascii.isDigit (digit n) = true := by decide
  exact hall n h

theorem digitValue_digit {n : Nat} (h : n < 10) : Ascii.digitValue (digit n) = n := by
  have hall : ∀ n < 10, Ascii.digitValue (digit n) = n := by decide
  exact hall n h

theorem digit_ne_zero {n : Nat} (h : n < 10) (hpos : 0 < n) : digit n ≠ Ascii.zero := by
  have hall : ∀ n < 10, 0 < n → digit n ≠ Ascii.zero := by decide
  exact hall n h hpos

theorem utf8_digitChar {n : Nat} (h : n < 10) : utf8 [Nat.digitChar n] = [digit n] := by
  have hall : ∀ n < 10, utf8 [Nat.digitChar n] = [digit n] := by decide
  exact hall n h

theorem decimal_of_lt {n : Nat} (h : n < 10) : decimal n = [digit n] := by
  rw [decimal, Nat.toDigits_of_lt_base h, utf8_digitChar h]

theorem decimal_of_le {n : Nat} (h : 10 ≤ n) :
    decimal n = decimal (n / 10) ++ [digit (n % 10)] := by
  rw [decimal, Nat.toDigits_of_base_le (by decide) h, Text.utf8_append,
    utf8_digitChar (Nat.mod_lt n (by decide)), decimal]

/-- **Induction on the digits of a number**, from the first one on. -/
@[elab_as_elim]
theorem digits_induction_on {motive : Nat → Prop} (one : ∀ n < 10, motive n)
    (more : ∀ n, 10 ≤ n → motive (n / 10) → motive n) (n : Nat) : motive n := by
  induction n using Nat.strongRecOn with
  | ind n ih =>
      rcases Nat.lt_or_ge n 10 with h | h
      · exact one n h
      · exact more n h (ih (n / 10) (by omega))

theorem isDigit_decimal (n : Nat) : ∀ b ∈ decimal n, Ascii.isDigit b = true := by
  induction n using digits_induction_on with
  | one n h =>
      rw [decimal_of_lt h]
      simpa using isDigit_digit h
  | more n h ih =>
      have hlast := isDigit_digit (Nat.mod_lt n (by decide : 10 > 0))
      rw [decimal_of_le h, List.forall_mem_append]
      exact ⟨ih, by simpa using hlast⟩

/-- Only the number zero starts with a zero. -/
theorem head_decimal {n : Nat} (h : 0 < n) : ∃ b bs, decimal n = b :: bs ∧ b ≠ Ascii.zero := by
  induction n using digits_induction_on with
  | one n hlt => exact ⟨digit n, [], decimal_of_lt hlt, digit_ne_zero hlt h⟩
  | more n hle ih =>
      obtain ⟨b, bs, hb, hne⟩ := ih (by omega)
      exact ⟨b, bs ++ [digit (n % 10)], by rw [decimal_of_le hle, hb]; rfl, hne⟩

/-- The digits of a number give the number back. -/
theorem natOf_decimal (n : Nat) : natOf (decimal n) = n := by
  induction n using digits_induction_on with
  | one n h =>
      rw [decimal_of_lt h, natOf, digitValues, List.map_singleton, digitValue_digit h]
      simp
  | more n h ih =>
      have hlast := digitValue_digit (Nat.mod_lt n (by decide : 10 > 0))
      calc natOf (decimal n)
          = natOf (decimal (n / 10)) * 10 + n % 10 := by
            rw [decimal_of_le h, natOf, digitValues, List.map_append, List.foldl_append,
              List.map_singleton, hlast]
            rfl
        _ = n / 10 * 10 + n % 10 := by rw [ih]
        _ = n := by omega

theorem wholeText_decimal (n : Nat) : WholeText (decimal n) := by
  rcases Nat.eq_zero_or_pos n with rfl | hpos
  · exact ⟨⟨by decide, isDigit_decimal 0⟩, fun _ => rfl⟩
  · obtain ⟨b, bs, hb, hne⟩ := head_decimal hpos
    refine ⟨⟨by simp [hb], isDigit_decimal n⟩, fun hzero => ?_⟩
    rw [hb] at hzero
    exact absurd (Option.some.inj hzero) hne

/-- **An unsigned integer is written as the grammar has it.** -/
theorem numberText_unsigned (n : UInt64) :
    NumberText (utf8 (Number.unsigned n).chars) (.unsigned n) :=
  NumberText.unsigned_iff.2 ⟨wholeText_decimal n.toNat, natOf_decimal n.toNat⟩

/-- **And so is a negative integer.** -/
theorem numberText_negative (k : Fin 0x8000000000000000) :
    NumberText (utf8 (Number.negative k).chars) (.negative k) :=
  NumberText.negative_iff.2
    ⟨_, rfl, wholeText_decimal (k.val + 1), natOf_decimal (k.val + 1)⟩

/-! ## Floats -/

/-- **The float prints to text that is read as this float.** -/
def ReadsBack (x : Float) : Prop :=
  Value.read (Text.bytes (Value.number (.float x)).text) = .ok (.number (.float x))

theorem readsBack_three_halves : ReadsBack 1.5 := by
  unfold ReadsBack
  rfl

/-- The bytes of numbers. -/
abbrev NumericByte (b : UInt8) : Prop := 0x2B ≤ b.toNat ∧ b.toNat ≤ 0x39 ∨ b = 0x65

theorem numeric_of_mem_utf8 {n : Number} {b : UInt8} (h : b ∈ utf8 n.chars) : NumericByte b := by
  rw [Text.utf8_of_lt fun c hc => lt_of_isNumeric (isNumeric_chars n c hc)] at h
  obtain ⟨c, hc, rfl⟩ := List.mem_map.1 h
  have hnumeric := isNumeric_chars n c hc
  rcases bounds_of_isNumeric hnumeric with hbounds | rfl
  · have hlt : c.toNat < UInt8.size := Nat.lt_trans (lt_of_isNumeric hnumeric) (by decide)
    exact .inl (by rwa [UInt8.toNat_ofNat_of_lt' hlt])
  · exact .inr rfl

theorem not_blank_of_numeric {b : UInt8} (h : NumericByte b) : isBlank b = false := by
  cases hb : isBlank b with
  | false => rfl
  | true =>
      simp only [isBlank, Bool.or_eq_true, beq_iff_eq] at hb
      rcases hb with ((rfl | rfl) | rfl) | rfl <;> exact absurd h (by decide)

theorem not_blank_of_mem_number {n : Number} {b : UInt8} (h : b ∈ utf8 n.chars) :
    isBlank b = false :=
  not_blank_of_numeric (numeric_of_mem_utf8 h)

/-- What a number begins with is one of its bytes. -/
theorem numericByte_of_head {b : UInt8} (h : b = Ascii.minus ∨ Ascii.isDigit b = true) :
    NumericByte b := by
  rcases h with rfl | hdigit
  · decide
  · simp only [Ascii.isDigit, Bool.and_eq_true, decide_eq_true_eq, UInt8.le_iff_toNat_le] at hdigit
    exact .inl ⟨Nat.le_trans (by decide) hdigit.1, hdigit.2⟩

/-- A scalar that begins with a byte of a number is one or it is no scalar. -/
theorem readScalar_cons {b : UInt8} (hb : NumericByte b) (bs : Bytes) :
    readScalar (b :: bs)
      = if b = Ascii.minus || Ascii.isDigit b then
          readNumber (b :: bs) >>= fun r => pure (.number r.1, r.2)
        else .error .malformed := by
  have hne : ∀ c, ¬ NumericByte c → b ≠ c := by
    rintro c hc rfl
    exact hc hb
  rw [readScalar, if_neg (hne 0x6E (by decide)), if_neg (hne 0x74 (by decide)),
    if_neg (hne 0x66 (by decide)), if_neg (hne Ascii.quote (by decide))]

theorem readScalar_numeric {b : UInt8} {bs rest : Bytes} {v : Value} (hb : NumericByte b)
    (h : readScalar (b :: bs) = .ok (v, rest)) :
    ∃ n, v = .number n ∧ readNumber (b :: bs) = .ok (n, rest) := by
  rw [readScalar_cons hb] at h
  split at h
  · obtain ⟨⟨n, rest'⟩, hn, hpure⟩ := bind_eq_ok.1 h
    cases hpure
    exact ⟨n, rfl, hn⟩
  · cases h

/-- A value that begins neither with a blank nor with a bracket is a scalar. -/
theorem readValue_scalar {b : UInt8} (hblank : isBlank b = false) (hopening : isOpening b = false)
    (nesting : Nat) (bs : Bytes) : readValue nesting (b :: bs) = readScalar (b :: bs) := by
  have hskip := skipBlank_cons hblank bs
  simp only [isOpening, Bool.or_eq_false_iff, beq_eq_false_iff_ne] at hopening
  cases nesting <;> rw [readValue, hskip] <;> split
  · next h => exact absurd (List.cons.inj h).1 hopening.1
  · next h => exact absurd (List.cons.inj h).1 hopening.2
  · rfl
  · next h => exact absurd (List.cons.inj h).1 hopening.1
  · next h => exact absurd (List.cons.inj h).1 hopening.2
  · rfl

/-- A text that is read as a number holds this number and nothing else. -/
theorem readNumber_float {x : Float} (h : ReadsBack x) :
    readNumber (utf8 (Number.float x).chars) = .ok (.float x, []) := by
  have hread : Value.read (utf8 (Number.float x).chars) = .ok (.number (.float x)) := by
    rwa [ReadsBack, Value.text, Text.bytes, String.toList_ofList] at h
  obtain ⟨⟨v, rest⟩, hvalue, hend⟩ := bind_eq_ok.1 hread
  cases hbytes : utf8 (Number.float x).chars with
  | nil =>
      rw [hbytes] at hvalue
      cases hvalue
  | cons b bs =>
      have hb : b ∈ utf8 (Number.float x).chars := by simp [hbytes]
      have hopening := isOpening_of_isPlain (isPlain_utf8_number _ b hb)
      rw [hbytes, readValue_scalar (not_blank_of_mem_number hb) hopening] at hvalue
      obtain ⟨n, rfl, hn⟩ := readScalar_numeric (numeric_of_mem_utf8 hb) hvalue
      obtain ⟨used, hused, -⟩ := readNumber_leads 0 hn
      -- What the number left over would have to be blank, and no byte of a number is.
      have hnil : rest = [] := by
        cases rest with
        | nil => rfl
        | cons c rest =>
            have hc : c ∈ utf8 (Number.float x).chars := by simp [hbytes, hused]
            have hskip := skipBlank_cons (not_blank_of_mem_number hc) rest
            simp only [hskip] at hend
            cases hend
      subst hnil
      cases hend
      exact hn

/-- **A printed number is a text of the grammar.** -/
theorem numberText_printed {n : Number} (h : ∀ x, n = .float x → ReadsBack x) :
    NumberText (utf8 n.chars) n := by
  cases n with
  | unsigned n => exact numberText_unsigned n
  | negative k => exact numberText_negative k
  | float x =>
      obtain ⟨t, ht, hbytes⟩ := readNumber_sound (readNumber_float (h x rfl))
      rwa [hbytes, List.append_nil]

end ViewLink.Json
