import Mathlib.Data.List.TakeWhile
import ViewLink.Json.Scan
import ViewLink.Proofs.Except

/-!
# The text of numbers

A number is written as an integer, with a fraction or an exponent behind it or both. The integer may
have a minus sign, and no zero in front of other digits. Nothing marks the end of a number, so the
reader takes all that could belong to it (`readNumber_complete`).

Which class a number belongs to depends on how it is written. The unsigned numbers are those without
sign, fraction and exponent whose value is below `2 ^ 64` (`NumberText.unsigned_iff`), and the
negative ones have a minus sign and a value from `1` to `2 ^ 63` behind it
(`NumberText.negative_iff`). All others are doubles.

## Main definitions

* `Apart` — bytes that do not go on with a number;
* `DigitsText`, `WholeText` — runs of digits, `natOf` — what they denote;
* `FractionText`, `ExponentText` — what may stand behind an integer;
* `NumberText` — numbers.
-/

set_option autoImplicit false

namespace ViewLink.Json

/-! ## What may follow a number -/

/-- The bytes that would belong to the number. -/
def continuesNumber (b : UInt8) : Bool :=
  Ascii.isDigit b || b == Ascii.point || b == 0x65 || b == 0x45

/-- **The bytes do not go on with a number that is read before them.** -/
def Apart (more : Bytes) : Prop := ∀ b ∈ more.head?, continuesNumber b = false

theorem apart_nil : Apart [] := by simp [Apart]

theorem apart_cons {b : UInt8} (h : continuesNumber b = false) (bs : Bytes) : Apart (b :: bs) := by
  simpa [Apart] using h

theorem Apart.ne {b : UInt8} {bs : Bytes} (h : Apart (b :: bs)) {c : UInt8}
    (hc : continuesNumber c = true) : b ≠ c := by
  rintro rfl
  exact absurd (h b rfl) (by simp [hc])

theorem Apart.not_digit {b : UInt8} {bs : Bytes} (h : Apart (b :: bs)) :
    Ascii.isDigit b = false := by
  have hb := h b rfl
  simp only [continuesNumber, Bool.or_eq_false_iff] at hb
  exact hb.1.1.1

/-! ## The reader, step by step -/

/-- The sign of an exponent, if it has one, and the bytes after it. -/
def takeSign (bs : Bytes) : Bool × Bytes :=
  match bs with
  | Ascii.minus :: bs => (true, bs)
  | Ascii.plus :: bs => (false, bs)
  | bs => (false, bs)

/-- The digits of an exponent. -/
def readPower (negative : Bool) : Reader (Option Int) := fun bs => do
  let (digits, rest) ← readDigits bs
  let size : Nat := digits.foldl (fun n d => n * 10 + d) 0
  return (some (if negative then -(size : Int) else size), rest)

/-- The sign of a number, if it has one, and the bytes after it. -/
def takeMinus (bs : Bytes) : Bool × Bytes :=
  match bs with
  | Ascii.minus :: bs => (true, bs)
  | bs => (false, bs)

/-- A number after its sign. -/
def readUnsigned (negative : Bool) : Reader Number := fun bs => do
  let (whole, bs) ← readWhole bs
  let (fraction, bs) ← readFraction bs
  let (exponent, bs) ← readExponent bs
  match numberOf negative whole fraction exponent with
  | none => .error .malformed
  | some n => return (n, bs)

theorem readExponent_cons (b : UInt8) (bs : Bytes) :
    readExponent (b :: bs)
      = if b = 0x65 || b = 0x45 then readPower (takeSign bs).1 (takeSign bs).2
        else .ok (none, b :: bs) := rfl

theorem readNumber_eq (bs : Bytes) :
    readNumber bs = readUnsigned (takeMinus bs).1 (takeMinus bs).2 := rfl

/-! ## The grammar -/

/-- The values of decimal digits. -/
def digitValues (t : Bytes) : List Nat := t.map Ascii.digitValue

/-- The number that decimal digits denote. -/
def natOf (t : Bytes) : Nat := (digitValues t).foldl (fun n d => n * 10 + d) 0

/-- **A run of decimal digits.** -/
structure DigitsText (t : Bytes) : Prop where
  /-- There is one at least. -/
  ne_nil : t ≠ []
  /-- There is nothing else. -/
  isDigit : ∀ b ∈ t, Ascii.isDigit b = true

/-- **The digits of an integer.** -/
structure WholeText (t : Bytes) : Prop extends DigitsText t where
  /-- A zero in front stands alone. -/
  zero_alone : t.head? = some Ascii.zero → t = [Ascii.zero]

/-- **The sign of a number**, and whether it is a minus sign. -/
inductive SignText : Bytes → Bool → Prop
  | none : SignText [] false
  | minus : SignText [Ascii.minus] true

/-- **A fraction**, or nothing. -/
inductive FractionText : Bytes → Option (List Nat) → Prop
  | none : FractionText [] none
  | some {t : Bytes} : DigitsText t → FractionText (Ascii.point :: t) (some (digitValues t))

/-- **An exponent**, or nothing. It may also have a plus sign. -/
inductive ExponentText : Bytes → Option Int → Prop
  | none : ExponentText [] none
  | some {mark : UInt8} {sign t : Bytes} {negative : Bool} : mark = 0x65 ∨ mark = 0x45 →
      SignText sign negative ∨ sign = [Ascii.plus] ∧ negative = false → DigitsText t →
      ExponentText (mark :: (sign ++ t)) (some (if negative then -(natOf t : Int) else natOf t))

/-- **A number.** -/
inductive NumberText : Bytes → Number → Prop
  | mk {sign whole fraction exponent : Bytes} {negative : Bool} {f : Option (List Nat)}
      {e : Option Int} {n : Number} : SignText sign negative → WholeText whole →
      FractionText fraction f → ExponentText exponent e →
      numberOf negative (digitValues whole) f e = some n →
      NumberText (sign ++ (whole ++ (fraction ++ exponent))) n

/-- A number begins with its minus sign or a digit. -/
theorem NumberText.head {t : Bytes} {n : Number} (h : NumberText t n) :
    ∃ b tail, t = b :: tail ∧ (b = Ascii.minus ∨ Ascii.isDigit b = true) := by
  obtain @⟨_, whole, fraction, exponent, _, _, _, _, hsign, hwhole, -, -, -⟩ := h
  cases hsign with
  | none =>
      obtain ⟨b, tail, rfl⟩ := List.exists_cons_of_ne_nil hwhole.ne_nil
      exact ⟨b, tail ++ (fraction ++ exponent), rfl, .inr (hwhole.isDigit b (by simp))⟩
  | minus => exact ⟨Ascii.minus, _, rfl, .inl rfl⟩

/-! ## What is read is in the grammar -/

theorem readDigits_sound {bs rest : Bytes} {digits : List Nat}
    (h : readDigits bs = .ok (digits, rest)) :
    ∃ t, DigitsText t ∧ digits = digitValues t ∧ bs = t ++ rest := by
  cases bs with
  | nil => cases h
  | cons b bs =>
      rw [readDigits] at h
      split at h
      · next hb =>
          cases h
          refine ⟨(b :: bs).takeWhile Ascii.isDigit, ⟨?_, ?_⟩, rfl,
            List.takeWhile_append_dropWhile.symm⟩
          · rw [List.takeWhile_cons_of_pos hb]
            simp
          · exact List.all_eq_true.1 List.all_takeWhile
      · cases h

theorem readWhole_sound {bs rest : Bytes} {digits : List Nat}
    (h : readWhole bs = .ok (digits, rest)) :
    ∃ t, WholeText t ∧ digits = digitValues t ∧ bs = t ++ rest := by
  cases bs with
  | nil => cases h
  | cons b bs =>
      rw [readWhole] at h
      split at h
      · next hzero =>
          subst hzero
          split at h
          · cases h
            have hdigits : DigitsText [Ascii.zero] :=
              ⟨by simp, List.forall_mem_singleton.2 (by decide)⟩
            exact ⟨[Ascii.zero], ⟨hdigits, fun _ => rfl⟩, rfl, rfl⟩
          · cases h
      · next hne =>
          obtain ⟨t, ht, hdigits, hbs⟩ := readDigits_sound h
          refine ⟨t, ⟨ht, fun hhead => ?_⟩, hdigits, hbs⟩
          -- The first digit is no zero.
          obtain ⟨c, t, rfl⟩ := List.exists_cons_of_ne_nil ht.ne_nil
          rw [(List.cons.inj hbs).1] at hne
          exact absurd (Option.some.inj hhead) hne

theorem readFraction_sound {bs rest : Bytes} {fraction : Option (List Nat)}
    (h : readFraction bs = .ok (fraction, rest)) :
    ∃ t, FractionText t fraction ∧ bs = t ++ rest := by
  cases bs with
  | nil =>
      cases h
      exact ⟨[], .none, rfl⟩
  | cons b bs =>
      rw [readFraction] at h
      split at h
      · next hpoint =>
          subst hpoint
          obtain ⟨⟨digits, rest'⟩, hdigits, hpure⟩ := bind_eq_ok.1 h
          cases hpure
          obtain ⟨t, ht, rfl, rfl⟩ := readDigits_sound hdigits
          exact ⟨Ascii.point :: t, .some ht, rfl⟩
      · cases h
        exact ⟨[], .none, rfl⟩

theorem takeSign_sound (bs : Bytes) :
    ∃ sign, (SignText sign (takeSign bs).1 ∨ sign = [Ascii.plus] ∧ (takeSign bs).1 = false)
      ∧ bs = sign ++ (takeSign bs).2 := by
  unfold takeSign
  split
  · exact ⟨[Ascii.minus], .inl .minus, rfl⟩
  · exact ⟨[Ascii.plus], .inr ⟨rfl, rfl⟩, rfl⟩
  · exact ⟨[], .inl .none, rfl⟩

theorem takeMinus_sound (bs : Bytes) :
    ∃ sign, SignText sign (takeMinus bs).1 ∧ bs = sign ++ (takeMinus bs).2 := by
  unfold takeMinus
  split
  · exact ⟨[Ascii.minus], .minus, rfl⟩
  · exact ⟨[], .none, rfl⟩

theorem readExponent_sound {bs rest : Bytes} {exponent : Option Int}
    (h : readExponent bs = .ok (exponent, rest)) :
    ∃ t, ExponentText t exponent ∧ bs = t ++ rest := by
  cases bs with
  | nil =>
      cases h
      exact ⟨[], .none, rfl⟩
  | cons b bs =>
      rw [readExponent_cons] at h
      split at h
      · next hmark =>
          have hmark : b = 0x65 ∨ b = 0x45 := by simpa using hmark
          obtain ⟨⟨digits, rest'⟩, hdigits, hpure⟩ := bind_eq_ok.1 h
          cases hpure
          obtain ⟨sign, hsign, hbs⟩ := takeSign_sound bs
          obtain ⟨t, ht, rfl, htail⟩ := readDigits_sound hdigits
          refine ⟨b :: (sign ++ t), .some hmark hsign ht, ?_⟩
          rw [List.cons_append, List.append_assoc, ← htail, ← hbs]
      · cases h
        exact ⟨[], .none, rfl⟩

/-- **What is read as a number is the text of this number.** -/
theorem readNumber_sound {bs rest : Bytes} {n : Number} (h : readNumber bs = .ok (n, rest)) :
    ∃ t, NumberText t n ∧ bs = t ++ rest := by
  rw [readNumber_eq] at h
  obtain ⟨sign, hsign, hbs⟩ := takeMinus_sound bs
  obtain ⟨⟨digits, bs₁⟩, hwhole, h₁⟩ := bind_eq_ok.1 h
  obtain ⟨⟨f, bs₂⟩, hfraction, h₂⟩ := bind_eq_ok.1 h₁
  obtain ⟨⟨e, bs₃⟩, hexponent, h₃⟩ := bind_eq_ok.1 h₂
  obtain ⟨whole, ht, rfl, hbs₁⟩ := readWhole_sound hwhole
  obtain ⟨fraction, hf, rfl⟩ := readFraction_sound hfraction
  obtain ⟨exponent, he, rfl⟩ := readExponent_sound hexponent
  simp only at h₃
  split at h₃
  · cases h₃
  · next hnumber =>
      cases h₃
      refine ⟨_, .mk hsign ht hf he hnumber, ?_⟩
      rw [hbs, hbs₁]
      simp only [List.append_assoc]

/-! ## What is in the grammar is read -/

/-- The next byte is no digit. -/
def DigitsEnd (more : Bytes) : Prop := ∀ b ∈ more.head?, Ascii.isDigit b = false

theorem spanDigits_append {t more : Bytes} (h : ∀ b ∈ t, Ascii.isDigit b = true)
    (hmore : DigitsEnd more) : spanDigits (t ++ more) = (digitValues t, more) := by
  have hnone : more.takeWhile Ascii.isDigit = [] ∧ more.dropWhile Ascii.isDigit = more := by
    cases more with
    | nil => exact ⟨rfl, rfl⟩
    | cons b more =>
        have hb : ¬ Ascii.isDigit b = true := by simp [hmore b rfl]
        exact ⟨List.takeWhile_cons_of_neg hb, List.dropWhile_cons_of_neg hb⟩
  rw [spanDigits, List.takeWhile_append_of_pos h, List.dropWhile_append_of_pos h, hnone.1, hnone.2,
    List.append_nil]
  rfl

theorem readDigits_complete {t more : Bytes} (h : DigitsText t) (hmore : DigitsEnd more) :
    readDigits (t ++ more) = .ok (digitValues t, more) := by
  have hspan := spanDigits_append h.isDigit hmore
  obtain ⟨b, t, rfl⟩ := List.exists_cons_of_ne_nil h.ne_nil
  rw [List.cons_append] at hspan ⊢
  rw [readDigits, if_pos (h.isDigit b (by simp)), hspan]

theorem readWhole_complete {t more : Bytes} (h : WholeText t) (hmore : DigitsEnd more) :
    readWhole (t ++ more) = .ok (digitValues t, more) := by
  have hread := readDigits_complete h.toDigitsText hmore
  obtain ⟨b, t, rfl⟩ := List.exists_cons_of_ne_nil h.ne_nil
  rw [List.cons_append] at hread ⊢
  rw [readWhole]
  split
  · next hzero =>
      subst hzero
      obtain rfl : t = [] := (List.cons.inj (h.zero_alone rfl)).2
      have hnone : (([] ++ more).takeWhile Ascii.isDigit).isEmpty = true := by
        have hspan := spanDigits_append (t := []) (by simp) hmore
        rw [spanDigits, Prod.mk.injEq] at hspan
        rw [List.map_eq_nil_iff.1 hspan.1]
        rfl
      rw [if_pos hnone]
      rfl
  · exact hread

theorem readFraction_complete {t more : Bytes} {f : Option (List Nat)} (h : FractionText t f)
    (hmore : DigitsEnd more) (hpoint : ∀ b ∈ more.head?, b ≠ Ascii.point) :
    readFraction (t ++ more) = .ok (f, more) := by
  cases h with
  | none =>
      cases more with
      | nil => rfl
      | cons b more => rw [List.nil_append, readFraction, if_neg (hpoint b rfl)]
  | some ht =>
      rw [List.cons_append, readFraction, if_pos rfl, readDigits_complete ht hmore]
      rfl

theorem takeSign_complete {sign t : Bytes} {negative : Bool}
    (h : SignText sign negative ∨ sign = [Ascii.plus] ∧ negative = false) (ht : DigitsText t)
    (more : Bytes) : takeSign (sign ++ t ++ more) = (negative, t ++ more) := by
  rcases h with h | ⟨rfl, rfl⟩
  · cases h with
    | none =>
        obtain ⟨b, t, rfl⟩ := List.exists_cons_of_ne_nil ht.ne_nil
        have hdigit := ht.isDigit b (by simp)
        have hne : ∀ c, Ascii.isDigit c = false → b ≠ c := by
          rintro c hc rfl
          rw [hdigit] at hc
          cases hc
        simp [takeSign, hne Ascii.minus (by decide), hne Ascii.plus (by decide)]
    | minus => rfl
  · rfl

theorem takeMinus_complete {sign t : Bytes} {negative : Bool} (h : SignText sign negative)
    (ht : DigitsText t) (more : Bytes) :
    takeMinus (sign ++ (t ++ more)) = (negative, t ++ more) := by
  cases h with
  | none =>
      obtain ⟨b, t, rfl⟩ := List.exists_cons_of_ne_nil ht.ne_nil
      have hminus : b ≠ Ascii.minus := by
        rintro rfl
        exact absurd (ht.isDigit Ascii.minus (by simp)) (by decide)
      simp [takeMinus, hminus]
  | minus => rfl

theorem readExponent_complete {t more : Bytes} {e : Option Int} (h : ExponentText t e)
    (hmore : Apart more) : readExponent (t ++ more) = .ok (e, more) := by
  have hend : DigitsEnd more := by
    intro b hb
    obtain ⟨more, rfl⟩ := List.head?_eq_some_iff.1 hb
    exact hmore.not_digit
  cases h with
  | none =>
      cases more with
      | nil => rfl
      | cons b more =>
          have hb : ¬ (decide (b = 0x65) || decide (b = 0x45)) = true := by
            simp [hmore.ne (c := 0x65) (by decide), hmore.ne (c := 0x45) (by decide)]
          rw [List.nil_append, readExponent_cons, if_neg hb]
  | some hmark hsign ht =>
      rw [List.cons_append, readExponent_cons, if_pos (by simpa using hmark),
        takeSign_complete hsign ht, readPower, readDigits_complete ht hend]
      rfl

/-- Neither an exponent nor what follows a number goes on with the digits before it. -/
theorem head_exponent {t more : Bytes} {e : Option Int} (h : ExponentText t e)
    (hmore : Apart more) : ∀ b ∈ (t ++ more).head?, Ascii.isDigit b = false ∧ b ≠ Ascii.point := by
  intro b hb
  cases h with
  | none =>
      obtain ⟨more, rfl⟩ := List.head?_eq_some_iff.1 hb
      exact ⟨hmore.not_digit, hmore.ne (by decide)⟩
  | some hmark =>
      obtain rfl := Option.some.inj hb
      rcases hmark with rfl | rfl <;> decide

theorem digitsEnd_fraction {t more : Bytes} {f : Option (List Nat)} (h : FractionText t f)
    (hmore : DigitsEnd more) : DigitsEnd (t ++ more) := by
  cases h with
  | none => exact hmore
  | some =>
      intro b hb
      obtain rfl := Option.some.inj hb
      decide

/-- **The text of a number is read as this number**, if what follows does not belong to it. -/
theorem readNumber_complete {t more : Bytes} {n : Number} (h : NumberText t n)
    (hmore : Apart more) : readNumber (t ++ more) = .ok (n, more) := by
  obtain ⟨hsign, hwhole, hf, he, hnumber⟩ := h
  have hhead := head_exponent he hmore
  have hend := digitsEnd_fraction hf fun b hb => (hhead b hb).1
  simp only [List.append_assoc]
  rw [readNumber_eq, takeMinus_complete hsign hwhole.toDigitsText]
  refine bind_eq_ok.2 ⟨_, readWhole_complete hwhole hend, ?_⟩
  refine bind_eq_ok.2 ⟨_, readFraction_complete hf (fun b hb => (hhead b hb).1)
    fun b hb => (hhead b hb).2, ?_⟩
  refine bind_eq_ok.2 ⟨_, readExponent_complete he hmore, ?_⟩
  simp only [hnumber]
  rfl

/-! ## Classes of numbers -/

theorem foldl_ge (digits : List Nat) (m : Nat) :
    m ≤ digits.foldl (fun n d => n * 10 + d) m := by
  induction digits generalizing m with
  | nil => exact Nat.le_refl m
  | cons d digits ih =>
      calc m ≤ m * 10 + d := by omega
        _ ≤ digits.foldl (fun n d => n * 10 + d) (m * 10 + d) := ih (m * 10 + d)

/-- The digits of a number that fits 64 bits are all kept. -/
theorem keep_eq {digits : List Nat} {m : Nat}
    (h : digits.foldl (fun n d => n * 10 + d) m < UInt64.size) :
    Decimal.keep m digits = (digits.foldl (fun n d => n * 10 + d) m, digits.length) := by
  induction digits generalizing m with
  | nil => rfl
  | cons d digits ih =>
      rw [List.foldl_cons] at h
      have hle := foldl_ge digits (m * 10 + d)
      rw [Decimal.keep, if_pos (by omega), ih h]
      rfl

/-- Of the digits of a number that does not fit 64 bits some are dropped. -/
theorem keep_snd_lt {digits : List Nat} {m : Nat} (hm : m < UInt64.size)
    (h : UInt64.size ≤ digits.foldl (fun n d => n * 10 + d) m) :
    (Decimal.keep m digits).2 < digits.length := by
  induction digits generalizing m with
  | nil => exact absurd hm (Nat.not_lt.2 h)
  | cons d digits ih =>
      rw [Decimal.keep]
      split
      · next hfits => exact Nat.succ_lt_succ (ih hfits h)
      · exact Nat.succ_pos _

theorem ofDigits_of_lt {digits : List Nat}
    (h : digits.foldl (fun n d => n * 10 + d) 0 < UInt64.size) :
    Decimal.Significand.ofDigits digits [] 0 = ⟨digits.foldl (fun n d => n * 10 + d) 0, 0⟩ := by
  rw [Decimal.Significand.ofDigits, keep_eq h]
  simp [Decimal.keep]

theorem ofDigits_exponent_ne_zero {digits : List Nat}
    (h : UInt64.size ≤ digits.foldl (fun n d => n * 10 + d) 0) :
    (Decimal.Significand.ofDigits digits [] 0).exponent ≠ 0 := by
  have hdropped := keep_snd_lt (by decide) h
  simp only [Decimal.Significand.ofDigits, Decimal.keep]
  omega

/-- A literal that is no double has neither a fraction nor an exponent, and it fits 64 bits. -/
theorem numberOf_lt {negative : Bool} {whole : List Nat} {f : Option (List Nat)} {e : Option Int}
    {n : Number} (h : numberOf negative whole f e = some n) (hn : ∀ x, n ≠ .float x) :
    f = none ∧ e = none ∧ whole.foldl (fun n d => n * 10 + d) 0 < UInt64.size := by
  have hdouble : ∀ (x : Option Float) (sign : Float → Float),
      x.map (fun x => Number.float (sign x)) ≠ some n := by
    intro x sign hx
    obtain ⟨y, -, hy⟩ := Option.map_eq_some_iff.1 hx
    exact hn _ hy.symm
  simp only [numberOf] at h
  split at h
  · exact absurd h (hdouble _ _)
  · next hwritten =>
      simp only [Bool.or_eq_true, not_or, Bool.not_eq_true, Option.isSome_eq_false_iff,
        Option.isNone_iff_eq_none, decide_eq_true_eq, ne_eq, not_not] at hwritten
      obtain ⟨⟨rfl, rfl⟩, hexponent⟩ := hwritten
      refine ⟨rfl, rfl, ?_⟩
      -- The digits are all kept, or there would be a power of ten.
      by_contra hge
      exact ofDigits_exponent_ne_zero (Nat.not_lt.1 hge) hexponent

/-- The number of an integer that fits 64 bits, with or without a minus sign. -/
theorem numberOf_of_lt {negative : Bool} {whole : List Nat} {m : Nat}
    (hm : whole.foldl (fun n d => n * 10 + d) 0 = m) (h : m < UInt64.size) :
    numberOf negative whole none none
      = if negative then
          if hbounds : 0 < m ∧ m ≤ 0x8000000000000000 then
            some (.negative ⟨m - 1, by omega⟩)
          else (Decimal.scaled? ⟨m, 0⟩).map fun x => Number.float (-x)
        else some (.unsigned (UInt64.ofNat m)) := by
  subst hm
  simp only [numberOf, Option.getD_none, ofDigits_of_lt h]
  cases negative <;> rfl

/-- **A literal denotes an unsigned number** if it is an integer without sign that fits 64 bits. -/
theorem numberOf_eq_unsigned {negative : Bool} {whole : List Nat} {f : Option (List Nat)}
    {e : Option Int} {n : UInt64} :
    numberOf negative whole f e = some (.unsigned n)
      ↔ negative = false ∧ f = none ∧ e = none
        ∧ whole.foldl (fun n d => n * 10 + d) 0 = n.toNat := by
  constructor
  · intro h
    obtain ⟨rfl, rfl, hlt⟩ := numberOf_lt h nofun
    rw [numberOf_of_lt rfl hlt] at h
    cases negative with
    | false =>
        cases h
        exact ⟨rfl, rfl, rfl, (UInt64.toNat_ofNat_of_lt' hlt).symm⟩
    | true =>
        rw [if_pos rfl] at h
        split at h
        · cases h
        · obtain ⟨x, -, hx⟩ := Option.map_eq_some_iff.1 h
          cases hx
  · rintro ⟨rfl, rfl, rfl, hvalue⟩
    rw [numberOf_of_lt hvalue n.toNat_lt, UInt64.ofNat_toNat]
    rfl

/-- **A literal denotes a negative number** if it is an integer with a minus sign, not zero, that is
no less than the least of them. -/
theorem numberOf_eq_negative {negative : Bool} {whole : List Nat} {f : Option (List Nat)}
    {e : Option Int} {k : Fin 0x8000000000000000} :
    numberOf negative whole f e = some (.negative k)
      ↔ negative = true ∧ f = none ∧ e = none
        ∧ whole.foldl (fun n d => n * 10 + d) 0 = k.val + 1 := by
  constructor
  · intro h
    obtain ⟨rfl, rfl, hlt⟩ := numberOf_lt h nofun
    rw [numberOf_of_lt rfl hlt] at h
    cases negative with
    | false => cases h
    | true =>
        rw [if_pos rfl] at h
        split at h
        · next hbounds =>
            cases h
            exact ⟨rfl, rfl, rfl, (Nat.succ_pred_eq_of_pos hbounds.1).symm⟩
        · obtain ⟨x, -, hx⟩ := Option.map_eq_some_iff.1 h
          cases hx
  · rintro ⟨rfl, rfl, rfl, hvalue⟩
    have hfits : k.val + 1 < UInt64.size := by simp only [UInt64.size]; omega
    rw [numberOf_of_lt hvalue hfits, if_pos rfl, dif_pos ⟨Nat.succ_pos k.val, k.isLt⟩]
    rfl

/-- **An unsigned number is written as an integer without sign** whose value is the number. -/
theorem NumberText.unsigned_iff {t : Bytes} {n : UInt64} :
    NumberText t (.unsigned n) ↔ WholeText t ∧ natOf t = n.toNat := by
  constructor
  · rintro @⟨sign, whole, fraction, exponent, _, _, _, _, hsign, hwhole, hf, he, hnumber⟩
    obtain ⟨rfl, rfl, rfl, hvalue⟩ := numberOf_eq_unsigned.1 hnumber
    cases hsign
    cases hf
    cases he
    simpa using ⟨hwhole, hvalue⟩
  · rintro ⟨hwhole, hvalue⟩
    have htext := NumberText.mk .none hwhole .none .none
      (numberOf_eq_unsigned.2 ⟨rfl, rfl, rfl, hvalue⟩)
    simpa using htext

/-- **A negative number is written with a minus sign** in front of the integer without it. -/
theorem NumberText.negative_iff {t : Bytes} {k : Fin 0x8000000000000000} :
    NumberText t (.negative k)
      ↔ ∃ digits, t = Ascii.minus :: digits ∧ WholeText digits ∧ natOf digits = k.val + 1 := by
  constructor
  · rintro @⟨sign, whole, fraction, exponent, _, _, _, _, hsign, hwhole, hf, he, hnumber⟩
    obtain ⟨rfl, rfl, rfl, hvalue⟩ := numberOf_eq_negative.1 hnumber
    cases hsign
    cases hf
    cases he
    exact ⟨whole, by simp, hwhole, hvalue⟩
  · rintro ⟨digits, rfl, hwhole, hvalue⟩
    have htext := NumberText.mk .minus hwhole .none .none
      (numberOf_eq_negative.2 ⟨rfl, rfl, rfl, hvalue⟩)
    simpa using htext

end ViewLink.Json
