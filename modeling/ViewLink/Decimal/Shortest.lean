/-!
# The shortest decimal that reads back

A double is a mantissa times a power of two, and around it lies the interval of reals that round
to it. The decimal written for it is the one with the fewest digits inside that interval, and among
those the nearest to the double. Everything is decided in exact natural-number arithmetic.

The search looks at the grids of decimals with 1, 2, … 17 digits, from the leading digit of the
double down. On each grid only the two neighbours of the double can be nearest, so the first grid
on which one of them lies inside the interval gives the answer. Seventeen digits always suffice for
a double.

## Main definitions

* `Binary` — a positive double as mantissa and exponent, with its rounding interval;
* `Binary.shortest` — the shortest decimal, as an integer and a power of ten;
* `Digits` — a decimal as its digits and the exponent of the first of them, `Digits.ofFloat`.
-/

set_option autoImplicit false

namespace ViewLink.Decimal

/-! ## Doubles as fractions -/

/-- **A positive double**, `mantissa * 2 ^ exponent`. When the mantissa is the least of its binade
the next double below is only half as far away as the next one above. -/
structure Binary where
  /-- The integer mantissa. -/
  mantissa : Nat
  /-- The power of two. -/
  exponent : Int
  /-- Whether the neighbour below lies at half the distance. -/
  narrowBelow : Bool

namespace Binary

/-- The magnitude of the double with these bits. -/
def ofBits (bits : UInt64) : Binary :=
  let field : Nat := bits.toNat / Nat.pow 2 52 % Nat.pow 2 11
  let fraction := bits.toNat % Nat.pow 2 52
  if field = 0 then ⟨fraction, -1074, false⟩
  else ⟨Nat.pow 2 52 + fraction, Int.ofNat field - 1075, fraction = 0 && 1 < field⟩

/-- The numerator and denominator of the quarter unit `2 ^ (exponent - 2)`, in which the double and
both ends of its rounding interval are integers. -/
def quarter (b : Binary) : Nat × Nat :=
  (Nat.pow 2 (b.exponent - 2).toNat, Nat.pow 2 (2 - b.exponent).toNat)

/-- The double in quarter units. -/
def value (b : Binary) : Nat := 4 * b.mantissa

/-- The lower end of the rounding interval, in quarter units. -/
def low (b : Binary) : Nat := b.value - if b.narrowBelow then 1 else 2

/-- The upper end of the rounding interval, in quarter units. -/
def high (b : Binary) : Nat := b.value + 2

/-- **The decimal `d * 10 ^ k` rounds to the double.** The ends of the interval belong to it when
the mantissa is even, since ties round to even. -/
def roundsTo (b : Binary) (d : Nat) (k : Int) : Bool :=
  let (num, den) := b.quarter
  let scale := num * Nat.pow 10 (-k).toNat
  let point := d * (den * Nat.pow 10 k.toNat)
  if b.mantissa % 2 = 0 then b.low * scale ≤ point && point ≤ b.high * scale
  else b.low * scale < point && point < b.high * scale

/-- The exponent of the leading decimal digit: the greatest `e` with `10 ^ e` at most the double. -/
def leading (b : Binary) : Int :=
  let num := b.value * b.quarter.1
  let den := b.quarter.2
  if den ≤ num then ((Nat.toDigits 10 (num / den)).length : Int) - 1
  else
    let places := (Nat.toDigits 10 (den / num)).length
    if den ≤ num * Nat.pow 10 (places - 1) then 1 - (places : Int) else -(places : Int)

/-- The neighbour of the double on the grid of multiples of `10 ^ k` that rounds to it, the nearer
one if both do, and the even one of two equally near. -/
def onGrid? (b : Binary) (k : Int) : Option (Nat × Int) :=
  let num := b.value * b.quarter.1 * Nat.pow 10 (-k).toNat
  let den := b.quarter.2 * Nat.pow 10 k.toNat
  let below := num / den
  let twiceRest := 2 * (num % den)
  match b.roundsTo below k, b.roundsTo (below + 1) k with
  | false, false => none
  | true, false => some (below, k)
  | false, true => some (below + 1, k)
  | true, true =>
    if twiceRest < den || (twiceRest = den && below % 2 = 0) then some (below, k)
    else some (below + 1, k)

/-- **The shortest decimal that rounds to the double**, as an integer and a power of ten. -/
def shortest (b : Binary) : Nat × Int :=
  ((List.range 17).findSome? fun n => b.onGrid? (b.leading - Int.ofNat n)).getD (b.mantissa, 0)

end Binary

/-! ## Digits -/

/-- **A decimal as its digits**, without trailing zeros, and the exponent of the first digit. -/
structure Digits where
  /-- The decimal digits, most significant first. -/
  digits : List Char
  /-- The power of ten of the first digit. -/
  exponent : Int

/-- The digits of `d * 10 ^ k`. -/
def Digits.ofScaled (d : Nat) (k : Int) : Digits :=
  let all := Nat.toDigits 10 d
  ⟨(all.reverse.dropWhile (· = '0')).reverse, k + all.length - 1⟩

/-- The shortest digits of the magnitude of a finite double other than zero. -/
def Digits.ofFloat (x : Float) : Digits :=
  let (d, k) := (Binary.ofBits x.toBits).shortest
  Digits.ofScaled d k

end ViewLink.Decimal
