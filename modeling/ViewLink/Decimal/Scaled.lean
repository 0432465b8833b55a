/-!
# A significand times a power of ten

A decimal literal is read in double precision in two roundings. Its significand is the longest
run of leading digits that fits 64 bits, the digits after it are dropped, and the integer is rounded
to a double; then one multiplication or division by a power of ten gives the result, rounded a
second time. For the numbers that people write the outcome is the nearest double, and a result
beyond the largest double is refused.

## Main definitions

* `keep` — the digits that still fit 64 bits;
* `Significand` — what is kept of a literal, `Significand.ofDigits`;
* `scaled?` — the double, if it is in range.
-/

set_option autoImplicit false

namespace ViewLink.Decimal

/-! ## The digits that fit -/

/-- Appends digits to a number as long as it stays below `2 ^ 64`: the number, and how many digits
it took. -/
def keep : Nat → List Nat → Nat × Nat
  | n, [] => (n, 0)
  | n, d :: ds =>
    if n * 10 + d < UInt64.size then
      let (m, taken) := keep (n * 10 + d) ds
      (m, taken + 1)
    else (n, 0)

/-- **The part of a literal that counts**: an integer below `2 ^ 64` and a power of ten. -/
structure Significand where
  /-- The digits kept, as a number. -/
  digits : Nat
  /-- The power of ten they are scaled by. -/
  exponent : Int

/-- Keeps what fits of the whole digits, where each dropped one is a factor of ten, and then of the
fraction, where each kept one is a tenth. -/
def Significand.ofDigits (whole fraction : List Nat) (exponent : Int) : Significand :=
  let (n, takenWhole) := keep 0 whole
  let (m, takenFraction) := keep n fraction
  ⟨m, exponent + (whole.length - takenWhole : Nat) - takenFraction⟩

/-! ## Scaling -/

/-- The double nearest to a power of ten. -/
def tenTo (k : Nat) : Float := Float.ofScientific 1 false k

/-- **The double of a significand**, `none` if it is too large. Powers of ten run up to `10 ^ 308`;
below `10 ^ (-308)` the division is done in two steps, and further down every number is zero. -/
def scaled? (s : Significand) : Option Float :=
  let x := (UInt64.ofNat s.digits).toFloat
  if 308 < s.exponent then
    if s.digits = 0 then some x else none
  else if 0 ≤ s.exponent then
    let y := x * tenTo s.exponent.toNat
    if y.isFinite then some y else none
  else if -308 ≤ s.exponent then some (x / tenTo (-s.exponent).toNat)
  else if -616 ≤ s.exponent then some (x / tenTo 308 / tenTo (-s.exponent - 308).toNat)
  else some 0.0

end ViewLink.Decimal
