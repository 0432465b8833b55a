/-!
# The nearest double

`nearest` is the double nearest to a decimal, a tie going to the even one. A decimal too large for
any double gives infinity. The power of ten is looked at first, so that a decimal far out of range
is settled without computing with it.
-/

set_option autoImplicit false

namespace ViewLink.Decimal

/-- The number that decimal digits denote. -/
def ofDigits (digits : List Char) : Nat :=
  digits.foldl (fun n c => n * 10 + (c.toNat - 0x30)) 0

/-- **The double nearest to `d * 10 ^ k`.** Doubles have between 324 zeros after the point and 309
digits before it. -/
def nearest (d : Nat) (k : Int) : Float :=
  let size := k + (Nat.toDigits 10 d).length
  if d = 0 || size < -330 then 0.0
  else if 310 < size then 1.0 / 0.0
  else if 0 ≤ k then Float.ofScientific d false k.toNat
  else Float.ofScientific d true (-k).toNat

end ViewLink.Decimal
