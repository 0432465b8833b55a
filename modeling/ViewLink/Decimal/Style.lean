import ViewLink.Decimal.Shortest

/-!
# How a decimal is laid out

The digits of a number and the exponent of the first of them leave open where the point goes. A
`Style` says which exponents are written positionally and whether a positive exponent carries its
sign otherwise. A positional number always has a digit on either side of the point, so that it can
be told from an integer.
-/

set_option autoImplicit false

namespace ViewLink.Decimal

/-- **The choices of a number format.** -/
structure Style where
  /-- The least exponent that is written positionally. -/
  positionalFrom : Int
  /-- The greatest exponent that is written positionally. -/
  positionalTo : Int
  /-- Whether a positive exponent is written with its sign. -/
  plusSign : Bool

namespace Style

/-- The digits with the point in its place. -/
def positional (n : Digits) : List Char :=
  if n.exponent < 0 then
    '0' :: '.' :: (List.replicate ((-n.exponent).toNat - 1) '0' ++ n.digits)
  else
    let whole := n.exponent.toNat + 1
    if n.digits.length ≤ whole then
      n.digits ++ List.replicate (whole - n.digits.length) '0' ++ ['.', '0']
    else n.digits.take whole ++ '.' :: n.digits.drop whole

/-- One digit before the point, the rest after it, and the exponent. -/
def scientific (style : Style) (n : Digits) : List Char :=
  let mark := if n.exponent < 0 then ['e', '-'] else if style.plusSign then ['e', '+'] else ['e']
  let size := Nat.toDigits 10 n.exponent.natAbs
  match n.digits with
  | [] => '0' :: mark ++ size
  | [d] => d :: mark ++ size
  | d :: ds => d :: '.' :: ds ++ mark ++ size

/-- The text of a decimal. -/
def chars (style : Style) (n : Digits) : List Char :=
  if style.positionalFrom ≤ n.exponent && n.exponent ≤ style.positionalTo then positional n
  else style.scientific n

/-- **The text of a finite double.** Zero is a digit on either side of the point, and it keeps its
sign like any other number. -/
def float (style : Style) (x : Float) : List Char :=
  let sign := if x.toBits.toNat / Nat.pow 2 63 = 1 then ['-'] else []
  sign ++ if x == 0.0 then ['0', '.', '0'] else style.chars (Digits.ofFloat x)

end Style

end ViewLink.Decimal
