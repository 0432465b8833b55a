import ViewLink.Decimal.Scaled
import ViewLink.Json.Basic
import ViewLink.Text.Utf8

/-!
# Reading the scalars of JSON text

A reader takes bytes and gives what it read together with the bytes that follow, or a fault: the
text may end too early, it may not be JSON, or it may be JSON of another type than the one asked
for. The bytes are looked at from left to right and the first problem met decides the fault.

A string is read by a machine that takes one byte at a time (`InString`), since the text may end
anywhere, inside an escape or between the halves of a surrogate pair included. It collects the
octets of the string and only the closing quotation mark asks whether they are UTF-8.

## Main definitions

* `Fault` — why a text was refused, `Reader` — the type of the readers;
* `skipBlank`, `readWord` — blanks and the words `null`, `true`, `false`;
* `readString` — the string after its opening quotation mark;
* `readNumber` — a number.
-/

set_option autoImplicit false

namespace ViewLink.Json

/-! ## Faults and readers -/

/-- **Why a text was refused.** -/
inductive Fault where
  /-- The text ends inside a value. -/
  | ended
  /-- The text is not JSON. -/
  | malformed
  /-- The text is JSON so far, but of the wrong type. -/
  | mistyped
  deriving DecidableEq, Repr

/-- A reader gives what it read and the bytes after it. -/
abbrev Reader (α : Type) := Bytes → Except Fault (α × Bytes)

/-! ## Blanks and words -/

/-- The four blank bytes of JSON. -/
def isBlank (b : UInt8) : Bool :=
  b == Ascii.space || b == Ascii.newline || b == Ascii.tab || b == Ascii.carriageReturn

/-- The bytes from the first one that is not blank. -/
def skipBlank (bs : Bytes) : Bytes := bs.dropWhile isBlank

/-- The bytes after this word. -/
def readWord : Bytes → Bytes → Except Fault Bytes
  | [], bs => .ok bs
  | _ :: _, [] => .error .ended
  | w :: ws, b :: bs => if b = w then readWord ws bs else .error .malformed

/-! ## Strings -/

/-- **Where the reader stands inside a string.** -/
inductive InString where
  /-- Between characters. -/
  | plain
  /-- After a backslash. -/
  | escape
  /-- Among the four digits of a `\u` escape, which follows the first half of a surrogate pair if
  there is one, with the digits already seen. -/
  | hex (first : Option Nat) (seen : Bytes)
  /-- After the first half of a surrogate pair: its second half is due. -/
  | pair (first : Nat)
  /-- After that and the backslash. -/
  | pairEscape (first : Nat)

/-- The byte that an escape by a single letter stands for. -/
def letterEscape? (b : UInt8) : Option UInt8 :=
  if b = 0x22 || b = 0x5C || b = 0x2F then some b
  else if b = 0x62 then some 0x08
  else if b = 0x66 then some 0x0C
  else if b = 0x6E then some 0x0A
  else if b = 0x72 then some 0x0D
  else if b = 0x74 then some 0x09
  else none

/-- The value of a hexadecimal digit of either case. -/
def hexValue? (b : UInt8) : Option Nat :=
  if 0x30 ≤ b && b ≤ 0x39 then some (b.toNat - 0x30)
  else if 0x41 ≤ b && b ≤ 0x46 then some (b.toNat - 0x37)
  else if 0x61 ≤ b && b ≤ 0x66 then some (b.toNat - 0x57)
  else none

/-- The number that these hexadecimal digits denote. -/
def hexNumber? (digits : Bytes) : Option Nat :=
  digits.foldl (fun n b => do return (← n) * 16 + (← hexValue? b)) (some 0)

/-- **What a `\u` escape with this code unit adds to the string.** A unit that is the first half of
a surrogate pair adds nothing yet, and a second half counts only right after a first one. -/
def unitStep (first : Option Nat) (unit : Nat) : Option (InString × Bytes) :=
  let isSecond := 0xDC00 ≤ unit && unit ≤ 0xDFFF
  match first with
  | some high =>
    if isSecond then
      let code := 0x10000 + (high - 0xD800) * 0x400 + (unit - 0xDC00)
      some (.plain, String.utf8EncodeChar (Char.ofNat code))
    else none
  | none =>
    if isSecond then none
    else if 0xD800 ≤ unit && unit ≤ 0xDBFF then some (.pair unit, [])
    else some (.plain, String.utf8EncodeChar (Char.ofNat unit))

/-- **The octets of a string up to its closing quotation mark**, and the bytes after that. -/
def readOctets : InString → Reader Bytes
  | _, [] => .error .ended
  | .plain, b :: bs =>
    if b = Ascii.quote then .ok ([], bs)
    else if b = Ascii.backslash then readOctets .escape bs
    else if b < Ascii.space then .error .malformed
    else do
      let (octets, rest) ← readOctets .plain bs
      return (b :: octets, rest)
  | .escape, b :: bs =>
    if b = 0x75 then readOctets (.hex none []) bs
    else match letterEscape? b with
      | none => .error .malformed
      | some octet => do
        let (octets, rest) ← readOctets .plain bs
        return (octet :: octets, rest)
  | .hex first seen, b :: bs =>
    let seen := seen ++ [b]
    if seen.length < 4 then readOctets (.hex first seen) bs
    else match (hexNumber? seen).bind (unitStep first) with
      | none => .error .malformed
      | some (next, added) => do
        let (octets, rest) ← readOctets next bs
        return (added ++ octets, rest)
  | .pair first, b :: bs =>
    if b = Ascii.backslash then readOctets (.pairEscape first) bs else .error .malformed
  | .pairEscape first, b :: bs =>
    if b = 0x75 then readOctets (.hex (some first) []) bs else .error .malformed

/-- **The string after its opening quotation mark.** -/
def readString : Reader String := fun bs => do
  let (octets, rest) ← readOctets .plain bs
  match Text.ofUtf8? octets with
  | none => .error .malformed
  | some s => return (s, rest)

/-! ## Numbers -/

/-- The longest run of decimal digits, as their values, and the bytes after it. -/
def spanDigits (bs : Bytes) : List Nat × Bytes :=
  ((bs.takeWhile Ascii.isDigit).map Ascii.digitValue, bs.dropWhile Ascii.isDigit)

/-- One digit at least. -/
def readDigits : Reader (List Nat)
  | [] => .error .ended
  | b :: bs => if Ascii.isDigit b then .ok (spanDigits (b :: bs)) else .error .malformed

/-- The digits before the point. Only the number zero starts with a zero. -/
def readWhole : Reader (List Nat)
  | [] => .error .ended
  | b :: bs =>
    if b = Ascii.zero then
      if (bs.takeWhile Ascii.isDigit).isEmpty then .ok ([0], bs) else .error .malformed
    else readDigits (b :: bs)

/-- The digits after the point, if there is one. -/
def readFraction : Reader (Option (List Nat))
  | [] => .ok (none, [])
  | b :: bs =>
    if b = Ascii.point then do
      let (digits, rest) ← readDigits bs
      return (some digits, rest)
    else .ok (none, b :: bs)

/-- The exponent, if there is one. -/
def readExponent : Reader (Option Int)
  | [] => .ok (none, [])
  | b :: bs =>
    if b = 0x65 || b = 0x45 then do
      let (negative, bs) := match bs with
        | Ascii.minus :: bs => (true, bs)
        | Ascii.plus :: bs => (false, bs)
        | bs => (false, bs)
      let (digits, rest) ← readDigits bs
      let size : Nat := digits.foldl (fun n d => n * 10 + d) 0
      return (some (if negative then -(size : Int) else size), rest)
    else .ok (none, b :: bs)

/-- **The number of a literal.** An integer that fits one of the two integer classes belongs to it,
and every other literal is a double, among them the integer `-0`. -/
def numberOf (negative : Bool) (whole : List Nat) (fraction : Option (List Nat))
    (exponent : Option Int) : Option Number :=
  let s := Decimal.Significand.ofDigits whole (fraction.getD []) (exponent.getD 0)
  let double := (Decimal.scaled? s).map fun x => Number.float (if negative then -x else x)
  if fraction.isSome || exponent.isSome || s.exponent ≠ 0 then double
  else if !negative then some (.unsigned (UInt64.ofNat s.digits))
  else if h : 0 < s.digits ∧ s.digits ≤ 0x8000000000000000 then
    some (.negative ⟨s.digits - 1, by omega⟩)
  else double

/-- **A number**, from its sign or first digit on. A literal beyond the largest double is not a
number. -/
def readNumber : Reader Number := fun bs => do
  let (negative, bs) := match bs with
    | Ascii.minus :: bs => (true, bs)
    | bs => (false, bs)
  let (whole, bs) ← readWhole bs
  let (fraction, bs) ← readFraction bs
  let (exponent, bs) ← readExponent bs
  match numberOf negative whole fraction exponent with
  | none => .error .malformed
  | some n => return (n, bs)

end ViewLink.Json
