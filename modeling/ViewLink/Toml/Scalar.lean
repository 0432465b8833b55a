import ViewLink.Decimal.Nearest
import ViewLink.Toml.Node

/-!
# The values of TOML that are neither strings nor collections

A truth value, a number, a date or a time is written without marks around it. This module decides
what such a word means, if anything.

Numbers may have underscores between their digits. An integer starts with a zero only if it is zero,
or if the zero announces another base. Integers from `-2 ^ 127` to `2 ^ 128 - 1` and finite doubles
can be held. A number that is larger, that announces a base and has no digits, or that goes wrong
after the first underscore is read as a bare numeral, and what becomes of it is up to the one who
needs its value.

## Main definitions

* `scalar?` — the value of a word;
* `integer?`, `float?`, `isMoment` — its kinds.
-/

set_option autoImplicit false

namespace ViewLink.Toml

/-! ## Digits -/

/-- **Digits with single underscores between them**, the underscores left out. -/
def ungroup? (isDigit : Char → Bool) : List Char → Option (List Char)
  | [] => none
  | [c] => if isDigit c then some [c] else none
  | c :: '_' :: cs => if isDigit c then (ungroup? isDigit cs).map (c :: ·) else none
  | c :: cs => if isDigit c then (ungroup? isDigit cs).map (c :: ·) else none

/-- Decimal digits that start with a zero only if there is no other. -/
def whole? (cs : List Char) : Option (List Char) := do
  match ← ungroup? Char.isDigit cs with
  | '0' :: _ :: _ => none
  | digits => return digits

/-- A sign, if there is one, and whether it is a minus. -/
def splitSign : List Char → Bool × List Char
  | '-' :: cs => (true, cs)
  | '+' :: cs => (false, cs)
  | cs => (false, cs)

/-! ## Integers -/

/-- The value of a digit in bases up to sixteen. -/
def digitValue (c : Char) : Nat :=
  if c.isDigit then c.toNat - 0x30 else c.toLower.toNat - 0x57

/-- Whether a character is a digit in a base up to sixteen. -/
def isDigitOf (base : Nat) (c : Char) : Bool :=
  (c.isDigit || ('a' ≤ c.toLower && c.toLower ≤ 'f')) && digitValue c < base

/-- A natural number in a base. -/
def inBase? (base : Nat) (cs : List Char) : Option Nat :=
  (ungroup? (isDigitOf base) cs).map (·.foldl (fun n c => n * base + digitValue c) 0)

/-- **An integer** in decimal, or without a sign in another base. -/
def integer? (cs : List Char) : Option Int :=
  match cs with
  | '0' :: 'x' :: cs => (inBase? 16 cs).map Int.ofNat
  | '0' :: 'o' :: cs => (inBase? 8 cs).map Int.ofNat
  | '0' :: 'b' :: cs => (inBase? 2 cs).map Int.ofNat
  | cs => do
    let (negative, cs) := splitSign cs
    let n := Decimal.ofDigits (← whole? cs)
    return if negative then -(n : Int) else n

/-- Whether an integer is in range. -/
def isInRange (n : Int) : Bool := -Int.pow 2 127 ≤ n && n < Int.pow 2 128

/-- Whether a word announces a base and has no digits in it. -/
def isBareBase (cs : List Char) : Bool := [['0', 'x'], ['0', 'o'], ['0', 'b']].contains cs

/-- Whether every underscore of a word stands between digits in the widest sense. -/
def isGrouped (cs : List Char) : Bool :=
  cs.head? ≠ some '_' && cs.getLast? ≠ some '_'
    && (cs.zip cs.tail).all fun (c, next) =>
      (next ≠ '_' || isDigitOf 16 c) && (c ≠ '_' || isDigitOf 16 next)

/-- **Whether a word starts as an integer with grouped digits** and is not written as a float. Of
the characters after the first underscore only those beside underscores have to be digits. -/
def startsGrouped (cs : List Char) : Bool :=
  let (_, cs) := splitSign cs
  let first := cs.takeWhile Char.isDigit
  match cs.dropWhile Char.isDigit with
  | '_' :: rest =>
    !first.isEmpty && first.head? ≠ some '0' && isGrouped cs
      && !rest.any fun c => c = '.' || c = 'e' || c = 'E'
  | _ => false

/-! ## Floats -/

/-- The digits after the point, if there is one. -/
def fraction? : List Char → Option (List Char)
  | [] => some []
  | '.' :: cs => ungroup? Char.isDigit cs
  | _ => none

/-- The exponent, if there is one. -/
def exponent? : List Char → Option Int
  | [] => some 0
  | c :: cs =>
    if c = 'e' || c = 'E' then do
      let (negative, cs) := splitSign cs
      let n := Decimal.ofDigits (← ungroup? Char.isDigit cs)
      return if negative then -(n : Int) else n
    else none

/-- **A float without its sign**: digits, and a fraction or an exponent or both; or a word for
infinity or for what is no number. -/
def float? (cs : List Char) : Option Float :=
  let isMark := fun c : Char => c = 'e' || c = 'E'
  if cs = ['i', 'n', 'f'] then some (1.0 / 0.0)
  else if cs = ['n', 'a', 'n'] then some (0.0 / 0.0)
  else do
    let mantissa := cs.takeWhile (!isMark ·)
    let whole ← whole? (mantissa.takeWhile (· ≠ '.'))
    let fraction ← fraction? (mantissa.dropWhile (· ≠ '.'))
    let exponent ← exponent? (cs.dropWhile (!isMark ·))
    return Decimal.nearest (Decimal.ofDigits (whole ++ fraction)) (exponent - fraction.length)

/-! ## Dates and times -/

/-- A number of exactly so many digits. -/
def readFixed (digits : Nat) (cs : List Char) : Option (Nat × List Char) :=
  let taken := cs.take digits
  if taken.length = digits && taken.all Char.isDigit then
    some (Decimal.ofDigits taken, cs.drop digits)
  else none

/-- The characters after this one. -/
def readMark (mark : Char) : List Char → Option (List Char)
  | c :: cs => if c = mark then some cs else none
  | [] => none

/-- Whether a year has a 29th of February. -/
def isLeap (year : Nat) : Bool := year % 4 = 0 && (year % 100 ≠ 0 || year % 400 = 0)

/-- The number of days of a month. -/
def daysIn (year month : Nat) : Nat :=
  if month = 2 then if isLeap year then 29 else 28
  else if [4, 6, 9, 11].contains month then 30
  else 31

/-- The characters after a date. -/
def readDate (cs : List Char) : Option (List Char) := do
  let (year, cs) ← readFixed 4 cs
  let (month, cs) ← readFixed 2 (← readMark '-' cs)
  let (day, cs) ← readFixed 2 (← readMark '-' cs)
  if 1 ≤ month && month ≤ 12 && 1 ≤ day && day ≤ daysIn year month then return cs else none

/-- The characters after a fraction of a second, if there is one. -/
def readSubsecond : List Char → Option (List Char)
  | '.' :: c :: cs => if c.isDigit then some (cs.dropWhile Char.isDigit) else none
  | '.' :: [] => none
  | cs => some cs

/-- The characters after a time of day. The seconds may be missing, and a minute may have a leap
second. -/
def readTime (cs : List Char) : Option (List Char) := do
  let (hour, cs) ← readFixed 2 cs
  let (minute, cs) ← readFixed 2 (← readMark ':' cs)
  if 23 < hour || 59 < minute then none
  match cs with
  | ':' :: cs => do
    let (second, cs) ← readFixed 2 cs
    if 60 < second then none
    readSubsecond cs
  | cs => return cs

/-- The characters after the distance from universal time, if there is one. -/
def readOffset : List Char → Option (List Char)
  | [] => some []
  | c :: cs =>
    if c = 'Z' || c = 'z' then some cs
    else if c = '+' || c = '-' then do
      let (hours, cs) ← readFixed 2 cs
      let (minutes, cs) ← readFixed 2 (← readMark ':' cs)
      if hours ≤ 23 && minutes ≤ 59 then return cs else none
    else none

/-- Whether a character may stand between a date and a time. -/
def isTimeMark (c : Char) : Bool := c = 'T' || c = 't' || c = ' '

/-- **Whether a word is a date, a time, or a date and a time.** Only the last of them may tell its
distance from universal time. -/
def isMoment (cs : List Char) : Bool :=
  match readDate cs with
  | none => readTime cs = some []
  | some [] => true
  | some (c :: rest) => isTimeMark c && (readTime rest).bind readOffset = some []

/-! ## Words -/

/-- **The number that a word writes.** A decimal that is infinite as a double cannot be held. -/
def number? (cs : List Char) : Option Node :=
  match integer? cs with
  | some n => some (if isInRange n then .integer n else .numeral (String.ofList cs))
  | none =>
    if isBareBase cs || startsGrouped cs then some (.numeral (String.ofList cs))
    else do
      let (negative, digits) := splitSign cs
      let x ← float? digits
      if x.isInf && digits ≠ ['i', 'n', 'f'] then return .numeral (String.ofList cs)
      else return .float (if negative then -x else x)

/-- **The value of a word.** -/
def scalar? (cs : List Char) : Option Node :=
  if cs = ['t', 'r', 'u', 'e'] then some (.bool true)
  else if cs = ['f', 'a', 'l', 's', 'e'] then some (.bool false)
  else if isMoment cs then some (.moment (String.ofList cs))
  else number? cs

/-- The characters that end a word. Quotation marks are none of them. -/
def endsWord (c : Char) : Bool :=
  c.isWhitespace || [',', '#', ']', '\x7d', '[', '\x7b', '='].contains c

/-- **Splits off the first word.** A date and a time may be one word with a blank in between. -/
def spanWord (cs : List Char) : List Char × List Char :=
  let word := cs.takeWhile (!endsWord ·)
  match readDate word, cs.dropWhile (!endsWord ·) with
  | some [], ' ' :: c :: rest =>
    if c.isDigit then
      (word ++ ' ' :: (c :: rest).takeWhile (!endsWord ·), (c :: rest).dropWhile (!endsWord ·))
    else (word, ' ' :: c :: rest)
  | _, rest => (word, rest)

end ViewLink.Toml
