import ViewLink.Decimal.Style
import ViewLink.Json.Basic
import ViewLink.Text.Utf8

/-!
# JSON text

The compact text of a value: no blanks, members in key order, and in strings only what has to be
escaped is escaped. So a text never holds a raw control character, and in particular no newline,
which is what lets one text be one line on the wire.

## Main definitions

* `quoted` — a string as JSON writes it;
* `Number.chars`, `Value.chars`, `Value.text` — the text of a number and of a value;
* `record` — an object whose members are written in the order given.
-/

set_option autoImplicit false

namespace ViewLink.Json

/-! ## Strings -/

/-- A digit of the lower-case hexadecimal notation. -/
def hexDigit (n : Nat) : Char := Nat.digitChar n

/-- **A character as it stands in a string.** The quotation mark, the backslash and the control
characters are escaped, the latter by a letter if they have one; every other character stands for
itself. -/
def escaped (c : Char) : List Char :=
  if c = '"' then ['\\', '"']
  else if c = '\\' then ['\\', '\\']
  else if c.toNat < 0x20 then
    match c.toNat with
    | 0x08 => ['\\', 'b']
    | 0x09 => ['\\', 't']
    | 0x0A => ['\\', 'n']
    | 0x0C => ['\\', 'f']
    | 0x0D => ['\\', 'r']
    | n => ['\\', 'u', '0', '0', hexDigit (n / 16), hexDigit (n % 16)]
  else [c]

/-- A string between quotation marks. -/
def quoted (s : String) : List Char := '"' :: (s.toList.flatMap escaped ++ ['"'])

/-! ## Numbers -/

/-- Floats are written positionally from `0.00001` up to sixteen digits before the point, and
otherwise with an exponent that carries its sign. -/
def floatStyle : Decimal.Style := ⟨-5, 15, true⟩

/-- The text of a number. -/
def Number.chars : Number → List Char
  | .unsigned n => Nat.toDigits 10 n.toNat
  | .negative k => '-' :: Nat.toDigits 10 (k.val + 1)
  | .float x => floatStyle.float x

/-! ## Values -/

mutual

/-- **The text of a value**, as characters. -/
def Value.chars : Value → List Char
  | .null => ['n', 'u', 'l', 'l']
  | .bool true => ['t', 'r', 'u', 'e']
  | .bool false => ['f', 'a', 'l', 's', 'e']
  | .number n => n.chars
  | .string s => quoted s
  | .array [] => ['[', ']']
  | .array (x :: xs) => '[' :: (x.chars ++ moreItems xs)
  | .object .nil => ['\x7b', '\x7d']
  | .object (.cons k _ v rest) => '\x7b' :: (quoted k ++ ':' :: (v.chars ++ moreMembers rest))

/-- The items after the first one, and the bracket that closes the array. -/
def moreItems : List Value → List Char
  | [] => [']']
  | x :: xs => ',' :: (x.chars ++ moreItems xs)

/-- The members after the first one, and the brace that closes the object. -/
def moreMembers {bound : Option String} : Members Value bound → List Char
  | .nil => ['\x7d']
  | .cons k _ v rest => ',' :: (quoted k ++ ':' :: (v.chars ++ moreMembers rest))

end

/-- **The text of a value.** -/
def Value.text (v : Value) : String := String.ofList v.chars

/-- The text of an array of these values. -/
def listText (vs : List Value) : String := (Value.array vs).text

/-! ## Records -/

/-- The text of an object whose members are texts already, in the order given. -/
def record (fields : List (String × String)) : String :=
  let member := fun (f : String × String) => String.ofList (quoted f.1) ++ ":" ++ f.2
  "\x7b" ++ ",".intercalate (fields.map member) ++ "\x7d"

end ViewLink.Json
