/-!
# Bytes and text

Everything that crosses the pipe to the front end is a list of bytes; everything a message quotes
is a string. This module holds the two passages between them. `utf8` writes characters as their
UTF-8 octets, one character at a time, so it turns an append into an append; `ofUtf8?` reads a
whole byte list back and refuses one that is not UTF-8.

It also names the few ASCII bytes that the formats of this library give a meaning to, so that the
readers can be read without a code table.
-/

set_option autoImplicit false

namespace ViewLink

/-- A list of bytes, as written to or read from a pipe or a file. -/
abbrev Bytes := List UInt8

namespace Text

/-- The UTF-8 octets of a list of characters. -/
def utf8 (cs : List Char) : Bytes := cs.flatMap String.utf8EncodeChar

/-- The UTF-8 octets of a string. -/
def bytes (s : String) : Bytes := utf8 s.toList

/-- The string whose UTF-8 octets these are, if they are UTF-8. -/
def ofUtf8? (bs : Bytes) : Option String := String.fromUTF8? bs.toByteArray

theorem utf8_append (xs ys : List Char) : utf8 (xs ++ ys) = utf8 xs ++ utf8 ys :=
  List.flatMap_append

end Text

/-! ## Named ASCII bytes -/

namespace Ascii

/-- Horizontal tab. -/
@[match_pattern] abbrev tab : UInt8 := 0x09
/-- Line feed, the end of a line on the wire. -/
@[match_pattern] abbrev newline : UInt8 := 0x0A
/-- Form feed. -/
@[match_pattern] abbrev formFeed : UInt8 := 0x0C
/-- Carriage return. -/
@[match_pattern] abbrev carriageReturn : UInt8 := 0x0D
/-- The blank. -/
@[match_pattern] abbrev space : UInt8 := 0x20
/-- The quotation mark that opens and closes a string. -/
@[match_pattern] abbrev quote : UInt8 := 0x22
/-- The plus sign. -/
@[match_pattern] abbrev plus : UInt8 := 0x2B
/-- The comma between elements. -/
@[match_pattern] abbrev comma : UInt8 := 0x2C
/-- The minus sign. -/
@[match_pattern] abbrev minus : UInt8 := 0x2D
/-- The decimal point. -/
@[match_pattern] abbrev point : UInt8 := 0x2E
/-- The digit zero. -/
@[match_pattern] abbrev zero : UInt8 := 0x30
/-- The digit nine. -/
@[match_pattern] abbrev nine : UInt8 := 0x39
/-- The colon between a key and its value. -/
@[match_pattern] abbrev colon : UInt8 := 0x3A
/-- The bracket that opens an array. -/
@[match_pattern] abbrev openBracket : UInt8 := 0x5B
/-- The backslash that opens an escape. -/
@[match_pattern] abbrev backslash : UInt8 := 0x5C
/-- The bracket that closes an array. -/
@[match_pattern] abbrev closeBracket : UInt8 := 0x5D
/-- The brace that opens an object. -/
@[match_pattern] abbrev openBrace : UInt8 := 0x7B
/-- The brace that closes an object. -/
@[match_pattern] abbrev closeBrace : UInt8 := 0x7D

/-- The ten decimal digits. -/
def isDigit (b : UInt8) : Bool := zero ≤ b && b ≤ nine

/-- The value of a decimal digit. -/
def digitValue (b : UInt8) : Nat := b.toNat - 0x30

end Ascii

end ViewLink
