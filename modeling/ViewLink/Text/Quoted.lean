import ViewLink.Text.Unshown

/-!
# Quoted text

A text between quotation marks, for a person who wants to see exactly what a string holds. Quotation
marks and backslashes are escaped, the usual control characters are written by their letters, and
every other character that is not shown as itself is written by its code point.
-/

set_option autoImplicit false

namespace ViewLink.Text

/-- A character as it stands between quotation marks. -/
def quotedChar (c : Char) : List Char :=
  if c = '"' then ['\\', '"']
  else if c = '\\' then ['\\', '\\']
  else if c = '\x00' then ['\\', '0']
  else if c = '\t' then ['\\', 't']
  else if c = '\n' then ['\\', 'n']
  else if c = '\r' then ['\\', 'r']
  else if isUnshown c then '\\' :: 'u' :: '\x7b' :: Nat.toDigits 16 c.toNat ++ ['\x7d']
  else [c]

/-- **The text between quotation marks.** -/
def quote (s : String) : String := String.ofList ('"' :: s.toList.flatMap quotedChar ++ ['"'])

end ViewLink.Text
