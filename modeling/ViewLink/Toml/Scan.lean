/-!
# The words of TOML text

The smallest parts of a document: blanks, comments and line ends, strings in their four spellings,
and keys. A reader takes characters and gives what it read with the characters after it, or nothing
if they are not what it reads.

A string with escapes is read by a machine that takes one character at a time (`InString`). A string
between triple quotation marks may end in up to two quotation marks of its own, so there a run of
quotation marks is looked at as a whole.

## Main definitions

* `skipBlank`, `skipFiller`, `readLineEnd` — what stands between the parts of a document;
* `readString` — a string in any spelling;
* `readKey` — a key, as its parts between dots.
-/

set_option autoImplicit false

namespace ViewLink.Toml

/-- A reader gives what it read and the characters after it. -/
abbrev Reader (α : Type) := List Char → Option (α × List Char)

/-! ## Blanks, comments and line ends -/

/-- The two blanks inside a line. -/
def isBlank (c : Char) : Bool := c = ' ' || c = '\t'

/-- The characters that may stand in comments and strings: no control character but the tab. -/
def isPlain (c : Char) : Bool := c = '\t' || (0x20 ≤ c.toNat && c.toNat ≠ 0x7F)

/-- The characters from the first one that is not blank. -/
def skipBlank (cs : List Char) : List Char := cs.dropWhile isBlank

/-- The characters after the comment that starts here, if one does. -/
def skipComment : List Char → List Char
  | '#' :: cs => cs.dropWhile isPlain
  | cs => cs

/-- **The end of a line**, after blanks and a comment: the characters of the next line. The end of
the text ends a line as well. -/
def readLineEnd (cs : List Char) : Option (List Char) :=
  match skipComment (skipBlank cs) with
  | [] => some []
  | '\n' :: rest => some rest
  | '\r' :: '\n' :: rest => some rest
  | _ => none

/-- **The characters after blanks, comments and line ends**, starting inside a comment or not. -/
def skipFiller (inComment : Bool) : List Char → List Char
  | [] => []
  | '\n' :: cs => skipFiller false cs
  | '\r' :: '\n' :: cs => skipFiller false cs
  | c :: cs =>
    if inComment && isPlain c then skipFiller true cs
    else if c = '#' then skipFiller true cs
    else if isBlank c then skipFiller false cs
    else c :: cs

/-! ## Strings without escapes -/

/-- The rest of a string between apostrophes. -/
def readRaw (cs : List Char) : Option (String × List Char) :=
  match cs.dropWhile fun c => isPlain c && c ≠ '\'' with
  | '\'' :: rest => some (String.ofList (cs.takeWhile fun c => isPlain c && c ≠ '\''), rest)
  | _ => none

/-- **The end of a string between triple quotation marks** of this kind: the quotation marks that
belong to the string, and the characters after it. -/
def closing? (mark : Char) (cs : List Char) : Option (List Char × List Char) :=
  let run := min (cs.takeWhile (· = mark)).length 5
  if 3 ≤ run then some (List.replicate (run - 3) mark, cs.drop run) else none

/-- The rest of a string between triple apostrophes. -/
def readRawLines : List Char → Option (List Char × List Char)
  | [] => none
  | '\r' :: '\n' :: cs => do
    let (s, rest) ← readRawLines cs
    return ('\r' :: '\n' :: s, rest)
  | c :: cs =>
    match closing? '\'' (c :: cs) with
    | some (s, rest) => some (s, rest)
    | none =>
      if isPlain c || c = '\n' then do
        let (s, rest) ← readRawLines cs
        return (c :: s, rest)
      else none

/-! ## Strings with escapes -/

/-- **Where the reader stands inside a string.** -/
inductive InString where
  /-- Between characters. If `trimming`, blanks and line ends are left out. -/
  | text (trimming : Bool)
  /-- After a backslash. -/
  | escape
  /-- After a backslash and blanks, which have to lead to the end of the line. -/
  | fold
  /-- Among the digits of a code point: so many are missing, and this is their value so far. -/
  | code (missing : Nat) (value : Nat)

/-- The character that an escape by a single letter stands for. -/
def letterEscape? (c : Char) : Option Char :=
  [('b', '\x08'), ('e', '\x1b'), ('f', '\x0c'), ('n', '\n'), ('r', '\r'), ('t', '\t'), ('"', '"'),
    ('\\', '\\')].lookup c

/-- The number of hexadecimal digits after a letter that announces a code point. -/
def codeLength? (c : Char) : Option Nat := [('x', 2), ('u', 4), ('U', 8)].lookup c

/-- The value of a hexadecimal digit of either case. -/
def hexValue? (c : Char) : Option Nat :=
  if c.isDigit then some (c.toNat - 0x30)
  else if 'a' ≤ c && c ≤ 'f' then some (c.toNat - 0x57)
  else if 'A' ≤ c && c ≤ 'F' then some (c.toNat - 0x37)
  else none

/-- The character with this code point. -/
def char? (code : Nat) : Option Char := if code.isValidChar then some (Char.ofNat code) else none

/-- **The rest of a string between quotation marks**, or between triple ones if `lines`. -/
def readEscaped (lines : Bool) : InString → List Char → Option (List Char × List Char)
  | _, [] => none
  | .text trimming, '\r' :: '\n' :: cs =>
    if lines then do
      let (s, rest) ← readEscaped lines (.text trimming) cs
      return (if trimming then s else '\r' :: '\n' :: s, rest)
    else none
  | .text trimming, c :: cs =>
    if lines && c = '\n' then do
      let (s, rest) ← readEscaped lines (.text trimming) cs
      return (if trimming then s else '\n' :: s, rest)
    else if trimming && isBlank c then readEscaped lines (.text true) cs
    else if c = '\\' then readEscaped lines .escape cs
    else
      let close := if lines then closing? '"' (c :: cs) else if c = '"' then some ([], cs) else none
      match close with
      | some (s, rest) => some (s, rest)
      | none =>
        if isPlain c then do
          let (s, rest) ← readEscaped lines (.text false) cs
          return (c :: s, rest)
        else none
  | .escape, '\r' :: '\n' :: cs => if lines then readEscaped lines (.text true) cs else none
  | .escape, c :: cs =>
    if lines && c = '\n' then readEscaped lines (.text true) cs
    else if lines && isBlank c then readEscaped lines .fold cs
    else match codeLength? c, letterEscape? c with
      | some digits, _ => readEscaped lines (.code digits 0) cs
      | none, some c => do
        let (s, rest) ← readEscaped lines (.text false) cs
        return (c :: s, rest)
      | none, none => none
  | .fold, '\r' :: '\n' :: cs => readEscaped lines (.text true) cs
  | .fold, c :: cs =>
    if c = '\n' then readEscaped lines (.text true) cs
    else if isBlank c then readEscaped lines .fold cs
    else none
  | .code missing value, c :: cs => do
    let value := value * 16 + (← hexValue? c)
    if missing ≤ 1 then do
      let c ← char? value
      let (s, rest) ← readEscaped lines (.text false) cs
      return (c :: s, rest)
    else readEscaped lines (.code (missing - 1) value) cs

/-! ## Strings in any spelling -/

/-- A line end right after the opening of a string of several lines is not part of it. -/
def skipFirstLineEnd : List Char → List Char
  | '\n' :: cs => cs
  | '\r' :: '\n' :: cs => cs
  | cs => cs

/-- A string on one line. -/
def readLineString : Reader String
  | '"' :: cs => do
    let (s, rest) ← readEscaped false (.text false) cs
    return (String.ofList s, rest)
  | '\'' :: cs => readRaw cs
  | _ => none

/-- **A string in any spelling.** -/
def readString : Reader String
  | '"' :: '"' :: '"' :: cs => do
    let (s, rest) ← readEscaped true (.text false) (skipFirstLineEnd cs)
    return (String.ofList s, rest)
  | '\'' :: '\'' :: '\'' :: cs => do
    let (s, rest) ← readRawLines (skipFirstLineEnd cs)
    return (String.ofList s, rest)
  | cs => readLineString cs

/-! ## Keys -/

/-- The characters of a key without quotation marks. -/
def isBare (c : Char) : Bool := c.isAlphanum || c = '_' || c = '-'

/-- A part of a key. -/
def readPart (cs : List Char) : Option (String × List Char) :=
  match cs.takeWhile isBare with
  | [] => readLineString cs
  | part => some (String.ofList part, cs.dropWhile isBare)

/-- The parts of a key after the first one, in at most this many rounds. -/
def readMoreParts : Nat → Reader (List String)
  | 0, _ => none
  | rounds + 1, cs =>
    match skipBlank cs with
    | '.' :: rest => do
      let (part, rest) ← readPart (skipBlank rest)
      let (parts, rest) ← readMoreParts rounds rest
      return (part :: parts, rest)
    | rest => some ([], rest)

/-- The most parts that a key may have. -/
def maxParts : Nat := 80

/-- **A key**: its parts before the last one, and the last one. Blanks may stand around a dot, and
those after the key are skipped. -/
def readKey : Reader (List String × String) := fun cs => do
  let (part, rest) ← readPart (skipBlank cs)
  let (parts, rest) ← readMoreParts (rest.length + 1) rest
  if maxParts ≤ parts.length then none
  return (((part :: parts).dropLast, (part :: parts).getLast (by simp)), rest)

end ViewLink.Toml
