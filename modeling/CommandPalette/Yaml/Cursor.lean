import CommandPalette.Fault

/-!
# A place in a document

YAML documents are read from left to right.  Indentation carries meaning, so a reader has to know in
which line and in which column it is.

* `Yaml.Fault`: what is wrong with a document.
* `Cursor`: what is left to read, and where that is.
* `isBreak`, `isGap`: the classes of characters that separate words and lines.
-/

namespace CommandPalette.Yaml

/-- What is wrong with a document. -/
inductive Fault where
  /-- The text cannot be cut into tokens; characters, lines and columns are counted from zero. -/
  | lexical (index line column : Nat) (words : String)
  /-- The tokens do not make up a document. -/
  | structural (words : String)
  /-- A scalar has the form of a value, but does not denote one. -/
  | value (fault : CommandPalette.Fault)
  deriving Repr, Inhabited

/-- Where a text cannot be cut into tokens. -/
def Fault.index? : Fault → Option Nat
  | lexical index .. => some index
  | _ => none

/-! ## Characters -/

/-- What a reader sees at the end; no document contains this character. -/
def endMark : Char := '\x00'

/-- The characters that end a line. -/
def isBreak (c : Char) : Bool :=
  c = '\n' || c = '\r' || c = '\x85' || c = '\u2028' || c = '\u2029'

/-- Whether a line ends here. -/
def endsLine (c : Char) : Bool := c = endMark || isBreak c

/-- Whether a character is a space or a tab. -/
def isSpace (c : Char) : Bool := c = ' ' || c = '\t'

/-- Whether a word ends here. -/
def isGap (c : Char) : Bool := isSpace c || endsLine c

/-- Whether a character is one of a text. -/
def among (s : String) (c : Char) : Bool := s.toList.contains c

/-- The characters of names. -/
def isNameChar (c : Char) : Bool := c.isAlphanum || c = '-' || c = '_'

/-- The number that decimal digits denote. -/
def decimalNumber (digits : List Char) : Nat := digits.foldl (fun n d => n * 10 + (d.toNat - 48)) 0

/-- The fault of a numeral with more digits than are read. -/
def longNumeral (digits : Nat) : CommandPalette.Fault :=
  .foreign "ValueError" <|
    s!"Exceeds the limit ({Value.maxDigits} digits) for integer string conversion: " ++
      s!"value has {digits} digits; use sys.set_int_max_str_digits() to increase the limit"

/-- Hexadecimal digits. -/
def isHexDigit (c : Char) : Bool := c.isDigit || among "abcdefABCDEF" c

/-! ## Cursors -/

/-- What is left to read, and where that is. -/
structure Cursor where
  rest : List Char
  /-- How many characters have been read. -/
  index : Nat := 0
  line : Nat := 0
  column : Nat := 0
  deriving Repr, Inhabited

namespace Cursor

/-- The next character. -/
def char (c : Cursor) : Char := c.rest.headD endMark

/-- The character after the next one. -/
def second (c : Cursor) : Char := (c.rest.drop 1).headD endMark

/-- Whether all has been read. -/
def atEnd (c : Cursor) : Bool := c.rest.isEmpty

/-- One character further.  A byte order mark takes no column. -/
def next (c : Cursor) : Cursor :=
  match c.rest with
  | [] => c
  | ch :: rest =>
    if isBreak ch then { rest, index := c.index + 1, line := c.line + 1, column := 0 }
    else
      let column := if ch = '\ufeff' then c.column else c.column + 1
      { c with rest, index := c.index + 1, column }

/-- Several characters further. -/
def skip (c : Cursor) : Nat → Cursor
  | 0 => c
  | n + 1 => c.next.skip n

/-- The longest run of a class of characters. -/
def run (c : Cursor) (p : Char → Bool) : List Char × Cursor :=
  let taken := c.rest.takeWhile p
  (taken, c.skip taken.length)

/-- Past the longest run of a class of characters. -/
def past (c : Cursor) (p : Char → Bool) : Cursor := (c.run p).2

/-- The line break here, and what follows it.  The breaks of most kinds are the same. -/
def lineBreak? (c : Cursor) : Option (Char × Cursor) :=
  if !isBreak c.char then none
  else if c.char = '\u2028' || c.char = '\u2029' then some (c.char, c.next)
  else some ('\n', c.next)

/-- Whether three marks of a kind stand here as a word of their own. -/
def hasMarker (c : Cursor) (mark : Char) : Bool :=
  match c.rest with
  | a :: b :: d :: rest => a = mark && b = mark && d = mark && isGap (rest.headD endMark)
  | _ => false

/-- Whether a document starts or ends here. -/
def hasBoundary (c : Cursor) : Bool := c.hasMarker '-' || c.hasMarker '.'

/-- A fault at this place. -/
def fault (c : Cursor) (words : String) : Fault := .lexical c.index c.line c.column words

/-- Past the rest of a line that holds nothing more than a comment. -/
def pastLine (c : Cursor) : Except Fault Cursor :=
  let c := c.past (· = ' ')
  let c := if c.char = '#' then c.past (!isBreak ·) else c
  if !endsLine c.char then .error (c.fault "a comment or the end of the line was expected")
  else match c.lineBreak? with
    | some (_, c) => .ok c
    | none => .ok c

end Cursor

/-- What stands for a line break inside a scalar: the breaks after it, or a space if there are
none. -/
def folded (first : Char) (more : List Char) : List Char :=
  if first ≠ '\n' then first :: more else if more.isEmpty then [' '] else more

end CommandPalette.Yaml
