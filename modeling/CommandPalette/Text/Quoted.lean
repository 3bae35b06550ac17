import CommandPalette.Text.Printable

/-!
# Quoted texts

How a message shows a text that came from outside.  The quote is an apostrophe, or a double quote
where the text has an apostrophe and no double quote.  The backslash, the quote, and the three
common controls have a short escape; every other character that does not show as itself is written
with its code point in two, four or eight hexadecimal digits.

* `quote`: the quoted form of a text.
* `inAscii`: a text in which every character outside ASCII is written with its code point.
-/

namespace CommandPalette.Text

/-- The last `width` hexadecimal digits of a number, in lower case. -/
def hexDigits (width n : Nat) : List Char :=
  (List.range width).reverse.map fun i => Nat.digitChar (n / Nat.pow 16 i % 16)

/-- The escape of a character by its code point. -/
def codePointEscape (c : Char) : List Char :=
  let n := c.toNat
  if n < 0x100 then '\\' :: 'x' :: hexDigits 2 n
  else if n < 0x10000 then '\\' :: 'u' :: hexDigits 4 n
  else '\\' :: 'U' :: hexDigits 8 n

/-- The quote that surrounds a text. -/
def quoteMark (s : List Char) : Char :=
  if s.contains '\'' && !s.contains '"' then '"' else '\''

/-- One character inside quotes. -/
def quoteChar (mark c : Char) : List Char :=
  if c = mark || c = '\\' then ['\\', c]
  else if c = '\t' then ['\\', 't']
  else if c = '\n' then ['\\', 'n']
  else if c = '\r' then ['\\', 'r']
  else if isPrintable c then [c]
  else codePointEscape c

/-- The quoted form of a text. -/
def quote (s : String) : String :=
  let mark := quoteMark s.toList
  String.ofList (mark :: s.toList.flatMap (quoteChar mark) ++ [mark])

/-- A text in ASCII alone. -/
def inAscii (s : List Char) : List Char :=
  s.flatMap fun c => if c.toNat < 0x80 then [c] else codePointEscape c

end CommandPalette.Text
