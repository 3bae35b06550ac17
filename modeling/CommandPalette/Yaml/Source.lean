import CommandPalette.Text.Utf8
import CommandPalette.Yaml.Cursor

/-!
# What can be read of a document

A document is read piece by piece, each piece when the reader gets there.  So what is wrong inside a
piece does not show as long as the reader is in the pieces before it, and something else that stops the
reader there comes first.

* `isAllowed`: the characters of documents.
* `Source`: what can be read, and what stops the reader after it.
* `Source.ofBytes`: the source with the given bytes.
-/

namespace CommandPalette.Yaml

open CommandPalette.Text

/-- Whether a document may contain a character. -/
def isAllowed (c : Char) : Bool :=
  let n := c.toNat
  n = 9 || n = 10 || n = 13 || (0x20 ≤ n && n ≤ 0x7e) || n = 0x85 || (0xa0 ≤ n && n ≤ 0xd7ff) ||
    (0xe000 ≤ n && n ≤ 0xfffd) || 0x10000 ≤ n

/-- What can be read of a document, and what stops the reader after it. -/
structure Source where
  text : List Char
  /-- How many characters the text has. -/
  size : Nat
  obstacle : Option Fault := none

namespace Source

/-- How many characters are in a piece.  The first two pieces are read together. -/
def pieceLength : Nat := 4096

/-- How many characters are in the pieces that are read before the one with the given character. -/
def lengthBefore (index : Nat) : Nat :=
  let length := index / pieceLength * pieceLength
  if length < 2 * pieceLength then 0 else length

/-- What stops a reader that has come to a character.  The reader looks one character ahead. -/
def obstacleAt (s : Source) (index : Nat) : Option Fault :=
  if s.size ≤ index + 1 then s.obstacle else none

/-- A source that ends before a character. -/
def cut (text : List Char) (index : Nat) (obstacle : Fault) : Source :=
  let size := lengthBefore index
  { text := text.take size, size, obstacle := some obstacle }

/-- The source with a text, after which there may be an obstacle; a character that no document may
contain is one too. -/
def ofText (text : List Char) (obstacle : Option Fault) : Source :=
  let whole : Source := match obstacle with
    | some fault => cut text text.length fault
    | none => { text, size := text.length }
  match text.findIdx? (!isAllowed ·) with
  | none => whole
  | some index =>
    if lengthBefore index < whole.size then
      cut text index (.structural "a document has a character that no document may contain")
    else whole

/-- The source with the given bytes.  All line breaks are the same. -/
def ofBytes (bytes : List UInt8) : Source :=
  let (text, fault) := Utf8.decodeInPieces bytes
  ofText (unifyNewlines text)
    (fault.map fun f => .value (.foreign "UnicodeDecodeError" f.message))

end Source

end CommandPalette.Yaml
