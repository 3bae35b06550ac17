/-!
# Texts as bytes

* `Utf8.decode`: the text of a list of bytes in UTF-8.
* `Utf8.Fault`: the first bytes that are no text.
* `Utf8.decodeInPieces`: the text of bytes that are decoded piece by piece.
* `Utf8.encode`: the bytes of a text.
* `unifyNewlines`: a text with one kind of line end.
-/

namespace CommandPalette.Text

namespace Utf8

/-- Why bytes are no text. -/
inductive Reason where
  | start
  | continuation
  | ended
  deriving DecidableEq, Repr, Inhabited

/-- The wording of a reason. -/
def Reason.message : Reason → String
  | start => "invalid start byte"
  | continuation => "invalid continuation byte"
  | ended => "unexpected end of data"

/-- The first bytes that are no text. -/
structure Fault where
  /-- The place of the first of them. -/
  position : Nat
  /-- How many they are. -/
  count : Nat
  /-- The first of them. -/
  byte : UInt8
  /-- What is wrong with them. -/
  reason : Reason
  deriving DecidableEq, Repr, Inhabited

/-- A byte in two hexadecimal digits. -/
def hexByte (b : UInt8) : String :=
  String.ofList [Nat.digitChar (b.toNat / 16), Nat.digitChar (b.toNat % 16)]

/-- The wording of a fault. -/
def Fault.message (f : Fault) : String :=
  let what :=
    if f.count = 1 then s!"byte 0x{hexByte f.byte} in position {f.position}"
    else s!"bytes in position {f.position}-{f.position + f.count - 1}"
  s!"'utf-8' codec can't decode {what}: {f.reason.message}"

/-- A character that has begun. -/
structure Begun where
  /-- The place of its first byte. -/
  position : Nat
  /-- Its first byte. -/
  byte : UInt8
  /-- How many bytes are to come. -/
  missing : Nat
  /-- The least value of the next byte. -/
  low : Nat
  /-- The greatest value of the next byte. -/
  high : Nat
  /-- The bits so far. -/
  bits : Nat

/-- A character that begins with a byte of its own kind.  The limits of the second byte leave out
longer forms than needed, surrogates, and what lies beyond the last code point. -/
def Begun.ofByte? (position : Nat) (b : UInt8) : Option Begun :=
  let n := b.toNat
  if 0xc2 ≤ n && n ≤ 0xdf then some ⟨position, b, 1, 0x80, 0xbf, n - 0xc0⟩
  else if 0xe0 ≤ n && n ≤ 0xef then
    some ⟨position, b, 2, if n = 0xe0 then 0xa0 else 0x80, if n = 0xed then 0x9f else 0xbf, n - 0xe0⟩
  else if 0xf0 ≤ n && n ≤ 0xf4 then
    some ⟨position, b, 3, if n = 0xf0 then 0x90 else 0x80, if n = 0xf4 then 0x8f else 0xbf, n - 0xf0⟩
  else none

/-- The text of the bytes from a position on. -/
def decodeFrom (position : Nat) : Option Begun → List UInt8 → Except Fault (List Char)
  | none, [] => .ok []
  | some c, [] => .error ⟨c.position, position - c.position, c.byte, .ended⟩
  | none, b :: rest =>
    if b.toNat < 0x80 then do
      return Char.ofNat b.toNat :: (← decodeFrom (position + 1) none rest)
    else match Begun.ofByte? position b with
      | none => .error ⟨position, 1, b, .start⟩
      | some c => decodeFrom (position + 1) (some c) rest
  | some c, b :: rest =>
    let n := b.toNat
    if c.low ≤ n && n ≤ c.high then
      let bits := c.bits * 64 + (n - 0x80)
      if c.missing = 1 then do
        return Char.ofNat bits :: (← decodeFrom (position + 1) none rest)
      else
        let c := { c with missing := c.missing - 1, low := 0x80, high := 0xbf, bits }
        decodeFrom (position + 1) (some c) rest
    else .error ⟨c.position, position - c.position, c.byte, .continuation⟩

/-- The text of a list of bytes. -/
def decode (bytes : List UInt8) : Except Fault (List Char) := decodeFrom 0 none bytes

/-- How many bytes are in a piece. -/
def pieceSize : Nat := 8192

/-- Where the bytes start that are decoded together with those in which a fault shows: at the start of a
piece, or at the character that began before it.  Bytes that break off at the end are decoded alone. -/
def Fault.start (f : Fault) (bytes : List UInt8) : Nat :=
  let shown := if f.reason = .start then f.position else f.position + f.count
  let piece := shown / pieceSize * pieceSize
  if f.reason = .ended then f.position
  else match decode (bytes.take piece) with
    | .ok _ => piece
    | .error begun => begun.position

/-- The text of bytes that are decoded piece by piece, and the fault that stops this, if there is one.
Then the text is what was decoded before, and the place of the fault is counted from there. -/
def decodeInPieces (bytes : List UInt8) : List Char × Option Fault :=
  match decode bytes with
  | .ok text => (text, none)
  | .error f =>
    let start := f.start bytes
    let before := (decode (bytes.take start)).toOption.getD []
    (before, some { f with position := f.position - start })

/-- The bytes of a text. -/
def encode (s : String) : List UInt8 := s.toUTF8.toList

end Utf8

/-- A text in which every line ends by a newline alone. -/
def unifyNewlines : List Char → List Char
  | [] => []
  | '\r' :: '\n' :: rest => '\n' :: unifyNewlines rest
  | '\r' :: rest => '\n' :: unifyNewlines rest
  | c :: rest => c :: unifyNewlines rest

end CommandPalette.Text
