import CommandPalette.Text.Run
import CommandPalette.Yaml.Cursor

/-!
# Quoted scalars

A scalar in single quotes has one escape, the doubled quote; one in double quotes has many.  Line
breaks inside either are folded.

* `escapes`, `escapeLength?`: the escapes of double quotes.
* `Cursor.quoted`: the text of a quoted scalar.
-/

namespace CommandPalette.Yaml

/-- The escapes of one character. -/
def escapes : List (Char × Char) :=
  [('0', '\x00'), ('a', '\x07'), ('b', '\x08'), ('t', '\t'), ('\t', '\t'), ('n', '\n'), ('v', '\x0b'),
    ('f', '\x0c'), ('r', '\r'), ('e', '\x1b'), (' ', ' '), ('"', '"'), ('\\', '\\'), ('/', '/'),
    ('N', '\x85'), ('_', '\xa0'), ('L', '\u2028'), ('P', '\u2029')]

/-- How many hexadecimal digits follow an escape. -/
def escapeLength? : Char → Option Nat
  | 'x' => some 2
  | 'u' => some 4
  | 'U' => some 8
  | _ => none

/-- The value of a hexadecimal digit. -/
def hexValue (c : Char) : Nat := if c.isDigit then c.toNat - 48 else c.toNat % 32 + 9

/-- The value of a run of hexadecimal digits. -/
def hexNumber (s : List Char) : Nat := s.foldl (fun n c => n * 16 + hexValue c) 0

/-- The character of a code.  Codes of half a character are shown by the replacement character. -/
def charOfCode (code : Nat) : Except Fault Char :=
  if 0x80000000 ≤ code then
    .error (.value (.foreign "OverflowError" "Python int too large to convert to C int"))
  else if 0x110000 ≤ code then
    .error (.value (.foreign "ValueError" "chr() arg not in range(0x110000)"))
  else if 0xd800 ≤ code && code < 0xe000 then .ok '\ufffd'
  else .ok (Char.ofNat code)

namespace Cursor

/-- The line breaks here; the spaces between them are left out. -/
def quotedBreaks : Nat → Cursor → Except Fault (List Char × Cursor)
  | 0, c => .ok ([], c)
  | fuel + 1, c => do
    if c.hasBoundary then .error (c.fault "a document ends inside a quoted scalar")
    let c := c.past isSpace
    match c.lineBreak? with
    | none => return ([], c)
    | some (first, c) =>
      let (more, c) ← quotedBreaks fuel c
      return (first :: more, c)

/-- The spaces and line breaks here, folded. -/
def quotedGap (c : Cursor) : Except Fault (List Char × Cursor) := do
  let (spaces, c) := c.run isSpace
  match c.lineBreak? with
  | some (first, c) =>
    let (more, c) ← c.quotedBreaks (c.rest.length + 1)
    return (folded first more, c)
  | none => if c.atEnd then .error (c.fault "a quoted scalar does not end") else return (spaces, c)

/-- What an escape stands for, after its backslash. -/
def escape (c : Cursor) : Except Fault (List Char × Cursor) := do
  if let some ch := escapes.lookup c.char then return ([ch], c.next)
  else if let some length := escapeLength? c.char then
    let digits := c.next.rest.take length
    if digits.length = length && digits.all isHexDigit then
      return ([← charOfCode (hexNumber digits)], c.next.skip length)
    else .error (c.fault "hexadecimal digits were expected")
  else match c.lineBreak? with
    | some (_, c) => c.quotedBreaks (c.rest.length + 1)
    | none => .error (c.fault "there is no such escape")

/-- A run without spaces in a quoted scalar. -/
def quotedRun (double : Bool) : Nat → Cursor → Except Fault (List Char × Cursor)
  | 0, c => .ok ([], c)
  | fuel + 1, c => do
    let (plain, c) := c.run fun ch => !isGap ch && !among "'\"\\" ch
    let ch := c.char
    if !double && ch = '\'' && c.second = '\'' then
      let (more, c) ← quotedRun double fuel (c.skip 2)
      return (plain ++ '\'' :: more, c)
    else if (double && ch = '\'') || (!double && (ch = '"' || ch = '\\')) then
      let (more, c) ← quotedRun double fuel c.next
      return (plain ++ ch :: more, c)
    else if double && ch = '\\' then
      let (piece, c) ← c.next.escape
      let (more, c) ← quotedRun double fuel c
      return (plain ++ piece ++ more, c)
    else return (plain, c)

/-- The rest of a quoted scalar up to its closing mark. -/
def quotedRest (mark : Char) : Nat → Cursor → Except Fault (List Char × Cursor)
  | 0, c => .error (c.fault "a quoted scalar does not end")
  | fuel + 1, c => do
    let (piece, c) ← c.quotedRun (mark = '"') (c.rest.length + 1)
    if c.char = mark then return (piece, c.next)
    else
      let (gap, c) ← c.quotedGap
      let (more, c) ← quotedRest mark fuel c
      return (piece ++ gap ++ more, c)

/-- The text of the quoted scalar here, and what follows it. -/
def quoted (c : Cursor) : Except Fault (List Char × Cursor) :=
  c.next.quotedRest c.char (c.rest.length + 1)

end Cursor

end CommandPalette.Yaml
