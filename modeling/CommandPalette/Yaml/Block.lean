import CommandPalette.Yaml.Cursor

/-!
# Block scalars

The text of a block scalar is given by its indentation: literally, or with its lines folded.

* `Chomping`: what becomes of the line breaks at the end.
* `Cursor.blockHeader`: the first line of a block scalar.
* `Cursor.block`: the text of a block scalar.
-/

namespace CommandPalette.Yaml

/-- What becomes of the line breaks at the end of a block scalar. -/
inductive Chomping where
  /-- One is kept. -/
  | clip
  /-- None is kept. -/
  | strip
  /-- All are kept. -/
  | keep
  deriving DecidableEq, Repr, Inhabited

/-- The first line of a block scalar. -/
structure BlockHeader where
  chomping : Chomping := .clip
  /-- By how much the text is indented more than what is around it. -/
  increment : Option Nat := none

/-- The lines of a block scalar. -/
structure BlockLines where
  text : List Char
  /-- The break after the last line. -/
  last : List Char
  /-- The breaks of the empty lines at the end. -/
  trailing : List Char
  /-- What follows. -/
  cursor : Cursor

namespace Cursor

/-- What becomes of the line breaks at the end, if it is said here. -/
def chomping? (c : Cursor) : Option Chomping :=
  if c.char = '+' then some .keep else if c.char = '-' then some .strip else none

/-- By how much the text is indented, if it is said here. -/
def increment? (c : Cursor) : Option Nat :=
  if c.char.isDigit then some (c.char.toNat - 48) else none

/-- The first line of a block scalar, after its indicator.  Its two parts may come in either
order. -/
def blockHeader (c : Cursor) : Except Fault (BlockHeader × Cursor) := do
  let early := c.chomping?
  let c := if early.isSome then c.next else c
  let increment := c.increment?
  let c := if increment.isSome then c.next else c
  let late := if early.isSome || increment.isNone then none else c.chomping?
  let c := if late.isSome then c.next else c
  if increment = some 0 then .error (c.fault "an indentation of zero")
  if !(c.char = ' ' || endsLine c.char) then
    .error (c.fault "chomping or indentation indicators were expected")
  return ({ chomping := (early.or late).getD .clip, increment }, ← c.pastLine)

/-- Past the spaces before the text. -/
def pastIndent (c : Cursor) (indent : Nat) : Cursor :=
  c.skip ((c.rest.take (indent - c.column)).takeWhile (· = ' ')).length

/-- The empty lines here, and what follows them. -/
def blockBreaks (indent : Nat) : Nat → Cursor → List Char × Cursor
  | 0, c => ([], c)
  | fuel + 1, c =>
    let c := c.pastIndent indent
    match c.lineBreak? with
    | none => ([], c)
    | some (first, c) =>
      let (more, c) := blockBreaks indent fuel c
      (first :: more, c)

/-- The empty lines here, the widest indentation among them and in the line that follows, and that
line. -/
def widestIndent (widest : Nat) : Nat → Cursor → List Char × Nat × Cursor
  | 0, c => ([], widest, c)
  | fuel + 1, c =>
    if c.char = ' ' then widestIndent (max widest c.next.column) fuel c.next
    else match c.lineBreak? with
      | none => ([], widest, c)
      | some (first, c) =>
        let (more, widest, c) := widestIndent widest fuel c
        (first :: more, widest, c)

/-- The lines of a block scalar; `before` are the breaks before the next one.  Lines are folded unless
one of them starts with a space. -/
def blockLines (folds : Bool) (indent : Nat) (before : List Char) : Nat → Cursor → BlockLines
  | 0, c => { text := [], last := [], trailing := before, cursor := c }
  | fuel + 1, c =>
    if c.column ≠ indent || c.atEnd then { text := [], last := [], trailing := before, cursor := c }
    else
      let spaced := isSpace c.char
      let (line, c) := c.run (!isBreak ·)
      let (last, c) := match c.lineBreak? with
        | some (first, c) => ([first], c)
        | none => ([], c)
      let (breaks, c) := c.blockBreaks indent (c.rest.length + 1)
      let text := before ++ line
      if c.column = indent && !c.atEnd then
        let joint :=
          if folds && last = ['\n'] && !spaced && !isSpace c.char then
            if breaks.isEmpty then [' '] else []
          else last
        let later := blockLines folds indent breaks fuel c
        { later with text := text ++ joint ++ later.text }
      else { text, last, trailing := breaks, cursor := c }

/-- The text of the block scalar here, and what follows it.  `least` is the least indentation that its
text can have. -/
def block (c : Cursor) (least : Nat) : Except Fault (List Char × Cursor) := do
  let folds := c.char = '>'
  let (header, c) ← c.next.blockHeader
  let least := max least 1
  let (breaks, indent, c) := match header.increment with
    | some n =>
      let (breaks, c) := c.blockBreaks (least + n - 1) (c.rest.length + 1)
      (breaks, least + n - 1, c)
    | none =>
      let (breaks, widest, c) := c.widestIndent 0 (c.rest.length + 1)
      (breaks, max least widest, c)
  let lines := c.blockLines folds indent breaks (c.rest.length + 1)
  let tail := match header.chomping with
    | .clip => lines.last
    | .strip => []
    | .keep => lines.last ++ lines.trailing
  return (lines.text ++ tail, lines.cursor)

end Cursor

end CommandPalette.Yaml
