import CommandPalette.Yaml.Cursor

/-!
# Plain scalars

A scalar without quotes goes on as long as nothing in it can be taken for an indicator; it may span
lines as long as they are indented.

* `plainRun`: a word of a plain scalar.
* `Cursor.plainGap`: the space between two words.
* `Cursor.plain`: the text of a plain scalar.
-/

namespace CommandPalette.Yaml

/-- Characters that end a word inside brackets. -/
def isFlowIndicator (c : Char) : Bool := among ",?[]\x7b\x7d" c

/-- Whether what follows a colon makes it an indicator. -/
def followsColon (inFlow : Bool) (c : Char) : Bool :=
  isGap c || (inFlow && among ",[]\x7b\x7d" c)

/-- A word of a plain scalar. -/
def plainRun (inFlow : Bool) : List Char → List Char
  | [] => []
  | c :: rest =>
    if isGap c || (c = ':' && followsColon inFlow (rest.headD endMark)) || (inFlow && isFlowIndicator c)
    then [] else c :: plainRun inFlow rest

/-- The space between two words of a plain scalar. -/
structure Gap where
  /-- What stands for it in the text; it is empty where the scalar ends. -/
  text : List Char
  /-- What follows. -/
  cursor : Cursor
  /-- Whether a line ends in it. -/
  broken : Bool := false

namespace Cursor

/-- The line breaks here with the spaces between them left out, or none where a document ends. -/
def plainBreaks : Nat → Cursor → Option (List Char) × Cursor
  | 0, c => (some [], c)
  | fuel + 1, c =>
    if c.char = ' ' then plainBreaks fuel c.next
    else match c.lineBreak? with
      | none => (some [], c)
      | some (first, c) =>
        if c.hasBoundary then (none, c)
        else
          let (more, c) := plainBreaks fuel c
          (more.map (first :: ·), c)

/-- The space between two words. -/
def plainGap (c : Cursor) : Gap :=
  let (spaces, c) := c.run (· = ' ')
  match c.lineBreak? with
  | none => { text := spaces, cursor := c }
  | some (first, c) =>
    if c.hasBoundary then { text := [], cursor := c, broken := true }
    else match c.plainBreaks (c.rest.length + 1) with
      | (none, c) => { text := [], cursor := c, broken := true }
      | (some more, c) => { text := folded first more, cursor := c, broken := true }

/-- A plain scalar from its next word on, with the space before that word.  `indent` is the column
that later lines must reach. -/
def plainFrom (inFlow : Bool) (indent : Nat) (before : List Char) : Nat → Cursor → Gap
  | 0, c => { text := [], cursor := c }
  | fuel + 1, c =>
    let word := if c.char = '#' then [] else plainRun inFlow c.rest
    if word.isEmpty then { text := [], cursor := c }
    else
      let gap := (c.skip word.length).plainGap
      if gap.text.isEmpty || gap.cursor.char = '#' || (!inFlow && gap.cursor.column < indent) then
        { gap with text := before ++ word }
      else
        let later := plainFrom inFlow indent gap.text fuel gap.cursor
        { later with
          text := before ++ word ++ later.text
          broken := if later.text.isEmpty then gap.broken else later.broken }

/-- The text of the plain scalar here, what follows it, and whether a line ended after its last
word. -/
def plain (c : Cursor) (inFlow : Bool) (indent : Nat) : Gap :=
  c.plainFrom inFlow indent [] (c.rest.length + 1)

end Cursor

end CommandPalette.Yaml
