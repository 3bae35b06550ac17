import CommandPalette.Yaml.Block
import CommandPalette.Yaml.Plain
import CommandPalette.Yaml.Source
import CommandPalette.Yaml.Token

/-!
# From text to tokens

Blocks have no brackets: where one starts and ends follows from the indentation, and that a scalar is
a key shows only when the colon after it is reached.  So the lexer remembers the places where a key may
have started, and what belongs before a token is put there at the end.  A token is settled once no such
place stands before it; what stops the lexer is seen after the settled tokens.

* `Lexer`: the state between two tokens.
* `Lexer.step`: the next token.
* `Lexer.settled`: how many tokens are settled.
* `tokens`: the tokens of a source.
-/

namespace CommandPalette.Yaml

/-- A place where a key may have started. -/
structure KeyStart where
  /-- How many brackets were open. -/
  depth : Nat
  /-- The number of the token that starts there. -/
  position : Nat
  /-- Whether nothing else than a key can start there. -/
  required : Bool
  /-- Where it is in the text. -/
  index : Nat
  line : Nat
  column : Nat
  deriving Repr, Inhabited

/-- The state between two tokens. -/
structure Lexer where
  cursor : Cursor
  /-- The tokens so far, without those that turn out later to belong between them. -/
  tokens : Array Token := #[]
  /-- What belongs before the token with the given number. -/
  openings : List (Nat × List Token) := []
  /-- How many brackets are open. -/
  depth : Nat := 0
  /-- The column of the innermost block; there is none before the first block. -/
  indent : Int := -1
  /-- The columns of the blocks around it. -/
  outer : List Int := []
  /-- Whether a key may start here. -/
  allowsKey : Bool := true
  /-- Where keys may have started. -/
  keys : List KeyStart := []

namespace Lexer

/-! ## Blocks and keys -/

/-- A fault at the present place. -/
def fault (l : Lexer) (words : String) : Fault := l.cursor.fault words

/-- Adds a token. -/
def push (l : Lexer) (t : Token) : Lexer := { l with tokens := l.tokens.push t }

/-- Ends the blocks that are indented more than the given column; `blocks` are the columns of those
around the innermost. -/
def endBlocks (l : Lexer) (column : Int) : List Int → Lexer
  | [] => l
  | around :: rest =>
    if column < l.indent then endBlocks { l.push .blockEnd with indent := around, outer := rest } column rest
    else l

/-- Ends the blocks that are indented more than the given column.  Brackets hide the indentation. -/
def unwind (l : Lexer) (column : Int) : Lexer :=
  if l.depth = 0 then l.endBlocks column l.outer else l

/-- Starts a block at a column, if that is indented more than the innermost block. -/
def indentTo (l : Lexer) (column : Nat) : Option Lexer :=
  if l.indent < column then some { l with indent := column, outer := l.indent :: l.outer } else none

/-- Starts a block at the present column if need be. -/
def startBlock (l : Lexer) (t : Token) : Lexer :=
  match l.indentTo l.cursor.column with
  | some l => l.push t
  | none => l

/-- Whether no key can have started at a place: a key stands in one line and is not long. -/
def isStale (l : Lexer) (k : KeyStart) : Bool :=
  k.line ≠ l.cursor.line || 1024 < l.cursor.index - k.index

/-- Forgets the places where a key can no longer have started. -/
def dropStaleKeys (l : Lexer) : Except Fault Lexer :=
  if l.keys.any fun k => l.isStale k && k.required then .error (l.fault "a colon was expected")
  else .ok { l with keys := l.keys.filter (!l.isStale ·) }

/-- Forgets the place where a key may have started between the innermost brackets. -/
def dropKey (l : Lexer) : Except Fault Lexer :=
  if l.keys.any fun k => k.depth = l.depth && k.required then .error (l.fault "a colon was expected")
  else .ok { l with keys := l.keys.filter (·.depth ≠ l.depth) }

/-- Remembers that a key may start here. -/
def saveKey (l : Lexer) : Except Fault Lexer := do
  if !l.allowsKey then return l
  let c := l.cursor
  let l ← l.dropKey
  let start : KeyStart :=
    { depth := l.depth
      position := l.tokens.size
      required := l.depth = 0 && l.indent = c.column
      index := c.index
      line := c.line
      column := c.column }
  return { l with keys := start :: l.keys }

/-! ## Tokens -/

/-- Past a token of the given length. -/
def take (l : Lexer) (t : Token) (length : Nat) : Lexer :=
  { l.push t with cursor := l.cursor.skip length }

/-- Takes a token that was read. -/
def takeRead (l : Lexer) (read : Except Fault (Token × Cursor)) : Except Fault Lexer := do
  let (t, cursor) ← read
  return { l.push t with cursor }

/-- A token that ends all blocks. -/
def outermost (l : Lexer) : Except Fault Lexer := do
  let l ← (l.unwind (-1)).dropKey
  return { l with allowsKey := false }

/-- An opening bracket. -/
def openBracket (l : Lexer) (t : Token) : Except Fault Lexer := do
  let l ← l.saveKey
  return { l.take t 1 with depth := l.depth + 1, allowsKey := true }

/-- A closing bracket. -/
def closeBracket (l : Lexer) (t : Token) : Except Fault Lexer := do
  let l ← l.dropKey
  if l.depth = 0 then .error (l.fault "no bracket is open")
  return { l.take t 1 with depth := l.depth - 1, allowsKey := false }

/-- A comma between brackets. -/
def flowEntry (l : Lexer) : Except Fault Lexer := do
  let l ← l.dropKey
  return { l.take .flowEntry 1 with allowsKey := true }

/-- The dash before an entry of a list. -/
def blockEntry (l : Lexer) : Except Fault Lexer := do
  if l.depth = 0 && !l.allowsKey then .error (l.fault "no list can start here")
  let l := if l.depth = 0 then l.startBlock .blockSequenceStart else l
  let l ← l.dropKey
  return { l.take .blockEntry 1 with allowsKey := true }

/-- The question mark before a key. -/
def explicitKey (l : Lexer) : Except Fault Lexer := do
  if l.depth = 0 && !l.allowsKey then .error (l.fault "no key can start here")
  let l := if l.depth = 0 then l.startBlock .blockMappingStart else l
  let l ← l.dropKey
  return { l.take .key 1 with allowsKey := l.depth = 0 }

/-- The colon before a value.  If a key may have started before it, it did. -/
def value (l : Lexer) : Except Fault Lexer := do
  match l.keys.find? (·.depth = l.depth) with
  | some start =>
    let l := { l with keys := l.keys.filter (·.depth ≠ l.depth) }
    let (l, opening) := match (if l.depth = 0 then l.indentTo start.column else none) with
      | some l => (l, [Token.blockMappingStart, .key])
      | none => (l, [Token.key])
    let l := { l with openings := (start.position, opening) :: l.openings }
    return { l.take .value 1 with allowsKey := false }
  | none =>
    if l.depth = 0 && !l.allowsKey then .error (l.fault "no value can start here")
    let l := if l.depth = 0 then l.startBlock .blockMappingStart else l
    let l ← l.dropKey
    return { l.take .value 1 with allowsKey := l.depth = 0 }

/-- An anchor or an alias. -/
def named (l : Lexer) (make : String → Token) : Except Fault Lexer := do
  let l ← l.saveKey
  let (name, cursor) ← l.cursor.next.anchorName
  return { l.push (make name) with cursor, allowsKey := false }

/-- A tag. -/
def tag (l : Lexer) : Except Fault Lexer := do
  let l ← l.saveKey
  let l ← l.takeRead l.cursor.tag
  return { l with allowsKey := false }

/-- A block scalar. -/
def blockScalar (l : Lexer) : Except Fault Lexer := do
  let l ← l.dropKey
  let (text, cursor) ← l.cursor.block (l.indent + 1).toNat
  return { l.push (.scalar (String.ofList text) false) with cursor, allowsKey := true }

/-- A quoted scalar. -/
def quotedScalar (l : Lexer) : Except Fault Lexer := do
  let l ← l.saveKey
  let (text, cursor) ← l.cursor.quoted
  return { l.push (.scalar (String.ofList text) false) with cursor, allowsKey := false }

/-- A plain scalar. -/
def plainScalar (l : Lexer) : Except Fault Lexer := do
  let l ← l.saveKey
  let read := l.cursor.plain (0 < l.depth) (l.indent + 1).toNat
  return { l.push (.scalar (String.ofList read.text) true) with
    cursor := read.cursor
    allowsKey := read.broken }

/-- Whether a plain scalar can start here. -/
def startsPlain (l : Lexer) : Bool :=
  let c := l.cursor.char
  !(isGap c || among "-?:,[]\x7b\x7d#&*!|>'\"%@\x60" c) ||
    (!isGap l.cursor.second && (c = '-' || (l.depth = 0 && (c = '?' || c = ':'))))

/-- Past spaces, comments and line breaks.  At the start of a line a key may start. -/
def pastBlanks : Nat → Lexer → Lexer
  | 0, l => l
  | fuel + 1, l =>
    let c := l.cursor.past (· = ' ')
    let c := if c.char = '#' then c.past (!isBreak ·) else c
    match c.lineBreak? with
    | some (_, cursor) => pastBlanks fuel { l with cursor, allowsKey := l.depth = 0 || l.allowsKey }
    | none => { l with cursor := c }

/-- The next token, whose first character is not a blank. -/
def token (l : Lexer) : Except Fault Lexer := do
  let c := l.cursor
  let apart := 0 < l.depth || isGap c.second
  match c.char with
  | '[' => l.openBracket .flowSequenceStart
  | '\x7b' => l.openBracket .flowMappingStart
  | ']' => l.closeBracket .flowSequenceEnd
  | '\x7d' => l.closeBracket .flowMappingEnd
  | ',' => l.flowEntry
  | '*' => l.named .reference
  | '&' => l.named .anchor
  | '!' => l.tag
  | '\'' | '"' => l.quotedScalar
  | ch =>
    if ch = '-' && isGap c.second then l.blockEntry
    else if ch = '?' && apart then l.explicitKey
    else if ch = ':' && apart then l.value
    else if (ch = '|' || ch = '>') && l.depth = 0 then l.blockScalar
    else if l.startsPlain then l.plainScalar
    else .error (l.fault "no token can start here")

/-- The next token, or none at the end. -/
def step (l : Lexer) : Except Fault (Lexer × Bool) := do
  let l ← (l.pastBlanks (l.cursor.rest.length + 1)).dropStaleKeys
  let c := l.cursor
  let l := l.unwind c.column
  if c.atEnd then return (← l.outermost, false)
  else if c.column = 0 && c.char = '%' then
    let l ← l.outermost
    return (← l.takeRead l.cursor.directive, true)
  else if c.column = 0 && c.hasMarker '-' then
    return ((← l.outermost).take .documentStart 3, true)
  else if c.column = 0 && c.hasMarker '.' then
    return ((← l.outermost).take .documentEnd 3, true)
  else return (← l.token, true)

/-- All tokens that are left, and what stops the lexer.  `obstacle` tells what keeps it from going on
after the given number of characters. -/
def run (obstacle : Nat → Option Fault) : Nat → Lexer → Lexer × Option Fault
  | 0, l => (l, none)
  | fuel + 1, l => match l.step with
    | .error fault => (l, (fault.index?.bind obstacle).or (some fault))
    | .ok (next, goesOn) => match obstacle next.cursor.index with
      | some fault => (l, some fault)
      | none => if goesOn then run obstacle fuel next else ({ next with keys := [] }, none)

/-- How many tokens are settled. -/
def settled (l : Lexer) : Nat :=
  (l.keys.filter (!l.isStale ·)).foldl (fun count k => min count k.position) l.tokens.size

/-- The settled tokens with those that belong between them. -/
def allTokens (l : Lexer) : List Token :=
  (l.tokens.toList.take l.settled).zipIdx.flatMap fun (t, i) => (l.openings.lookup i).getD [] ++ [t]

end Lexer

/-- Past a byte order mark. -/
def pastMark (c : Cursor) : Cursor := if c.char = '\ufeff' then c.next else c

/-- The tokens of a source. -/
def tokens (s : Source) : TokenStream :=
  let (l, stop) :=
    Lexer.run s.obstacleAt (s.text.length + 2) { cursor := pastMark { rest := s.text } }
  { tokens := l.allTokens, stop }

end CommandPalette.Yaml
