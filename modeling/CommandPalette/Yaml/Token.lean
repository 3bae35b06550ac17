import CommandPalette.Text.Utf8
import CommandPalette.Yaml.Quoted

/-!
# Tokens

* `Directive`, `Token`: the tokens of a document.
* `TokenStream`: the tokens up to the end, or up to what stops the reader.
* `Cursor.anchorName`, `Cursor.tag`, `Cursor.directive`: the tokens that are made of names.
-/

namespace CommandPalette.Yaml

/-- An instruction at the top of a document. -/
inductive Directive where
  | version (major minor : Nat)
  /-- A handle, and what it stands for in tags. -/
  | handle (name meaning : String)
  | other
  deriving DecidableEq, Repr, Inhabited

/-- A token. -/
inductive Token where
  | directive (d : Directive)
  | documentStart
  | documentEnd
  | blockSequenceStart
  | blockMappingStart
  | blockEnd
  | flowSequenceStart
  | flowSequenceEnd
  | flowMappingStart
  | flowMappingEnd
  | flowEntry
  | blockEntry
  | key
  | value
  | reference (name : String)
  | anchor (name : String)
  | tag (handle : Option String) (rest : String)
  | scalar (text : String) (plain : Bool)
  deriving DecidableEq, Repr, Inhabited

/-- The tokens up to the end, or up to what stops the reader. -/
structure TokenStream where
  tokens : List Token
  stop : Option Fault := none

/-- Characters of tags. -/
def isTagChar (c : Char) : Bool := c.isAlphanum || among "-;/?:@&=+$,_.!~*'()[]%" c

namespace Cursor

/-- The name of an anchor or an alias, after its indicator. -/
def anchorName (c : Cursor) : Except Fault (String × Cursor) :=
  let (name, c) := c.run isNameChar
  if name.isEmpty then .error (c.fault "a name was expected")
  else if !(isGap c.char || among "?:,]\x7d%@\x60" c.char) then
    .error (c.fault "a name has a character that names do not have")
  else .ok (String.ofList name, c)

/-- The bytes that are written as escapes here. -/
def tagBytes : Nat → Cursor → Except Fault (List UInt8 × Cursor)
  | 0, c => .ok ([], c)
  | fuel + 1, c => do
    if c.char ≠ '%' then return ([], c)
    let digits := c.next.rest.take 2
    if digits.length ≠ 2 || !digits.all isHexDigit then
      .error (c.fault "two hexadecimal digits were expected")
    let (more, c) ← tagBytes fuel (c.skip 3)
    return (UInt8.ofNat (hexNumber digits) :: more, c)

/-- A piece of a tag; it may be empty. -/
def tagPieces : Nat → Cursor → Except Fault (List Char × Cursor)
  | 0, c => .ok ([], c)
  | fuel + 1, c => do
    let (plain, c) := c.run fun ch => isTagChar ch && ch ≠ '%'
    if c.char ≠ '%' then return (plain, c)
    let (bytes, after) ← c.tagBytes (c.rest.length + 1)
    match Text.Utf8.decode bytes with
    | .error _ => .error (c.fault "the escapes of a tag are no text")
    | .ok piece =>
      let (more, c) ← tagPieces fuel after
      return (plain ++ piece ++ more, c)

/-- What a tag says after its handle. -/
def tagText (c : Cursor) : Except Fault (String × Cursor) := do
  let (text, after) ← c.tagPieces (c.rest.length + 1)
  if after.index = c.index then .error (c.fault "a tag was expected")
  return (String.ofList text, after)

/-- The handle of a tag. -/
def tagHandle (c : Cursor) : Except Fault (String × Cursor) := do
  if c.char ≠ '!' then .error (c.fault "the handle of a tag was expected")
  let (name, after) := c.next.run isNameChar
  if c.second = ' ' then return ("!", c.next)
  if after.char ≠ '!' then .error (after.fault "the handle of a tag does not end")
  return (String.ofList ('!' :: name ++ ['!']), after.next)

/-- The tag here. -/
def tag (c : Cursor) : Except Fault (Token × Cursor) := do
  let (token, after) ← if c.second = '<' then do
      let (text, c) ← (c.skip 2).tagText
      if c.char ≠ '>' then .error (c.fault "a tag does not end")
      pure (Token.tag none text, c.next)
    else if isGap c.second then pure (Token.tag none "!", c.next)
    else do
      let word := c.next.rest.takeWhile fun ch => !(ch = ' ' || endsLine ch)
      let (handle, c) ← if word.contains '!' then c.tagHandle else pure ("!", c.next)
      let (text, c) ← c.tagText
      pure (Token.tag (some handle) text, c)
  if !(after.char = ' ' || endsLine after.char) then .error (after.fault "a tag does not end")
  return (token, after)

/-- A number of a version. -/
def versionNumber (c : Cursor) : Except Fault (Nat × Cursor) :=
  let (digits, c) := c.run Char.isDigit
  if digits.isEmpty then .error (c.fault "a digit was expected")
  else if Value.maxDigits < digits.length then .error (.value (longNumeral digits.length))
  else .ok (decimalNumber digits, c)

/-- The version that a directive states. -/
def version (c : Cursor) : Except Fault (Directive × Cursor) := do
  let (major, c) ← (c.past (· = ' ')).versionNumber
  if c.char ≠ '.' then .error (c.fault "a dot was expected")
  let (minor, c) ← c.next.versionNumber
  if !(c.char = ' ' || endsLine c.char) then .error (c.fault "a version does not end")
  return (.version major minor, c)

/-- The handle that a directive introduces. -/
def handleMeaning (c : Cursor) : Except Fault (Directive × Cursor) := do
  let (handle, c) ← (c.past (· = ' ')).tagHandle
  if c.char ≠ ' ' then .error (c.fault "a space was expected")
  let (meaning, c) ← (c.past (· = ' ')).tagText
  if !(c.char = ' ' || endsLine c.char) then .error (c.fault "a directive does not end")
  return (.handle handle meaning, c)

/-- The directive here. -/
def directive (c : Cursor) : Except Fault (Token × Cursor) := do
  let (name, c) := c.next.run isNameChar
  if name.isEmpty then .error (c.fault "the name of a directive was expected")
  if !(c.char = ' ' || endsLine c.char) then .error (c.fault "the name of a directive does not end")
  let (d, c) ← match String.ofList name with
    | "YAML" => c.version
    | "TAG" => c.handleMeaning
    | _ => pure (.other, c.past (!isBreak ·))
  return (.directive d, ← c.pastLine)

end Cursor

end CommandPalette.Yaml
