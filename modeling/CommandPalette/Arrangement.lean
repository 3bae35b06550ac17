import CommandPalette.Motion.Segment
import CommandPalette.Suggestion
import CommandPalette.Value.Arithmetic

/-!
# Arranging the menu

The menu is a ring: pointing at an entry turns the ring until that entry comes first.  In vim mode
every entry is annotated before the ring is turned, the entry pointed at with the hint and every
other one with its jump code, so codes belong to entries and not to places in the menu.

* `rotate`: turning the ring.
* `annotate`: jump codes in the descriptions.
* `arrange`: both, and the content of the entry that comes first.
* `rotateAt`, `annotateAt`, `arrangeAt`: the same where the entry is given as a value of any type.
-/

namespace CommandPalette

open Motion

/-- How annotated entries look. -/
structure Annotation where
  /-- What stands before the description of the entry pointed at. -/
  hint : String := "[↓j↑k] ↳"
  /-- The template of what stands before every other description. -/
  keyFormat : String := "[\x7bkey\x7d]"
  deriving DecidableEq, Repr, Inhabited

/-- The place in a ring of `size` entries that an offset leads to. -/
def ringIndex (offset : Int) (size : Nat) : Nat := (offset % size).toNat

/-- Turns a list until the entry that `offset` leads to comes first. -/
def rotate {α : Type _} (items : List α) (offset : Int) : List α :=
  items.drop (ringIndex offset items.length) ++ items.take (ringIndex offset items.length)

/-- The text of a jump code in front of a description. -/
def Annotation.lead (look : Annotation) (highlighted : Bool) (code : String) :
    Except Fault String :=
  if highlighted then .ok look.hint
  else (Text.Template.render [("key", code)] look.keyFormat).mapError .template

/-- An entry with its jump code. -/
def Annotation.entry (look : Annotation) (keymap : Keymap) (highlighted : Int)
    (s : Suggestion) (i : Nat) : Except Fault Suggestion := do
  let code := String.ofList (keymap.keyFor i)
  let lead ← look.lead (Int.ofNat i = highlighted) code
  return { content := s.content, description := lead ++ " " ++ s.description, code := some code }

/-- Every entry with its jump code; `highlighted` is the place of the entry pointed at. -/
def annotate (look : Annotation) (keymap : Keymap) (highlighted : Int)
    (suggestions : List Suggestion) : Except Fault (List Suggestion) :=
  suggestions.zipIdx.mapM fun (s, i) => look.entry keymap highlighted s i

/-- A menu and the content of its first entry. -/
structure Arrangement where
  /-- The menu. -/
  suggestions : List Suggestion := []
  /-- The content of its first entry, or the empty text. -/
  selected : String := ""
  deriving DecidableEq, Repr, Inhabited

/-- A menu with its first entry selected. -/
def Arrangement.ofList (suggestions : List Suggestion) : Arrangement where
  suggestions
  selected := (suggestions.head?.map Suggestion.content).getD ""

/-- Turns the menu to a row.  In vim mode it is annotated first, where a keymap that is missing has
no codes. -/
def arrange (look : Annotation) (vimMode : Bool) (keymap : Option Keymap) (y : Int)
    (suggestions : List Suggestion) : Except Fault Arrangement := do
  let items ←
    if vimMode then annotate look (keymap.getD {}) (ringIndex y suggestions.length) suggestions
    else .ok suggestions
  return .ofList (rotate items y)

/-! ## Entries given as values -/

/-- Turns a list until the entry that a value leads to comes first. -/
def rotateAt {α : Type _} (items : List α) (offset : Value) : Except Fault (List α) :=
  if items.isEmpty then .ok []
  else do match ← offset.remainder items.length with
    | .int i => return rotate items i
    | _ =>
      .error (.foreign "TypeError"
        "slice indices must be integers or None or have an __index__ method")

/-- Every entry with its jump code; no entry is pointed at by a value that is no integer. -/
def annotateAt (look : Annotation) (keymap : Keymap) (highlighted : Value)
    (suggestions : List Suggestion) : Except Fault (List Suggestion) :=
  annotate look keymap (highlighted.index?.getD (-1)) suggestions

/-- Turns the menu to the row that a value leads to. -/
def arrangeAt (look : Annotation) (vimMode : Bool) (keymap : Option Keymap) (y : Value)
    (suggestions : List Suggestion) : Except Fault Arrangement :=
  if suggestions.isEmpty then .ok {}
  else do
    let items ←
      if vimMode then
        annotateAt look (keymap.getD {}) (← y.remainder suggestions.length) suggestions
      else .ok suggestions
    return .ofList (← rotateAt items y)

end CommandPalette
