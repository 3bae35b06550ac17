import CommandPalette.Fault

/-!
# Suggestions

The content and the description of a suggestion are texts.  A host could put other values there and nothing
would stop it; this is left out.

* `Suggestion`: an entry of the menu.
* `Item`: what a provider may put into its list where a suggestion is expected.
* `Item.suggestion?`: the suggestion that an item stands for.
-/

namespace CommandPalette

/-- An entry of the menu.  An annotated entry also carries the jump code that leads to it. -/
structure Suggestion where
  /-- The text placed in the input when the entry is picked. -/
  content : String
  /-- What the menu shows. -/
  description : String
  /-- The jump code of an annotated entry. -/
  code : Option String := none
  deriving DecidableEq, Repr, Inhabited

/-- An item of a provider's list. -/
inductive Item where
  | suggestion (s : Suggestion)
  | value (v : Value)
  deriving Inhabited, Repr

/-- The suggestion that an item stands for: itself, or the one that a mapping with a content
describes. -/
def Item.suggestion? : Item → Except Fault Suggestion
  | suggestion s => .ok s
  | value (.table entries) =>
    match Value.lookup? (.text "content") entries with
    | none => .error (.missingKey "content")
    | some content => do
      let description := (Value.lookup? (.text "description") entries).getD (.text "")
      return { content := ← content.write, description := ← description.write }
  | value v => .error (.notSuggestion v.typeName)

end CommandPalette
