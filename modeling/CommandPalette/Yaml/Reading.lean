import CommandPalette.Yaml.Lexer
import CommandPalette.Yaml.Merge
import CommandPalette.Yaml.Scalar

/-!
# From documents to values

A document stands for a value.  Its nodes are gone through level by level: first the parts of the root,
then the parts of these, and so on.  The first one that has no value is the fault of the document.

* `Survey`: how far the nodes have been gone through; `Document.survey` goes through all of them.
* `Document.value`: the value of a document.
* `read`: the value of a source.
-/

namespace CommandPalette.Yaml

/-! ## Going through the nodes -/

/-- How far the nodes of a document have been gone through. -/
structure Survey where
  /-- The document, with all entries taken over in the mappings whose turn has come. -/
  document : Document
  /-- The lists and mappings that were met, the last one first. -/
  met : List Nat := []
  /-- Those among them whose turn is to come, the next one first. -/
  waiting : List Nat := []

namespace Survey

/-- Meets a node: a scalar has to have a value, a list or a mapping has to wait for its turn. -/
def meet (s : Survey) (number : Nat) : Except Fault Survey :=
  let node := s.document.node number
  if node.tag.isCollection then
    if s.met.contains number then .ok s
    else .ok { s with met := number :: s.met, waiting := s.waiting ++ [number] }
  else match node with
    | .scalar tag text => (scalarValue tag text).map fun _ => s
    | _ => .error (.structural "the tag of a list or a mapping is not known")

/-- Meets the key and the value of an entry. -/
def meetEntry (s : Survey) (entry : Nat × Nat) : Except Fault Survey := do
  let s ← s.meet entry.1
  if (s.document.node entry.1).tag.isCollection then
    .error (.structural "a list or a mapping cannot be a key")
  s.meet entry.2

/-- The turn of a list or a mapping, in which its parts are met. -/
def turn (s : Survey) (number : Nat) : Except Fault Survey :=
  match s.document.node number with
  | .sequence .sequence items => items.foldlM meet s
  | .mapping .mapping _ => do
    let document ← s.document.flatten number
    (document.node number).entries.foldlM meetEntry { s with document }
  | _ => .error (.structural "a node is not what its tag says")

/-- The turns of all that wait. -/
def finish : Nat → Survey → Except Fault Document
  | 0, s => .ok s.document
  | turns + 1, s => match s.waiting with
    | [] => .ok s.document
    | next :: rest => do finish turns (← { s with waiting := rest }.turn next)

end Survey

/-- Goes through all nodes of a document.  In the result all entries have been taken over. -/
def Document.survey (d : Document) : Except Fault Document := do
  Survey.finish (d.nodes.size + 1) (← { document := d : Survey }.meet d.root)

/-! ## Values -/

/-- The values that were made already, by the numbers of their nodes. -/
abbrev Making := StateM (Array (Option Value))

/-- Keeps a value if it is `whole`, which means that nothing in it had to be left out. -/
def Making.keep (number : Nat) (value : Value) (whole : Bool) : Making (Value × Bool) := do
  if whole then modify fun values => values.setIfInBounds number (some value)
  return (value, whole)

namespace Document

/-- The value of a scalar. -/
def scalarAt (d : Document) (number : Nat) : Value :=
  match d.node number with
  | .scalar tag text => (scalarValue tag text).toOption.getD .null
  | _ => .null

/-- The value of a node inside of others, and whether it is whole.  Dots stand for a list or a mapping
inside of itself. -/
def valueInside (d : Document) : Nat → List Nat → Nat → Making (Value × Bool)
  | 0, _, _ => return (.null, false)
  | depth + 1, around, number => do
    if let some (some value) := (← get)[number]? then return (value, true)
    match d.node number with
    | .scalar .. => return (d.scalarAt number, true)
    | .sequence _ items =>
      if around.contains number then return (.foreign "list" "[...]" "[...]", false)
      let parts ← items.mapM (valueInside d depth (number :: around))
      Making.keep number (.list (parts.map (·.1))) (parts.all (·.2))
    | .mapping _ entries =>
      if around.contains number then
        return (.foreign "dict" "\x7b...\x7d" "\x7b...\x7d", false)
      let parts ← entries.mapM fun (_, value) => valueInside d depth (number :: around) value
      let keys := entries.map fun (key, _) => d.scalarAt key
      Making.keep number (Value.tableOf (keys.zip (parts.map (·.1)))) (parts.all (·.2))

/-- The value of a node by itself. -/
def valueAlone (d : Document) (number : Nat) : Making Value := do
  return (← d.valueInside (d.nodes.size + 1) [] number).1

/-- The value of a node; in the given number of levels of mappings, each value is one by itself. -/
def valueOpened (d : Document) : Nat → Nat → Making Value
  | 0, number => d.valueAlone number
  | levels + 1, number => match d.node number with
    | .mapping _ entries => do
      return Value.tableOf (← entries.mapM fun (key, value) => do
        return (d.scalarAt key, ← valueOpened d levels value))
    | _ => d.valueAlone number

/-- The value of a document in which all entries have been taken over. -/
def value (d : Document) (levels : Nat) : Value :=
  ((d.valueOpened levels d.root).run (Array.replicate d.nodes.size none)).1

end Document

/-! ## Sources -/

/-- The value of a source; one without a document is null.  A list or a mapping may be a part of itself;
in the given number of levels of mappings this makes no difference. -/
def read (levels : Nat) (s : Source) : Except Fault Value := do
  match ← Document.ofTokens? (tokens s) with
  | none => return .null
  | some document => return (← document.survey).value levels

end CommandPalette.Yaml
