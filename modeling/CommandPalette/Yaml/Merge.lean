import CommandPalette.Yaml.Node

/-!
# Entries that are taken over

A mapping takes over entries from the mappings under its merge keys.  They come before its own, so that
its own win, and of several mappings the first one counts most.  A mapping may take over from itself,
which changes nothing.

* `Document.sources`: the mappings from which entries are taken over.
* `Document.flatten`: a document with the entries of one of its mappings taken over.
-/

namespace CommandPalette.Yaml

/-- Entries up to a merge key, the node under it, and the entries after it. -/
def Document.splitMerge? (d : Document) :
    List (Nat × Nat) → Option (List (Nat × Nat) × Nat × List (Nat × Nat))
  | [] => none
  | (key, value) :: rest =>
    if (d.node key).tag = .merge then some ([], value, rest)
    else (d.splitMerge? rest).map fun (before, found) => ((key, value) :: before, found)

/-- The number of a mapping. -/
def Document.mapping (d : Document) (number : Nat) : Except Fault Nat :=
  match d.node number with
  | .mapping .. => .ok number
  | _ => .error (.structural "entries can be taken over from mappings only")

/-- The mappings from which entries are taken over: one, or those in a list. -/
def Document.sources (d : Document) (number : Nat) : Except Fault (List Nat) :=
  match d.node number with
  | .sequence _ items => items.mapM d.mapping
  | _ => return [← d.mapping number]

/-- A document in which the key of a default value is a text like any other. -/
def Document.plainKey (d : Document) (number : Nat) : Document :=
  match d.node number with
  | .scalar .standard text => d.set number (.scalar .text text)
  | _ => d

/-- A mapping with other entries. -/
def Node.withEntries (entries : List (Nat × Nat)) : Node → Node
  | mapping tag _ => mapping tag entries
  | node => node

/-- Replaces the entries of a mapping. -/
def Document.setEntries (d : Document) (number : Nat) (entries : List (Nat × Nat)) : Document :=
  d.set number ((d.node number).withEntries entries)

/-- How often entries are taken over in a document, at most. -/
def Document.mergeBound (d : Document) : Nat :=
  d.nodes.foldl (fun count node => count + node.entries.length) 1

/-- Takes over the entries of a mapping, of which some have been taken over already. -/
def Document.takeOver : Nat → Nat → List (Nat × Nat) → Document → Except Fault Document
  | 0, _, _, d => .ok d
  | fuel + 1, number, taken, d =>
    let entries := (d.node number).entries
    match d.splitMerge? entries with
    | none =>
      .ok ((entries.foldl (fun d (key, _) => d.plainKey key) d).setEntries number (taken ++ entries))
    | some (before, source, after) => do
      let d := d.setEntries number (before ++ after)
      let sources ← d.sources source
      let d ← sources.foldlM (fun d source => takeOver fuel source [] d) d
      let more := (sources.map fun source => (d.node source).entries).reverse.flatten
      takeOver fuel number (taken ++ more) d

/-- A document with the entries of one of its mappings taken over. -/
def Document.flatten (d : Document) (number : Nat) : Except Fault Document :=
  takeOver d.mergeBound number [] d

end CommandPalette.Yaml
