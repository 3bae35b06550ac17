import CommandPalette.Motion.Node
import CommandPalette.Value.Arithmetic

/-!
# Chains put together by hand

A host may hand in a chain that was read from no text, as the parts of its nodes.  Distances are then
values of any type, and adding them up may fail.

* `Part`: what counts of a node; `Node.part`: that of a node that was read.
* `Part.total`: what parts add up to.
* `total_part`: parts of nodes that were read add up to the offset of their chain.
-/

namespace CommandPalette.Motion

/-- What counts of a node. -/
structure Part where
  /-- The kind of the node. -/
  kind : NodeKind
  /-- Its distance, or the entry it jumps to; null if it has none. -/
  delta : Value := .null
  /-- The axis of a step. -/
  axis : Option Axis := none
  deriving Inhabited

/-- What counts of a node that was read. -/
def Node.part (node : Node) : Part where
  kind := node.kind
  delta := (node.delta?.map Value.int).getD .null
  axis := node.axis?

namespace Part

/-- The sum after a part.  A jump takes the place of what stands before it, unless it leads nowhere;
a horizontal step counts for nothing. -/
def apply (total : Value) (p : Part) : Except Fault Value :=
  match p.kind, p.delta, p.axis with
  | .keymap, .null, _ => .ok total
  | .keymap, target, _ => .ok target
  | .directional, _, some .horizontal => .ok total
  | _, distance, _ => total.add distance

/-- What parts add up to, from left to right. -/
def total (parts : List Part) : Except Fault Value := parts.foldlM apply (.int 0)

end Part

theorem apply_part (n : Int) (node : Node) :
    Part.apply (.int n) node.part = .ok (.int (node.move.apply n)) := by
  cases node with
  | step letter axis distance => cases axis <;> rfl
  | jump code target => cases target <;> rfl
  | count digits factor => rfl

theorem foldlM_part (n : Int) (chain : List Node) :
    (chain.map Node.part).foldlM Part.apply (.int n) =
      .ok (.int ((chain.map Node.move).foldl Move.apply n)) := by
  induction chain generalizing n with
  | nil => rfl
  | cons node rest ih =>
    simp only [List.map_cons, List.foldlM_cons, List.foldl_cons, apply_part]
    exact ih _

/-- The parts of nodes that were read add up to the offset of their chain. -/
theorem total_part (chain : List Node) :
    Part.total (chain.map Node.part) = .ok (.int (offset chain)) :=
  foldlM_part 0 chain

end CommandPalette.Motion
