import CommandPalette.Proofs.Command.Acceptance
import CommandPalette.Proofs.Command.Descent
import CommandPalette.Proofs.Command.Refusal
import Mathlib.Logic.Relation
import Mathlib.Algebra.BigOperators.Group.List.Basic
import Mathlib.Algebra.GroupWithZero.Nat

/-!
# What the depth of a tree tells

The depth of a command is counted by a loop over a stack of nodes that are still to be visited.  Every turn
takes one node off the stack and counts it, and puts its children there, so what has been counted and what is
still on the stack make up the tree at any time (`iterate_depthTurn`).  The depth is thus the number of nodes,
which is no height, but a bound on all heights: this is what the search below a root relies on.

* `Declaration.nodes`: the nodes of a tree.
* `depthTurn`: one turn of the loop.
* `Reordered`: trees that differ in the order of children.
* `Declaration.Measures`: what the depth of a tree tells about it.
* **`depth_measures`**: the loop ends and comes to the number of nodes, and a search that goes no further than
  this number finds every node of a tree that was registered.
-/

namespace CommandPalette.Command

open CommandPalette.Text

variable {α β : Type}

namespace Declaration

/-! ## Nodes -/

mutual

/-- The nodes of a tree, each in front of those below it. -/
def nodes : Declaration α β → List (Declaration α β)
  | command name aliases description action subcommands provider =>
    command name aliases description action subcommands provider :: nodesIn subcommands
  | other v => [other v]

/-- The nodes of a forest. -/
def nodesIn : List (Declaration α β) → List (Declaration α β)
  | [] => []
  | d :: rest => nodes d ++ nodesIn rest

end

lemma length_nodesIn_of_forall {forest : List (Declaration α β)}
    (h : ∀ d ∈ forest, (nodes d).length = d.nodeCount) : (nodesIn forest).length = nodeCounts forest := by
  induction forest with
  | nil => rfl
  | cons d rest ih =>
      obtain ⟨hd, hrest⟩ := List.forall_mem_cons.mp h
      rw [nodesIn, List.length_append, hd, ih hrest, nodeCounts]

lemma length_nodes (d : Declaration α β) : (nodes d).length = d.nodeCount := by
  induction d using inductionOn with
  | other v => rfl
  | command name aliases description action subcommands provider ih =>
      rw [nodes, List.length_cons, length_nodesIn_of_forall ih, nodeCount, Nat.add_comm]

lemma nodeCounts_eq_sum (forest : List (Declaration α β)) :
    nodeCounts forest = (forest.map nodeCount).sum := by
  induction forest with
  | nil => rfl
  | cons d rest ih => rw [nodeCounts, List.map_cons, List.sum_cons, ih]

lemma nodeCount_pos (d : Declaration α β) : 0 < d.nodeCount := by
  cases d with
  | command => rw [nodeCount]; omega
  | other v => rw [nodeCount]; omega

lemma nodeCounts_eq_zero_iff {forest : List (Declaration α β)} : nodeCounts forest = 0 ↔ forest = [] := by
  cases forest with
  | nil => simp [nodeCounts]
  | cons d rest =>
      have hd := d.nodeCount_pos
      rw [nodeCounts]
      exact iff_of_false (by omega) (List.cons_ne_nil _ _)

/-! ## The loop -/

/-- One turn of the loop over a stack of commands. -/
def depthTurn : ℕ × List (Declaration α β) → ℕ × List (Declaration α β)
  | (depth, []) => (depth, [])
  | (depth, d :: rest) => (depth + 1, push d.children rest)

/-- **After some turns as many nodes have been counted, and the others are still below the stack.** -/
lemma iterate_depthTurn (depth : ℕ) {stack : List (Declaration α β)} (h : ∀ d ∈ stack, d.OfCommands)
    {turns : ℕ} (hturns : turns ≤ nodeCounts stack) :
    ∃ left, depthTurn^[turns] (depth, stack) = (depth + turns, left) ∧ (∀ d ∈ left, d.OfCommands) ∧
      turns + nodeCounts left = nodeCounts stack := by
  induction turns generalizing depth stack with
  | zero => exact ⟨stack, rfl, h, Nat.zero_add _⟩
  | succ turns ih =>
      cases stack with
      | nil => simp [nodeCounts] at hturns
      | cons d rest =>
          obtain ⟨hd, hrest⟩ := List.forall_mem_cons.mp h
          have hpush : ∀ e ∈ push d.children rest, e.OfCommands := by
            intro e he
            rcases List.mem_append.mp he with he | he
            · exact hd.child (List.mem_reverse.mp he)
            · exact hrest e he
          have hcount : nodeCounts (d :: rest) = nodeCounts (push d.children rest) + 1 := by
            rw [nodeCounts_push, nodeCounts, nodeCount_eq hd]
            omega
          obtain ⟨left, hleft, hcommands, hsum⟩ := ih (depth + 1) hpush (by omega)
          refine ⟨left, ?_, hcommands, by omega⟩
          rw [Function.iterate_succ_apply, depthTurn, hleft]
          congr 1
          omega

/-! ## The order of children -/

/-- Two trees differ at most in the order in which children stand, at any node. -/
inductive Reordered : Declaration α β → Declaration α β → Prop
  | refl (d : Declaration α β) : Reordered d d
  | trans {d e f : Declaration α β} (first : Reordered d e) (second : Reordered e f) : Reordered d f
  /-- The children of the root stand in another order. -/
  | root {name : Value} {aliases : List Value} {description : Value} {action : Callback α}
      {subcommands others : List (Declaration α β)} {provider : Callback β} (h : subcommands.Perm others) :
      Reordered (command name aliases description action subcommands provider)
        (command name aliases description action others provider)
  /-- One of the children differs. -/
  | child {name : Value} {aliases : List Value} {description : Value} {action : Callback α}
      {before after : List (Declaration α β)} {child other : Declaration α β} {provider : Callback β}
      (h : Reordered child other) :
      Reordered (command name aliases description action (before ++ child :: after) provider)
        (command name aliases description action (before ++ other :: after) provider)

lemma Reordered.nodeCount_eq {d e : Declaration α β} (h : Reordered d e) : d.nodeCount = e.nodeCount := by
  induction h with
  | refl d => rfl
  | trans _ _ ihfirst ihsecond => exact ihfirst.trans ihsecond
  | root h => rw [nodeCount, nodeCount, nodeCounts_eq_sum, nodeCounts_eq_sum, (h.map nodeCount).sum_eq]
  | child _ ih => rw [nodeCount, nodeCount, nodeCounts_append, nodeCounts_append, nodeCounts, nodeCounts, ih]

lemma Reordered.ofCommands {d e : Declaration α β} (h : Reordered d e) (hd : d.OfCommands) :
    e.OfCommands := by
  induction h with
  | refl d => exact hd
  | trans _ _ ihfirst ihsecond => exact ihsecond (ihfirst hd)
  | root h => exact .command trivial fun child hchild => hd.child (h.mem_iff.mpr hchild)
  | @child _ _ _ _ before after child other _ _ ih =>
      refine .command trivial fun e he => ?_
      rcases List.mem_append.mp he with he | he
      · exact hd.child (List.mem_append_left _ he)
      · rcases List.mem_cons.mp he with rfl | he
        · exact ih (hd.child (List.mem_append_right _ List.mem_cons_self))
        · exact hd.child (List.mem_append_right _ (List.mem_cons_of_mem _ he))

/-! ## Downwards -/

/-- A node stands right above another one. -/
def IsParent (d e : Declaration α β) : Prop := e ∈ d.children

lemma nodeCount_lt_of_isParent {d e : Declaration α β} (h : d.OfCommands) (he : d.IsParent e) :
    e.nodeCount < d.nodeCount := by
  have hle := nodeCount_le_nodeCounts he
  rw [nodeCount_eq h]
  omega

/-- A node has fewer nodes below it than one above it. -/
lemma nodeCount_lt_of_descends {d e : Declaration α β} (h : d.OfCommands)
    (he : Relation.TransGen IsParent d e) : e.OfCommands ∧ e.nodeCount < d.nodeCount := by
  induction he with
  | single hchild => exact ⟨h.child hchild, nodeCount_lt_of_isParent h hchild⟩
  | tail _ hchild ih =>
      have hlt := nodeCount_lt_of_isParent ih.1 hchild
      exact ⟨ih.1.child hchild, by omega⟩

/-- A way down meets every node at most once. -/
lemma length_le_nodeCount {d : Declaration α β} (h : d.OfCommands) {way : List (Declaration α β)}
    (hway : List.IsChain IsParent (d :: way)) : (d :: way).length ≤ d.nodeCount := by
  induction way generalizing d with
  | nil => exact d.nodeCount_pos
  | cons e rest ih =>
      obtain ⟨hchild, hrest⟩ := List.isChain_cons_cons.mp hway
      have hlt := nodeCount_lt_of_isParent h hchild
      have hle := ih (h.child hchild) hrest
      rw [List.length_cons]
      omega

/-! ## The depth -/

/-- What a number tells about a tree of commands, if it is its depth. -/
structure Measures (d : Declaration α β) (n : ℕ) : Prop where
  /-- The loop ends with this count, and not before the stack is empty; and at any time before the nodes that
  are left make up the rest of the count. -/
  ends : ∃ turns, depthTurn^[turns] (1, push d.children []) = (n, []) ∧ ∀ earlier < turns,
    (depthTurn^[earlier] (1, push d.children [])).2 ≠ [] ∧
      depthFrom (depthTurn^[earlier] (1, push d.children [])).1
        (depthTurn^[earlier] (1, push d.children [])).2 = .ok n
  /-- It is the number of nodes. -/
  counts : n = d.nodes.length
  /-- It is one more than the depths of the children together. -/
  sums : ∃ depths, List.Forall₂ (fun child m => child.depth = .ok m) d.children depths ∧
    n = 1 + depths.sum
  /-- The order of the children does not matter. -/
  reordered : ∀ e, Reordered d e → e.depth = .ok n
  /-- Every node below has a smaller depth. -/
  below : ∀ e, Relation.TransGen IsParent d e → ∃ m, e.depth = .ok m ∧ m < n
  /-- No way down has more nodes. -/
  ways : ∀ way, List.IsChain IsParent (d :: way) → (d :: way).length ≤ n

lemma measures_nodeCount {d : Declaration α β} (h : d.OfCommands) : d.Measures d.nodeCount where
  ends := by
    have hpush : ∀ e ∈ push d.children [], e.OfCommands := by
      intro e he
      rw [push, List.append_nil, List.mem_reverse] at he
      exact h.child he
    have htotal : nodeCounts (push d.children []) = nodeCounts d.children := by
      rw [nodeCounts_push, nodeCounts, Nat.add_zero]
    have hcount := nodeCount_eq h
    refine ⟨nodeCounts d.children, ?_, fun earlier hearlier => ?_⟩
    · obtain ⟨left, hleft, -, hsum⟩ := iterate_depthTurn 1 hpush (le_of_eq htotal.symm)
      obtain rfl : left = [] := nodeCounts_eq_zero_iff.mp (by omega)
      rw [hleft, hcount]
    · have hbound : earlier ≤ nodeCounts (push d.children []) := by omega
      obtain ⟨left, hleft, hcommands, hsum⟩ := iterate_depthTurn 1 hpush hbound
      rw [hleft, hcount]
      dsimp only
      refine ⟨fun hnil => ?_, ?_⟩
      · have := nodeCounts_eq_zero_iff.mpr hnil
        omega
      · rw [depthFrom_eq _ left hcommands, ← htotal, ← hsum, Nat.add_assoc]
  counts := (length_nodes d).symm
  sums := by
    refine ⟨d.children.map nodeCount, ?_, by rw [nodeCount_eq h, nodeCounts_eq_sum]⟩
    rw [List.forall₂_map_right_iff, List.forall₂_same]
    exact fun child hchild => depth_eq (h.child hchild)
  reordered e he := by rw [depth_eq (he.ofCommands h), he.nodeCount_eq]
  below e he := by
    obtain ⟨hcommands, hlt⟩ := nodeCount_lt_of_descends h he
    exact ⟨e.nodeCount, depth_eq hcommands, hlt⟩
  ways way hway := length_le_nodeCount h hway

end Declaration

/-! ## The search below a root -/

/-- A node below the root of a valid tree can be spelled. -/
lemma exists_spells {d e : Declaration α β} (h : d.Valid)
    (he : Relation.ReflTransGen Declaration.IsParent d e) : ∃ path, Spells d path e := by
  induction he with
  | refl => exact ⟨_, .here (Declaration.headD_mem_names h)⟩
  | tail _ hchild ih =>
      obtain ⟨path, hpath⟩ := ih
      have hname := Declaration.headD_mem_names ((hpath.every h).child hchild)
      exact ⟨_, hpath.concat hchild hname⟩

/-- A way down a tree is as long as it is spelled. -/
lemma Spells.length_le {d node : Declaration α β} {path : List String} (h : Spells d path node)
    (hd : d.OfCommands) : path.length ≤ d.nodeCount := by
  induction h with
  | here => exact Declaration.nodeCount_pos _
  | child _ he _ ih =>
      have hle := ih (hd.child he)
      have hlt := Declaration.nodeCount_lt_of_isParent hd he
      rw [List.length_cons]
      omega

section Registered

variable {r : Registry α β} {forest : List (Declaration α β)} (hvalid : ∀ d ∈ forest, d.Valid)
include hvalid

/-- Whatever was there before, a path that is spelled leads to a node that it spells. -/
lemma get?_register_of_spellsIn {path : List String} {node : Declaration α β}
    (h : SpellsIn forest path node) : ∃ other, SpellsIn forest path other ∧
      (r.register forest).1.get? (joinPath path) = some (other.entryAt (joinPath path)) := by
  have hsome : (((spellings [] forest).map spellingWrite).reverse.lookup (joinPath path)).isSome := by
    rw [List.lookup_isSome_iff]
    refine ⟨spellingWrite (path, node), ?_, by simp [spellingWrite]⟩
    exact List.mem_reverse.mpr (List.mem_map_of_mem (mem_spellings_iff.mpr h))
  obtain ⟨entry, hentry⟩ := Option.isSome_iff_exists.mp hsome
  obtain ⟨⟨names, other⟩, hspelling, hwrite⟩ := List.mem_map.mp (mem_of_lookup_reverse hentry)
  obtain ⟨hpath, rfl⟩ := Prod.mk.inj hwrite
  obtain ⟨d, hd, hspells⟩ := h
  obtain ⟨e, he, hother⟩ := mem_spellings_iff.mp hspelling
  obtain rfl : names = path := joinPath_inj hother.ne_nil hspells.ne_nil
    (hother.isWord (hvalid e he)) (hspells.isWord (hvalid d hd)) hpath
  exact ⟨other, ⟨e, he, hother⟩, by rw [get?_register r hvalid, hentry]; rfl⟩

/-- Names of roots are apart, so a name of a root leads to its entry. -/
lemma get?_register_root (hapart : Apart forest) {d : Declaration α β} (hd : d ∈ forest) {s : String}
    (hs : s ∈ d.names) : (r.register forest).1.get? s = some (d.entryAt s) := by
  obtain ⟨other, ⟨e, he, hspells⟩, hget⟩ := get?_register_of_spellsIn (r := r) hvalid ⟨d, hd, .here hs⟩
  have hfind := (hapart.find?_eq he hspells.head_mem).symm.trans (hapart.find?_eq hd hs)
  obtain rfl : e = d := Option.some.inj hfind
  cases hspells with
  | here => rwa [joinPath_singleton] at hget
  | child _ _ hnil => exact absurd rfl hnil.ne_nil

/-- **The depth of a root lets the search go as far as any of its nodes is.** -/
lemma length_le_consumed (hr : r.Reached) (hapart : Apart forest) {d node : Declaration α β} (hd : d ∈ forest)
    {path : List String} (hpath : Spells d path node) {text : String} (htext : path <+: tokens text) :
    path.length ≤ ((r.register forest).1.resolve text).consumed := by
  have hle := hpath.length_le (hvalid d hd).ofCommands
  obtain ⟨_, -, hget⟩ := get?_register_of_spellsIn (r := r) hvalid ⟨d, hd, hpath⟩
  have htake : (tokens text).take path.length = path := List.prefix_iff_eq_take.mp htext |>.symm
  have hstarts : (r.register forest).1.Starts (tokens text) path.length :=
    ⟨List.length_pos_iff.mpr hpath.ne_nil, htext.length_le, by rw [htake, hget]; rfl⟩
  obtain ⟨s, rest, rfl⟩ := List.exists_cons_of_ne_nil hpath.ne_nil
  obtain ⟨later, htokens⟩ := htext
  obtain ⟨n, _, -, -, hlongest, -, hresolve⟩ := Registry.resolve_of_root (hr.sound.register forest)
    htokens.symm (get?_register_root hvalid hapart hd hpath.head_mem)
  rw [hresolve]
  exact hlongest _ hstarts (by rwa [Declaration.entryAt_depth])

/-- A path that is typed as a line leads to its node. -/
lemma resolve_joinPath (hr : r.Reached) (h : Unambiguous forest) {d node : Declaration α β} (hd : d ∈ forest)
    {path : List String} (hpath : Spells d path node) :
    (r.register forest).1.resolve (joinPath path) =
      { text := joinPath path
        command := some (node.entryAt (joinPath path))
        args := []
        consumed := path.length } := by
  have htokens : tokens (joinPath path) = path := tokens_joinPath (hpath.isWord (hvalid d hd))
  have hprefix : path <+: tokens (joinPath path) := ⟨[], by rw [htokens, List.append_nil]⟩
  have hfar := length_le_consumed hvalid hr h.1 hd hpath hprefix
  have hpos := List.length_pos_iff.mpr hpath.ne_nil
  obtain ⟨other, hother, hget⟩ := get?_register_of_spellsIn (r := r) hvalid ⟨d, hd, hpath⟩
  obtain rfl : node = other := SpellsIn.unique h ⟨d, hd, hpath⟩ hother
  rcases Registry.resolve_cases (hr.sound.register forest) (joinPath path) with
    ⟨hnone, -⟩ | ⟨n, entry, -, hn, hentry, hresolve⟩
  · rw [hnone] at hfar
    exact absurd hfar (Nat.not_le.mpr hpos)
  · rw [hresolve] at hfar ⊢
    rw [htokens] at hn hentry ⊢
    obtain rfl : n = path.length := le_antisymm hn hfar
    rw [List.take_length, hget] at hentry
    rw [← hentry, List.drop_length]

end Registered

/-- **What the depth of a tree tells.**  The loop over the stack ends for every tree of commands.  It comes to
the number of nodes, which is one more than the depths of the children together, whatever their order, and so
more than the depth of any node below and no less than the nodes on any way down.  When the tree is registered,
whatever was registered before, its root lets a search go on for as many tokens; so every node has a path, a
line that starts with a path is followed to its end, or further, and a path alone leads to its node if siblings
have different names. -/
theorem depth_measures {d : Declaration α β} (h : d.OfCommands) :
    ∃ n, d.depth = .ok n ∧ d.Measures n ∧
      ∀ (r : Registry α β) (forest : List (Declaration α β)), r.Reached → (r.register forest).2.1 = none →
        d ∈ forest → Apart forest →
        let after := (r.register forest).1
        (∀ s ∈ d.names, (after.get? s).map Entry.depth = some n) ∧
        (∀ node, Relation.ReflTransGen Declaration.IsParent d node → ∃ path, Spells d path node) ∧
        ∀ path node, Spells d path node →
          path.length ≤ n ∧
          (∀ text, path <+: tokens text → path.length ≤ (after.resolve text).consumed) ∧
          (Unambiguous forest → after.resolve (joinPath path) =
            { text := joinPath path
              command := some (node.entryAt (joinPath path))
              args := []
              consumed := path.length }) := by
  refine ⟨d.nodeCount, Declaration.depth_eq h, Declaration.measures_nodeCount h, ?_⟩
  intro r forest hr hregistered hd hapart
  have hvalid := valid_of_register hregistered
  refine ⟨fun s hs => ?_, fun node hnode => exists_spells (hvalid d hd) hnode, fun path node hpath => ?_⟩
  · rw [get?_register_root hvalid hapart hd hs, Option.map_some, Declaration.entryAt_depth]
  · exact ⟨hpath.length_le h, fun text => length_le_consumed hvalid hr hapart hd hpath,
      fun hunambiguous => resolve_joinPath hvalid hr hunambiguous hd hpath⟩

/-! ### A root that was a single command before -/

/-- A command with nothing below it. -/
def leaf (name : String) : Declaration Unit Unit := .command (.text name) [] .null .absent [] .absent

/-- A root with two commands below it, one of which has another one below it. -/
def file : Declaration Unit Unit :=
  .command (.text "file") [.text "f"] .null .absent
    [leaf "open", .command (.text "save") [] .null .absent [leaf "as"] .absent] .absent

/-- The search goes down to the lowest node of the tree that was registered last. -/
theorem file_measures :
    file.OfCommands ∧ file.depth = .ok 4 ∧
      let before := (({} : Registry Unit Unit).register [leaf "file"]).1
      (before.register [file]).2.1 = none ∧
        (before.register [file]).1.resolve "f save as" =
          { text := "f save as", command := some ((leaf "as").entryAt "f save as"), consumed := 3 } := by
  have hopen : (leaf "open").Valid := .command rfl (by simp)
  have has : (leaf "as").Valid := .command rfl (by simp)
  have hsave : (Declaration.command (α := Unit) (β := Unit) (.text "save") [] .null .absent [leaf "as"]
      .absent).Valid := .command rfl (List.forall_mem_singleton.mpr has)
  have hfile : file.Valid :=
    .command rfl (List.forall_mem_cons.mpr ⟨hopen, List.forall_mem_singleton.mpr hsave⟩)
  have hapart : file.Every fun node => Apart node.children := by
    refine .command (by simp [Apart, Declaration.children, Declaration.names, Declaration.texts, leaf]) ?_
    exact List.forall_mem_cons.mpr ⟨.command .nil (by simp), List.forall_mem_singleton.mpr <|
      .command (List.pairwise_singleton _ _) (List.forall_mem_singleton.mpr (.command .nil (by simp)))⟩
  have hunambiguous : Unambiguous [file] := ⟨List.pairwise_singleton _ _, List.forall_mem_singleton.mpr hapart⟩
  have hregistered (r : Registry Unit Unit) : (r.register [file]).2.1 = none :=
    (register_of_valid r (List.forall_mem_singleton.mpr hfile)).1
  have hpath : Spells file ["f", "save", "as"] (leaf "as") :=
    .child (by decide) (.tail _ (.head _)) (.child (by decide) (.head _) (.here (by decide)))
  obtain ⟨n, hdepth, hmeasures, hsearch⟩ := depth_measures hfile.ofCommands
  obtain rfl : n = 4 := hmeasures.counts
  obtain ⟨-, -, hfound⟩ := hsearch _ [file] (.register (.fresh "*") [leaf "file"]) (hregistered _)
    List.mem_cons_self hunambiguous.1
  exact ⟨hfile.ofCommands, hdepth, hregistered _, (hfound _ _ hpath).2.2 hunambiguous⟩

end CommandPalette.Command
