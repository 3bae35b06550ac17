import CommandPalette.Command.Entry
import Mathlib.Data.List.Basic
import Mathlib.Tactic.Lemma

/-!
# Declared trees as they were meant

A host may hand in anything where a declaration is expected.  The trees that registration accepts
are those in which every node passes the check of its own, and about these nothing can fail:
`Declaration.depth` is the number of nodes (`depth_eq`) and `Declaration.normalize` is a plain
record of what was declared (`normalize_eq`).

* `Declaration.names`, `Declaration.children`: what the tree says at a node.
* `Declaration.Every`: a property of every node.  Its induction principle is the one by which all
  statements about trees are proved here.
* `Declaration.Valid`: every node passes the check.
* `Declaration.entryAt`: the entry of a node under a path, said without anything that can fail.
-/

namespace CommandPalette.Command

variable {α β : Type}

namespace Declaration

/-! ## What a tree says -/

/-- The tokens by which a node is called: its canonical name and every alias. -/
def names : Declaration α β → List String
  | command name aliases .. => texts (name :: aliases)
  | other _ => []

/-- The nodes right below a node. -/
def children : Declaration α β → List (Declaration α β)
  | command _ _ _ _ subcommands _ => subcommands
  | other _ => []

/-- Induction over a tree, where a property of all children is at hand at their parent. -/
theorem inductionOn {motive : Declaration α β → Prop}
    (command : ∀ name aliases description action subcommands provider,
      (∀ d ∈ subcommands, motive d) →
      motive (.command name aliases description action subcommands provider))
    (other : ∀ v, motive (.other v)) : ∀ d, motive d
  | .command name aliases description action subcommands provider =>
      command name aliases description action subcommands provider fun d _ =>
        inductionOn command other d
  | .other v => other v

/-- A property of every node of a tree that consists of commands only. -/
inductive Every (P : Declaration α β → Prop) : Declaration α β → Prop
  | command {name : Value} {aliases : List Value} {description : Value} {action : Callback α}
      {subcommands : List (Declaration α β)} {provider : Callback β}
      (here : P (.command name aliases description action subcommands provider))
      (below : ∀ d ∈ subcommands, Every P d) :
      Every P (.command name aliases description action subcommands provider)

/-- Every node of a tree passes the check of declarations. -/
def Valid (d : Declaration α β) : Prop := d.Every fun node => node.validate = .ok ()

lemma Every.root {P : Declaration α β → Prop} {d : Declaration α β} (h : d.Every P) : P d := by
  cases h with
  | command here _ => exact here

lemma Every.child {P : Declaration α β → Prop} {d e : Declaration α β} (h : d.Every P)
    (he : e ∈ d.children) : e.Every P := by
  cases h with
  | command _ below => exact below e he

/-- The entry of a node under a path. -/
def entryAt (path : String) : Declaration α β → Entry α β
  | d@(command _ aliases description action subcommands provider) => {
      name := path
      description := if description.truthy then description else .text ""
      action := action.get?
      subcommands
      depth := d.nodeCount
      aliases := texts aliases
      provider := provider.get? }
  | other _ => {
      name := path
      description := .text ""
      action := none
      subcommands := []
      depth := 1
      aliases := []
      provider := none }

@[simp] lemma entryAt_name (path : String) (d : Declaration α β) : (d.entryAt path).name = path := by
  cases d <;> rfl

@[simp] lemma entryAt_depth (path : String) (d : Declaration α β) :
    (d.entryAt path).depth = d.nodeCount := by
  cases d <;> simp [entryAt, nodeCount]

@[simp] lemma entryAt_subcommands (path : String) (d : Declaration α β) :
    (d.entryAt path).subcommands = d.children := by
  cases d <;> rfl

@[simp] lemma rename_entryAt (path other : String) (d : Declaration α β) :
    (d.entryAt path).rename other = d.entryAt other := by
  cases d <;> rfl

/-! ## Counting nodes -/

lemma nodeCount_eq {P : Declaration α β → Prop} {d : Declaration α β} (h : d.Every P) :
    d.nodeCount = 1 + nodeCounts d.children := by
  cases h with
  | command => rw [nodeCount, children]

lemma nodeCount_le_nodeCounts {d : Declaration α β} {forest : List (Declaration α β)}
    (h : d ∈ forest) : d.nodeCount ≤ nodeCounts forest := by
  induction forest with
  | nil => simp at h
  | cons e rest ih =>
      rw [nodeCounts]
      rcases List.mem_cons.mp h with rfl | h
      · omega
      · have := ih h
        omega

/-- The loop over the stack visits every node once. -/
lemma depthFrom_eq {P : Declaration α β → Prop} (depth : ℕ) (stack : List (Declaration α β))
    (h : ∀ d ∈ stack, d.Every P) : depthFrom depth stack = .ok (depth + nodeCounts stack) := by
  induction depth, stack using depthFrom.induct with
  | case1 depth => rw [depthFrom, nodeCounts, Nat.add_zero]
  | case2 depth name aliases description action subcommands provider rest ih =>
      have hroot := h _ List.mem_cons_self
      have hpush : ∀ d ∈ push subcommands rest, d.Every P := by
        intro d hd
        rcases List.mem_append.mp hd with hd | hd
        · exact hroot.child (List.mem_reverse.mp hd)
        · exact h d (List.mem_cons_of_mem _ hd)
      rw [depthFrom, ih hpush, nodeCounts_push, nodeCounts, nodeCount]
      congr 1
      omega
  | case3 depth v rest =>
      cases h _ List.mem_cons_self

lemma depth_eq {P : Declaration α β → Prop} {d : Declaration α β} (h : d.Every P) :
    d.depth = .ok d.nodeCount := by
  have hbelow : ∀ e ∈ push d.children [], e.Every P := by
    intro e he
    rw [push, List.append_nil, List.mem_reverse] at he
    exact h.child he
  have hloop := depthFrom_eq 1 _ hbelow
  rw [nodeCounts_push, nodeCounts, Nat.add_zero, ← nodeCount_eq h] at hloop
  cases h with
  | command => exact hloop

/-! ## What validation lets through -/

/-- A check that lets a value through leaves a token. -/
lemma name_of_nameCheck {field : String} {v w : Value} (h : (nameCheck field).run v = .ok w) :
    ∃ s, v = .text s ∧ isName s = true := by
  cases v with
  | text s =>
      refine ⟨s, rfl, ?_⟩
      by_contra hs
      simp [nameCheck, Check.run, Check.isNull, Check.isOfType, Value.typeName, checkName, hs,
        Except.mapError] at h
  | foreign type plain quoted =>
      -- a foreign value may bear any type name, but it has no text to check
      simp [nameCheck, Check.run, Check.isNull, Check.isOfType, Value.typeName, checkName,
        Value.truthy, Except.mapError] at h
      split at h <;> cases h
  | _ =>
      simp [nameCheck, Check.run, Check.isNull, Check.isOfType, Value.typeName, bind,
        Except.bind] at h

/-- A loop of checks that ends well has passed every one of them. -/
lemma ok_of_forIn_ok {f : Value → Except Fault Value} {words : List Value}
    (h : (forIn words PUnit.unit fun word _ =>
      f word >>= fun _ => pure (ForInStep.yield PUnit.unit)) = .ok PUnit.unit) :
    ∀ word ∈ words, ∃ v, f word = .ok v := by
  induction words with
  | nil => simp
  | cons first rest ih =>
      rw [List.forIn_cons] at h
      cases hf : f first with
      | error fault => simp [hf, bind, Except.bind] at h
      | ok v =>
          simp only [hf, bind, Except.bind, pure, Except.pure] at h
          intro word hword
          rcases List.mem_cons.mp hword with rfl | hword
          · exact ⟨v, hf⟩
          · exact ih h word hword

lemma texts_of_validate {name : Value} {aliases : List Value} {description : Value}
    {action : Callback α} {subcommands : List (Declaration α β)} {provider : Callback β}
    (h : (command name aliases description action subcommands provider).validate = .ok ()) :
    ∀ v ∈ name :: aliases, ∃ s, v = .text s ∧ isName s = true := by
  rw [validate] at h
  cases hname : (nameCheck "command.name").run name with
  | error fault => simp [hname, bind, Except.bind] at h
  | ok w =>
      rw [hname] at h
      change ((forIn aliases PUnit.unit _ : Except Fault PUnit) >>= _) = _ at h
      cases hloop : (forIn aliases PUnit.unit fun word (_ : PUnit) =>
          (nameCheck s!"alias of {name.quoted}").run word >>= fun _ =>
            (pure (ForInStep.yield PUnit.unit) : Except Fault _)) with
      | error fault =>
          rw [hloop] at h
          cases h
      | ok u =>
          intro v hv
          rcases List.mem_cons.mp hv with rfl | hv
          · exact name_of_nameCheck hname
          · obtain ⟨w, hw⟩ := ok_of_forIn_ok hloop v hv
            exact name_of_nameCheck hw

/-- Every token by which a checked node is called is a name. -/
lemma isName_of_mem_names {d : Declaration α β} {s : String} (h : d.validate = .ok ())
    (hs : s ∈ d.names) : isName s = true := by
  cases d with
  | other v => simp [names] at hs
  | command name aliases description action subcommands provider =>
      obtain ⟨v, hv, hvs⟩ := List.mem_filterMap.mp hs
      obtain ⟨t, rfl, ht⟩ := texts_of_validate h v hv
      simp only [Option.some.injEq] at hvs
      exact hvs ▸ ht

/-- A checked node has a canonical name. -/
lemma headD_mem_names {d : Declaration α β} (h : d.Valid) : d.names.headD "" ∈ d.names := by
  cases h with
  | command here _ =>
      obtain ⟨s, rfl, -⟩ := texts_of_validate here _ List.mem_cons_self
      exact List.mem_cons_self

/-- A checked node has an entry, and what is in it does not depend on the path it is put under. -/
lemma normalize_eq {d : Declaration α β} (h : d.Valid) :
    ∃ path, d.normalize = .ok (d.entryAt path) := by
  have hdepth := depth_eq h
  have hcheck := h.root
  cases h with
  | @command name aliases description action subcommands provider _ _ =>
      refine ⟨name.plain, ?_⟩
      rw [normalize, hcheck, hdepth]
      rfl

end Declaration

end CommandPalette.Command
