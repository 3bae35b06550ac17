import CommandPalette.Command.Registry
import CommandPalette.Proofs.Command.Path
import CommandPalette.Proofs.Command.Tree

/-!
# What a registration writes

Registration walks a forest and writes one entry for every way to spell the path of a node.  This
file says which ways these are without the walk.

* `Spells`: a list of words leads to a node, where at every level any name of the node will do.
* `spellings`: all ways to spell a path, in the order of the walk.  `mem_spellings_iff` ties the two
  together.
* **`writes_eq`**: on a valid forest the walk meets no fault and writes exactly the spellings.
-/

namespace CommandPalette.Command

variable {α β : Type}

/-! ## Spelling a path -/

/-- The words of a path lead from a node, which the first of them calls, down to another one. -/
inductive Spells : Declaration α β → List String → Declaration α β → Prop
  | here {d : Declaration α β} {s : String} (hs : s ∈ d.names) : Spells d [s] d
  | child {d e node : Declaration α β} {s : String} {path : List String} (hs : s ∈ d.names)
      (he : e ∈ d.children) (h : Spells e path node) : Spells d (s :: path) node

/-- The words of a path lead from a root of a forest down to a node. -/
def SpellsIn (forest : List (Declaration α β)) (path : List String) (node : Declaration α β) : Prop :=
  ∃ d ∈ forest, Spells d path node

mutual

/-- The spellings of the nodes of a tree below the words `lead`. -/
def spellingsOf (lead : List String) :
    Declaration α β → List (List String × Declaration α β)
  | .command name aliases description action subcommands provider =>
    (Declaration.texts (name :: aliases)).flatMap fun s =>
      (lead ++ [s], .command name aliases description action subcommands provider) ::
        spellings (lead ++ [s]) subcommands
  | .other _ => []

/-- The spellings of the nodes of a forest below the words `lead`, in the order of the walk. -/
def spellings (lead : List String) :
    List (Declaration α β) → List (List String × Declaration α β)
  | [] => []
  | d :: rest => spellingsOf lead d ++ spellings lead rest

end

lemma spellings_eq_flatMap (lead : List String) (forest : List (Declaration α β)) :
    spellings lead forest = forest.flatMap (spellingsOf lead) := by
  induction forest with
  | nil => rfl
  | cons d rest ih => rw [spellings, List.flatMap_cons, ih]

/-- The walk through a tree spells exactly the paths that start at its root. -/
lemma mem_spellingsOf_iff {lead path : List String} {d node : Declaration α β} :
    (path, node) ∈ spellingsOf lead d ↔ ∃ words, path = lead ++ words ∧ Spells d words node := by
  induction d using Declaration.inductionOn generalizing lead with
  | other v =>
      constructor
      · intro h
        simp [spellingsOf] at h
      · rintro ⟨words, -, h⟩
        cases h with
        | here hs => simp [Declaration.names] at hs
        | child hs _ _ => simp [Declaration.names] at hs
  | command name aliases description action subcommands provider ih =>
      rw [spellingsOf, List.mem_flatMap]
      constructor
      · rintro ⟨s, hs, h⟩
        rcases List.mem_cons.mp h with h | h
        · obtain ⟨rfl, rfl⟩ := Prod.mk.inj h
          exact ⟨[s], rfl, .here hs⟩
        · rw [spellings_eq_flatMap] at h
          obtain ⟨child, hchild, h⟩ := List.mem_flatMap.mp h
          obtain ⟨words, rfl, hwords⟩ := (ih child hchild).mp h
          exact ⟨s :: words, by simp, .child hs hchild hwords⟩
      · rintro ⟨words, rfl, h⟩
        cases h with
        | @here _ s hs => exact ⟨s, hs, List.mem_cons_self⟩
        | @child _ e _ s words hs he h =>
            refine ⟨s, hs, List.mem_cons_of_mem _ ?_⟩
            rw [spellings_eq_flatMap, List.mem_flatMap]
            exact ⟨e, he, (ih e he).mpr ⟨words, by simp, h⟩⟩

/-- The walk through a forest spells exactly its paths. -/
lemma mem_spellings_iff {path : List String} {forest : List (Declaration α β)}
    {node : Declaration α β} : (path, node) ∈ spellings [] forest ↔ SpellsIn forest path node := by
  rw [spellings_eq_flatMap, List.mem_flatMap]
  refine exists_congr fun d => and_congr_right fun _ => ?_
  rw [mem_spellingsOf_iff]
  simp

/-- In a valid tree all words of a path are names. -/
lemma Spells.isWord {d node : Declaration α β} {path : List String} (h : Spells d path node)
    (hd : d.Valid) : ∀ s ∈ path, IsWord s := by
  induction h with
  | here hs =>
      intro t ht
      obtain rfl := List.mem_singleton.mp ht
      exact isWord_of_isName (Declaration.isName_of_mem_names hd.root hs)
  | child hs he _ ih =>
      intro t ht
      rcases List.mem_cons.mp ht with rfl | ht
      · exact isWord_of_isName (Declaration.isName_of_mem_names hd.root hs)
      · exact ih (hd.child he) t ht

/-- What holds of every node of a tree holds where a path leads. -/
lemma Spells.every {P : Declaration α β → Prop} {d node : Declaration α β} {path : List String}
    (h : Spells d path node) (hd : d.Every P) : node.Every P := by
  induction h with
  | here _ => exact hd
  | child _ he _ ih => exact ih (hd.child he)

lemma Spells.concat {d node child : Declaration α β} {path : List String} (h : Spells d path node)
    (hchild : child ∈ node.children) {s : String} (hs : s ∈ child.names) :
    Spells d (path ++ [s]) child := by
  induction h with
  | here ht => exact .child ht hchild (.here hs)
  | child ht he _ ih => exact .child ht he (ih hchild)

lemma Spells.ne_nil {d node : Declaration α β} {path : List String} (h : Spells d path node) :
    path ≠ [] := by
  cases h <;> simp

lemma Spells.head_mem {d node : Declaration α β} {s : String} {path : List String}
    (h : Spells d (s :: path) node) : s ∈ d.names := by
  generalize hwords : s :: path = words at h
  cases h with
  | here hs =>
      obtain ⟨rfl, -⟩ := List.cons.inj hwords
      exact hs
  | child hs _ _ =>
      obtain ⟨rfl, -⟩ := List.cons.inj hwords
      exact hs

/-! ## The walk is the spellings -/

namespace Writes

/-- Walks that meet no fault write one after the other. -/
lemma sequence_map {ι : Type} (walk : ι → List (String × Entry α β)) (items : List ι) :
    sequence (items.map fun i => ⟨walk i, none⟩) = ⟨items.flatMap walk, none⟩ := by
  induction items with
  | nil => rfl
  | cons i rest ih => rw [List.map_cons, sequence, ih, List.flatMap_cons]; rfl

end Writes

/-- The write of a spelling: the entry of the node under the path. -/
def spellingWrite (spelling : List String × Declaration α β) : String × Entry α β :=
  (joinPath spelling.1, spelling.2.entryAt (joinPath spelling.1))

lemma writes_eq_of_forall {lead : List String} {forest : List (Declaration α β)}
    (h : ∀ d ∈ forest, writesOf (joinPath lead) d = ⟨(spellingsOf lead d).map spellingWrite, none⟩) :
    writes (joinPath lead) forest = ⟨(spellings lead forest).map spellingWrite, none⟩ := by
  induction forest with
  | nil => rfl
  | cons d rest ih =>
      rw [writes, h d List.mem_cons_self, ih fun e he => h e (List.mem_cons_of_mem _ he), spellings,
        List.map_append]
      rfl

lemma writesOf_eq {lead : List String} {d : Declaration α β} (h : d.Valid)
    (hlead : ∀ s ∈ lead, IsWord s) :
    writesOf (joinPath lead) d = ⟨(spellingsOf lead d).map spellingWrite, none⟩ := by
  induction d using Declaration.inductionOn generalizing lead with
  | other v => cases h
  | command name aliases description action subcommands provider ih =>
      obtain ⟨path, hentry⟩ := Declaration.normalize_eq h
      rw [writesOf, hentry, spellingsOf, List.map_flatMap]
      have hstep : ∀ s ∈ Declaration.texts (name :: aliases),
          Writes.andThen
            ⟨[(extendPath (joinPath lead) s,
              ((Declaration.command name aliases description action subcommands
                provider).entryAt path).rename (extendPath (joinPath lead) s))], none⟩
            (writes (extendPath (joinPath lead) s) subcommands) =
          ⟨(((lead ++ [s], Declaration.command name aliases description action subcommands provider) ::
            spellings (lead ++ [s]) subcommands).map spellingWrite), none⟩ := by
        intro s hs
        have hword : IsWord s := isWord_of_isName (Declaration.isName_of_mem_names h.root hs)
        have hlead' : ∀ t ∈ lead ++ [s], IsWord t := by
          intro t ht
          rcases List.mem_append.mp ht with ht | ht
          · exact hlead t ht
          · exact List.mem_singleton.mp ht ▸ hword
        rw [extendPath_joinPath hlead, writes_eq_of_forall fun e he => ih e he (h.child he) hlead',
          Declaration.rename_entryAt]
        rfl
      rw [← Writes.sequence_map]
      exact congrArg Writes.sequence (List.map_congr_left hstep)

/-- **The walk through a valid forest meets no fault and writes the spellings in order.** -/
theorem writes_eq {forest : List (Declaration α β)} (h : ∀ d ∈ forest, d.Valid) :
    writes "" forest = ⟨(spellings [] forest).map spellingWrite, none⟩ := by
  have hnone : ∀ s ∈ ([] : List String), IsWord s := by simp
  exact writes_eq_of_forall fun d hd => writesOf_eq (h d hd) hnone

end CommandPalette.Command
