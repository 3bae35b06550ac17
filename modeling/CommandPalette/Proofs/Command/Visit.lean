import CommandPalette.Proofs.Command.Registration
import CommandPalette.Proofs.Table
import Mathlib.Data.List.Sections

/-!
# Which node has a path

The walk of a registration meets a node once for each way to spell the path of its parent, and where
paths coincide the later write wins.  This file says what comes of it by the tree alone, in which every
node stands once.

* `visits`: the nodes of a forest in pre-order, each with the names at every level from its root down.
  `Visit.paths` are its paths, with one of the names at each level.
* `lookup_spellings`: the last way to spell a path leads to the last node that has it.
* `variantPaths`: all paths in the order in which they are spelled, each name of a node followed by what
  is below the node.
* **`register_table`**: the table that a registration leaves, in full.
-/

namespace CommandPalette.Command

variable {α β : Type}

/-! ## Nodes and their paths -/

/-- A node in a forest. -/
structure Visit (α β : Type) where
  /-- The names at each level, from the root down to the node. -/
  levels : List (List String)
  node : Declaration α β

namespace Visit

/-- A node in a tree that hangs below another node. -/
def below (names : List String) (v : Visit α β) : Visit α β := { v with levels := names :: v.levels }

/-- Some words lead to a node: each is one of the names at its level. -/
def Spelled (v : Visit α β) (words : List String) : Prop := words ∈ v.levels.sections

instance (v : Visit α β) (words : List String) : Decidable (v.Spelled words) :=
  inferInstanceAs (Decidable (_ ∈ _))

/-- The paths of a node. -/
def paths (v : Visit α β) : List String := v.levels.sections.map joinPath

lemma spelled_below {names : List String} {v : Visit α β} {s : String} {words : List String} :
    (v.below names).Spelled (s :: words) ↔ s ∈ names ∧ v.Spelled words := by
  rw [Spelled, Spelled, List.mem_sections, List.mem_sections]
  exact List.forall₂_cons

lemma not_spelled_below_nil {names : List String} {v : Visit α β} : ¬ (v.below names).Spelled [] := by
  rw [Spelled, List.mem_sections]
  exact nofun

end Visit

mutual

/-- The nodes of a tree in pre-order. -/
def visitsOf : Declaration α β → List (Visit α β)
  | .command name aliases description action subcommands provider =>
    ⟨[Declaration.texts (name :: aliases)],
      .command name aliases description action subcommands provider⟩ ::
      (visits subcommands).map (Visit.below (Declaration.texts (name :: aliases)))
  | .other _ => []

/-- The nodes of a forest in pre-order. -/
def visits : List (Declaration α β) → List (Visit α β)
  | [] => []
  | d :: rest => visitsOf d ++ visits rest

end

lemma visits_eq_flatMap (forest : List (Declaration α β)) : visits forest = forest.flatMap visitsOf := by
  induction forest with
  | nil => rfl
  | cons d rest ih => rw [visits, List.flatMap_cons, ih]

/-! ## The last node that has a path -/

/-- The words that lead to a node below others start with the words that lead there. -/
lemma spellingsOf_lead (lead : List String) (d : Declaration α β) :
    spellingsOf lead d = (spellingsOf [] d).map fun spelling => (lead ++ spelling.1, spelling.2) := by
  induction d using Declaration.inductionOn generalizing lead with
  | other v => rfl
  | command name aliases description action subcommands provider ih =>
      have hbelow : ∀ lead, spellings lead subcommands =
          (subcommands.flatMap (spellingsOf [])).map fun spelling => (lead ++ spelling.1, spelling.2) := by
        intro lead
        rw [spellings_eq_flatMap, List.map_flatMap]
        exact List.flatMap_congr fun child hchild => ih child hchild lead
      rw [spellingsOf, spellingsOf, List.map_flatMap]
      refine List.flatMap_congr fun s _ => ?_
      rw [hbelow (lead ++ [s]), hbelow ([] ++ [s]), List.map_cons, List.map_map]
      simp [Function.comp_def]

lemma spellings_lead (s : String) (forest : List (Declaration α β)) :
    spellings [s] forest = (spellings [] forest).map fun spelling => (s :: spelling.1, spelling.2) := by
  rw [spellings_eq_flatMap, spellings_eq_flatMap, List.map_flatMap]
  exact List.flatMap_congr fun d _ => spellingsOf_lead [s] d

/-- Looking up among keys that were mapped without confusing the one that is looked up with another. -/
lemma lookup_map {κ κ' γ δ : Type} [BEq κ] [LawfulBEq κ] [BEq κ'] [LawfulBEq κ'] {f : κ → κ'}
    {g : κ → γ → δ} {x : κ} {entries : List (κ × γ)}
    (h : ∀ entry ∈ entries, f entry.1 = f x → entry.1 = x) :
    (entries.map fun entry => (f entry.1, g entry.1 entry.2)).lookup (f x) =
      (entries.lookup x).map (g x) := by
  induction entries with
  | nil => rfl
  | cons entry rest ih =>
      obtain ⟨key, value⟩ := entry
      have hrest := ih fun other hother => h other (List.mem_cons_of_mem _ hother)
      by_cases hkey : x = key
      · simp [hkey]
      · have hfkey : f x ≠ f key := fun heq => hkey (h _ List.mem_cons_self heq.symm).symm
        rw [List.map_cons, List.lookup_cons, List.lookup_cons, beq_false_of_ne hfkey,
          beq_false_of_ne hkey]
        exact hrest

/-- Below a node that is spelled under each of its names, a path starts with one of these. -/
lemma lookup_spelled (names : List String) (node : Declaration α β)
    (spelled : List (List String × Declaration α β)) (w : String) (words : List String) :
    (names.flatMap fun s =>
        ([s], node) :: spelled.map fun spelling => (s :: spelling.1, spelling.2)).reverse.lookup
          (w :: words) =
      if w ∈ names then (spelled.reverse.lookup words).or (if words = [] then some node else none)
      else none := by
  induction names with
  | nil => rfl
  | cons s rest ih =>
      have hblock : (([s], node) :: spelled.map fun spelling => (s :: spelling.1, spelling.2)).reverse.lookup
            (w :: words) =
          if w = s then (spelled.reverse.lookup words).or (if words = [] then some node else none)
          else none := by
        by_cases hs : w = s
        · subst hs
          have hbelow := lookup_map (f := (w :: ·)) (g := fun _ node => node) (x := words)
            fun entry (_ : entry ∈ spelled.reverse) heq => (List.cons.inj heq).2
          rw [List.map_reverse] at hbelow
          rw [if_pos rfl, List.reverse_cons, List.lookup_append, hbelow, Option.map_id']
          cases words with
          | nil => simp
          | cons next others => simp [List.lookup_cons]
        · rw [if_neg hs, List.lookup_eq_none_iff]
          intro spelling hspelling
          rcases List.mem_cons.mp (List.mem_reverse.mp hspelling) with rfl | hbelow
          · simp [hs]
          · obtain ⟨below, -, rfl⟩ := List.mem_map.mp hbelow
            simp [hs]
      rw [List.flatMap_cons, List.reverse_append, List.lookup_append, ih, hblock]
      generalize (spelled.reverse.lookup words).or (if words = [] then some node else none) = found
      by_cases hrest : w ∈ rest
      · rw [if_pos hrest, if_pos (List.mem_cons_of_mem s hrest)]
        split <;> simp
      · simp [hrest]

/-- The last node of a tree that some words lead to is its root or is below it. -/
lemma find?_visited (names : List String) (node : Declaration α β) (below : List (Visit α β)) (w : String)
    (words : List String) :
    ((⟨[names], node⟩ :: below.map (Visit.below names)).reverse.find? (·.Spelled (w :: words))).map
        Visit.node =
      if w ∈ names then
        ((below.reverse.find? (·.Spelled words)).map Visit.node).or (if words = [] then some node else none)
      else none := by
  have hroot : decide ((⟨[names], node⟩ : Visit α β).Spelled (w :: words)) =
      (decide (w ∈ names) && decide (words = [])) := by
    rw [← Bool.decide_and, decide_eq_decide, Visit.Spelled, List.mem_sections, List.forall₂_cons,
      List.forall₂_nil_right_iff]
  have hbelow : (fun v => decide (v.Spelled (w :: words))) ∘ (Visit.below names : Visit α β → _) =
      fun v => decide (w ∈ names) && decide (v.Spelled words) := by
    funext v
    rw [← Bool.decide_and]
    exact decide_eq_decide.mpr Visit.spelled_below
  rw [List.reverse_cons, List.find?_append, ← List.map_reverse, List.find?_map, hbelow, Option.map_or,
    Option.map_map]
  by_cases hw : w ∈ names
  · have hself : ([⟨[names], node⟩].find? fun v : Visit α β => decide (v.Spelled (w :: words))).map
        Visit.node = if words = [] then some node else none := by
      rw [List.find?_singleton, hroot]
      by_cases hwords : words = [] <;> simp [hw, hwords]
    rw [if_pos hw, hself]
    simp only [hw, decide_true, Bool.true_and]
    rfl
  · simp [hw, hroot]

/-- What leads to a node in a tree spells a path from its root. -/
lemma Visit.spells {d : Declaration α β} {v : Visit α β} (hv : v ∈ visitsOf d) {words : List String}
    (h : v.Spelled words) : Spells d words v.node := by
  induction d using Declaration.inductionOn generalizing v words with
  | other value => simp [visitsOf] at hv
  | command name aliases description action subcommands provider ih =>
      rcases List.mem_cons.mp hv with rfl | hv
      · obtain ⟨s, hs, rfl⟩ : ∃ s ∈ Declaration.texts (name :: aliases), words = [s] := by
          simpa [Spelled, List.sections, eq_comm] using h
        exact .here hs
      · obtain ⟨below, hbelow, rfl⟩ := List.mem_map.mp hv
        rw [visits_eq_flatMap] at hbelow
        obtain ⟨child, hchild, hbelow⟩ := List.mem_flatMap.mp hbelow
        cases words with
        | nil => exact absurd h not_spelled_below_nil
        | cons s rest =>
            obtain ⟨hs, hrest⟩ := spelled_below.mp h
            exact .child hs hchild (ih child hchild hbelow hrest)

lemma lookup_spellings_of_forall {forest : List (Declaration α β)} {words : List String}
    (h : ∀ d ∈ forest, (spellingsOf [] d).reverse.lookup words =
      ((visitsOf d).reverse.find? (·.Spelled words)).map Visit.node) :
    (spellings [] forest).reverse.lookup words =
      ((visits forest).reverse.find? (·.Spelled words)).map Visit.node := by
  induction forest with
  | nil => rfl
  | cons d rest ih =>
      rw [spellings, visits, List.reverse_append, List.reverse_append, List.lookup_append,
        List.find?_append, Option.map_or, h d List.mem_cons_self,
        ih fun e he => h e (List.mem_cons_of_mem _ he)]

lemma lookup_spellingsOf (d : Declaration α β) (words : List String) :
    (spellingsOf [] d).reverse.lookup words =
      ((visitsOf d).reverse.find? (·.Spelled words)).map Visit.node := by
  induction d using Declaration.inductionOn generalizing words with
  | other v => rfl
  | command name aliases description action subcommands provider ih =>
      cases words with
      | nil =>
          -- Neither the walk nor the tree has a node without a name.
          rw [List.find?_eq_none.mpr, List.lookup_eq_none_iff.mpr]
          · rfl
          · rintro ⟨path, node⟩ hspelling
            obtain ⟨words, rfl, hwords⟩ := mem_spellingsOf_iff.mp (List.mem_reverse.mp hspelling)
            simpa using hwords.ne_nil
          · intro v hv hspelled
            exact (Visit.spells (List.mem_reverse.mp hv) (of_decide_eq_true hspelled)).ne_nil rfl
      | cons w rest =>
          rw [spellingsOf, visitsOf, find?_visited]
          simp only [List.nil_append, spellings_lead]
          rw [lookup_spelled, lookup_spellings_of_forall fun e he => ih e he rest]

/-- **The last way to spell a path leads to the last node that has it.** -/
lemma lookup_spellings (forest : List (Declaration α β)) (words : List String) :
    (spellings [] forest).reverse.lookup words =
      ((visits forest).reverse.find? (·.Spelled words)).map Visit.node :=
  lookup_spellings_of_forall fun d _ => lookup_spellingsOf d words

/-! ## The table after a registration -/

/-- What holds of every node of a tree holds of the nodes that stand in it. -/
lemma Visit.every {P : Declaration α β → Prop} {d : Declaration α β} (h : d.Every P) {v : Visit α β}
    (hv : v ∈ visitsOf d) : v.node.Every P := by
  induction h generalizing v with
  | command here below ih =>
      rcases List.mem_cons.mp hv with rfl | hv
      · exact .command here below
      · obtain ⟨w, hw, rfl⟩ := List.mem_map.mp hv
        rw [visits_eq_flatMap] at hw
        obtain ⟨child, hchild, hw⟩ := List.mem_flatMap.mp hw
        exact @ih child hchild w hw

section Register

variable {forest : List (Declaration α β)} (h : ∀ d ∈ forest, d.Valid)

include h

lemma Visit.isWord {v : Visit α β} (hv : v ∈ visits forest) {words : List String} (hs : v.Spelled words) :
    words ≠ [] ∧ ∀ s ∈ words, IsWord s := by
  rw [visits_eq_flatMap] at hv
  obtain ⟨d, hd, hv⟩ := List.mem_flatMap.mp hv
  have hspells := spells hv hs
  exact ⟨hspells.ne_nil, hspells.isWord (h d hd)⟩

/-- The words of a path are the only ones that give it. -/
lemma Visit.mem_paths_iff {v : Visit α β} (hv : v ∈ visits forest) {words : List String} (hne : words ≠ [])
    (hwords : ∀ s ∈ words, IsWord s) : joinPath words ∈ v.paths ↔ v.Spelled words := by
  constructor
  · intro hpath
    obtain ⟨other, hother, heq⟩ := List.mem_map.mp hpath
    obtain ⟨hne', hwords'⟩ := isWord h hv hother
    rwa [joinPath_inj hne hne' hwords hwords' heq.symm]
  · exact fun hspelled => List.mem_map_of_mem hspelled

/-- **A registration leaves under a path the last node that has it.** -/
lemma get?_register_path (r : Registry α β) {words : List String} (hne : words ≠ [])
    (hwords : ∀ s ∈ words, IsWord s) :
    (r.register forest).1.get? (joinPath words) =
      (((visits forest).reverse.find? (·.Spelled words)).map fun v => v.node.entryAt (joinPath words)).or
        (r.get? (joinPath words)) := by
  have hlookup := lookup_map (f := joinPath)
    (g := fun words (node : Declaration α β) => node.entryAt (joinPath words)) (x := words)
    fun spelling (hspelling : spelling ∈ (spellings [] forest).reverse) heq => by
      obtain ⟨d, hd, hspells⟩ := mem_spellings_iff.mp (List.mem_reverse.mp hspelling)
      exact joinPath_inj hspells.ne_nil hne (hspells.isWord (h d hd)) hwords heq
  rw [lookup_spellings, Option.map_map] at hlookup
  rw [get?_register r h, ← List.map_reverse]
  exact congrArg (Option.or · _) hlookup

/-- A path that no node has is left as it was. -/
lemma get?_register_other (r : Registry α β) {path : String}
    (hpath : ∀ v ∈ visits forest, path ∉ v.paths) : (r.register forest).1.get? path = r.get? path := by
  rw [get?_register r h]
  cases hlookup : ((spellings [] forest).map spellingWrite).reverse.lookup path with
  | none => rfl
  | some entry =>
      obtain ⟨⟨words, node⟩, hspelling, hwrite⟩ := List.mem_map.mp (mem_of_lookup_reverse hlookup)
      obtain ⟨rfl, -⟩ := Prod.mk.inj hwrite
      have hsome : ((spellings [] forest).reverse.lookup words).isSome := by
        rw [List.lookup_isSome_iff]
        exact ⟨_, List.mem_reverse.mpr hspelling, by simp⟩
      rw [lookup_spellings, Option.isSome_map, List.find?_isSome] at hsome
      obtain ⟨v, hv, hspelled⟩ := hsome
      exact absurd (List.mem_map_of_mem (of_decide_eq_true hspelled)) (hpath v (List.mem_reverse.mp hv))

/-- A path that no later node has leads to the node that has it. -/
lemma get?_register_last (r : Registry α β) {before later : List (Visit α β)} {v : Visit α β}
    (hvisits : visits forest = before ++ v :: later) {path : String} (hpath : path ∈ v.paths)
    (hlater : ∀ other ∈ later, path ∉ other.paths) :
    (r.register forest).1.get? path = some (v.node.entryAt path) := by
  have hv : v ∈ visits forest := by simp [hvisits]
  obtain ⟨words, hwords, rfl⟩ := List.mem_map.mp hpath
  obtain ⟨hne, hword⟩ := Visit.isWord h hv hwords
  have hfind : (visits forest).reverse.find? (·.Spelled words) = some v := by
    rw [List.find?_eq_some_iff_append]
    refine ⟨decide_eq_true hwords, later.reverse, before.reverse, by simp [hvisits], fun other hother => ?_⟩
    have hother := List.mem_reverse.mp hother
    have hmem : other ∈ visits forest := by simp [hvisits, hother]
    simpa [Visit.mem_paths_iff h hmem hne hword] using hlater other hother
  rw [get?_register_path h r hne hword, hfind]
  rfl

end Register

/-- The paths of a forest in the order in which they are spelled: each name of a node is followed by what
is below the node. -/
def variantPaths (forest : List (Declaration α β)) : List String :=
  (spellings [] forest).map fun spelling => joinPath spelling.1

/-- **The table that a registration leaves.**  Whatever the registry held before, registering a valid
forest succeeds.  The paths are those of before and those of the forest.  A path that no node has is left
as it was; any other leads to the last node in pre-order that has it, as the entry of that node under this
path, which counts the nodes of its tree.  The old paths keep their places, and the new ones come behind
them in the order in which they are spelled. -/
theorem register_table (r : Registry α β) {forest : List (Declaration α β)}
    (h : ∀ d ∈ forest, d.Valid) :
    let after := (r.register forest).1
    (r.register forest).2.1 = none ∧
      (∀ path, (after.get? path).isSome = true ↔
        (r.get? path).isSome = true ∨ ∃ v ∈ visits forest, path ∈ v.paths) ∧
      (∀ path, (∀ v ∈ visits forest, path ∉ v.paths) → after.get? path = r.get? path) ∧
      (∀ before v later, visits forest = before ++ v :: later →
        ∃ entry, v.node.normalize = .ok entry ∧ entry.depth = v.node.nodeCount ∧
          ∀ path ∈ v.paths, (∀ other ∈ later, path ∉ other.paths) →
            after.get? path = some (entry.rename path)) ∧
      after.table.keys =
        r.table.keys ++ ((variantPaths forest).filter (· ∉ r.table.keys)).eraseDups := by
  intro after
  refine ⟨(register_of_valid r h).1, fun path => ?_, fun path => get?_register_other h r,
    fun before v later hvisits => ?_, ?_⟩
  · by_cases hpath : ∃ v ∈ visits forest, path ∈ v.paths
    · -- There is a last one among the nodes that have the path.
      have hfind : ((visits forest).reverse.find? (path ∈ ·.paths)).isSome := by
        simpa [List.find?_isSome] using hpath
      obtain ⟨v, hv⟩ := Option.isSome_iff_exists.mp hfind
      obtain ⟨hmem, later, before, hsplit, hlater⟩ := List.find?_eq_some_iff_append.mp hv
      have hvisits : visits forest = before.reverse ++ v :: later.reverse := by
        simpa using congrArg List.reverse hsplit
      rw [get?_register_last h r hvisits (of_decide_eq_true hmem) (by simpa using hlater)]
      exact iff_of_true rfl (.inr hpath)
    · have hnone : ∀ v ∈ visits forest, path ∉ v.paths := fun v hv hmem => hpath ⟨v, hv, hmem⟩
      rw [get?_register_other h r hnone, or_iff_left hpath]
  · have hvalid : v.node.Valid := by
      have hv : v ∈ visits forest := by simp [hvisits]
      rw [visits_eq_flatMap] at hv
      obtain ⟨d, hd, hv⟩ := List.mem_flatMap.mp hv
      exact Visit.every (h d hd) hv
    obtain ⟨path, hnormalize⟩ := Declaration.normalize_eq hvalid
    refine ⟨_, hnormalize, v.node.entryAt_depth path, fun other hother hlater => ?_⟩
    rw [get?_register_last h r hvisits hother hlater, Declaration.rename_entryAt]
  · rw [(register_of_valid r h).2.2, Table.keys_insertAll, List.map_map]
    rfl

/-- A registry with a command and another one below it. -/
def stocked : Registry Unit Unit :=
  (({} : Registry Unit Unit).register
    [.command (.text "git") [] .null .absent [.command (.text "add") [] .null .absent [] .absent]
      .absent]).1

/-- A command that shows the state of things. -/
def status : Declaration Unit Unit := .command (.text "status") [.text "st"] .null .absent [] .absent

/-- The command again, under two names, and a third time without anything below it. -/
def remade : List (Declaration Unit Unit) :=
  [.command (.text "git") [.text "g"] .null .absent [status] .absent,
    .command (.text "git") [] (.text "version control") .absent [] .absent]

lemma remade_valid : ∀ d ∈ remade, d.Valid := by
  have hstatus : status.Valid := .command rfl (by simp)
  intro d hd
  simp only [remade, List.mem_cons, List.not_mem_nil, or_false] at hd
  rcases hd with rfl | rfl
  · exact .command rfl (List.forall_mem_singleton.mpr hstatus)
  · exact .command rfl (by simp)

/-- The last declaration has its path, the one before is found under its other name only, and what is below
that one is found under all its paths. -/
theorem remade_table :
    let after := (stocked.register remade).1
    (∀ d ∈ remade, d.Valid) ∧
      after.table.keys = ["git", "git add", "git status", "git st", "g", "g status", "g st"] ∧
      (after.get? "git").map Entry.depth = some 1 ∧ (after.get? "g").map Entry.depth = some 2 ∧
      ∃ entry : Entry Unit Unit, after.get? "git st" = some (entry.rename "git st") ∧
        after.get? "g status" = some (entry.rename "g status") := by
  intro after
  obtain ⟨-, -, -, hlast, hkeys⟩ := register_table stocked remade_valid
  refine ⟨remade_valid, hkeys.trans (by decide +kernel), ?_, ?_, ?_⟩
  · obtain ⟨entry, -, hdepth, hpaths⟩ := hlast ((visits remade).take 2) _ [] rfl
    rw [hpaths "git" (by decide +kernel) (by simp)]
    exact congrArg some hdepth
  · obtain ⟨entry, -, hdepth, hpaths⟩ := hlast [] _ ((visits remade).drop 1) rfl
    rw [hpaths "g" (by decide +kernel) (by decide +kernel)]
    exact congrArg some hdepth
  · obtain ⟨entry, -, -, hpaths⟩ := hlast ((visits remade).take 1) _ ((visits remade).drop 2) rfl
    exact ⟨entry, hpaths _ (by decide +kernel) (by decide +kernel),
      hpaths _ (by decide +kernel) (by decide +kernel)⟩

end CommandPalette.Command
