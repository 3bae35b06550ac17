import CommandPalette.Proofs.Command.Acceptance
import CommandPalette.Proofs.Table

/-!
# How a registry grows

A registration writes while it walks, and stops at the first node that is refused.  So a table may hold a
part of a forest only, cut off anywhere.  What is there hangs together all the same, since a node is
written before anything below it: with every path, the table has the shorter ones on the way to it.

* `Rooted`: some paths hang together below a path.  Whatever a walk has written when it stops is rooted
  (`rooted_writes`).
* `Registry.Tidy`: what holds of the table of every registry.
* **`Registry.tidy_registerAll`**: it holds after any registrations, and no path is lost by later ones.
-/

namespace CommandPalette.Command

variable {α β : Type}

/-! ## What a walk has written when it stops -/

/-- Some paths hang together below a path `lead`: each goes on from there by words, and the paths on the
way to it are there as well. -/
def Rooted (lead paths : List String) : Prop :=
  ∀ path ∈ paths, ∃ words, words ≠ [] ∧ (∀ s ∈ words, IsWord s) ∧ path = joinPath (lead ++ words) ∧
    ∀ n, 0 < n → n < words.length → joinPath (lead ++ words.take n) ∈ paths

lemma rooted_nil (lead : List String) : Rooted lead [] := by
  simp [Rooted]

lemma Rooted.append {lead first second : List String} (h : Rooted lead first) (h' : Rooted lead second) :
    Rooted lead (first ++ second) := by
  intro path hpath
  rcases List.mem_append.mp hpath with hfirst | hsecond
  · obtain ⟨words, hne, hwords, heq, hway⟩ := h path hfirst
    exact ⟨words, hne, hwords, heq, fun n hpos hlt => List.mem_append_left _ (hway n hpos hlt)⟩
  · obtain ⟨words, hne, hwords, heq, hway⟩ := h' path hsecond
    exact ⟨words, hne, hwords, heq, fun n hpos hlt => List.mem_append_right _ (hway n hpos hlt)⟩

/-- What hangs together below a node hangs together with the node. -/
lemma Rooted.below {lead paths : List String} {s : String} (hs : IsWord s)
    (h : Rooted (lead ++ [s]) paths) : Rooted lead (joinPath (lead ++ [s]) :: paths) := by
  intro path hpath
  rcases List.mem_cons.mp hpath with rfl | hbelow
  · refine ⟨[s], by simp, by simpa using hs, rfl, fun n hpos hlt => ?_⟩
    rw [List.length_singleton] at hlt
    omega
  · obtain ⟨words, -, hwords, rfl, hway⟩ := h path hbelow
    refine ⟨s :: words, by simp, List.forall_mem_cons.mpr ⟨hs, hwords⟩, by simp, fun n hpos hlt => ?_⟩
    obtain ⟨m, rfl⟩ : ∃ m, n = m + 1 := ⟨n - 1, by omega⟩
    cases m with
    | zero => simp
    | succ m =>
        have hlt' : m + 1 < words.length := by simpa using hlt
        have hmem := hway (m + 1) (Nat.succ_pos m) hlt'
        rw [List.append_assoc] at hmem
        exact List.mem_cons_of_mem _ hmem

namespace Writes

/-- The paths that a walk writes. -/
def paths (walk : Writes α β) : List String := walk.entries.map (·.1)

lemma rooted_andThen {lead : List String} {first second : Writes α β} (h : Rooted lead first.paths)
    (h' : Rooted lead second.paths) : Rooted lead (first.andThen second).paths := by
  rw [andThen]
  split
  · exact h
  · rw [paths, List.map_append]
    exact h.append h'

lemma rooted_sequence {lead : List String} {walks : List (Writes α β)}
    (h : ∀ walk ∈ walks, Rooted lead walk.paths) : Rooted lead (sequence walks).paths := by
  induction walks with
  | nil => exact rooted_nil lead
  | cons first rest ih =>
      obtain ⟨hfirst, hrest⟩ := List.forall_mem_cons.mp h
      exact rooted_andThen hfirst (ih hrest)

end Writes

lemma rooted_writes_of_forall {lead : List String} {forest : List (Declaration α β)}
    (h : ∀ d ∈ forest, Rooted lead (writesOf (joinPath lead) d).paths) :
    Rooted lead (writes (joinPath lead) forest).paths := by
  induction forest with
  | nil => exact rooted_nil lead
  | cons d rest ih =>
      obtain ⟨hd, hrest⟩ := List.forall_mem_cons.mp h
      exact Writes.rooted_andThen hd (ih hrest)

/-- A node is written before the nodes below it, and only after its names were checked. -/
lemma rooted_writesOf {lead : List String} (hlead : ∀ s ∈ lead, IsWord s) (d : Declaration α β) :
    Rooted lead (writesOf (joinPath lead) d).paths := by
  induction d using Declaration.inductionOn generalizing lead with
  | other v =>
      rw [writesOf]
      split <;> exact rooted_nil lead
  | command name aliases description action subcommands provider ih =>
      rw [writesOf]
      split
      · exact rooted_nil lead
      · rename_i entry hentry
        have hvalidate := Declaration.validate_of_normalize hentry
        refine Writes.rooted_sequence fun walk hwalk => ?_
        obtain ⟨s, hs, rfl⟩ := List.mem_map.mp hwalk
        have hword : IsWord s := isWord_of_isName (Declaration.isName_of_mem_names hvalidate hs)
        have hlead' : ∀ t ∈ lead ++ [s], IsWord t :=
          List.forall_mem_append.mpr ⟨hlead, by simpa using hword⟩
        rw [extendPath_joinPath hlead]
        exact Rooted.below hword (rooted_writes_of_forall fun child hchild => ih child hchild hlead')

/-- **Whatever a walk has written when it stops hangs together.** -/
lemma rooted_writes (forest : List (Declaration α β)) : Rooted [] (writes "" forest).paths :=
  rooted_writes_of_forall fun d _ => rooted_writesOf (by simp) d

/-! ## The tables of registries -/

namespace Registry

/-- What holds of the table of every registry. -/
structure Tidy (r : Registry α β) : Prop where
  /-- An entry bears the path it is stored under. -/
  name_eq : ∀ w ∈ r.table.entries, w.2.name = w.1
  /-- The depth of an entry counts at least itself. -/
  depth_pos : ∀ w ∈ r.table.entries, 1 ≤ w.2.depth
  /-- A path is words joined by spaces, and takes as many tokens as it has words. -/
  words : ∀ w ∈ r.table.entries, ∃ words, words ≠ [] ∧ (∀ s ∈ words, IsWord s) ∧ w.1 = joinPath words ∧
    w.2.tokenCount = words.length
  /-- With a path, the shorter ones on the way to it are there. -/
  closed : ∀ words, (∀ s ∈ words, IsWord s) → joinPath words ∈ r.table.keys →
    ∀ n, 0 < n → n < words.length → joinPath (words.take n) ∈ r.table.keys

/-- The registry after some registrations, where any of them may have ended in a fault. -/
def registerAll (r : Registry α β) : List (List (Declaration α β)) → Registry α β
  | [] => r
  | forest :: rest => (r.register forest).1.registerAll rest

/-- A registration adds to the table what its walk writes, if a walk takes place at all. -/
lemma table_register (r : Registry α β) (forest : List (Declaration α β)) :
    (r.register forest).1.table = r.table ∨
      (r.register forest).1.table = r.table.insertAll (writes "" forest).entries := by
  rw [register]
  cases hnote : noteRoots r.roots forest with
  | mk roots fault =>
      cases fault with
      | some fault => exact .inl rfl
      | none => exact .inr rfl

/-- With a path, a walk has written the shorter ones on the way to it. -/
lemma Rooted.way {paths words : List String} (h : Rooted [] paths) (hwords : ∀ s ∈ words, IsWord s)
    (hpath : joinPath words ∈ paths) {n : ℕ} (hpos : 0 < n) (hlt : n < words.length) :
    joinPath (words.take n) ∈ paths := by
  obtain ⟨other, hne, hother, heq, hway⟩ := h _ hpath
  have hne' : words ≠ [] := by
    rintro rfl
    exact absurd hlt (Nat.not_lt_zero n)
  obtain rfl : words = other := joinPath_inj hne' hne hwords hother heq
  exact hway n hpos hlt

/-- What holds of the entries that were there, and of those that a walk writes, holds of all. -/
lemma forall_entries_register {r : Registry α β} {forest : List (Declaration α β)}
    {P : String × Entry α β → Prop} (hold : ∀ w ∈ r.table.entries, P w)
    (hnew : ∀ w ∈ (writes "" forest).entries, P w) : ∀ w ∈ (r.register forest).1.table.entries, P w := by
  intro w hw
  rcases table_register r forest with htable | htable
  · exact hold w (htable ▸ hw)
  · exact (Table.mem_insertAll (htable ▸ hw)).elim (hnew w) (hold w)

lemma Tidy.register {r : Registry α β} (h : r.Tidy) (forest : List (Declaration α β)) :
    (r.register forest).1.Tidy := by
  have hsound : ∀ w ∈ (writes "" forest).entries, w.2.name = w.1 ∧ 1 ≤ w.2.depth := by
    intro w hw
    obtain ⟨d, -, hw⟩ := mem_writes hw
    exact sound_of_mem_writesOf hw
  constructor
  · exact forall_entries_register h.name_eq fun w hw => (hsound w hw).1
  · exact forall_entries_register h.depth_pos fun w hw => (hsound w hw).2
  · refine forall_entries_register h.words fun w hw => ?_
    obtain ⟨words, hne, hwords, heq, -⟩ := rooted_writes forest w.1 (List.mem_map_of_mem hw)
    refine ⟨words, hne, hwords, heq, ?_⟩
    rw [Entry.tokenCount, Entry.path, (hsound w hw).1, heq]
    exact congrArg List.length (splitPath_joinPath hne hwords)
  · intro words hwords hpath n hpos hlt
    rcases table_register r forest with htable | htable
    · rw [htable] at hpath ⊢
      exact h.closed words hwords hpath n hpos hlt
    · rw [htable, Table.mem_keys_insertAll] at hpath ⊢
      exact hpath.imp (fun hold => h.closed words hwords hold n hpos hlt)
        fun hnew => Rooted.way (rooted_writes forest) hwords hnew hpos hlt

lemma Tidy.registerAll {r : Registry α β} (h : r.Tidy) (forests : List (List (Declaration α β))) :
    (r.registerAll forests).Tidy := by
  induction forests generalizing r with
  | nil => exact h
  | cons forest rest ih => exact ih (h.register forest)

lemma Tidy.fresh (defaultName : String) : ({ defaultName } : Registry α β).Tidy where
  name_eq := by simp
  depth_pos := by simp
  words := by simp
  closed := by simp [Table.keys]

/-- No path is lost by later registrations, nor is its place. -/
lemma keys_prefix_registerAll (r : Registry α β) (forests : List (List (Declaration α β))) :
    r.table.keys <+: (r.registerAll forests).table.keys := by
  induction forests generalizing r with
  | nil => exact List.prefix_rfl
  | cons forest rest ih =>
      refine List.IsPrefix.trans ?_ (ih _)
      rcases table_register r forest with htable | htable
      · exact htable ▸ List.prefix_rfl
      · rw [htable, Table.keys_insertAll]
        exact List.prefix_append _ _

/-- **The table of every registry is tidy**, whatever was registered before and wherever that was cut off;
and what it holds is held for good. -/
theorem tidy_registerAll (defaultName : String) (forests later : List (List (Declaration α β))) :
    let r := ({ defaultName } : Registry α β).registerAll forests
    r.Tidy ∧ r.table.keys <+: (r.registerAll later).table.keys :=
  ⟨(Tidy.fresh defaultName).registerAll forests, keys_prefix_registerAll _ later⟩

/-- A command whose second child is called by two words. -/
def cutOff : List (Declaration Unit Unit) :=
  [.command (.text "git") [.text "g"] .null .absent
    [.command (.text "add") [] .null .absent [] .absent,
      .command (.text "re base") [] .null .absent [] .absent]
    .absent]

/-- The walk stops before the alias of the root. -/
example : (({} : Registry Unit Unit).register cutOff).1.table.keys = ["git", "git add"] := by
  decide +kernel

end Registry

end CommandPalette.Command
