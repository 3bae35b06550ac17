import CommandPalette.Proofs.Command.Growth
import CommandPalette.Proofs.Command.Refusal
import CommandPalette.Proofs.Value

/-!
# The names of the roots

A registry has the names of its roots twice: as paths of its table, and in a list of their own.  The list
comes first.  A registration notes the names of all roots of its forest, and only then checks the forest and
writes it, tree by tree, up to the first refusal.

* `Notes`: the names that a registration notes.
* `Enters`: the names of the roots that it comes to write.
* **`Registry.topLevelNames_spec`**: the list has no name twice, and the names of the roots that were written
  are in it and lead to them.  But it may have others as well, those of roots that a refusal has kept out.
-/

namespace CommandPalette

namespace Command

variable {α β : Type} {forest : List (Declaration α β)} {name : Value}

/-- Registering a forest notes a name: a root is called so, and no root before it is a value that is no
command. -/
def Notes (forest : List (Declaration α β)) (name : Value) : Prop :=
  ∃ before d after, forest = before ++ d :: after ∧ (∀ v, .other v ∉ before) ∧ d.name? = .ok name

/-- Registering a forest writes a root of this name.  All roots are commands, the trees before it are in
order, and so is the root itself, whatever is refused below it. -/
def Enters (forest : List (Declaration α β)) (name : Value) : Prop :=
  (∀ v, .other v ∉ forest) ∧ ∃ before d after, forest = before ++ d :: after ∧
    (∀ e ∈ before, e.Every Declaration.Proper) ∧ d.Proper ∧ d.OfCommands ∧ d.name? = .ok name

lemma Notes.cons {d : Declaration α β} (hd : ∀ v, d ≠ .other v) (h : Notes forest name) :
    Notes (d :: forest) name := by
  obtain ⟨before, e, after, rfl, hbefore, he⟩ := h
  refine ⟨d :: before, e, after, rfl, fun v hv => ?_, he⟩
  rcases List.mem_cons.mp hv with rfl | hv
  · exact hd v rfl
  · exact hbefore v hv

lemma Enters.notes (h : Enters forest name) : Notes forest name := by
  obtain ⟨hforest, before, d, after, rfl, -, -, -, hname⟩ := h
  exact ⟨before, d, after, rfl, fun v hv => hforest v (List.mem_append_left _ hv), hname⟩

/-- Of a forest that is in order all roots are written. -/
lemma Notes.enters (h : Notes forest name) (hproper : ∀ d ∈ forest, d.Every Declaration.Proper) :
    Enters forest name := by
  obtain ⟨before, d, after, rfl, -, hname⟩ := h
  have hd := hproper d (by simp)
  exact ⟨fun v hv => (hproper _ hv).root, before, d, after, rfl,
    fun e he => hproper e (List.mem_append_left _ he), hd.root, hd.ofCommands, hname⟩

/-! ## One registration -/

lemma Writes.mem_paths_andThen {first : Writes α β} {path : String} (h : path ∈ first.paths)
    (second : Writes α β) : path ∈ (first.andThen second).paths := by
  rw [andThen]
  split
  · exact h
  · rw [paths, List.map_append]
    exact List.mem_append_left _ h

/-- A root that is in order is written under its name, whatever is refused below it. -/
lemma mem_paths_writesOf {d : Declaration α β} (hd : d.Proper) (hcommands : d.OfCommands)
    (hname : d.name? = .ok name) : ∃ s, name = .text s ∧ s ∈ (writesOf "" d).paths := by
  cases d with
  | other v => cases hd
  | command root aliases description action subcommands provider =>
      obtain rfl := Except.ok.inj hname
      obtain ⟨s, rfl, -⟩ := hd.1 _ List.mem_cons_self
      refine ⟨s, rfl, ?_⟩
      cases hnormalize : (Declaration.command (.text s) aliases description action subcommands
          provider).normalize with
      | error fault =>
          rw [Declaration.normalize, Declaration.validate_eq_ok_iff.mpr hd, Declaration.depth_eq hcommands]
            at hnormalize
          cases hnormalize
      | ok entry =>
          -- The canonical name is the first that the node is written under.
          have htexts : Declaration.texts (.text s :: aliases) = s :: Declaration.texts aliases := rfl
          simp only [writesOf, hnormalize, htexts, List.map_cons, Writes.sequence]
          exact Writes.mem_paths_andThen (Writes.mem_paths_andThen (List.mem_singleton.mpr rfl) _) _

/-- A walk comes past the trees that are in order. -/
lemma mem_paths_writes {before after : List (Declaration α β)} {d : Declaration α β}
    (hbefore : ∀ e ∈ before, e.Every Declaration.Proper) {path : String} (h : path ∈ (writesOf "" d).paths) :
    path ∈ (writes "" (before ++ d :: after)).paths := by
  induction before with
  | nil => exact Writes.mem_paths_andThen h _
  | cons e rest ih =>
      obtain ⟨he, hrest⟩ := List.forall_mem_cons.mp hbefore
      rw [List.cons_append, writes, Writes.andThen, fault_writesOf_eq_none_iff.mpr he, Writes.paths,
        List.map_append]
      exact List.mem_append_right _ (ih hrest)

lemma Enters.mem_paths (h : Enters forest name) : ∃ s, name = .text s ∧ s ∈ (writes "" forest).paths := by
  obtain ⟨-, before, d, after, rfl, hbefore, hd, hcommands, hname⟩ := h
  obtain ⟨s, rfl, hs⟩ := mem_paths_writesOf hd hcommands hname
  exact ⟨s, rfl, mem_paths_writes hbefore hs⟩

namespace Registry

/-! ## Noting names -/

lemma mem_noteRoots {roots : List Value} (h : name ∈ (noteRoots roots forest).1) :
    name ∈ roots ∨ Notes forest name := by
  induction forest generalizing roots with
  | nil => exact .inl h
  | cons d rest ih =>
      cases d with
      | other v => exact .inl h
      | command root aliases description action subcommands provider =>
          rcases ih h with hroots | hrest
          · split at hroots
            · exact .inl hroots
            · rcases List.mem_append.mp hroots with hold | hnew
              · exact .inl hold
              · rw [List.mem_singleton.mp hnew]
                exact .inr ⟨[], _, rest, rfl, by simp, rfl⟩
          · exact .inr (hrest.cons nofun)

lemma subset_noteRoots (roots : List Value) (forest : List (Declaration α β)) :
    roots ⊆ (noteRoots roots forest).1 := by
  induction forest generalizing roots with
  | nil => exact List.Subset.refl roots
  | cons d rest ih =>
      cases d with
      | other v => exact List.Subset.refl roots
      | command root aliases description action subcommands provider =>
          refine List.Subset.trans ?_ (ih _)
          split
          · exact List.Subset.refl roots
          · exact List.subset_append_left roots _

/-- A name that is noted is in the list afterwards, or one that counts as the same is. -/
lemma noted_noteRoots (roots : List Value) (h : Notes forest name) :
    ∃ listed ∈ (noteRoots roots forest).1, listed = name ∨ name.same listed = true := by
  obtain ⟨before, d, after, rfl, hbefore, hname⟩ := h
  induction before generalizing roots with
  | nil =>
      cases d with
      | other v => cases hname
      | command root aliases description action subcommands provider =>
          obtain rfl := Except.ok.inj hname
          rw [List.nil_append, noteRoots, Declaration.name?]
          dsimp only
          split
          · rename_i hroot
            obtain ⟨listed, hlisted, hsame⟩ := List.any_eq_true.mp hroot
            exact ⟨listed, subset_noteRoots _ _ hlisted, .inr hsame⟩
          · exact ⟨root, subset_noteRoots _ _ (by simp), .inl rfl⟩
  | cons e rest ih =>
      cases e with
      | other v => exact absurd List.mem_cons_self (hbefore v)
      | command root aliases description action subcommands provider =>
          exact ih _ fun v hv => hbefore v (List.mem_cons_of_mem _ hv)

/-- No name of a list counts as the same as one before it. -/
def Distinct (names : List Value) : Prop := names.Pairwise fun earlier later => later.same earlier = false

lemma Distinct.noteRoots {roots : List Value} (h : Distinct roots) (forest : List (Declaration α β)) :
    Distinct (noteRoots roots forest).1 := by
  induction forest generalizing roots with
  | nil => exact h
  | cons d rest ih =>
      cases d with
      | other v => exact h
      | command root aliases description action subcommands provider =>
          refine ih ?_
          split
          · exact h
          · rename_i hroot
            refine List.pairwise_append.mpr ⟨h, List.pairwise_singleton _ _, ?_⟩
            intro earlier hearlier later hlater
            rw [List.mem_singleton.mp hlater]
            simpa [hasRoot] using List.any_eq_false.mp (Bool.eq_false_iff.mpr hroot) earlier hearlier

/-! ## Histories of registrations -/

/-- Without a value among the roots that is no command, the walk takes place. -/
lemma mem_keys_register (r : Registry α β) (hforest : ∀ v, .other v ∉ forest) {path : String}
    (h : path ∈ (writes "" forest).paths) : path ∈ (r.register forest).1.table.keys := by
  have hnote : (noteRoots r.roots forest).2 = none := by
    rcases noteRoots_cases r.roots forest with ⟨hnote, -⟩ | ⟨v, hv, -⟩
    · exact hnote
    · exact absurd hv (hforest v)
  have htable : (r.register forest).1.table = r.table.insertAll (writes "" forest).entries := by
    rw [register]
    cases hroots : noteRoots r.roots forest with
    | mk roots fault =>
        obtain rfl : fault = none := by rw [hroots] at hnote; exact hnote
        rfl
  rw [htable]
  exact Table.mem_keys_insertAll.mpr (.inr h)

lemma defaultName_registerAll (r : Registry α β) (forests : List (List (Declaration α β))) :
    (r.registerAll forests).defaultName = r.defaultName := by
  induction forests generalizing r with
  | nil => rfl
  | cons forest rest ih => exact ih _

lemma Distinct.registerAll {r : Registry α β} (h : Distinct r.roots)
    (forests : List (List (Declaration α β))) : Distinct (r.registerAll forests).roots := by
  induction forests generalizing r with
  | nil => exact h
  | cons forest rest ih => exact ih (h.noteRoots forest)

lemma mem_roots_registerAll {r : Registry α β} {forests : List (List (Declaration α β))}
    (h : name ∈ (r.registerAll forests).roots) : name ∈ r.roots ∨ ∃ forest ∈ forests, Notes forest name := by
  induction forests generalizing r with
  | nil => exact .inl h
  | cons forest rest ih =>
      rcases ih h with hroots | ⟨later, hlater, hnotes⟩
      · exact (mem_noteRoots hroots).imp_right fun hnotes => ⟨forest, List.mem_cons_self, hnotes⟩
      · exact .inr ⟨later, List.mem_cons_of_mem _ hlater, hnotes⟩

lemma subset_roots_registerAll (r : Registry α β) (forests : List (List (Declaration α β))) :
    r.roots ⊆ (r.registerAll forests).roots := by
  induction forests generalizing r with
  | nil => exact List.Subset.refl _
  | cons forest rest ih => exact List.Subset.trans (subset_noteRoots r.roots forest) (ih (r.register forest).1)

lemma registerAll_append (r : Registry α β) (first later : List (List (Declaration α β))) :
    r.registerAll (first ++ later) = (r.registerAll first).registerAll later := by
  induction first generalizing r with
  | nil => rfl
  | cons forest rest ih => exact ih _

section History

variable (r : Registry α β) {forests : List (List (Declaration α β))} (hforest : forest ∈ forests)

include hforest

lemma noted_registerAll (h : Notes forest name) :
    ∃ listed ∈ (r.registerAll forests).roots, listed = name ∨ name.same listed = true := by
  obtain ⟨before, after, rfl⟩ := List.append_of_mem hforest
  rw [registerAll_append]
  obtain ⟨listed, hlisted, heq⟩ := noted_noteRoots (r.registerAll before).roots h
  exact ⟨listed, subset_roots_registerAll _ after hlisted, heq⟩

lemma mem_keys_registerAll (h : Enters forest name) :
    ∃ s, name = .text s ∧ s ∈ (r.registerAll forests).table.keys := by
  obtain ⟨before, after, rfl⟩ := List.append_of_mem hforest
  rw [registerAll_append]
  obtain ⟨s, rfl, hs⟩ := h.mem_paths
  exact ⟨s, rfl, (keys_prefix_registerAll _ after).subset (mem_keys_register _ h.1 hs)⟩

end History

lemma mem_topLevelNames_iff {defaultName : String} {forests : List (List (Declaration α β))} :
    name ∈ (({ defaultName } : Registry α β).registerAll forests).topLevelNames ↔
      name ∈ (({ defaultName } : Registry α β).registerAll forests).roots ∧ name ≠ .text defaultName := by
  rw [topLevelNames, List.mem_filter, defaultName_registerAll, Bool.not_eq_true', Bool.eq_false_iff, ne_eq,
    Value.same_text_iff]

/-- **What the list of the roots holds.**  No name is in it twice, and every name in it was noted by some
registration and is not that of the catch-all.  A root that was written has its name in it, and the name is a
path of the table.  But the list holds names of such roots only exactly if each name that was noted for a
forest that is not in order is the name of the catch-all, or of a root that was written at some time. -/
theorem topLevelNames_spec (defaultName : String) (forests : List (List (Declaration α β))) :
    let r := ({ defaultName } : Registry α β).registerAll forests
    let Entered (name : Value) := ∃ forest ∈ forests, Enters forest name
    Distinct r.topLevelNames ∧
      (∀ name ∈ r.topLevelNames, name ≠ .text defaultName ∧ ∃ forest ∈ forests, Notes forest name) ∧
      (∀ name, Entered name → ∃ s, name = .text s ∧ s ∈ r.table.keys ∧
        (s ≠ defaultName → name ∈ r.topLevelNames)) ∧
      ((∀ name ∈ r.topLevelNames, Entered name) ↔
        ∀ forest ∈ forests, ¬ (∀ d ∈ forest, d.Every Declaration.Proper) →
          ∀ name, Notes forest name → name = .text defaultName ∨ Entered name) := by
  intro r Entered
  have hnotes : ∀ name ∈ r.topLevelNames,
      name ≠ .text defaultName ∧ ∃ forest ∈ forests, Notes forest name := by
    intro name hname
    obtain ⟨hroots, hother⟩ := mem_topLevelNames_iff.mp hname
    exact ⟨hother, (mem_roots_registerAll hroots).resolve_left (by simp)⟩
  have hentered : ∀ name, Entered name → ∃ s, name = .text s ∧ s ∈ r.table.keys := by
    rintro name ⟨forest, hforest, henters⟩
    exact mem_keys_registerAll _ hforest henters
  refine ⟨?_, hnotes, fun name hname => ?_, fun h forest hforest _ name hname => ?_, fun h name hname => ?_⟩
  · exact (Distinct.registerAll (by simp [Distinct]) forests).filter _
  · obtain ⟨s, rfl, hkey⟩ := hentered name hname
    obtain ⟨forest, hforest, henters⟩ := hname
    refine ⟨s, rfl, hkey, fun hs => mem_topLevelNames_iff.mpr ⟨?_, by simpa using hs⟩⟩
    obtain ⟨listed, hroots, halike⟩ := noted_registerAll { defaultName } hforest henters.notes
    rw [(Value.eq_text_iff_of_alike halike s).mpr rfl] at hroots
    exact hroots
  · obtain ⟨listed, hroots, halike⟩ := noted_registerAll { defaultName } hforest hname
    by_cases hdefault : listed = .text defaultName
    · exact .inl ((Value.eq_text_iff_of_alike halike _).mp hdefault)
    · have hlater := h listed (mem_topLevelNames_iff.mpr ⟨hroots, hdefault⟩)
      obtain ⟨s, rfl, -⟩ := hentered listed hlater
      rw [(Value.eq_text_iff_of_alike halike s).mp rfl]
      exact .inr hlater
  · obtain ⟨hother, forest, hforest, hnotes⟩ := hnotes name hname
    by_cases hproper : ∀ d ∈ forest, d.Every Declaration.Proper
    · exact ⟨forest, hforest, hnotes.enters hproper⟩
    · exact (h forest hforest hproper name hnotes).resolve_left hother

/-- A command that is called by two words. -/
def twoWords : List (Declaration Unit Unit) := [.command (.text "a b") [] .null .absent [] .absent]

/-- It is refused, and its name stays in the list. -/
theorem twoWords_listed :
    let r := ({} : Registry Unit Unit).registerAll [twoWords]
    .text "a b" ∈ r.topLevelNames ∧ "a b" ∉ r.table.keys ∧
      ¬ ∀ name ∈ r.topLevelNames, ∃ forest ∈ [twoWords], Enters forest name := by
  intro r
  have hnotes : Notes twoWords (.text "a b") := ⟨[], _, [], rfl, by simp, rfl⟩
  have hkey : "a b" ∉ r.table.keys := by decide +kernel
  obtain ⟨-, -, hentered, hiff⟩ := topLevelNames_spec "*" [twoWords]
  have hnot : ¬ ∃ forest ∈ [twoWords], Enters forest (.text "a b") := by
    intro h
    obtain ⟨s, hs, hmem, -⟩ := hentered _ h
    cases hs
    exact hkey hmem
  refine ⟨List.mem_singleton.mpr rfl, hkey, fun h => ?_⟩
  have hrefused : ¬ ∀ d ∈ twoWords, d.Every Declaration.Proper := fun hproper =>
    hnot ⟨twoWords, List.mem_cons_self, hnotes.enters hproper⟩
  exact (hiff.mp h twoWords List.mem_cons_self hrefused _ hnotes).elim (by simp) hnot

end Registry

end Command

end CommandPalette
