import CommandPalette.Proofs.Command.Walk

/-!
# What a registry holds

Two descriptions of a registry after its registrations, one for valid forests and one for all.

* **`get?_register`**: after a valid forest was registered, a path leads to the last of its
  spellings, or to what was there before.
* `Registry.Sound`: what holds of every registry, whether or not its registrations succeeded: an
  entry bears its own path, and its depth counts at least itself.
* `Registry.Reached`: the registries that a history of registrations leads to.
-/

namespace CommandPalette.Command

variable {α β : Type}

/-! ## Registering a valid forest -/

/-- Only a value that is no command stops the names of the roots from being noted. -/
lemma noteRoots_fault {roots : List Value} {forest : List (Declaration α β)}
    (h : ∀ d ∈ forest, d.Valid) : (Registry.noteRoots roots forest).2 = none := by
  induction forest generalizing roots with
  | nil => rfl
  | cons d rest ih =>
      have hrest := fun e he => h e (List.mem_cons_of_mem d he)
      cases h d List.mem_cons_self with
      | command => exact ih hrest

lemma register_of_valid (r : Registry α β) {forest : List (Declaration α β)}
    (h : ∀ d ∈ forest, d.Valid) :
    (r.register forest).2.1 = none ∧
      (r.register forest).1.defaultName = r.defaultName ∧
      (r.register forest).1.table = r.table.insertAll ((spellings [] forest).map spellingWrite) := by
  have hnone : (Registry.noteRoots r.roots forest).2 = none := noteRoots_fault h
  rw [Registry.register]
  cases hnote : Registry.noteRoots r.roots forest with
  | mk roots fault =>
      obtain rfl : fault = none := by rw [hnote] at hnone; exact hnone
      simp only [writes_eq h, and_self]

/-- What is read back was written. -/
lemma mem_of_lookup_reverse {γ : Type} {writes : List (String × γ)} {path : String} {entry : γ}
    (h : writes.reverse.lookup path = some entry) : (path, entry) ∈ writes := by
  obtain ⟨before, after, hsplit, -⟩ := List.lookup_eq_some_iff.mp h
  rw [← List.mem_reverse, hsplit]
  exact List.mem_append_right _ List.mem_cons_self

/-- **After a valid forest was registered, the last spelling of a path decides what it leads to.** -/
lemma get?_register (r : Registry α β) {forest : List (Declaration α β)}
    (h : ∀ d ∈ forest, d.Valid) (path : String) :
    (r.register forest).1.get? path =
      (((spellings [] forest).map spellingWrite).reverse.lookup path).or (r.get? path) := by
  rw [Registry.get?, (register_of_valid r h).2.2, Table.get?_insertAll]
  rfl

/-! ## Every registry -/

namespace Registry

/-- An entry bears the path it is stored under, and its depth counts at least itself. -/
structure Sound (r : Registry α β) : Prop where
  /-- An entry bears the path it is stored under. -/
  name_eq : ∀ path entry, r.get? path = some entry → entry.name = path
  /-- The depth of an entry counts at least itself. -/
  depth_pos : ∀ path entry, r.get? path = some entry → 1 ≤ entry.depth

end Registry

lemma le_of_depthFrom {depth total : ℕ} {stack : List (Declaration α β)}
    (h : Declaration.depthFrom depth stack = .ok total) : depth ≤ total := by
  induction depth, stack using Declaration.depthFrom.induct with
  | case1 depth =>
      rw [Declaration.depthFrom] at h
      exact Nat.le_of_eq (Except.ok.inj h)
  | case2 depth name aliases description action subcommands provider rest ih =>
      rw [Declaration.depthFrom] at h
      have := ih h
      omega
  | case3 depth v rest =>
      rw [Declaration.depthFrom] at h
      cases h

lemma depth_pos_of_normalize {d : Declaration α β} {entry : Entry α β}
    (h : d.normalize = .ok entry) : 1 ≤ entry.depth := by
  rw [Declaration.normalize] at h
  cases hvalid : d.validate with
  | error fault => simp [hvalid, bind, Except.bind] at h
  | ok u =>
      cases hdepth : d.depth with
      | error fault => simp [hvalid, hdepth, bind, Except.bind] at h
      | ok depth =>
          cases d with
          | other v => simp [hvalid, hdepth, bind, Except.bind] at h
          | command name aliases description action subcommands provider =>
              simp only [hvalid, hdepth, bind, Except.bind, pure, Except.pure, Except.ok.injEq] at h
              rw [← h]
              exact le_of_depthFrom hdepth

namespace Writes

lemma mem_andThen {first second : Writes α β} {w : String × Entry α β}
    (h : w ∈ (first.andThen second).entries) : w ∈ first.entries ∨ w ∈ second.entries := by
  rw [andThen] at h
  split at h
  · exact .inl h
  · exact List.mem_append.mp h

lemma mem_sequence {walks : List (Writes α β)} {w : String × Entry α β}
    (h : w ∈ (sequence walks).entries) : ∃ walk ∈ walks, w ∈ walk.entries := by
  induction walks with
  | nil => simp [sequence] at h
  | cons first rest ih =>
      rcases mem_andThen h with h | h
      · exact ⟨first, List.mem_cons_self, h⟩
      · obtain ⟨walk, hwalk, h⟩ := ih h
        exact ⟨walk, List.mem_cons_of_mem _ hwalk, h⟩

end Writes

lemma mem_writes {lead : String} {forest : List (Declaration α β)} {w : String × Entry α β}
    (h : w ∈ (writes lead forest).entries) : ∃ d ∈ forest, w ∈ (writesOf lead d).entries := by
  induction forest with
  | nil => simp [writes] at h
  | cons d rest ih =>
      rcases Writes.mem_andThen h with h | h
      · exact ⟨d, List.mem_cons_self, h⟩
      · obtain ⟨e, he, h⟩ := ih h
        exact ⟨e, List.mem_cons_of_mem _ he, h⟩

/-- Whatever a walk writes, even one that meets a fault, bears its path. -/
lemma sound_of_mem_writesOf {lead : String} {d : Declaration α β} {w : String × Entry α β}
    (h : w ∈ (writesOf lead d).entries) : w.2.name = w.1 ∧ 1 ≤ w.2.depth := by
  induction d using Declaration.inductionOn generalizing lead with
  | other v =>
      rw [writesOf] at h
      split at h <;> simp at h
  | command name aliases description action subcommands provider ih =>
      rw [writesOf] at h
      split at h
      · simp at h
      · rename_i entry hentry
        obtain ⟨walk, hwalk, h⟩ := Writes.mem_sequence h
        obtain ⟨s, hs, rfl⟩ := List.mem_map.mp hwalk
        rcases Writes.mem_andThen h with h | h
        · obtain rfl := List.mem_singleton.mp h
          have hdepth : 1 ≤ entry.depth := depth_pos_of_normalize hentry
          exact ⟨rfl, hdepth⟩
        · obtain ⟨child, hchild, h⟩ := mem_writes h
          exact ih child hchild h

namespace Registry

lemma Sound.fresh (defaultName : String) : ({ defaultName } : Registry α β).Sound where
  name_eq path entry h := by simp [get?, Table.get?] at h
  depth_pos path entry h := by simp [get?, Table.get?] at h

/-- What a registration leaves under a path was there before or was written by its walk. -/
lemma get?_register_cases {r : Registry α β} {commands : List (Declaration α β)} {path : String}
    {entry : Entry α β} (h : (r.register commands).1.get? path = some entry) :
    r.get? path = some entry ∨ (path, entry) ∈ (writes "" commands).entries := by
  rw [register] at h
  cases hnote : noteRoots r.roots commands with
  | mk roots fault =>
      simp only [hnote, get?, Table.get?_insertAll, Option.or_eq_some_iff] at h
      cases fault with
      | some fault => exact .inl (by simpa [get?] using h)
      | none =>
          rcases h with h | ⟨-, h⟩
          · exact .inr (mem_of_lookup_reverse h)
          · exact .inl h

/-- Soundness survives every registration, also one that ends in a fault. -/
lemma Sound.register {r : Registry α β} (h : r.Sound) (commands : List (Declaration α β)) :
    (r.register commands).1.Sound := by
  have hwrites : ∀ path entry, (path, entry) ∈ (writes "" commands).entries →
      entry.name = path ∧ 1 ≤ entry.depth := by
    intro path entry hmem
    obtain ⟨d, -, hmem⟩ := mem_writes hmem
    exact sound_of_mem_writesOf hmem
  constructor
  · intro path entry hget
    rcases get?_register_cases hget with hold | hnew
    · exact h.name_eq path entry hold
    · exact (hwrites path entry hnew).1
  · intro path entry hget
    rcases get?_register_cases hget with hold | hnew
    · exact h.depth_pos path entry hold
    · exact (hwrites path entry hnew).2

/-- The registries that a history of registrations leads to, where any of them may have ended in a
fault. -/
inductive Reached : Registry α β → Prop
  | fresh (defaultName : String) : Reached { defaultName }
  | register {r : Registry α β} (h : Reached r) (commands : List (Declaration α β)) :
      Reached (r.register commands).1

lemma Reached.sound {r : Registry α β} (h : Reached r) : r.Sound := by
  induction h with
  | fresh defaultName => exact .fresh defaultName
  | register _ commands ih => exact ih.register commands

end Registry

end CommandPalette.Command
