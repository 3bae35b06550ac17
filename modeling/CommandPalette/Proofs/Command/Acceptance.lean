import CommandPalette.Proofs.Command.Registration

/-!
# Which forests are accepted

A registration checks a node when it comes to it, and goes on with the nodes below.  So one that meets no
fault has checked every node: **`valid_of_register`**.
-/

namespace CommandPalette.Command

variable {α β : Type}

namespace Writes

lemma fault_andThen_eq_none_iff {first second : Writes α β} :
    (first.andThen second).fault = none ↔ first.fault = none ∧ second.fault = none := by
  rw [andThen]
  cases hfirst : first.fault with
  | none => simp
  | some fault => simp [hfirst]

end Writes

lemma fault_writes_eq_none {lead : String} {forest : List (Declaration α β)}
    (h : (writes lead forest).fault = none) : ∀ d ∈ forest, (writesOf lead d).fault = none := by
  induction forest with
  | nil => simp
  | cons d rest ih =>
      obtain ⟨hd, hrest⟩ := Writes.fault_andThen_eq_none_iff.mp h
      intro e he
      rcases List.mem_cons.mp he with rfl | he
      · exact hd
      · exact ih hrest e he

lemma Declaration.validate_of_normalize {d : Declaration α β} {entry : Entry α β}
    (h : d.normalize = .ok entry) : d.validate = .ok () := by
  rw [normalize] at h
  cases hvalidate : d.validate with
  | ok done => rfl
  | error fault =>
      rw [hvalidate] at h
      cases h

/-- A value that is no command has no children, so nothing comes of it. -/
lemma Declaration.normalize_other (v : Value) (entry : Entry α β) :
    (other v : Declaration α β).normalize ≠ .ok entry := by
  intro h
  have hvalidate := validate_of_normalize h
  rw [normalize, hvalidate] at h
  cases h

/-- **A walk through a tree that meets no fault has checked every node.** -/
lemma valid_of_writesOf {lead : String} {d : Declaration α β} (h : (writesOf lead d).fault = none) :
    d.Valid := by
  induction d using Declaration.inductionOn generalizing lead with
  | other v =>
      rw [writesOf] at h
      split at h
      · cases h
      · rename_i entry hentry
        exact absurd hentry (Declaration.normalize_other v entry)
  | command name aliases description action subcommands provider ih =>
      rw [writesOf] at h
      split at h
      · cases h
      · rename_i entry hentry
        have hvalidate := Declaration.validate_of_normalize hentry
        -- There is a name, so the children are walked through at least once.
        obtain ⟨s, rfl, -⟩ := Declaration.texts_of_validate hvalidate name List.mem_cons_self
        obtain ⟨hfirst, -⟩ := Writes.fault_andThen_eq_none_iff.mp h
        obtain ⟨-, hbelow⟩ := Writes.fault_andThen_eq_none_iff.mp hfirst
        exact .command hvalidate fun child hchild =>
          ih child hchild (fault_writes_eq_none hbelow child hchild)

/-- **A forest that is registered without a fault is valid.** -/
lemma valid_of_register {r : Registry α β} {forest : List (Declaration α β)}
    (h : (r.register forest).2.1 = none) : ∀ d ∈ forest, d.Valid := by
  rw [Registry.register] at h
  cases hnote : Registry.noteRoots r.roots forest with
  | mk roots fault =>
      cases fault with
      | some fault => simp [hnote] at h
      | none =>
          simp only [hnote] at h
          exact fun d hd => valid_of_writesOf (fault_writes_eq_none h d hd)

end CommandPalette.Command
