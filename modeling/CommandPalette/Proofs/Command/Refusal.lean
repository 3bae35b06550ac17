import CommandPalette.Proofs.Command.Acceptance

/-!
# What a registration refuses

A forest is refused if anything in it is malformed.  It depends on what is malformed, and where, whether
the host is told so by a refusal of ours.

**Checks.**  `OnlyRefuses`: a computation ends in no fault but a refusal.  This is so of every check whose
validator fails rather than stops (`OnlyRefuses.run`), hence of the check of a node.

**Nodes.**  `Declaration.Proper` says what a node should be without the check, and `validate_eq_ok_iff` ties
the two together; `isName_iff` does so for names.

**Trees.**  The check of a node comes before everything else that is done to it, but not before everything
that is done to the tree around it: the names of all roots are noted first, and a tree is counted before the
nodes below its root are checked.  A value that is no command is met there.  **`register_fault_iff`** says
which forests are refused, and which of them in this way.
-/

namespace CommandPalette

open Command

/-! ## Checks -/

/-- Whatever fault a computation ends with is a refusal. -/
def OnlyRefuses {ρ : Type} (x : Except Fault ρ) : Prop :=
  ∀ fault, x = .error fault → fault.className = Fault.Kind.validation.name

namespace OnlyRefuses

variable {ρ τ ι : Type}

lemma ok (a : ρ) : OnlyRefuses (.ok a) := nofun

lemma invalid (complaint : String) : OnlyRefuses (.error (.invalid complaint) : Except Fault ρ) := by
  intro fault h
  cases h
  rfl

lemma bind {x : Except Fault ρ} {next : ρ → Except Fault τ} (h : OnlyRefuses x)
    (hnext : ∀ a, OnlyRefuses (next a)) : OnlyRefuses (x >>= next) := by
  intro fault hfault
  cases x with
  | error other =>
      cases hfault
      exact h fault rfl
  | ok a => exact hnext a fault hfault

/-- A condition on which a computation is ended by a refusal. -/
lemma guard {p : Prop} [Decidable p] {complaint : String} {next : τ → Except Fault ρ} {x : Except Fault ρ}
    (h : OnlyRefuses x) : OnlyRefuses (if p then .error (.invalid complaint) >>= next else x) := by
  split
  · exact invalid complaint
  · exact h

lemma forIn {items : List ι} {f : ι → Except Fault ρ} (h : ∀ i, OnlyRefuses (f i)) :
    OnlyRefuses (forIn items PUnit.unit fun i _ => f i >>= fun _ => pure (ForInStep.yield PUnit.unit)) := by
  induction items with
  | nil => exact ok _
  | cons i rest ih =>
      rw [List.forIn_cons]
      refine bind (bind (h i) fun _ => ok _) fun step => ?_
      cases step with
      | done last => exact ok last
      | yield last => exact ih

/-- What is no refusal is reported as one, if it is a failure at all, and of no class of a host. -/
lemma mapError_report {x : Except Fault ρ}
    (h : ∀ fault, x = .error fault → fault.isFailure = true ∧ fault.rootName = fault.className)
    (field : String) : OnlyRefuses (x.mapError (Check.report field)) := by
  intro fault hfault
  cases x with
  | ok a => cases hfault
  | error reason =>
      obtain rfl := Except.error.inj hfault
      obtain ⟨hfailure, hroot⟩ := h reason rfl
      rw [Check.report, hfailure, hroot]
      split
      · rename_i hclass
        simpa using hclass
      · rfl

/-- A check whose validator fails rather than stops only refuses. -/
lemma run {c : Check} {v : Value}
    (h : ∀ validator, c.validator = some validator → ∀ fault, validator v = .error fault →
      fault.isFailure = true ∧ fault.rootName = fault.className) : OnlyRefuses (c.run v) := by
  unfold Check.run
  dsimp only
  cases hvalidator : c.validator with
  | none =>
      refine guard ?_
      split
      · exact guard (ok v)
      · exact ok v
  | some validator =>
      have hreport := mapError_report (h validator hvalidator) c.field
      refine guard ?_
      split
      · exact guard hreport
      · exact hreport

end OnlyRefuses

namespace Command

variable {α β : Type}

namespace Declaration

/-! ## Nodes -/

/-- What a node should be, apart from the nodes below it: its name and its aliases are words, and nothing
stands where a callback should be that cannot be called. -/
def Proper : Declaration α β → Prop
  | command name aliases _ action _ provider =>
    (∀ v ∈ name :: aliases, ∃ s, v = .text s ∧ IsWord s) ∧ action.isOther = false ∧
      provider.isOther = false
  | other _ => False

/-- A tree without a value where a command should be. -/
def OfCommands (d : Declaration α β) : Prop := d.Every fun _ => True

lemma Every.ofCommands {P : Declaration α β → Prop} {d : Declaration α β} (h : d.Every P) :
    d.OfCommands := by
  induction h with
  | command _ _ ih => exact .command trivial ih

lemma run_nameCheck_text (field : String) {s : String} (h : IsWord s) :
    (nameCheck field).run (.text s) = .ok (.text s) := by
  have hcheck : checkName (.text s) = .ok (.text s) := if_pos (isName_iff.mpr h)
  show (checkName (.text s)).mapError _ = _
  rw [hcheck]
  rfl

lemma onlyRefuses_nameCheck (field : String) (v : Value) : OnlyRefuses ((nameCheck field).run v) := by
  refine OnlyRefuses.run fun validator hvalidator fault hfault => ?_
  obtain rfl : checkName = validator := Option.some.inj hvalidator
  have hcases : (∃ complaint, fault = .invalid complaint) ∨ fault = .noField v.typeName "strip" := by
    unfold checkName at hfault
    dsimp only at hfault
    split at hfault <;> split at hfault <;> cases hfault
    · exact .inl ⟨_, rfl⟩
    · exact .inr rfl
    · exact .inl ⟨_, rfl⟩
  rcases hcases with ⟨complaint, rfl⟩ | rfl <;> exact ⟨rfl, rfl⟩

/-- **The check of a node only refuses.** -/
lemma onlyRefuses_validate (d : Declaration α β) : OnlyRefuses d.validate := by
  cases d with
  | other v =>
      -- This check has no validator that could end in something else.
      exact (OnlyRefuses.run fun validator h => by cases h).bind fun _ => .ok ()
  | command name aliases description action subcommands provider =>
      refine (onlyRefuses_nameCheck _ name).bind fun _ => ?_
      refine OnlyRefuses.bind (.forIn fun word => onlyRefuses_nameCheck _ word) fun _ => ?_
      refine .guard ?_
      split
      · exact .invalid _
      · exact .ok ()

/-- A loop of checks that all end well ends well. -/
lemma forIn_eq_ok {f : Value → Except Fault Value} {words : List Value}
    (h : ∀ word ∈ words, ∃ v, f word = .ok v) :
    (forIn words PUnit.unit fun word _ => f word >>= fun _ => pure (ForInStep.yield PUnit.unit)) =
      .ok PUnit.unit := by
  induction words with
  | nil => rfl
  | cons first rest ih =>
      obtain ⟨⟨v, hfirst⟩, hrest⟩ := List.forall_mem_cons.mp h
      rw [List.forIn_cons, hfirst]
      exact ih hrest

section Command

variable {name : Value} {aliases : List Value} {description : Value} {action : Callback α}
  {subcommands : List (Declaration α β)} {provider : Callback β}

/-- Where the words are in order, the check comes down to the callbacks. -/
lemma validate_eq (h : ∀ v ∈ name :: aliases, ∃ s, v = .text s ∧ IsWord s) :
    (command name aliases description action subcommands provider).validate =
      if action.isOther then .error (.invalid s!"action of {name.quoted} must be callable")
      else if provider.isOther then
        .error (.invalid s!"suggestion_provider of {name.quoted} must be callable")
      else .ok () := by
  have hcheck : ∀ field, ∀ v ∈ name :: aliases, ∃ w, (nameCheck field).run v = .ok w := by
    intro field v hv
    obtain ⟨s, rfl, hs⟩ := h v hv
    exact ⟨_, run_nameCheck_text field hs⟩
  obtain ⟨w, hname⟩ := hcheck "command.name" name List.mem_cons_self
  have hloop := forIn_eq_ok fun word hword =>
    hcheck s!"alias of {name.quoted}" word (List.mem_cons_of_mem _ hword)
  rw [validate, hname]
  change ((forIn aliases PUnit.unit _ : Except Fault PUnit) >>= _) = _
  rw [hloop]
  cases action.isOther <;> rfl

/-- **A node passes the check exactly if it is proper.** -/
lemma validate_eq_ok_iff :
    (command name aliases description action subcommands provider).validate = .ok () ↔
      (command name aliases description action subcommands provider).Proper := by
  constructor
  · intro h
    have hwords : ∀ v ∈ name :: aliases, ∃ s, v = .text s ∧ IsWord s := by
      intro v hv
      obtain ⟨s, rfl, hs⟩ := texts_of_validate h v hv
      exact ⟨s, rfl, isName_iff.mp hs⟩
    rw [validate_eq hwords] at h
    refine ⟨hwords, ?_⟩
    cases haction : action.isOther <;> cases hprovider : provider.isOther <;> simp_all
  · rintro ⟨hwords, haction, hprovider⟩
    rw [validate_eq hwords, haction, hprovider]
    rfl

end Command

/-- **A tree is valid exactly if all its nodes are proper.** -/
lemma valid_iff {d : Declaration α β} : d.Valid ↔ d.Every Proper := by
  constructor
  · intro h
    induction h with
    | command here _ ih => exact .command (validate_eq_ok_iff.mp here) ih
  · intro h
    induction h with
    | command here _ ih => exact .command (validate_eq_ok_iff.mpr here) ih

/-! ## Counting a tree -/

/-- The loop over the stack ends at a value that is no command, if it meets one. -/
lemma depthFrom_cases (depth : ℕ) (stack : List (Declaration α β)) :
    (∀ d ∈ stack, d.OfCommands) ∨
      ∃ v : Value, depthFrom depth stack = .error (.noField v.typeName "subcommands") := by
  induction depth, stack using depthFrom.induct with
  | case1 depth => exact .inl (by simp)
  | case2 depth name aliases description action subcommands provider rest ih =>
      rw [depthFrom]
      refine ih.imp_left fun h => List.forall_mem_cons.mpr ⟨.command trivial fun child hchild => ?_, ?_⟩
      · exact h child (List.mem_append_left _ (List.mem_reverse.mpr hchild))
      · exact fun d hd => h d (List.mem_append_right _ hd)
  | case3 depth v rest => exact .inr ⟨v, by rw [depthFrom]⟩

lemma depth_cases (d : Declaration α β) :
    d.OfCommands ∨ ∃ v : Value, d.depth = .error (.noField v.typeName "subcommands") := by
  cases d with
  | other v => exact .inr ⟨v, rfl⟩
  | command name aliases description action subcommands provider =>
      refine (depthFrom_cases 1 (push subcommands [])).imp_left fun h => ?_
      refine .command trivial fun child hchild => ?_
      exact h child (List.mem_append_left _ (List.mem_reverse.mpr hchild))

lemma normalize_of_validate_error {d : Declaration α β} {fault : Fault} (h : d.validate = .error fault) :
    d.normalize = .error fault := by
  rw [normalize, h]
  rfl

lemma normalize_of_depth_error {d : Declaration α β} (h : d.validate = .ok ()) {fault : Fault}
    (hdepth : d.depth = .error fault) : d.normalize = .error fault := by
  rw [normalize, h, hdepth]
  rfl

/-- In a tree of commands a node is refused by its check only. -/
lemma OfCommands.onlyRefuses_normalize {d : Declaration α β} (h : d.OfCommands) :
    OnlyRefuses d.normalize := by
  intro fault hfault
  cases hvalidate : d.validate with
  | error other =>
      rw [normalize_of_validate_error hvalidate] at hfault
      exact onlyRefuses_validate d fault (hvalidate.trans (congrArg _ (Except.error.inj hfault)))
  | ok done =>
      rw [normalize, hvalidate, depth_eq h] at hfault
      cases h with
      | command => cases hfault

end Declaration

/-! ## Trees -/

namespace Writes

lemma fault_andThen {first second : Writes α β} {fault : Fault}
    (h : (first.andThen second).fault = some fault) :
    first.fault = some fault ∨ second.fault = some fault := by
  rw [andThen] at h
  split at h
  · exact .inl h
  · exact .inr h

lemma fault_sequence {walks : List (Writes α β)} {fault : Fault} (h : (sequence walks).fault = some fault) :
    ∃ walk ∈ walks, walk.fault = some fault := by
  induction walks with
  | nil => cases h
  | cons first rest ih =>
      rcases fault_andThen h with hfirst | hrest
      · exact ⟨first, List.mem_cons_self, hfirst⟩
      · obtain ⟨walk, hwalk, hfault⟩ := ih hrest
        exact ⟨walk, List.mem_cons_of_mem _ hwalk, hfault⟩

end Writes

lemma fault_writes {lead : String} {forest : List (Declaration α β)} {fault : Fault}
    (h : (writes lead forest).fault = some fault) : ∃ d ∈ forest, (writesOf lead d).fault = some fault := by
  induction forest with
  | nil => cases h
  | cons d rest ih =>
      rcases Writes.fault_andThen h with hd | hrest
      · exact ⟨d, List.mem_cons_self, hd⟩
      · obtain ⟨e, he, hfault⟩ := ih hrest
        exact ⟨e, List.mem_cons_of_mem _ he, hfault⟩

/-- **A walk through a tree of commands only refuses.** -/
lemma class_of_ofCommands {d : Declaration α β} (hd : d.OfCommands) {lead : String} {fault : Fault}
    (h : (writesOf lead d).fault = some fault) : fault.className = Fault.Kind.validation.name := by
  induction d using Declaration.inductionOn generalizing lead with
  | other v => cases hd
  | command name aliases description action subcommands provider ih =>
      rw [writesOf] at h
      split at h
      · rename_i other hother
        obtain rfl := Option.some.inj h
        exact hd.onlyRefuses_normalize other hother
      · obtain ⟨walk, hwalk, hfault⟩ := Writes.fault_sequence h
        obtain ⟨s, -, rfl⟩ := List.mem_map.mp hwalk
        rcases Writes.fault_andThen hfault with hself | hbelow
        · cases hself
        · obtain ⟨child, hchild, hfault⟩ := fault_writes hbelow
          exact ih child hchild (hd.child hchild) hfault

/-- A tree that is proper at its root, but has a value elsewhere that is no command, is not counted. -/
lemma fault_of_not_ofCommands {d : Declaration α β} (hd : d.Proper) (hother : ¬ d.OfCommands)
    (lead : String) : ∃ v : Value, (writesOf lead d).fault = some (.noField v.typeName "subcommands") := by
  obtain ⟨v, hdepth⟩ := d.depth_cases.resolve_left hother
  cases d with
  | other w => cases hd
  | command name aliases description action subcommands provider =>
      have hnormalize := Declaration.normalize_of_depth_error (Declaration.validate_eq_ok_iff.mpr hd) hdepth
      exact ⟨v, by rw [writesOf, hnormalize]⟩

/-- A node that is not proper is refused before the tree is counted. -/
lemma class_of_not_proper {d : Declaration α β} (hcommand : ∀ v, d ≠ .other v) (hd : ¬ d.Proper)
    {lead : String} {fault : Fault} (h : (writesOf lead d).fault = some fault) :
    fault.className = Fault.Kind.validation.name := by
  cases d with
  | other v => exact absurd rfl (hcommand v)
  | command name aliases description action subcommands provider =>
      cases hvalidate : (Declaration.command name aliases description action subcommands provider).validate with
      | ok done => exact absurd (Declaration.validate_eq_ok_iff.mp hvalidate) hd
      | error other =>
          rw [writesOf, Declaration.normalize_of_validate_error hvalidate] at h
          exact Declaration.onlyRefuses_validate _ fault (hvalidate.trans (congrArg _ (Option.some.inj h)))

lemma class_ne_iff {d : Declaration α β} (hcommand : ∀ v, d ≠ .other v) {lead : String} {fault : Fault}
    (h : (writesOf lead d).fault = some fault) :
    fault.className ≠ Fault.Kind.validation.name ↔ d.Proper ∧ ¬ d.OfCommands := by
  constructor
  · intro hclass
    refine ⟨?_, fun hd => hclass (class_of_ofCommands hd h)⟩
    by_contra hd
    exact hclass (class_of_not_proper hcommand hd h)
  · rintro ⟨hd, hother⟩
    obtain ⟨v, hfault⟩ := fault_of_not_ofCommands hd hother lead
    obtain rfl := Option.some.inj (h.symm.trans hfault)
    show "AttributeError" ≠ "ValidationError"
    decide

lemma fault_writesOf_eq_none_iff {d : Declaration α β} :
    (writesOf "" d).fault = none ↔ d.Every Declaration.Proper := by
  rw [← Declaration.valid_iff]
  refine ⟨valid_of_writesOf, fun h => ?_⟩
  have hlead : ∀ s ∈ ([] : List String), IsWord s := by simp
  exact congrArg Writes.fault (writesOf_eq h hlead)

/-! ## Forests -/

/-- The first of a list for which something holds that holds of none before it. -/
lemma exists_first_cons {ι : Type} {p q : ι → Prop} {first : ι} {rest : List ι} :
    (∃ before d after, first :: rest = before ++ d :: after ∧ (∀ e ∈ before, p e) ∧ q d) ↔
      q first ∨ p first ∧ ∃ before d after, rest = before ++ d :: after ∧ (∀ e ∈ before, p e) ∧ q d := by
  constructor
  · rintro ⟨before, d, after, heq, hbefore, hd⟩
    cases before with
    | nil =>
        obtain ⟨rfl, -⟩ := List.cons.inj heq
        exact .inl hd
    | cons e before =>
        obtain ⟨rfl, rfl⟩ := List.cons.inj heq
        obtain ⟨he, hbefore⟩ := List.forall_mem_cons.mp hbefore
        exact .inr ⟨he, before, d, after, rfl, hbefore, hd⟩
  · rintro (hd | ⟨he, before, d, after, rfl, hbefore, hd⟩)
    · exact ⟨[], first, rest, rfl, by simp, hd⟩
    · exact ⟨first :: before, d, after, rfl, List.forall_mem_cons.mpr ⟨he, hbefore⟩, hd⟩

/-- The walk through a forest of trees, of which no root is a value that is no command. -/
lemma class_writes_ne_iff {forest : List (Declaration α β)} (hforest : ∀ v, .other v ∉ forest) :
    (∃ fault, (writes "" forest).fault = some fault ∧ fault.className ≠ Fault.Kind.validation.name) ↔
      ∃ before d after, forest = before ++ d :: after ∧ (∀ e ∈ before, e.Every Declaration.Proper) ∧
        d.Proper ∧ ¬ d.OfCommands := by
  induction forest with
  | nil => simp [writes]
  | cons first rest ih =>
      have hrest : ∀ v, Declaration.other v ∉ rest := fun v hv => hforest v (List.mem_cons_of_mem _ hv)
      have hfirst : ∀ v, first ≠ .other v := fun v hv => hforest v (hv ▸ List.mem_cons_self)
      have hproper := fault_writesOf_eq_none_iff (d := first)
      rw [exists_first_cons, ← ih hrest, ← hproper, writes, Writes.andThen]
      cases hfault : (writesOf "" first).fault with
      | none =>
          have hcommands : first.OfCommands := (hproper.mp hfault).ofCommands
          simp [hcommands]
      | some fault => simp [hfault, class_ne_iff hfirst hfault]

/-- Noting the names of the roots ends at the first value that is no command. -/
lemma noteRoots_cases (roots : List Value) (forest : List (Declaration α β)) :
    ((Registry.noteRoots roots forest).2 = none ∧ ∀ v, .other v ∉ forest) ∨
      ∃ v, .other v ∈ forest ∧
        (Registry.noteRoots roots forest).2 = some (.noField v.typeName "name") := by
  induction forest generalizing roots with
  | nil => exact .inl ⟨rfl, by simp⟩
  | cons d rest ih =>
      cases d with
      | other v => exact .inr ⟨v, List.mem_cons_self, rfl⟩
      | command name aliases description action subcommands provider =>
          refine (ih _).imp (fun h => ⟨h.1, ?_⟩) ?_
          · simpa using h.2
          · rintro ⟨v, hv, hfault⟩
            exact ⟨v, List.mem_cons_of_mem _ hv, hfault⟩

namespace Registry

/-- The fault of a registration is that of noting the roots, or that of the walk. -/
lemma fault_register (r : Registry α β) (forest : List (Declaration α β)) :
    (r.register forest).2.1 = (noteRoots r.roots forest).2.or (writes "" forest).fault := by
  rw [register]
  cases noteRoots r.roots forest with
  | mk roots fault => cases fault <;> rfl

/-- **What is refused, and how.**  A forest is registered exactly if all its nodes are proper.  What is not
registered is refused as malformed, unless a value that is no command is met too early: as a root, or in the
first tree that is not in order, if the root of that tree is proper.  There it is asked for a part that only
commands have. -/
theorem register_fault_iff (r : Registry α β) (forest : List (Declaration α β)) :
    let fault := (r.register forest).2.1
    (fault = none ↔ ∀ d ∈ forest, d.Every Declaration.Proper) ∧
      (∀ f, fault = some f → f.className = Fault.Kind.validation.name ∨
        ∃ v : Value, ∃ part ∈ ["name", "subcommands"], f = .noField v.typeName part) ∧
      ((∃ f, fault = some f ∧ f.className ≠ Fault.Kind.validation.name) ↔
        (∃ v, .other v ∈ forest) ∨
          ∃ before d after, forest = before ++ d :: after ∧ (∀ e ∈ before, e.Every Declaration.Proper) ∧
            d.Proper ∧ ¬ d.OfCommands) := by
  intro fault
  have hfault : fault = (noteRoots r.roots forest).2.or (writes "" forest).fault := fault_register r forest
  refine ⟨⟨fun h d hd => ?_, fun h => ?_⟩, ?_⟩
  · exact Declaration.valid_iff.mp (valid_of_register h d hd)
  · exact (register_of_valid r fun d hd => Declaration.valid_iff.mpr (h d hd)).1
  rcases noteRoots_cases r.roots forest with ⟨hnote, hforest⟩ | ⟨v, hv, hnote⟩
  · rw [hnote, Option.none_or] at hfault
    rw [hfault]
    refine ⟨fun f hf => ?_, (class_writes_ne_iff hforest).trans ?_⟩
    · obtain ⟨d, hd, hf⟩ := fault_writes hf
      have hcommand : ∀ v, d ≠ .other v := fun v hv => hforest v (hv ▸ hd)
      by_cases hclass : f.className = Fault.Kind.validation.name
      · exact .inl hclass
      · obtain ⟨hproper, hother⟩ := (class_ne_iff hcommand hf).mp hclass
        obtain ⟨v, hv⟩ := fault_of_not_ofCommands hproper hother ""
        exact .inr ⟨v, "subcommands", by simp, Option.some.inj (hf.symm.trans hv)⟩
    · exact (or_iff_right fun ⟨v, hv⟩ => hforest v hv).symm
  · rw [hnote, Option.some_or] at hfault
    rw [hfault]
    refine ⟨fun f hf => .inr ⟨v, "name", by simp, (Option.some.inj hf).symm⟩, ?_⟩
    refine iff_of_true ⟨_, rfl, ?_⟩ (.inl ⟨v, hv⟩)
    show "AttributeError" ≠ "ValidationError"
    decide

/-- A command with a number where another command should be. -/
def misplaced : List (Declaration Unit Unit) :=
  [.command (.text "open") [] .null .absent [.other (.int 5)] .absent]

/-- The number is met when the tree is counted, before it is checked. -/
theorem misplaced_not_refused :
    ∃ fault, (({} : Registry Unit Unit).register misplaced).2.1 = some fault ∧
      fault.className ≠ "ValidationError" := by
  refine (register_fault_iff {} misplaced).2.2.mpr (.inr ⟨[], _, [], rfl, by simp, ?_, ?_⟩)
  · refine ⟨fun v hv => ⟨"open", List.mem_singleton.mp hv, isName_iff.mp ?_⟩, rfl, rfl⟩
    decide +kernel
  · intro h
    cases h.child List.mem_cons_self

end Registry

end Command

end CommandPalette
