import CommandPalette.Settings.Loader
import CommandPalette.Settings.Standard
import Mathlib.Data.List.Induction
import Mathlib.Tactic.Lemma

/-!
# What a loader remembers

A loader remembers the settings that were loaded last and the file that was asked for last.  What a load
comes to depends on the files and the variables alone, and so does what it adds to the memory
(`Loader.load_eq`).  But the two are not remembered at the same time: the file as soon as it has been read,
the settings only when they have passed their checks.

Nothing is assumed of the readers that a load is handed.

* `fileLayers`: the table that all files make together.
* `outcome`: the settings that are loaded, or the failure.
* `Loader.after`: a loader after several calls, of whatever kind.
* **`Loader.memory_spec`**: a load that fails leaves the settings as they are, but if only the checks have
  failed, the file is another one.  So the file that is remembered has been read, but its settings may have
  been refused.
-/

namespace CommandPalette.Settings

/-! ## Outcomes -/

section Outcomes

variable {ε α β : Type} {x : Except ε α}

lemma bind_eq_ok {f : α → Except ε β} {b : β} : x >>= f = .ok b ↔ ∃ a, x = .ok a ∧ f a = .ok b := by
  cases x <;> simp [bind, Except.bind]

lemma exists_ok_of_isOk (h : x.isOk = true) : ∃ a, x = .ok a := by
  cases x with
  | ok a => exact ⟨a, rfl⟩
  | error e => cases h

lemma exists_error_of_not_isOk (h : x.isOk = false) : ∃ e, x = .error e := by
  cases x with
  | ok a => cases h
  | error e => exact ⟨e, rfl⟩

end Outcomes

/-! ## Loads -/

/-- The path of the file that is asked for, if one is. -/
def asked? (name : Option String) : Option Path := (name.filter (!·.isEmpty)).map Path.ofText

/-- The table that the files make: those that are found, and over them the one that is asked for. -/
def fileLayers (r : Readers) (w : World) (name : Option String) :
    Except LoadFailure (List (Value × Value)) := do
  let entries ← foundLayers r w
  match name.filter (!·.isEmpty) with
  | none => return entries
  | some name => askedLayer r w name entries

/-- The settings that are loaded, or the failure. -/
def outcome (r : Readers) (w : World) (name : Option String) : Except LoadFailure Config := do
  settingsOf r w (← fileLayers r w name)

/-- The file that a load remembers: the one that is asked for, if all files can be read. -/
def readPath? (r : Readers) (w : World) (name : Option String) : Option Path :=
  match fileLayers r w name with
  | .ok _ => asked? name
  | .error _ => none

variable {r : Readers}

lemma readPath?_eq_some_iff {w : World} {name : Option String} {path : Path} :
    readPath? r w name = some path ↔
      asked? name = some path ∧ ∃ entries, fileLayers r w name = .ok entries := by
  rw [readPath?]
  cases fileLayers r w name <;> simp

namespace Loader

/-- **What a load comes to, and what is remembered afterwards.** -/
lemma load_eq (r : Readers) (l : Loader) (w : World) (name : Option String) :
    l.load r w name = (outcome r w name,
      { config := (outcome r w name).toOption.or l.config, path := (readPath? r w name).or l.path }) := by
  unfold load outcome readPath? fileLayers asked?
  cases foundLayers r w with
  | error failure => rfl
  | ok entries =>
      cases name.filter (!·.isEmpty) with
      | none =>
          simp only [bind, Except.bind, pure, Except.pure]
          cases settingsOf r w entries <;> rfl
      | some text =>
          simp only [bind, Except.bind, pure, Except.pure]
          cases askedLayer r w text entries with
          | error failure => rfl
          | ok entries =>
              dsimp only
              cases settingsOf r w entries <;> rfl

/-- A load that fails leaves the settings as they are. -/
lemma config_load_of_error {l : Loader} {w : World} {name : Option String} {failure : LoadFailure}
    (h : (l.load r w name).1 = .error failure) : (l.load r w name).2.config = l.config := by
  simp only [load_eq] at h ⊢
  rw [h]
  rfl

/-- A load leaves the file as it is exactly if it has not read another one. -/
lemma path_load_eq_iff {l : Loader} {w : World} {name : Option String} :
    (l.load r w name).2.path = l.path ↔ ∀ path, readPath? r w name = some path → l.path = some path := by
  rw [load_eq]
  cases readPath? r w name with
  | none => simp
  | some path => simp [eq_comm]

end Loader

/-! ## Histories -/

/-- What a loader is asked to do. -/
inductive Call where
  /-- The settings are loaded. -/
  | load (name : Option String)
  /-- The settings that were loaded last are asked for. -/
  | current
  /-- The settings are forgotten and loaded again. -/
  | reload (name : Option String)
  deriving DecidableEq, Repr, Inhabited

/-- The file that a call asks for. -/
def Call.name? : Call → Option String
  | load name | reload name => name
  | current => none

namespace Loader

/-- What a call is answered with, and the loader afterwards. -/
def perform (l : Loader) (r : Readers) (w : World) : Call → Except LoadFailure Config × Loader
  | .load name => l.load r w name
  | .current => l.current r w
  | .reload name => l.reload r w name

/-- A loader after several calls, each with the files and the variables that there were at its time. -/
def after (l : Loader) (r : Readers) (calls : List (World × Call)) : Loader :=
  calls.foldl (fun l (w, call) => (l.perform r w call).2) l

lemma path_perform (r : Readers) (l : Loader) (w : World) (call : Call) :
    (l.perform r w call).2.path = (readPath? r w call.name?).or l.path := by
  cases call with
  | load name => simp only [perform, load_eq, Call.name?]
  | reload name => simp only [perform, reload, load_eq, Call.name?]
  | current =>
      have hnone : readPath? r w none = none := by
        unfold readPath?
        cases fileLayers r w none <;> rfl
      rw [perform, current, Call.name?, hnone, Option.none_or]
      cases l.config with
      | some config => rfl
      | none => simp only [load_eq, hnone, Option.none_or]

/-- A call that asks for a file is answered with the settings that are loaded, or the failure. -/
lemma perform_of_asked {call : Call} {path : Path} (h : asked? call.name? = some path) (r : Readers)
    (l : Loader) (w : World) : (l.perform r w call).1 = outcome r w call.name? := by
  cases call with
  | load name => rw [perform, load_eq, Call.name?]
  | reload name => rw [perform, reload, load_eq, Call.name?]
  | current => cases h

/-- The file that is remembered is that of the last call that has read the file it was asked for. -/
lemma path_after (r : Readers) (l : Loader) (calls : List (World × Call)) {path : Path}
    (h : (l.after r calls).path = some path) :
    l.path = some path ∨ ∃ before w call later, calls = before ++ (w, call) :: later ∧
      readPath? r w call.name? = some path ∧ ∀ e ∈ later, readPath? r e.1 e.2.name? = none := by
  induction calls using List.reverseRecOn with
  | nil => exact .inl h
  | append_singleton calls e ih =>
      obtain ⟨w, call⟩ := e
      have hlast : ((l.after r calls).perform r w call).2.path = some path := by
        rwa [after, List.foldl_append] at h
      rw [path_perform] at hlast
      cases hread : readPath? r w call.name? with
      | some read =>
          rw [hread, Option.some_or] at hlast
          exact .inr ⟨calls, w, call, [], rfl, by rw [hread, hlast], by simp⟩
      | none =>
          rw [hread, Option.none_or] at hlast
          refine (ih hlast).imp_right ?_
          rintro ⟨before, w', call', later, rfl, hpath, hlater⟩
          exact ⟨before, w', call', later ++ [(w, call)], by simp, hpath,
            List.forall_mem_append.mpr ⟨hlater, by simpa using hread⟩⟩

/-- **What a loader remembers after any calls.**  A load that fails leaves the settings as they are, and the
loader goes on to answer with them.  The file stays too, unless all files could be read and only their
settings were refused.  So the file is that of the last call that has read the file it was asked for; the
settings of that call may have been refused. -/
theorem memory_spec (r : Readers) (calls : List (World × Call)) :
    let l := ({} : Loader).after r calls
    (∀ w name failure, (l.load r w name).1 = .error failure →
      let l' := (l.load r w name).2
      l'.config = l.config ∧
      (∀ config w', l.config = some config → l'.current r w' = (.ok config, l')) ∧
      (l'.path = l.path ↔ ∀ path entries,
        asked? name = some path → fileLayers r w name = .ok entries → l.path = some path)) ∧
    ∀ path, l.path = some path → ∃ before w call later entries, calls = before ++ (w, call) :: later ∧
      asked? call.name? = some path ∧ fileLayers r w call.name? = .ok entries ∧
      ((({} : Loader).after r before).perform r w call).1 = settingsOf r w entries ∧
      ∀ e ∈ later, readPath? r e.1 e.2.name? = none := by
  refine ⟨fun w name failure hfailure => ?_, fun path hpath => ?_⟩
  · have hconfig := config_load_of_error hfailure
    refine ⟨hconfig, fun config w' hkept => ?_, ?_⟩
    · rw [current, hconfig, hkept]
    · rw [path_load_eq_iff]
      simp only [readPath?_eq_some_iff]
      exact ⟨fun h path entries hasked hentries => h path ⟨hasked, entries, hentries⟩,
        fun h path ⟨hasked, entries, hentries⟩ => h path entries hasked hentries⟩
  · rcases path_after r {} calls hpath with hnew | ⟨before, w, call, later, hcalls, hread, hlater⟩
    · cases hnew
    · obtain ⟨hasked, entries, hentries⟩ := readPath?_eq_some_iff.mp hread
      refine ⟨before, w, call, later, entries, hcalls, hasked, hentries, ?_, hlater⟩
      rw [perform_of_asked hasked, outcome, hentries]
      rfl

/-- Two files, of which the second gives the application an empty name. -/
def dayAndVoid : World where
  files := .around <| [("day.yaml", "app:\n  name: Day\n"), ("void.yaml", "app:\n  name: ''\n")].map
    fun (name, text) => (name, .file text.toUTF8.data.toList)

/-- Settings with an empty name are refused, but their file is remembered. -/
theorem refused_file_is_remembered :
    let l := ({} : Loader).after .standard [(dayAndVoid, .load (some "day.yaml"))]
    let l' := (l.load .standard dayAndVoid (some "void.yaml")).2
    (∃ failure, (l.load .standard dayAndVoid (some "void.yaml")).1 = .error failure) ∧
      l'.config = l.config ∧ l'.path ≠ l.path := by
  have hspec := memory_spec .standard [(dayAndVoid, .load (some "day.yaml"))]
  have hday : (({} : Loader).after .standard [(dayAndVoid, .load (some "day.yaml"))]).path =
      some (.ofText "day.yaml") := by decide +kernel
  obtain ⟨entries, hread⟩ : ∃ entries, fileLayers .standard dayAndVoid (some "void.yaml") = .ok entries :=
    exists_ok_of_isOk (by decide +kernel)
  obtain ⟨failure, hrefused⟩ : ∃ failure, outcome .standard dayAndVoid (some "void.yaml") = .error failure :=
    exists_error_of_not_isOk (by decide +kernel)
  have hfails (l : Loader) : (l.load .standard dayAndVoid (some "void.yaml")).1 = .error failure := by
    rw [load_eq, hrefused]
  obtain ⟨hconfig, -, hpath⟩ := hspec.1 dayAndVoid (some "void.yaml") failure (hfails _)
  refine ⟨⟨failure, hfails _⟩, hconfig, fun heq => ?_⟩
  have hvoid := hpath.mp heq (.ofText "void.yaml") entries rfl hread
  rw [hday] at hvoid
  exact absurd hvoid (by decide +kernel)

end Loader

end CommandPalette.Settings
