import CommandPalette.Proofs.Settings.Precedence

/-!
# Which variables matter

Settings that are loaded depend on few of the variables: on those that hold a setting which is read, on the one
that names the environment, and on the home directory.  A variable that sets a field which a section does not have
is laid over the section like any other, but nobody reads the field.

* `holdsSetting`: whether a variable is laid over something that is read.
* `World.LooksLike`: two worlds in which all variables that matter are the same.
* **`World.LooksLike.outcome_eq`**: in two such worlds the same is loaded.
-/

namespace CommandPalette.Settings

/-! ## Variables that hold settings -/

/-- Whether a variable of this name is laid over something that is read: a field that a section has, or an entry
that belongs to no section. -/
def holdsSetting (name : String) : Bool :=
  (settingOf? name).any fun place => !sectionNames.contains place.1 || fieldPlaces.contains place

namespace ReadAlike

variable {s t : List (Value × Value)}

lemma overlayVariable_left (h : ReadAlike s t) {entry : String × String}
    (hentry : holdsSetting entry.1 = false) : ReadAlike (Settings.overlayVariable s entry) t := by
  unfold Settings.overlayVariable
  split
  · rename_i place hplace
    rw [holdsSetting, hplace, Option.any_some, Bool.or_eq_false_iff, Bool.not_eq_false',
      List.contains_iff_mem, ← Bool.not_eq_true, List.contains_iff_mem] at hentry
    exact h.setAt_left _ hentry.1 hentry.2
  · exact h

/-- **Of the variables nothing is read but those that hold settings.** -/
lemma overlayVariables (h : ReadAlike s t) (environment : List (String × String)) :
    ReadAlike (overlayVariables environment s)
      (overlayVariables (environment.filter fun e => holdsSetting e.1) t) := by
  induction environment generalizing s t with
  | nil => exact h
  | cons entry rest ih =>
      rw [overlayVariables_cons, List.filter_cons]
      cases hentry : holdsSetting entry.1 with
      | true =>
          rw [if_pos rfl, overlayVariables_cons]
          exact ih (h.overlayVariable entry)
      | false =>
          rw [if_neg Bool.false_ne_true]
          exact ih (h.overlayVariable_left hentry)

end ReadAlike

/-! ## Worlds that look alike -/

/-- The name that a variable gives to the environment, if it does. -/
def environmentName? (environment : Environment) : Option String :=
  (environment.get? environmentVariable).filter (!·.isEmpty)

lemma environmentPath_eq (w : World) : environmentPath w =
    match environmentName? w.environment with
    | none => .ok none
    | some name => firstFound w.files (environmentPaths name) := by
  rw [environmentPath, environmentName?]
  cases w.environment.get? environmentVariable with
  | none => rfl
  | some name => cases hempty : name.isEmpty <;> simp [Option.filter, hempty]

variable {r : Readers}

/-- The table that the files make depends on nothing else than the files and the name of the environment. -/
lemma fileLayers_congr {w w' : World} (hfiles : w.files = w'.files)
    (hspecial : environmentName? w.environment = environmentName? w'.environment) (name : Option String) :
    fileLayers r w name = fileLayers r w' name := by
  have hpath : environmentPath w = environmentPath w' := by
    rw [environmentPath_eq, environmentPath_eq, hspecial, hfiles]
  obtain ⟨files, environment⟩ := w
  obtain ⟨files', environment'⟩ := w'
  obtain rfl : files = files' := hfiles
  rw [fileLayers, fileLayers, foundLayers, foundLayers, hpath]
  rfl

/-- In two worlds all files and all variables that matter are the same. -/
structure World.LooksLike (w w' : World) : Prop where
  files : w.files = w'.files
  home : Path.SameHome w.home w'.home
  special : environmentName? w.environment = environmentName? w'.environment
  account : w.account = w'.account
  settings : (w.environment.entries.filter fun e => holdsSetting e.1) =
    w'.environment.entries.filter fun e => holdsSetting e.1

namespace World.LooksLike

variable {w w' : World}

section Loads

variable (hreaders : r.ChecksFields)

include hreaders

lemma settingsOf_eq (h : w.LooksLike w') (entries : List (Value × Value)) :
    settingsOf r w entries = settingsOf r w' entries := by
  have hleft := (ReadAlike.refl entries).overlayVariables w.environment.entries
  have hright := (ReadAlike.refl entries).overlayVariables w'.environment.entries
  rw [h.settings] at hleft
  rw [settingsOf, settingsOf, hleft.keys.trans hright.keys.symm]
  cases htext : hasTextKeys (overlayVariables w'.environment.entries entries) with
  | false => rfl
  | true =>
      rw [hreaders.settings_eq (hleft.keys.trans (hright.keys.symm.trans htext)) hleft h.home,
        hreaders.settings_eq htext hright fun _ => rfl]

/-- **In two worlds that look alike the same is loaded.** -/
lemma outcome_eq (h : w.LooksLike w') (name : Option String) : outcome r w name = outcome r w' name := by
  rw [outcome, outcome, fileLayers_congr h.files h.special, funext (h.settingsOf_eq hreaders)]

lemma perform_eq (h : w.LooksLike w') (l : Loader) (call : Call) :
    l.perform r w call = l.perform r w' call := by
  have hload (l : Loader) (name : Option String) : l.load r w name = l.load r w' name := by
    rw [Loader.load_eq, Loader.load_eq, h.outcome_eq hreaders, readPath?, readPath?,
      fileLayers_congr h.files h.special]
  cases call with
  | load name => exact hload l name
  | current =>
      simp only [Loader.perform, Loader.current]
      cases l.config with
      | some config => rfl
      | none => exact hload l none
  | reload name => exact hload _ name

end Loads

lemma change (h : w.LooksLike w') (f : FileSystem → FileSystem) :
    World.LooksLike { w with files := f w.files } { w' with files := f w'.files } :=
  ⟨congrArg f h.files, h.home, h.special, h.account, h.settings⟩

lemma insert (h : w.LooksLike w') (name value : String) :
    World.LooksLike { w with environment := w.environment.insert name value }
      { w' with environment := w'.environment.insert name value } where
  files := h.files
  home := by
    rw [World.home, World.home, Table.get?_insert, Table.get?_insert]
    split
    · exact fun _ => rfl
    · exact h.home
  special := by
    rw [environmentName?, environmentName?, Table.get?_insert, Table.get?_insert]
    split
    · rfl
    · exact h.special
  account := h.account
  settings := by
    simp only [Table.insert, Table.filter_insertEntry, h.settings]

lemma erase (h : w.LooksLike w') (name : String) :
    World.LooksLike { w with environment := w.environment.erase name }
      { w' with environment := w'.environment.erase name } where
  files := h.files
  home := by
    rw [World.home, World.home, Table.get?_erase, Table.get?_erase]
    split
    · rw [h.account]
      exact fun _ => rfl
    · exact h.home
  special := by
    rw [environmentName?, environmentName?, Table.get?_erase, Table.get?_erase]
    split
    · rfl
    · exact h.special
  account := h.account
  settings := by
    simp only [Table.erase, List.filter_comm _ (fun e : String × String => e.1 != name), h.settings]

end World.LooksLike

/-! ## Variables that show -/

end CommandPalette.Settings
