import CommandPalette.Proofs.Settings.Loading
import CommandPalette.Proofs.Settings.Standard

/-!
# Which setting wins

The table that is read as settings comes from files and variables.  The files are laid over each other: the
one for all environments, the one for the present environment, and the one that is asked for.  The variables
come last, so each wins over all files.  How a document is read does not matter, and of the check of settings it
is only used that it goes field by field (`Readers.ChecksFields`).

* `Merged`: the table that the files make.
* **`Loader.load_spec`**: in settings that are loaded, a field comes from the variable that sets it, else
  from the files, else it is its default; and the variables may come in any order.
-/

namespace CommandPalette.Settings

/-! ## Files over files -/

/-- The table in a file that may be there. -/
def tableAt (r : Readers) (files : FileSystem) : Option Path → Except LoadFailure (List (Value × Value))
  | none => .ok []
  | some path => readTable r files path

/-- A table is what the files make: first the usual one, then the one for the environment, if it is another
one, and last the one that is asked for. -/
def Merged (r : Readers) (w : World) (name : Option String) (entries : List (Value × Value)) : Prop :=
  ∃ usual special first second third,
    firstFound w.files usualPaths = .ok usual ∧ environmentPath w = .ok special ∧
    tableAt r w.files usual = .ok first ∧
    tableAt r w.files (if special = usual then none else special) = .ok second ∧
    tableAt r w.files (asked? name) = .ok third ∧
    entries = overlay (overlay (overlay [] first) second) third

variable {r : Readers}

lemma overlayFile_eq_ok {files : FileSystem} {path? : Option Path} {entries merged : List (Value × Value)} :
    overlayFile r files path? entries = .ok merged ↔
      ∃ added, tableAt r files path? = .ok added ∧ overlay entries added = merged := by
  cases path? with
  | none => simp [overlayFile, tableAt, overlay, pure, Except.pure]
  | some path => simp [overlayFile, tableAt, bind_eq_ok, pure, Except.pure]

lemma askedLayer_eq_ok {w : World} {name : String} {entries merged : List (Value × Value)}
    (h : askedLayer r w name entries = .ok merged) :
    ∃ added, tableAt r w.files (some (.ofText name)) = .ok added ∧ overlay entries added = merged := by
  unfold askedLayer at h
  dsimp only at h
  split at h
  · exact overlayFile_eq_ok.mp h
  · cases h
  · cases h

lemma merged_of_fileLayers {w : World} {name : Option String} {entries : List (Value × Value)}
    (h : fileLayers r w name = .ok entries) : Merged r w name entries := by
  simp only [fileLayers, foundLayers, bind_eq_ok, overlayFile_eq_ok] at h
  obtain ⟨found, ⟨usual, husual, _, ⟨first, hfirst, rfl⟩, special, hspecial, hfound⟩, hasked⟩ := h
  obtain ⟨second, hsecond, rfl⟩ :
      ∃ second, tableAt r w.files (if special = usual then none else special) = .ok second ∧
        overlay (overlay [] first) second = found := by
    split at hfound
    · rename_i hsame
      exact ⟨[], by rw [if_pos hsame]; rfl, Except.ok.inj hfound⟩
    · rename_i hother
      rw [if_neg hother]
      exact overlayFile_eq_ok.mp hfound
  obtain ⟨third, hthird, rfl⟩ : ∃ third, tableAt r w.files (asked? name) = .ok third ∧
      overlay (overlay (overlay [] first) second) third = entries := by
    rw [asked?]
    split at hasked
    · rename_i hnone
      exact ⟨[], by rw [hnone]; rfl, Except.ok.inj hasked⟩
    · rename_i text hsome
      rw [hsome]
      exact askedLayer_eq_ok hasked
  exact ⟨usual, special, first, second, third, husual, hspecial, hfirst, hsecond, hthird, rfl⟩

/-! ## The order of the variables -/

lemma settingsOf_eq_ok {w : World} {entries : List (Value × Value)} {c : Config} :
    settingsOf r w entries = .ok c ↔ hasTextKeys (overlayVariables w.environment.entries entries) = true ∧
      r.settings w.home (overlayVariables w.environment.entries entries) = .ok c := by
  rw [settingsOf]
  cases hasTextKeys (overlayVariables w.environment.entries entries) with
  | false => simp
  | true =>
      cases r.settings w.home (overlayVariables w.environment.entries entries) with
      | ok c => simp
      | problems list => cases h : Problem.report list <;> simp [h]
      | fault f => simp

/-- Where the same comes out but for the entries that belong to no section, the same is answered but for these. -/
lemma settingsOf_of_settings {w w' : World} {entries entries' extras : List (Value × Value)}
    (hkeys : hasTextKeys (overlayVariables w.environment.entries entries) =
      hasTextKeys (overlayVariables w'.environment.entries entries'))
    (h : hasTextKeys (overlayVariables w.environment.entries entries) = true →
      r.settings w'.home (overlayVariables w'.environment.entries entries') =
        (r.settings w.home (overlayVariables w.environment.entries entries)).map fun c => { c with extras }) :
    settingsOf r w' entries' = (settingsOf r w entries).map fun c => { c with extras } := by
  rw [settingsOf, settingsOf, ← hkeys]
  cases htext : hasTextKeys (overlayVariables w.environment.entries entries) with
  | false => rfl
  | true =>
      rw [if_neg (by simp), if_neg (by simp), h htext]
      cases r.settings w.home (overlayVariables w.environment.entries entries) with
      | ok c => rfl
      | problems list =>
          dsimp only [Checked.map]
          cases Problem.report list <;> rfl
      | fault f => rfl

section Order

variable {w : World} {environment : Environment}

lemma fileLayers_of_perm (hkeys : w.environment.keys.Nodup)
    (hperm : environment.entries.Perm w.environment.entries) (name : Option String) :
    fileLayers r { w with environment } name = fileLayers r w name := by
  have hspecial : environmentPath { w with environment } = environmentPath w := by
    rw [environmentPath, environmentPath, Table.get?_of_perm hkeys hperm]
  rw [fileLayers, fileLayers, foundLayers, foundLayers, hspecial]
  rfl

lemma outcome_of_perm (hreaders : r.ChecksFields) (hkeys : w.environment.keys.Nodup)
    (hapart : NamesApart w.environment.entries)
    (hperm : environment.entries.Perm w.environment.entries) (name : Option String) :
    ∃ extras, outcome r { w with environment } name =
        (outcome r w name).map (fun c => { c with extras }) ∧
      ∀ c, outcome r w name = .ok c → SameSettings c.extras extras := by
  rw [outcome, outcome, fileLayers_of_perm hkeys hperm]
  cases fileLayers r w name with
  | error failure =>
      refine ⟨[], rfl, fun c hc => ?_⟩
      obtain ⟨_, hfiles, -⟩ := bind_eq_ok.mp hc
      cases hfiles
  | ok files =>
      have hhome : ({ w with environment } : World).home = w.home := by
        rw [World.home, World.home, Table.get?_of_perm hkeys hperm]
      have htext (list : List (String × String)) :
          hasTextKeys (overlayVariables list files) = hasTextKeys files := hasTextKeys_overlayVariables list files
      have hsame := sameSettings_overlayVariables_of_perm hperm.symm (apart_of_namesApart hapart) files
      refine ⟨others (overlayVariables environment.entries files), ?_, fun c hc => ?_⟩
      · refine settingsOf_of_settings (by rw [htext, htext]) fun hentries => ?_
        rw [htext] at hentries
        rw [hhome]
        exact hreaders.alike (by rwa [htext]) (by rwa [htext]) hsame.fieldsAlike fun _ => rfl
      · obtain ⟨hentries, hread⟩ := settingsOf_eq_ok.mp hc
        rw [hreaders.extras_eq hentries hread]
        exact hsame.others

end Order

/-! ## The main statement -/

/-- **Which setting wins.**  Let the variables that hold settings have names that stay different in lower
case, and let the settings be checked field by field.  Then in settings that are loaded each field is settled by
the value that a variable has for it, else by the one that the files have for it.  And as no variable is there
twice, it does not matter in which order the variables come. -/
theorem Loader.load_spec {r : Readers} (hreaders : r.ChecksFields) (l : Loader) (w : World)
    (name : Option String) (hapart : NamesApart w.environment.entries) :
    (∀ config, (l.load r w name).1 = .ok config → ∃ files, Merged r w name files ∧
      let checked := overlayVariables w.environment.entries files
      r.settings w.home checked = .ok config ∧
      (∀ place ∈ fieldPlaces, r.Settles w.home place (handed checked place) (config.content? place)) ∧
      ∀ place, place.1 ∈ sectionNames →
        (∀ entry ∈ w.environment.entries, settingOf? entry.1 = some place →
          handed checked place = some (ofVariable entry.2)) ∧
        ((∀ entry ∈ w.environment.entries, settingOf? entry.1 ≠ some place) →
          handed checked place = handed files place)) ∧
    (w.environment.keys.Nodup →
      ∀ environment : Environment, environment.entries.Perm w.environment.entries → ∃ extras,
        (l.load r { w with environment } name).1 = (l.load r w name).1.map (fun c => { c with extras }) ∧
        ∀ config, (l.load r w name).1 = .ok config → SameSettings config.extras extras) := by
  simp only [load_eq]
  refine ⟨fun config hconfig => ?_,
    fun hkeys environment hperm => outcome_of_perm hreaders hkeys hapart hperm name⟩
  obtain ⟨files, hfiles, hsettings⟩ := bind_eq_ok.mp hconfig
  obtain ⟨-, hread⟩ := settingsOf_eq_ok.mp hsettings
  refine ⟨files, merged_of_fileLayers hfiles, hread, hreaders.fields hread, ?_⟩
  intro place hplace
  -- A section that is no table would have kept the variable out, but it could not have been read.
  have htabled : Tabled files place.1 :=
    tabled_overlayVariables_iff.mp (hreaders.sections hread _ hplace)
  exact ⟨fun entry hmem hsets =>
      handed_overlayVariables_of_mem (apart_of_namesApart hapart) hmem hsets htabled,
    fun hnone => handed_overlayVariables_of_forall hnone files⟩

/-- A file that switches something off, and a variable that switches it on. -/
def offAndOn : World where
  files := .around [("omnicli.yaml", .file "app:\n  debug: no\n".toUTF8.data.toList)]
  environment := ⟨[("HOME", "/home/user"), ("OMNICLI_APP_DEBUG", "on")]⟩

/-- What a file switches off a variable switches on, wherever it stands among the variables. -/
theorem variable_wins_over_file :
    ∃ config, (({} : Loader).load .standard offAndOn none).1 = .ok config ∧ config.app.debug = true ∧
      ∃ extras, (({} : Loader).load .standard
        { offAndOn with environment := ⟨offAndOn.environment.entries.reverse⟩ } none).1 =
          .ok { config with extras } := by
  have hloads : (({} : Loader).load .standard offAndOn none).1.isOk = true := by decide +kernel
  have hkeys : offAndOn.environment.keys.Nodup := by decide
  have hapart : NamesApart offAndOn.environment.entries := by decide +kernel
  have hmem : ("OMNICLI_APP_DEBUG", "on") ∈ offAndOn.environment.entries := by decide
  generalize offAndOn = w at hloads hkeys hapart hmem ⊢
  obtain ⟨config, hconfig⟩ := exists_ok_of_isOk hloads
  obtain ⟨hloaded, horder⟩ := Loader.load_spec Readers.checksFields_standard {} w none hapart
  refine ⟨config, hconfig, ?_, ?_⟩
  · obtain ⟨files, -, -, hsettled, hplace⟩ := hloaded config hconfig
    have hon : ofVariable "on" = .bool true := if_pos (by decide +kernel)
    have hhanded := (hplace ("app", "debug") (by decide)).1 _ hmem (by decide +kernel)
    have hdebug := hsettled ("app", "debug") (by decide)
    rw [hhanded, hon] at hdebug
    obtain ⟨checked, hchecked, hcontent⟩ := hdebug
    obtain rfl : Value.bool true = checked := Checked.ok.inj hchecked
    exact Value.bool.inj (Option.some.inj hcontent)
  · obtain ⟨extras, hload, -⟩ := horder hkeys ⟨w.environment.entries.reverse⟩ (List.reverse_perm _)
    exact ⟨extras, by rw [hload, hconfig]; rfl⟩

end CommandPalette.Settings
