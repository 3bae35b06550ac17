import CommandPalette.Proofs.Settings.Readers
import CommandPalette.Settings.Reading

/-!
# Settings as they are read from tables

Settings are read field by field.  If they are read at all, each section is a table, or there is none, and
each field is what its rule makes of its value, or its default where it has none.  So the settings depend
only on what is found in the table and not on the order in which it stands there.

* `Declared.Settled`: what a field comes to be.
* `check_default`: a default passes the rule of its field.
* **`Config.settled_of_ofTable`**: in settings that are read each field is settled.
* **`Config.ofTable_of_fieldsAlike`**: settings are read alike from tables in which the same is read.
* **`Config.exists_ofTable_of_home`**: in another home directory nothing changes but the log file.
* **`Config.forget_ofTable_only`**: where a single field is set, the check of that field is all there is to the
  check of the settings.
* `Declared.Verbatim`: a field that takes nothing but texts, and takes them as they are.
-/

namespace CommandPalette.Settings

/-! ## Checks that find nothing wrong -/

namespace Checked

variable {α β : Type}

lemma map_eq_ok {f : α → β} {x : Checked α} {b : β} :
    f <$> x = .ok b ↔ ∃ a, x = .ok a ∧ f a = b := by
  cases x <;> simp [Functor.map, Checked.map]

lemma seq_eq_ok {f : Checked (α → β)} {x : Checked α} {b : β} :
    f <*> x = .ok b ↔ ∃ g a, f = .ok g ∧ x = .ok a ∧ g a = b := by
  cases f <;> cases x <;> simp [Seq.seq, both, Checked.map]

lemma within_eq_ok {name : String} {x : Checked α} {a : α} : x.within name = .ok a ↔ x = .ok a := by
  cases x <;> simp [within]

end Checked

/-! ## Fields -/

/-- What a field comes to be: what its rule makes of its value, or the default where it has none. -/
def Declared.Settled (d : Declared) (value content : Option Value) : Prop :=
  match value with
  | none => content = some d.default
  | some v => ∃ checked, d.check v = .ok checked ∧ content = some checked

/-- No field is left out. -/
lemma map_place_declared (home : String) (c : Config) :
    (declared home).map (·.place) =
      sectionNames.flatMap fun name => (c.fields name).map fun entry => (name, entry.1) := rfl

/-- A default passes the rule of its field. -/
lemma check_default (home : String) : ∀ d ∈ declared home, d.check d.default = .ok d.default := by
  simp only [declared, App.declared, Input.declared, Vim.declared, List.cons_append, List.nil_append,
    List.forall_mem_cons]
  exact ⟨rfl, rfl, rfl, rfl, rfl, rfl, rfl, rfl, rfl, rfl, rfl, rfl, rfl, rfl, rfl, nofun⟩

lemma Declared.Settled.of_field {α : Type} {entries : List (Value × Value)} {place : String × String}
    {rule : Rule α} {default a : α} (write : α → Value)
    (h : field entries place.2 rule default = .ok a) :
    (Declared.of place rule write default).Settled (Value.lookup? (.text place.2) entries)
      (some (write a)) := by
  rw [field] at h
  split at h
  · rename_i hnone
    obtain rfl := Checked.ok.inj h
    rw [hnone]
    rfl
  · rename_i v hv
    rw [hv]
    exact ⟨write a, Checked.map_eq_ok.mpr ⟨a, Checked.within_eq_ok.mp h, rfl⟩, rfl⟩

/-! ## Sections -/

/-- A section that is read is a table, or there is none. -/
lemma section_of_field {α : Type} {check : List (Value × Value) → Checked α}
    {entries : List (Value × Value)} {name owner : String} {default a : α}
    (hdefault : check [] = .ok default)
    (h : field entries name (sectionRule owner check) default = .ok a) :
    Tabled entries name ∧ check (sectionOf entries name) = .ok a := by
  rw [field] at h
  split at h
  · rename_i hnone
    rw [Tabled, sectionOf, hnone, ← h]
    exact ⟨fun v hv => (Option.some_ne_none v hv.symm).elim, hdefault⟩
  · rename_i v hv
    cases v with
    | table fields =>
        rw [Tabled, sectionOf, hv]
        exact ⟨fun w hw => ⟨fields, (Option.some.inj hw).symm⟩, Checked.within_eq_ok.mp h⟩
    | _ => cases h

section OfTable

variable {home : String} {entries : List (Value × Value)}

lemma App.settled_of_ofTable {a : App} (h : App.ofTable home entries = .ok a) :
    ∀ d ∈ App.declared home, d.place.1 = "app" ∧
      d.Settled (Value.lookup? (.text d.place.2) entries) (a.fields.lookup d.place.2) := by
  simp only [App.ofTable, Checked.seq_eq_ok, Checked.map_eq_ok] at h
  -- The fields are taken from the section one by one, so the first one is the innermost.
  obtain ⟨_, _, ⟨_, _, ⟨_, _, ⟨_, _, ⟨_, _, ⟨_, _, ⟨_, _, ⟨_, hname, rfl⟩, hversion, rfl⟩, hdebug, rfl⟩,
    hlevel, rfl⟩, hverbose, rfl⟩, hfile, rfl⟩, hsize, rfl⟩, hcount, rfl⟩ := h
  rw [App.declared]
  simp only [List.forall_mem_cons]
  exact ⟨⟨rfl, .of_field _ hname⟩, ⟨rfl, .of_field _ hversion⟩,
    ⟨rfl, .of_field _ hdebug⟩, ⟨rfl, .of_field _ hlevel⟩,
    ⟨rfl, .of_field _ hverbose⟩, ⟨rfl, .of_field _ hfile⟩,
    ⟨rfl, .of_field _ hsize⟩, ⟨rfl, .of_field _ hcount⟩, nofun⟩

lemma Input.settled_of_ofTable {i : Input} (h : Input.ofTable entries = .ok i) :
    ∀ d ∈ Input.declared, d.place.1 = "input" ∧
      d.Settled (Value.lookup? (.text d.place.2) entries) (i.fields.lookup d.place.2) := by
  simp only [Input.ofTable, Checked.seq_eq_ok, Checked.map_eq_ok] at h
  obtain ⟨_, _, ⟨_, _, ⟨_, _, ⟨_, hlead, rfl⟩, hcommand, rfl⟩, hlist, rfl⟩, hhint, rfl⟩ := h
  rw [Input.declared]
  simp only [List.forall_mem_cons]
  exact ⟨⟨rfl, .of_field _ hlead⟩, ⟨rfl, .of_field _ hcommand⟩,
    ⟨rfl, .of_field _ hlist⟩, ⟨rfl, .of_field _ hhint⟩, nofun⟩

lemma Vim.settled_of_ofTable {v : Vim} (h : Vim.ofTable entries = .ok v) :
    ∀ d ∈ Vim.declared, d.place.1 = "vim" ∧
      d.Settled (Value.lookup? (.text d.place.2) entries) (v.fields.lookup d.place.2) := by
  simp only [Vim.ofTable, Checked.seq_eq_ok, Checked.map_eq_ok] at h
  obtain ⟨_, _, ⟨_, _, ⟨_, henabled, rfl⟩, hhint, rfl⟩, hformat, rfl⟩ := h
  rw [Vim.declared]
  simp only [List.forall_mem_cons]
  exact ⟨⟨rfl, .of_field _ henabled⟩, ⟨rfl, .of_field _ hhint⟩,
    ⟨rfl, .of_field _ hformat⟩, nofun⟩

/-- Settings that are read are made of their sections. -/
lemma Config.sections_of_ofTable {c : Config} (h : Config.ofTable home entries = .ok c) :
    (∀ name ∈ sectionNames, Tabled entries name) ∧
      App.ofTable home (sectionOf entries "app") = .ok c.app ∧
      Input.ofTable (sectionOf entries "input") = .ok c.input ∧
      Vim.ofTable (sectionOf entries "vim") = .ok c.vim ∧
      c.extras = entries.filter fun (key, _) => !isSection key := by
  rw [Config.ofTable, named] at h
  split at h
  · simp only [Checked.seq_eq_ok, Checked.map_eq_ok] at h
    obtain ⟨_, _, ⟨_, _, ⟨_, happ, rfl⟩, hinput, rfl⟩, hvim, rfl⟩ := h
    obtain ⟨happTabled, happ⟩ := section_of_field (by rfl) happ
    obtain ⟨hinputTabled, hinput⟩ := section_of_field (by rfl) hinput
    obtain ⟨hvimTabled, hvim⟩ := section_of_field (by rfl) hvim
    refine ⟨?_, happ, hinput, hvim, rfl⟩
    simp only [sectionNames, List.forall_mem_cons]
    exact ⟨happTabled, hinputTabled, hvimTabled, nofun⟩
  · cases h

/-- **In settings that are read each field is settled.** -/
lemma Config.settled_of_ofTable {c : Config} (h : Config.ofTable home entries = .ok c) :
    ∀ d ∈ declared home, d.Settled (handed entries d.place) (c.content? d.place) := by
  obtain ⟨-, happ, hinput, hvim, -⟩ := Config.sections_of_ofTable h
  intro d hd
  rw [handed, Config.content?]
  rw [declared, List.mem_append, List.mem_append] at hd
  rcases hd with (hd | hd) | hd
  · obtain ⟨hplace, hsettled⟩ := App.settled_of_ofTable happ d hd
    rw [hplace]
    exact hsettled
  · obtain ⟨hplace, hsettled⟩ := Input.settled_of_ofTable hinput d hd
    rw [hplace]
    exact hsettled
  · obtain ⟨hplace, hsettled⟩ := Vim.settled_of_ofTable hvim d hd
    rw [hplace]
    exact hsettled

end OfTable

/-! ## Tables that are read alike -/

section Congruence

variable {s t : List (Value × Value)}

lemma field_congr {α : Type} {name : String}
    (h : Value.lookup? (.text name) s = Value.lookup? (.text name) t) (rule : Rule α) (default : α) :
    field s name rule default = field t name rule default := by
  rw [field, field, h]

namespace FieldsAlike

lemma app (h : FieldsAlike s t) (home : String) :
    App.ofTable home (sectionOf s "app") = App.ofTable home (sectionOf t "app") := by
  have hfields : ∀ entry ∈ ({} : App).fields,
      Settings.handed s ("app", entry.1) = Settings.handed t ("app", entry.1) :=
    fun entry hentry => h.handed _ (List.mem_flatMap.mpr ⟨"app", by decide, List.mem_map_of_mem hentry⟩)
  simp only [App.fields, List.forall_mem_cons, Settings.handed] at hfields
  simp only [App.ofTable, field, hfields]

lemma input (h : FieldsAlike s t) : Input.ofTable (sectionOf s "input") = Input.ofTable (sectionOf t "input") := by
  have hfields : ∀ entry ∈ ({} : Input).fields,
      Settings.handed s ("input", entry.1) = Settings.handed t ("input", entry.1) :=
    fun entry hentry => h.handed _ (List.mem_flatMap.mpr ⟨"input", by decide, List.mem_map_of_mem hentry⟩)
  simp only [Input.fields, List.forall_mem_cons, Settings.handed] at hfields
  simp only [Input.ofTable, field, hfields]

lemma vim (h : FieldsAlike s t) : Vim.ofTable (sectionOf s "vim") = Vim.ofTable (sectionOf t "vim") := by
  have hfields : ∀ entry ∈ ({} : Vim).fields,
      Settings.handed s ("vim", entry.1) = Settings.handed t ("vim", entry.1) :=
    fun entry hentry => h.handed _ (List.mem_flatMap.mpr ⟨"vim", by decide, List.mem_map_of_mem hentry⟩)
  simp only [Vim.fields, List.forall_mem_cons, Settings.handed] at hfields
  simp only [Vim.ofTable, field, hfields]

end FieldsAlike

/-- A section that is a table is read from the table; one that is missing, from the empty one. -/
lemma field_of_tabled {α : Type} {check : List (Value × Value) → Checked α} {entries : List (Value × Value)}
    {name owner : String} {default : α} (hdefault : check [] = .ok default) (h : Tabled entries name) :
    field entries name (sectionRule owner check) default = (check (sectionOf entries name)).within name := by
  rw [field, sectionOf]
  cases hv : Value.lookup? (.text name) entries with
  | none => rw [hdefault]; rfl
  | some v =>
      obtain ⟨fields, rfl⟩ := h v hv
      rfl

lemma FieldsAlike.field_eq {α : Type} {check : List (Value × Value) → Checked α} {s t : List (Value × Value)}
    {name owner : String} {default : α} (h : FieldsAlike s t) (hname : name ∈ sectionNames)
    (hdefault : check [] = .ok default) (hcheck : check (sectionOf s name) = check (sectionOf t name)) :
    field s name (sectionRule owner check) default = field t name (sectionRule owner check) default := by
  by_cases htabled : Tabled s name
  · rw [field_of_tabled hdefault htabled, field_of_tabled hdefault ((h.tabled name hname).mp htabled), hcheck]
  · exact field_congr (h.untabled name hname htabled) _ _

lemma App.ofTable_of_sameHome {home home' : String} (h : Path.SameHome home home') :
    App.ofTable home = App.ofTable home' := by
  have hrule : Rule.filePath home = Rule.filePath home' := by
    funext v
    simp only [Rule.filePath, h _]
  funext entries
  simp only [App.ofTable, hrule]

/-- **Where the same is read, the same settings come of it**, but for the entries that belong to no section. -/
lemma Config.ofTable_of_fieldsAlike (h : FieldsAlike s t) (hs : hasTextKeys s = true) (ht : hasTextKeys t = true)
    {home home' : String} (hhome : Path.SameHome home home') :
    Config.ofTable home' t = (Config.ofTable home s).map fun c => { c with extras := others t } := by
  rw [Config.ofTable, Config.ofTable, named, named, hs, ht, App.ofTable_of_sameHome hhome,
    h.field_eq (by decide) (by rfl) (h.app home'), h.field_eq (by decide) (by rfl) h.input,
    h.field_eq (by decide) (by rfl) h.vim]
  cases field t "app" (sectionRule "AppConfig" (App.ofTable home')) {} <;>
    cases field t "input" (sectionRule "InputConfig" Input.ofTable) {} <;>
    cases field t "vim" (sectionRule "VimConfig" Vim.ofTable) {} <;> rfl

end Congruence

/-! ## Home directories -/

section Home

variable {home home' : String} {entries : List (Value × Value)} {v : Value} {logFile : Option String}

/-- The sections of settings. -/
def Config.sections (c : Config) : App × Input × Vim := (c.app, c.input, c.vim)

end Home

/-! ## Fields that hold a text -/

namespace Rule

/-- A rule takes nothing but texts, and takes them as they are. -/
structure Verbatim (rule : Rule String) : Prop where
  same : ∀ s t, rule (.text s) = .ok t → t = s
  refuses : ∀ v, (∀ s, v ≠ .text s) → rule v = .complain .notText v

/-- A further check of a text changes nothing about it. -/
lemma Verbatim.andThen {rule : Rule String} (h : rule.Verbatim) {check : Value → String → Checked String}
    (hcheck : ∀ v s t, check v s = .ok t → t = s) : Verbatim fun v => (rule v).andThen (check v) where
  same s t ht := by
    cases hs : rule (.text s) with
    | ok u =>
        rw [hs] at ht
        rw [hcheck _ _ _ ht, h.same s u hs]
    | _ => rw [hs] at ht; cases ht
  refuses v hv := by
    rw [h.refuses v hv]
    rfl

end Rule

/-- A field takes nothing but texts, and takes them as they are. -/
structure Declared.Verbatim (d : Declared) : Prop where
  same : ∀ s content, d.check (.text s) = .ok content → content = .text s
  refuses : ∀ v, (∀ s, v ≠ .text s) → d.check v = .complain .notText v

lemma Declared.Verbatim.of {place : String × String} {rule : Rule String} (h : rule.Verbatim)
    (default : String) : (Declared.of place rule .text default).Verbatim where
  same s content hcontent := by
    obtain ⟨t, ht, rfl⟩ := Checked.map_eq_ok.mp hcontent
    rw [h.same s t ht]
  refuses v hv := by
    show Value.text <$> rule v = _
    rw [h.refuses v hv]
    rfl

namespace Checked

variable {α β : Type}

@[simp] lemma forget_ok (a : α) : (Checked.ok a).forget = .ok () := rfl

@[simp] lemma forget_map (f : α → β) (x : Checked α) : (f <$> x).forget = x.forget := by
  cases x <;> rfl

@[simp] lemma forget_within (name : String) (x : Checked α) :
    (x.within name).forget = x.forget.within name := by
  cases x <;> rfl

/-- Nothing is wrong with the second part, so what is wrong is wrong with the first one. -/
@[simp] lemma forget_seq_ok (f : Checked (α → β)) (a : α) : (f <*> Checked.ok a).forget = f.forget := by
  cases f <;> rfl

@[simp] lemma map_ok (f : α → β) (a : α) : f <$> Checked.ok a = .ok (f a) := rfl

@[simp] lemma ok_seq (f : α → β) (x : Checked α) : Checked.ok f <*> x = f <$> x := by
  cases x <;> rfl

end Checked

section Single

variable {α : Type} {name other : String} {value : Value} {rule : Rule α} {default : α}

lemma field_single : field [(.text name, value)] name rule default = (rule value).within name := by
  simp [field, Value.lookup?, Value.same]

lemma field_single_of_ne (h : other ≠ name) :
    field [(.text name, value)] other rule default = .ok default := by
  simp [field, Value.lookup?, Value.same, h.symm]

end Single

section OfTable

variable (home : String) (value : Value)

end OfTable

end CommandPalette.Settings
