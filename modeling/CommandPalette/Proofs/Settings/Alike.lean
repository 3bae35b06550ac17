import CommandPalette.Proofs.Settings.Layer
import CommandPalette.Settings.Loader

/-!
# What is read in a table

Of a table that is read as settings the fields of the sections are read, and the entries that belong to no section
are kept.  A field that a section does not have is not read.

* `Config.content?`: what a field of the settings holds; `fieldPlaces`: the fields that there are.
* `others`: the entries that belong to no section.
* `FieldsAlike`, `ReadAlike`: in two tables the same is read, for the fields or altogether.
* **`SameSettings.fieldsAlike`**: this is so where the same is found, in whatever order it stands there.
-/

namespace CommandPalette.Settings

/-! ## Fields -/

/-- The fields of a section of the settings. -/
def Config.fields (c : Config) : String → List (String × Value)
  | "app" => c.app.fields
  | "input" => c.input.fields
  | "vim" => c.vim.fields
  | _ => []

/-- What a field of the settings holds. -/
def Config.content? (c : Config) (place : String × String) : Option Value :=
  (c.fields place.1).lookup place.2

/-- The fields that the sections have. -/
def fieldPlaces : List (String × String) :=
  sectionNames.flatMap fun name => (({} : Config).fields name).map fun entry => (name, entry.1)

lemma fst_mem_of_mem_fieldPlaces {place : String × String} (h : place ∈ fieldPlaces) :
    place.1 ∈ sectionNames := by
  obtain ⟨name, hname, hplace⟩ := List.mem_flatMap.mp h
  obtain ⟨_, _, rfl⟩ := List.mem_map.mp hplace
  exact hname

/-! ## Keys -/

lemma hasTextKeys_insert (name : String) (value : Value) (entries : List (Value × Value)) :
    hasTextKeys (Value.insert (.text name) value entries) = hasTextKeys entries := by
  induction entries with
  | nil => rfl
  | cons entry rest ih =>
      obtain ⟨k, v⟩ := entry
      rw [Value.insert]
      split
      · rfl
      · simp only [hasTextKeys, List.all_cons] at ih ⊢
        rw [ih]

lemma hasTextKeys_setAt (value : Value) (name field : String) (entries : List (Value × Value)) :
    hasTextKeys (setAt value [name, field] entries) = hasTextKeys entries := by
  rw [setAt]
  · split <;> simp only [hasTextKeys_insert]
  · simp

/-- Variables set nothing but names. -/
lemma hasTextKeys_overlayVariables (environment : List (String × String))
    (entries : List (Value × Value)) :
    hasTextKeys (overlayVariables environment entries) = hasTextKeys entries := by
  induction environment generalizing entries with
  | nil => rfl
  | cons entry rest ih =>
      rw [overlayVariables_cons, ih, overlayVariable]
      split
      · exact hasTextKeys_setAt _ _ _ _
      · rfl

/-! ## Names of sections -/

section Sections

/-- Keys that count as the same are both names of sections or both not. -/
lemma isSection_of_same {k key : Value} (h : k.same key = true) : isSection k = isSection key := by
  have hiff (name : String) : k.same (.text name) = key.same (.text name) := by
    rw [Bool.eq_iff_iff, Value.same_text_iff, Value.same_text_iff]
    exact (Value.eq_text_iff_of_alike (.inr h) name).symm
  simp only [isSection, hiff]

lemma lookup?_filter_not_isSection (key : Value) (entries : List (Value × Value)) :
    Value.lookup? key (entries.filter fun (k, _) => !isSection k) =
      if isSection key then none else Value.lookup? key entries := by
  induction entries with
  | nil => simp [Value.lookup?]
  | cons entry rest ih =>
      obtain ⟨k, v⟩ := entry
      rw [List.filter_cons, Value.lookup?_cons]
      cases hk : isSection k with
      | true =>
          rw [if_neg (by simp [hk]), ih]
          by_cases hsame : k.same key = true
          · rw [← isSection_of_same hsame, hk, if_pos rfl, if_pos rfl]
          · rw [if_neg hsame]
      | false =>
          rw [if_pos (by simp [hk]), Value.lookup?_cons, ih]
          by_cases hsame : k.same key = true
          · rw [if_pos hsame, if_pos hsame, ← isSection_of_same hsame, hk, if_neg (by simp)]
          · rw [if_neg hsame, if_neg hsame]

end Sections

/-! ## Entries that belong to no section -/

/-- The entries of a table that belong to no section. -/
def others (entries : List (Value × Value)) : List (Value × Value) :=
  entries.filter fun (key, _) => !isSection key

lemma isSection_text {name : String} : isSection (.text name) = true ↔ name ∈ sectionNames := by
  simp [isSection, Value.same]

section Others

variable {name field : String} {value : Value} {entries : List (Value × Value)}

lemma others_insert_of_mem (h : name ∈ sectionNames) :
    others (Value.insert (.text name) value entries) = others entries := by
  induction entries with
  | nil => simp [others, Value.insert, isSection_text.mpr h]
  | cons entry rest ih =>
      obtain ⟨k, old⟩ := entry
      rw [Value.insert]
      split
      · rename_i hsame
        obtain rfl := Value.same_text_iff.mp hsame
        simp [others, isSection_text.mpr h]
      · simp only [others, List.filter_cons] at ih ⊢
        rw [ih]

lemma others_insert_of_not_mem (h : name ∉ sectionNames) :
    others (Value.insert (.text name) value entries) = Value.insert (.text name) value (others entries) := by
  have hname : isSection (.text name) = false := Bool.eq_false_iff.mpr (isSection_text.not.mpr h)
  induction entries with
  | nil => simp [others, Value.insert, hname]
  | cons entry rest ih =>
      obtain ⟨k, old⟩ := entry
      rw [Value.insert]
      split
      · rename_i hsame
        obtain rfl := Value.same_text_iff.mp hsame
        simp [others, hname, Value.insert, hsame]
      · rename_i hother
        simp only [others, List.filter_cons] at ih ⊢
        rw [ih]
        cases isSection k <;> simp [Value.insert, hother]

lemma setAt_eq : setAt value [name, field] entries =
    match Value.lookup? (.text name) entries with
    | none => Value.insert (.text name) (.table [(.text field, value)]) entries
    | some (.table inner) =>
      Value.insert (.text name) (.table (Value.insert (.text field) value inner)) entries
    | some _ => entries := by
  rw [setAt]
  · rfl
  · simp

lemma others_setAt_of_mem (h : name ∈ sectionNames) :
    others (setAt value [name, field] entries) = others entries := by
  rw [setAt_eq]
  split
  · exact others_insert_of_mem h
  · exact others_insert_of_mem h
  · rfl

lemma others_setAt_of_not_mem (h : name ∉ sectionNames) :
    others (setAt value [name, field] entries) = setAt value [name, field] (others entries) := by
  have hlookup : Value.lookup? (.text name) (others entries) = Value.lookup? (.text name) entries := by
    rw [others, lookup?_filter_not_isSection, if_neg (isSection_text.not.mpr h)]
  rw [setAt_eq, setAt_eq, hlookup]
  split
  · exact others_insert_of_not_mem h
  · exact others_insert_of_not_mem h
  · rfl

end Others

/-! ## Sections that are no tables -/

section Untabled

variable {name field : String} {value : Value} {entries : List (Value × Value)} {other : String}

/-- What is no table is kept. -/
lemma lookup?_setAt_of_not_tabled (h : ¬ Tabled entries other) :
    Value.lookup? (.text other) (setAt value [name, field] entries) = Value.lookup? (.text other) entries := by
  by_cases hname : other = name
  · subst hname
    rw [lookup?_setAt_self]
    cases hold : Value.lookup? (.text other) entries with
    | none => exact absurd (fun v hv => by simp [hold] at hv) h
    | some v =>
        cases v with
        | table fields => exact absurd (fun v hv => ⟨fields, by simpa [hold] using hv.symm⟩) h
        | _ => rfl
  · exact lookup?_setAt_of_ne fun heq => hname (Value.text.inj heq)

/-- What is no table has no fields. -/
lemma handed_of_not_tabled (h : ¬ Tabled entries name) : handed entries (name, field) = none := by
  rw [handed, sectionOf]
  split
  · rename_i fields hfields
    exact absurd (fun v hv => ⟨fields, by simpa [hfields] using hv.symm⟩) h
  · rfl

end Untabled

/-! ## Tables that are read alike -/

/-- In two tables the same is read for the fields of the sections. -/
structure FieldsAlike (s t : List (Value × Value)) : Prop where
  tabled : ∀ name ∈ sectionNames, Tabled s name ↔ Tabled t name
  untabled : ∀ name ∈ sectionNames, ¬ Tabled s name →
    Value.lookup? (.text name) s = Value.lookup? (.text name) t
  handed : ∀ place ∈ fieldPlaces, handed s place = handed t place

lemma FieldsAlike.refl (s : List (Value × Value)) : FieldsAlike s s :=
  ⟨fun _ _ => .rfl, fun _ _ _ => rfl, fun _ _ => rfl⟩

/-- Where the same is found, the same is read. -/
lemma SameSettings.fieldsAlike {s t : List (Value × Value)} (h : SameSettings s t) : FieldsAlike s t where
  tabled name _ := by
    rcases h (.text name) with heq | ⟨fields, fields', hs, ht, -⟩
    · rw [Tabled, Tabled, heq]
    · exact iff_of_true (fun v hv => ⟨fields, Option.some.inj (hv.symm.trans hs)⟩)
        fun v hv => ⟨fields', Option.some.inj (hv.symm.trans ht)⟩
  untabled name _ hnone := by
    rcases h (.text name) with heq | ⟨fields, fields', hs, ht, -⟩
    · exact heq
    · exact absurd (fun v hv => ⟨fields, Option.some.inj (hv.symm.trans hs)⟩) hnone
  handed place _ := by
    rw [handed, handed, sectionOf, sectionOf]
    rcases h (.text place.1) with heq | ⟨fields, fields', hs, ht, hsame⟩
    · rw [heq]
    · rw [hs, ht]
      exact hsame _

lemma SameSettings.others {s t : List (Value × Value)} (h : SameSettings s t) :
    SameSettings (others s) (others t) := by
  intro key
  rw [Settings.others, Settings.others, lookup?_filter_not_isSection, lookup?_filter_not_isSection]
  split
  · exact .inl rfl
  · exact h key

/-- In two tables the same is read. -/
structure ReadAlike (s t : List (Value × Value)) : Prop extends FieldsAlike s t where
  keys : hasTextKeys s = hasTextKeys t
  others : others s = others t

namespace ReadAlike

variable {s t : List (Value × Value)}

lemma refl (s : List (Value × Value)) : ReadAlike s s :=
  ⟨.refl s, rfl, rfl⟩

lemma setAt (h : ReadAlike s t) (value : Value) (name field : String) :
    ReadAlike (setAt value [name, field] s) (setAt value [name, field] t) where
  keys := by rw [hasTextKeys_setAt, hasTextKeys_setAt, h.keys]
  others := by
    by_cases hname : name ∈ sectionNames
    · rw [others_setAt_of_mem hname, others_setAt_of_mem hname, h.others]
    · rw [others_setAt_of_not_mem hname, others_setAt_of_not_mem hname, h.others]
  tabled other hother := by rw [tabled_setAt_iff, tabled_setAt_iff, h.tabled other hother]
  untabled other hother hnone := by
    rw [tabled_setAt_iff] at hnone
    rw [lookup?_setAt_of_not_tabled hnone, h.untabled other hother hnone,
      lookup?_setAt_of_not_tabled ((h.tabled other hother).not.mp hnone)]
  handed place hplace := by
    by_cases heq : place = (name, field)
    · subst heq
      have hiff := h.tabled name (fst_mem_of_mem_fieldPlaces hplace)
      by_cases htabled : Tabled s name
      · rw [handed_setAt_self htabled, handed_setAt_self (hiff.mp htabled)]
      · rw [handed_of_not_tabled (tabled_setAt_iff.not.mpr htabled),
          handed_of_not_tabled (tabled_setAt_iff.not.mpr (hiff.not.mp htabled))]
    · rw [handed_setAt_of_ne heq, handed_setAt_of_ne heq, h.handed place hplace]

/-- A field that a section does not have is not read. -/
lemma setAt_left (h : ReadAlike s t) (value : Value) {name field : String} (hname : name ∈ sectionNames)
    (hfield : (name, field) ∉ fieldPlaces) : ReadAlike (Settings.setAt value [name, field] s) t where
  keys := by rw [hasTextKeys_setAt, h.keys]
  others := by rw [others_setAt_of_mem hname, h.others]
  tabled other hother := by rw [tabled_setAt_iff, h.tabled other hother]
  untabled other hother hnone := by
    rw [tabled_setAt_iff] at hnone
    rw [lookup?_setAt_of_not_tabled hnone, h.untabled other hother hnone]
  handed place hplace := by
    rw [handed_setAt_of_ne fun heq => hfield (heq ▸ hplace), h.handed place hplace]

lemma overlayVariable (h : ReadAlike s t) (entry : String × String) :
    ReadAlike (overlayVariable s entry) (overlayVariable t entry) := by
  unfold Settings.overlayVariable
  split
  · exact h.setAt _ _ _
  · exact h

end ReadAlike

end CommandPalette.Settings
