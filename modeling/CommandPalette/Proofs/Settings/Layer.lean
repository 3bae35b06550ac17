import CommandPalette.Proofs.Value
import CommandPalette.Settings.Layer
import Mathlib.Data.List.Basic

/-!
# Variables over sections

A variable that holds a setting is laid over a field of a section.  Its name in lower case determines the
section and the field (`lower_of_settingOf?`), so variables whose names stay different in lower case set
different fields.  A section that is no table keeps its variables out, but then it is still no table
(`tabled_overlayVariables_iff`), and is refused when it is read.

* `handed`: the value of a field, as it is handed on to be checked.
* `Apart`, `NamesApart`: the variables set different fields, or have different names in lower case.
* `SameSettings`: the same is found in two tables.
* **`handed_overlayVariables_of_mem`**: a variable wins over what was there, and
  `handed_overlayVariables_of_forall`: what no variable sets stays.
* **`sameSettings_overlayVariables_of_perm`**: the variables may come in any order.
-/

namespace CommandPalette.Settings

open CommandPalette.Text

/-! ## Sections and their fields -/

/-- What a table has for a section. -/
def sectionOf (entries : List (Value × Value)) (name : String) : List (Value × Value) :=
  match Value.lookup? (.text name) entries with
  | some (.table fields) => fields
  | _ => []

/-- The value that a table has for a field of a section. -/
def handed (entries : List (Value × Value)) (place : String × String) : Option Value :=
  Value.lookup? (.text place.2) (sectionOf entries place.1)

/-- Under a name stands a table, if anything does. -/
def Tabled (entries : List (Value × Value)) (name : String) : Prop :=
  ∀ v, Value.lookup? (.text name) entries = some v → ∃ fields, v = .table fields

/-- A section after a field of it was set.  A section that is missing is made; what is no table stays. -/
def setField? (field : String) (value : Value) : Option Value → Option Value
  | none => some (.table [(.text field, value)])
  | some (.table fields) => some (.table (Value.insert (.text field) value fields))
  | some v => some v

section SetAt

variable {value : Value} {name field : String} {entries : List (Value × Value)}

lemma lookup?_setAt_self :
    Value.lookup? (.text name) (setAt value [name, field] entries) =
      setField? field value (Value.lookup? (.text name) entries) := by
  rw [setAt]
  · split
    · rename_i hnone
      rw [Value.lookup?_insert_self, hnone]
      rfl
    · rename_i inner hinner
      rw [Value.lookup?_insert_self, hinner]
      rfl
    · rename_i v hv hother
      rw [hother]
      cases v with
      | table inner => exact absurd rfl (hv inner)
      | _ => rfl
  · simp

lemma lookup?_setAt_of_ne {key : Value} (h : key ≠ .text name) :
    Value.lookup? key (setAt value [name, field] entries) = Value.lookup? key entries := by
  rw [setAt]
  · split
    · exact Value.lookup?_insert_of_ne h _ _
    · exact Value.lookup?_insert_of_ne h _ _
    · rfl
  · simp

lemma handed_setAt_self (h : Tabled entries name) :
    handed (setAt value [name, field] entries) (name, field) = some value := by
  rw [handed, sectionOf, lookup?_setAt_self]
  cases hold : Value.lookup? (.text name) entries with
  | none => exact Value.lookup?_insert_self field value []
  | some v =>
      obtain ⟨fields, rfl⟩ := h v hold
      exact Value.lookup?_insert_self field value fields

lemma handed_setAt_of_ne {place : String × String} (h : place ≠ (name, field)) :
    handed (setAt value [name, field] entries) place = handed entries place := by
  by_cases hname : place.1 = name
  · have hfield : Value.text place.2 ≠ .text field := by
      rintro hfield
      exact h (Prod.ext hname (Value.text.inj hfield))
    rw [handed, handed, sectionOf, sectionOf, hname, lookup?_setAt_self]
    cases Value.lookup? (.text name) entries with
    | none => exact Value.lookup?_insert_of_ne hfield value []
    | some v =>
        cases v with
        | table fields => exact Value.lookup?_insert_of_ne hfield value fields
        | _ => rfl
  · have hkey : Value.text place.1 ≠ .text name := fun heq => hname (Value.text.inj heq)
    rw [handed, handed, sectionOf, sectionOf, lookup?_setAt_of_ne hkey]

lemma tabled_setAt_iff {other : String} :
    Tabled (setAt value [name, field] entries) other ↔ Tabled entries other := by
  by_cases hother : other = name
  · subst hother
    rw [Tabled, Tabled, lookup?_setAt_self]
    cases Value.lookup? (.text other) entries with
    | none => simp [setField?]
    | some v => cases v <;> simp [setField?]
  · have hkey : Value.text other ≠ .text name := fun heq => hother (Value.text.inj heq)
    rw [Tabled, Tabled, lookup?_setAt_of_ne hkey]

end SetAt

/-! ## Variables -/

/-- A table after one variable was laid over it. -/
def overlayVariable (entries : List (Value × Value)) (entry : String × String) :
    List (Value × Value) :=
  match settingOf? entry.1 with
  | some place => setAt (ofVariable entry.2) [place.1, place.2] entries
  | none => entries

lemma overlayVariables_cons (entry : String × String) (environment : List (String × String))
    (entries : List (Value × Value)) :
    overlayVariables (entry :: environment) entries =
      overlayVariables environment (overlayVariable entries entry) := by
  obtain ⟨name, text⟩ := entry
  simp only [overlayVariables, List.foldl_cons, overlayVariable]
  cases settingOf? name <;> rfl

lemma overlayVariable_of_some {entry : String × String} {name field : String}
    (h : settingOf? entry.1 = some (name, field)) (entries : List (Value × Value)) :
    overlayVariable entries entry = setAt (ofVariable entry.2) [name, field] entries := by
  rw [overlayVariable, h]

lemma tabled_overlayVariable_iff {entry : String × String} {entries : List (Value × Value)}
    {name : String} : Tabled (overlayVariable entries entry) name ↔ Tabled entries name := by
  rw [overlayVariable]
  split
  · exact tabled_setAt_iff
  · rfl

lemma tabled_overlayVariables_iff {environment : List (String × String)}
    {entries : List (Value × Value)} {name : String} :
    Tabled (overlayVariables environment entries) name ↔ Tabled entries name := by
  induction environment generalizing entries with
  | nil => rfl
  | cons entry rest ih =>
      rw [overlayVariables_cons, ih, tabled_overlayVariable_iff]

/-- A setting that no variable sets is as it was. -/
lemma handed_overlayVariables_of_forall {environment : List (String × String)} {place : String × String}
    (h : ∀ e ∈ environment, settingOf? e.1 ≠ some place) (entries : List (Value × Value)) :
    handed (overlayVariables environment entries) place = handed entries place := by
  induction environment generalizing entries with
  | nil => rfl
  | cons entry rest ih =>
      obtain ⟨hfirst, hrest⟩ := List.forall_mem_cons.mp h
      rw [overlayVariables_cons, ih hrest, overlayVariable]
      split
      · rename_i other hother
        exact handed_setAt_of_ne fun heq => hfirst (heq ▸ hother)
      · rfl

/-- Variables that set something set different settings. -/
def Apart (environment : List (String × String)) : Prop :=
  environment.Pairwise fun a b => ∀ place, settingOf? a.1 = some place → settingOf? b.1 ≠ some place

/-- **A setting that a variable sets has the value of the variable.** -/
lemma handed_overlayVariables_of_mem {environment : List (String × String)} (hapart : Apart environment)
    {entry : String × String} (hmem : entry ∈ environment) {place : String × String}
    (hplace : settingOf? entry.1 = some place) {entries : List (Value × Value)}
    (htabled : Tabled entries place.1) :
    handed (overlayVariables environment entries) place = some (ofVariable entry.2) := by
  induction environment generalizing entries with
  | nil => cases hmem
  | cons first rest ih =>
      obtain ⟨hfirst, hrest⟩ := List.pairwise_cons.mp hapart
      rw [overlayVariables_cons]
      rcases List.mem_cons.mp hmem with rfl | hlater
      · rw [handed_overlayVariables_of_forall fun e he => hfirst e he place hplace,
          overlayVariable_of_some hplace]
        exact handed_setAt_self htabled
      · exact ih hrest hlater (tabled_overlayVariable_iff.mpr htabled)

/-! ## Names of variables -/

lemma lowerFrom_cons_of_ascii {c : Char} (h : c.toNat < 0x80) (afterLetter : Bool) (rest : List Char) :
    Case.lowerFrom afterLetter (c :: rest) =
      c.toLower :: Case.lowerFrom (if Case.isIgnorable c then afterLetter else Case.isCased c) rest := by
  have hsigma : c.toNat ≠ 0x3a3 := by omega
  rw [Case.lowerFrom, if_neg hsigma, Case.lowerLetter, if_pos h]
  rfl

/-- An underscore ends a word, so what stands before it does not matter for how what follows is written
in lower case. -/
lemma lowerFrom_append_underscore {word : List Char} (h : ∀ c ∈ word, c.toNat < 0x80)
    (afterLetter : Bool) (rest : List Char) :
    Case.lowerFrom afterLetter (word ++ '_' :: rest) =
      word.map Char.toLower ++ '_' :: Case.lowerFrom false rest := by
  induction word generalizing afterLetter with
  | nil =>
      have hignorable : Case.isIgnorable '_' = false := by
        rw [Case.isIgnorable, Case.within, ← Array.any_toList]
        decide +kernel
      have hcased : Case.isCased '_' = false := by
        rw [Case.isCased, Case.within, ← Array.any_toList]
        decide +kernel
      rw [List.nil_append, lowerFrom_cons_of_ascii (by decide), hignorable, hcased]
      rfl
  | cons c word ih =>
      obtain ⟨hc, hword⟩ := List.forall_mem_cons.mp h
      rw [List.cons_append, lowerFrom_cons_of_ascii hc, ih hword]
      rfl

lemma lower_append_underscore {word : List Char} (h : ∀ c ∈ word, c.toNat < 0x80) (rest : List Char) :
    (Case.lower (String.ofList (word ++ '_' :: rest))).toList =
      word.map Char.toLower ++ '_' :: (Case.lower (String.ofList rest)).toList := by
  have hword : word.all (·.toNat < 0x80) = true := by simpa using h
  have hall : (word ++ '_' :: rest).all (·.toNat < 0x80) = rest.all (·.toNat < 0x80) := by
    rw [List.all_append, hword, Bool.true_and, List.all_cons]
    rfl
  rw [Case.lower, Case.lower, String.toList_ofList, String.toList_ofList, hall]
  split
  · simp
  · rw [String.toList_ofList, String.toList_ofList, lowerFrom_append_underscore h]

/-- A text is its first word, the character after it and the rest. -/
lemma eq_takeWhile_append {s : List Char} {c : Char} (h : (s.dropWhile (· != c)).drop 1 ≠ []) :
    s = s.takeWhile (· != c) ++ c :: (s.dropWhile (· != c)).drop 1 := by
  cases hrest : s.dropWhile (· != c) with
  | nil => simp [hrest] at h
  | cons d rest =>
      have hd : d = c := by
        have := List.head?_dropWhile_not (· != c) s
        simpa [hrest] using this
      subst hd
      rw [List.drop_one, List.tail_cons, ← hrest, List.takeWhile_append_dropWhile]

/-- In lower case a variable that sets something is called by the lead, the section and the field. -/
lemma lower_of_settingOf? {entry : String} {place : String × String}
    (h : settingOf? entry = some place) :
    (Case.lower entry).toList =
      "omnicli_".toList ++ place.1.toList ++ '_' :: place.2.toList := by
  rw [settingOf?] at h
  split at h
  · cases h
  rename_i hother
  obtain ⟨rest, hrest⟩ : variableLead.toList <+: entry.toList := by
    rw [← String.startsWith_string_iff]
    by_contra hlead
    exact hother (by simp [String.isPrefixOf, hlead])
  have hdrop : entry.toList.drop variableLead.length = rest := by
    rw [← hrest, ← String.length_toList, List.drop_left]
  have hvariable : entry = String.ofList ("OMNICLI".toList ++ '_' :: rest) := by
    rw [← String.ofList_toList (s := entry), ← hrest]
    rfl
  rw [hdrop] at h
  rw [hvariable, lower_append_underscore (by simp)]
  generalize (Case.lower (String.ofList rest)).toList = words at h ⊢
  dsimp only at h
  split at h
  · cases h
  · rename_i hempty
    simp only [Bool.or_eq_true, List.isEmpty_iff, not_or] at hempty
    obtain rfl := Option.some.inj h
    have hwords := eq_takeWhile_append hempty.2
    simp only [String.toList_ofList, List.append_assoc, ← hwords]
    rfl

/-- Variables that hold settings have different names, also in lower case. -/
def NamesApart (environment : List (String × String)) : Prop :=
  ((environment.filter fun e => (settingOf? e.1).isSome).map fun e => Case.lower e.1).Nodup

instance (environment : List (String × String)) : Decidable (NamesApart environment) :=
  inferInstanceAs (Decidable (List.Nodup _))

lemma apart_of_namesApart {environment : List (String × String)} (h : NamesApart environment) :
    Apart environment := by
  rw [NamesApart, List.Nodup, List.pairwise_map, List.pairwise_filter] at h
  refine h.imp fun {a b} hab place ha hb => hab (by simp [ha]) (by simp [hb]) ?_
  rw [← String.toList_inj, lower_of_settingOf? ha, lower_of_settingOf? hb]

/-! ## The order of the variables -/

/-- Two values are one value, or tables in which the same is found. -/
def Alike (a b : Option Value) : Prop :=
  a = b ∨ ∃ s t, a = some (.table s) ∧ b = some (.table t) ∧
    ∀ key, Value.lookup? key s = Value.lookup? key t

/-- In two tables the same is found, but for the order of what stands in their sections. -/
def SameSettings (s t : List (Value × Value)) : Prop :=
  ∀ key, Alike (Value.lookup? key s) (Value.lookup? key t)

lemma Alike.trans {a b c : Option Value} (hab : Alike a b) (hbc : Alike b c) : Alike a c := by
  rcases hab with rfl | ⟨s, t, rfl, rfl, hst⟩
  · exact hbc
  · rcases hbc with rfl | ⟨t', u, ht, rfl, htu⟩
    · exact .inr ⟨s, t, rfl, rfl, hst⟩
    · obtain rfl : t = t' := Value.table.inj (Option.some.inj ht)
      exact .inr ⟨s, u, rfl, rfl, fun key => (hst key).trans (htu key)⟩

lemma SameSettings.trans {s t u : List (Value × Value)} (hst : SameSettings s t)
    (htu : SameSettings t u) : SameSettings s u :=
  fun key => (hst key).trans (htu key)

lemma SameSettings.refl (s : List (Value × Value)) : SameSettings s s := fun _ => .inl rfl

lemma Alike.setField? {a b : Option Value} (h : Alike a b) (field : String) (value : Value) :
    Alike (setField? field value a) (setField? field value b) := by
  rcases h with rfl | ⟨s, t, rfl, rfl, hst⟩
  · exact .inl rfl
  · exact .inr ⟨_, _, rfl, rfl, Value.lookup?_insert_congr hst field value⟩

/-- Writes to different fields of a section may change places. -/
lemma setField?_comm {first second : String} (h : first ≠ second) (v w : Value) (old : Option Value) :
    Alike (setField? second w (setField? first v old)) (setField? first v (setField? second w old)) := by
  cases old with
  | none => exact .inr ⟨_, _, rfl, rfl, Value.lookup?_insert_comm h v w []⟩
  | some old =>
      cases old with
      | table fields => exact .inr ⟨_, _, rfl, rfl, Value.lookup?_insert_comm h v w fields⟩
      | _ => exact .inl rfl

lemma SameSettings.setAt {s t : List (Value × Value)} (h : SameSettings s t) (value : Value)
    (name field : String) : SameSettings (setAt value [name, field] s) (setAt value [name, field] t) := by
  intro key
  by_cases hkey : key = .text name
  · rw [hkey, lookup?_setAt_self, lookup?_setAt_self]
    exact (h _).setField? field value
  · rw [lookup?_setAt_of_ne hkey, lookup?_setAt_of_ne hkey]
    exact h key

/-- Writes to different settings may change places. -/
lemma setAt_comm {first second : String × String} (h : first ≠ second) (v w : Value)
    (entries : List (Value × Value)) :
    SameSettings (setAt w [second.1, second.2] (setAt v [first.1, first.2] entries))
      (setAt v [first.1, first.2] (setAt w [second.1, second.2] entries)) := by
  intro key
  by_cases hsection : first.1 = second.1
  · have hfield : first.2 ≠ second.2 := fun heq => h (Prod.ext hsection heq)
    rw [hsection]
    by_cases hkey : key = .text second.1
    · rw [hkey]
      simp only [lookup?_setAt_self]
      exact setField?_comm hfield v w _
    · simp only [lookup?_setAt_of_ne hkey]
      exact .inl rfl
  · -- Each write is seen in its own section only.
    have hne : Value.text first.1 ≠ .text second.1 := fun heq => hsection (Value.text.inj heq)
    left
    by_cases hfirst : key = .text first.1
    · rw [hfirst, lookup?_setAt_of_ne hne, lookup?_setAt_self, lookup?_setAt_self,
        lookup?_setAt_of_ne hne]
    · rw [lookup?_setAt_of_ne hfirst]
      by_cases hsecond : key = .text second.1
      · rw [hsecond, lookup?_setAt_self, lookup?_setAt_self, lookup?_setAt_of_ne hne.symm]
      · rw [lookup?_setAt_of_ne hsecond, lookup?_setAt_of_ne hsecond, lookup?_setAt_of_ne hfirst]

lemma SameSettings.overlayVariable {s t : List (Value × Value)} (h : SameSettings s t)
    (entry : String × String) :
    SameSettings (overlayVariable s entry) (overlayVariable t entry) := by
  unfold Settings.overlayVariable
  split
  · exact h.setAt _ _ _
  · exact h

lemma SameSettings.overlayVariables {s t : List (Value × Value)} (h : SameSettings s t)
    (environment : List (String × String)) :
    SameSettings (overlayVariables environment s) (overlayVariables environment t) := by
  induction environment generalizing s t with
  | nil => exact h
  | cons entry rest ih =>
      rw [overlayVariables_cons, overlayVariables_cons]
      exact ih (h.overlayVariable entry)

/-- Variables that set different settings may change places. -/
lemma overlayVariable_comm {a b : String × String}
    (h : ∀ place, settingOf? a.1 = some place → settingOf? b.1 ≠ some place)
    (entries : List (Value × Value)) :
    SameSettings (overlayVariable (overlayVariable entries a) b)
      (overlayVariable (overlayVariable entries b) a) := by
  cases ha : settingOf? a.1 with
  | none =>
      simp only [overlayVariable, ha]
      exact .refl _
  | some first =>
      cases hb : settingOf? b.1 with
      | none =>
          simp only [overlayVariable, ha, hb]
          exact .refl _
      | some second =>
          have hne : first ≠ second := by
            rintro rfl
            exact h first ha hb
          simp only [overlayVariable, ha, hb]
          exact setAt_comm hne _ _ _

/-- **The order of the variables does not matter**, if they set different settings. -/
lemma sameSettings_overlayVariables_of_perm {environment other : List (String × String)}
    (h : environment.Perm other) (hapart : Apart environment) (entries : List (Value × Value)) :
    SameSettings (overlayVariables environment entries) (overlayVariables other entries) := by
  -- The induction is on the way from one order to the other, by exchanges of neighbours.
  induction h generalizing entries with
  | nil => exact .refl entries
  | cons entry _ ih =>
      rw [overlayVariables_cons, overlayVariables_cons]
      exact ih (List.pairwise_cons.mp hapart).2 _
  | swap a b rest =>
      have hab := (List.pairwise_cons.mp hapart).1 a List.mem_cons_self
      simp only [overlayVariables_cons]
      exact (overlayVariable_comm hab entries).overlayVariables rest
  | trans hfirst _ ihfirst ihsecond =>
      have hsymm {a b : String × String}
          (h : ∀ place, settingOf? a.1 = some place → settingOf? b.1 ≠ some place) (place) :
          settingOf? b.1 = some place → settingOf? a.1 ≠ some place :=
        fun hb ha => h place ha hb
      exact (ihfirst hapart entries).trans
        (ihsecond ((hfirst.pairwise_iff hsymm).mp hapart) entries)

end CommandPalette.Settings
