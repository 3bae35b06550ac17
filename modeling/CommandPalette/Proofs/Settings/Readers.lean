import CommandPalette.Proofs.Environment
import CommandPalette.Proofs.Path
import CommandPalette.Proofs.Settings.Alike

/-!
# What is relied on

What is loaded depends on the readers, which may be any that keep to what is said about them.  Each theorem
says on which of these it relies.

* `Readers.ChecksFields`: the fields of the sections are checked one by one, and nothing else is read.
* `Readers.TakesTexts`: a field that holds a text takes texts, and nothing else.
* `Readers.TellsApart`: files can hold settings that are told from the usual ones.
* `Readers.BringsMissing`: a file of variables changes none that is there already.
-/

namespace CommandPalette.Settings

/-! ## Checks of a part of the settings -/

/-- Settings that set a single field. -/
def only (place : String × String) (value : Value) : List (Value × Value) :=
  table [(place.1, .table (table [(place.2, value)]))]

/-- What is wrong, whatever comes out where nothing is. -/
def Checked.forget {α : Type} (x : Checked α) : Checked Unit := x.map fun _ => ()

namespace Readers

variable (r : Readers)

/-- What a field comes to be: what its check makes of its value, or its default where it has none. -/
def Settles (home : String) (place : String × String) (value content : Option Value) : Prop :=
  match value with
  | none => content = ({} : Config).content? place
  | some v => ∃ checked, r.field home place v = .ok checked ∧ content = some checked

/-! ## Hypotheses -/

/-- The fields of the sections are checked one by one, and nothing else is read. -/
structure ChecksFields : Prop where
  /-- A section is a table, or there is none. -/
  sections {home : String} {entries : List (Value × Value)} {c : Config}
    (h : r.settings home entries = .ok c) : ∀ name ∈ sectionNames, Tabled entries name
  /-- Each field is what its check makes of its value, or its default. -/
  fields {home : String} {entries : List (Value × Value)} {c : Config}
    (h : r.settings home entries = .ok c) :
    ∀ place ∈ fieldPlaces, r.Settles home place (handed entries place) (c.content? place)
  /-- What else is in a section does not matter, nor does the order of a table.  Entries that belong to no
  section are kept as they are.  The home directory matters only to paths. -/
  alike {home home' : String} {s t : List (Value × Value)} (hs : hasTextKeys s = true)
    (ht : hasTextKeys t = true) (hfields : FieldsAlike s t) (hhome : Path.SameHome home home') :
    r.settings home' t = (r.settings home s).map fun c => { c with extras := others t }

variable {r} in
/-- Entries that belong to no section are kept as they are. -/
lemma ChecksFields.extras_eq (h : r.ChecksFields) {home : String} {entries : List (Value × Value)} {c : Config}
    (hentries : hasTextKeys entries = true) (hread : r.settings home entries = .ok c) :
    c.extras = others entries := by
  have hsame : r.settings home entries = _ := h.alike hentries hentries (.refl entries) fun _ => rfl
  rw [hread] at hsame
  exact congrArg Config.extras (Checked.ok.inj hsame)

variable {r} in
/-- Where the same is read, the same settings come of it. -/
lemma ChecksFields.settings_eq (h : r.ChecksFields) {home home' : String} {s t : List (Value × Value)}
    (hs : hasTextKeys s = true) (halike : ReadAlike s t) (hhome : Path.SameHome home home') :
    r.settings home s = r.settings home' t := by
  rw [h.alike hs (halike.keys ▸ hs) halike.toFieldsAlike hhome, ← halike.others]
  exact h.alike hs hs (.refl s) fun _ => rfl

end Readers

end CommandPalette.Settings
