import CommandPalette.Value.Basic
import Mathlib.Tactic.Lemma

/-!
# Keys of tables

Nothing but a text counts as the same text (`same_text_iff`).  So where keys are texts a table is a map:
what is written under a text is read back (`lookup?_insert_self`), nothing else is touched
(`lookup?_insert_of_ne`), and writes under different texts may change places (`lookup?_insert_comm`).
-/

namespace CommandPalette.Value

lemma same_text_iff {v : Value} {s : String} : v.same (.text s) = true ↔ v = .text s := by
  cases v <;> simp [same]

lemma text_same_iff {v : Value} {s : String} : (text s).same v = true ↔ v = .text s := by
  cases v with
  | text t =>
      rw [same, beq_iff_eq, text.injEq]
      exact eq_comm
  | _ => simp [same]

/-- Nothing but a text counts as the same text. -/
lemma eq_text_iff_of_alike {v w : Value} (h : v = w ∨ w.same v = true) (s : String) :
    v = .text s ↔ w = .text s := by
  rcases h with rfl | h
  · rfl
  · constructor
    · rintro rfl
      exact same_text_iff.mp h
    · rintro rfl
      exact text_same_iff.mp h

/-! ## Reading after writing -/

lemma lookup?_cons (key k v : Value) (rest : List (Value × Value)) :
    lookup? key ((k, v) :: rest) = if k.same key = true then some v else lookup? key rest := by
  by_cases h : k.same key = true <;> simp [lookup?, h]

lemma lookup?_insert_self (name : String) (value : Value) (entries : List (Value × Value)) :
    lookup? (.text name) (insert (.text name) value entries) = some value := by
  induction entries with
  | nil => rw [insert, lookup?_cons, if_pos (same_text_iff.mpr rfl)]
  | cons entry rest ih =>
      obtain ⟨k, v⟩ := entry
      rw [insert]
      split
      · rename_i hsame
        rw [lookup?_cons, if_pos hsame]
      · rename_i hother
        rw [lookup?_cons, if_neg hother, ih]

lemma lookup?_insert_of_ne {name : String} {key : Value} (h : key ≠ .text name) (value : Value)
    (entries : List (Value × Value)) :
    lookup? key (insert (.text name) value entries) = lookup? key entries := by
  induction entries with
  | nil =>
      rw [insert, lookup?_cons, if_neg fun hsame => h (text_same_iff.mp hsame)]
  | cons entry rest ih =>
      obtain ⟨k, v⟩ := entry
      rw [insert]
      split
      · rename_i hsame
        obtain rfl := same_text_iff.mp hsame
        have hother : ¬ (text name).same key = true := fun hkey => h (text_same_iff.mp hkey)
        rw [lookup?_cons, lookup?_cons, if_neg hother, if_neg hother]
      · rw [lookup?_cons, lookup?_cons, ih]

/-- What is found after a write depends only on what was found before it. -/
lemma lookup?_insert_congr {s t : List (Value × Value)} (h : ∀ key, lookup? key s = lookup? key t)
    (name : String) (value key : Value) :
    lookup? key (insert (.text name) value s) = lookup? key (insert (.text name) value t) := by
  by_cases hkey : key = .text name
  · rw [hkey, lookup?_insert_self, lookup?_insert_self]
  · rw [lookup?_insert_of_ne hkey, lookup?_insert_of_ne hkey, h]

/-- Writes under different texts may change places. -/
lemma lookup?_insert_comm {first second : String} (h : first ≠ second) (v w : Value)
    (entries : List (Value × Value)) (key : Value) :
    lookup? key (insert (.text second) w (insert (.text first) v entries)) =
      lookup? key (insert (.text first) v (insert (.text second) w entries)) := by
  have hne : text first ≠ text second := fun heq => h (text.inj heq)
  by_cases hfirst : key = .text first
  · subst hfirst
    rw [lookup?_insert_of_ne hne, lookup?_insert_self, lookup?_insert_self]
  · rw [lookup?_insert_of_ne hfirst]
    by_cases hsecond : key = .text second
    · subst hsecond
      rw [lookup?_insert_self, lookup?_insert_self]
    · rw [lookup?_insert_of_ne hsecond, lookup?_insert_of_ne hsecond, lookup?_insert_of_ne hfirst]

end CommandPalette.Value
