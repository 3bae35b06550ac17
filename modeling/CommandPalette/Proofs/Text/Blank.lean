import CommandPalette.Text.Blank
import Mathlib.Data.List.DropRight
import Mathlib.Data.List.TakeWhile
import Mathlib.Tactic.Lemma

/-!
# Words and the blanks around them

Blanks only keep words apart (`words_append_cons`, `words_intercalate`).  At the ends of a text they keep
nothing apart, so trimming does not change the words (`words_trim`), and trimming once more changes nothing
(`trim_trim`).  The words together are the text without its blanks (`flatten_words`), so what has the same
words has the same other characters.
-/

namespace CommandPalette.Text

/-- The characters of a text other than blanks. -/
def solid (s : List Char) : List Char := s.filter fun c => !isBlank c

lemma solid_append (s r : List Char) : solid (s ++ r) = solid s ++ solid r :=
  List.filter_append s r

/-! ## A text is blanks, its trimmed form, and blanks -/

lemma trimLeft_spec (s : List Char) :
    ∃ front, s = front ++ trimLeft s ∧ ∀ c ∈ front, isBlank c = true :=
  ⟨s.takeWhile isBlank, (List.takeWhile_append_dropWhile).symm, fun _ => List.mem_takeWhile_imp⟩

lemma trimRight_spec (s : List Char) :
    ∃ back, s = trimRight s ++ back ∧ ∀ c ∈ back, isBlank c = true := by
  refine ⟨(s.reverse.takeWhile isBlank).reverse, ?_, ?_⟩
  · rw [trimRight, ← List.reverse_append, List.takeWhile_append_dropWhile, List.reverse_reverse]
  · intro c hc
    exact List.mem_takeWhile_imp (List.mem_reverse.mp hc)

lemma trimRight_append_of_blank (s : List Char) {r : List Char} (h : ∀ c ∈ r, isBlank c = true) :
    trimRight (s ++ r) = trimRight s := by
  rw [trimRight, trimRight, List.reverse_append,
    List.dropWhile_append_of_pos fun c hc => h c (List.mem_reverse.mp hc)]

/-- Blanks behind a text are trimmed off. -/
lemma trim_append_of_blank (s : List Char) {r : List Char} (h : ∀ c ∈ r, isBlank c = true) :
    trim (s ++ r) = trim s := by
  induction s with
  | nil =>
      have hr : r.dropWhile isBlank = [] := List.dropWhile_eq_nil_iff.mpr h
      rw [List.nil_append, trim, trim, trimLeft, hr]
      rfl
  | cons c rest ih =>
      rw [List.cons_append, trim, trim, trimLeft, trimLeft]
      cases hc : isBlank c with
      | true =>
          rw [List.dropWhile_cons_of_pos hc, List.dropWhile_cons_of_pos hc]
          exact ih
      | false =>
          rw [List.dropWhile_cons_of_neg (by simp [hc]), List.dropWhile_cons_of_neg (by simp [hc]),
            ← List.cons_append]
          exact trimRight_append_of_blank (c :: rest) h

lemma trim_sublist (s : List Char) : (trim s).Sublist s := by
  have hright : (trimRight (trimLeft s)).Sublist (trimLeft s) := by
    rw [← List.reverse_sublist, trimRight, List.reverse_reverse]
    exact List.dropWhile_sublist isBlank
  exact hright.trans (List.dropWhile_sublist isBlank)

/-- A text that has been trimmed has no blanks at its ends. -/
lemma trim_trim (s : List Char) : trim (trim s) = trim s := by
  have hleft : trimLeft (trim s) = trim s := by
    obtain ⟨back, hback, -⟩ := trimRight_spec (trimLeft s)
    rw [← trim] at hback
    cases h : trim s with
    | nil => rfl
    | cons c rest =>
        have hc := List.head?_dropWhile_not isBlank s
        rw [← trimLeft, hback, h, List.cons_append, List.head?_cons] at hc
        exact List.dropWhile_cons_of_neg (by simpa using hc)
  rw [trim, hleft, trim, trimRight, trimRight, List.reverse_reverse, List.dropWhile_idempotent]

/-! ## Words -/

lemma words_cons_of_blank {c : Char} (h : isBlank c = true) (s : List Char) :
    words (c :: s) = words s := by
  rw [words, if_pos h]

lemma words_append_of_blank_left {r : List Char} (h : ∀ c ∈ r, isBlank c = true) (s : List Char) :
    words (r ++ s) = words s := by
  induction r with
  | nil => rfl
  | cons c rest ih =>
      rw [List.cons_append, words_cons_of_blank (h c List.mem_cons_self)]
      exact ih fun d hd => h d (List.mem_cons_of_mem c hd)

lemma words_append_of_blank (s : List Char) {r : List Char} (h : ∀ c ∈ r, isBlank c = true) :
    words (s ++ r) = words s := by
  induction s with
  | nil => simpa [words] using words_append_of_blank_left h []
  | cons c rest ih =>
      -- What stands behind the last word is a blank or nothing, and both end the word.
      have hhead : (rest ++ r).head?.all isBlank = rest.head?.all isBlank := by
        cases rest with
        | cons d more => rfl
        | nil =>
            cases r with
            | nil => rfl
            | cons b more => simpa using h b List.mem_cons_self
      rw [List.cons_append, words, words, ih, hhead]

lemma prepend_append {c : Char} {apart : Bool} {ws : List (List Char)} (h : ws = [] → apart = true)
    (more : List (List Char)) : prepend c apart (ws ++ more) = prepend c apart ws ++ more := by
  cases ws with
  | nil =>
      rw [h rfl]
      cases more <;> rfl
  | cons word rest => cases apart <;> rfl

/-- A blank keeps the words before it apart from those behind it. -/
lemma words_append_cons {c : Char} (h : isBlank c = true) (s r : List Char) :
    words (s ++ c :: r) = words s ++ words r := by
  induction s with
  | nil => exact words_cons_of_blank h r
  | cons d rest ih =>
      have hhead : (rest ++ c :: r).head?.all isBlank = rest.head?.all isBlank := by
        cases rest with
        | nil => exact h
        | cons x more => rfl
      rw [List.cons_append, words, words, ih, hhead]
      split
      · rfl
      · refine prepend_append (fun hnil => ?_) (words r)
        cases rest with
        | nil => rfl
        | cons x more =>
            -- What has no words is blank from its first character on.
            rw [words] at hnil
            split at hnil
            · assumption
            · exact absurd hnil (prepend_ne_nil _ _ _)

/-- Blanks between texts keep their words apart. -/
lemma words_intercalate {c : Char} (h : isBlank c = true) (texts : List (List Char)) :
    words ([c].intercalate texts) = texts.flatMap words := by
  induction texts with
  | nil => rfl
  | cons s rest ih =>
      cases rest with
      | nil => rw [List.intercalate_singleton, List.flatMap_cons, List.flatMap_nil, List.append_nil]
      | cons r more =>
          rw [List.intercalate_cons_cons, List.append_assoc, List.singleton_append, words_append_cons h, ih]
          rfl

/-- A text without a blank is one word. -/
lemma words_of_solid {s : List Char} (hne : s ≠ []) (h : ∀ c ∈ s, isBlank c = false) :
    words s = [s] := by
  induction s with
  | nil => exact absurd rfl hne
  | cons c rest ih =>
      rw [words, if_neg (by simp [h c List.mem_cons_self])]
      cases rest with
      | nil => rfl
      | cons d more =>
          have hmore := fun x hx => h x (List.mem_cons_of_mem c hx)
          have hd : isBlank d = false := hmore d List.mem_cons_self
          rw [ih (List.cons_ne_nil d more) hmore, List.head?_cons, Option.all_some, hd]
          rfl

/-- **Trimming a text does not change its words.** -/
lemma words_trim (s : List Char) : words (trim s) = words s := by
  obtain ⟨front, hfront, hfrontBlank⟩ := trimLeft_spec s
  obtain ⟨back, hback, hbackBlank⟩ := trimRight_spec (trimLeft s)
  calc words (trim s) = words (trim s ++ back) := (words_append_of_blank _ hbackBlank).symm
    _ = words (trimLeft s) := by rw [trim, ← hback]
    _ = words (front ++ trimLeft s) := (words_append_of_blank_left hfrontBlank _).symm
    _ = words s := by rw [← hfront]

lemma flatten_prepend (c : Char) (apart : Bool) (ws : List (List Char)) :
    (prepend c apart ws).flatten = c :: ws.flatten := by
  cases ws with
  | nil => rfl
  | cons word rest => cases apart <;> rfl

/-- **The words of a text together are its characters other than blanks.** -/
lemma flatten_words (s : List Char) : (words s).flatten = solid s := by
  induction s with
  | nil => rfl
  | cons c rest ih =>
      rw [words, solid, List.filter_cons, ← solid]
      cases hc : isBlank c with
      | true => simpa [hc] using ih
      | false =>
          rw [if_neg (by simp), flatten_prepend, ih]
          rfl

/-- Trimming keeps all characters other than blanks. -/
lemma solid_trim (s : List Char) : solid (trim s) = solid s := by
  rw [← flatten_words, words_trim, flatten_words]

end CommandPalette.Text
