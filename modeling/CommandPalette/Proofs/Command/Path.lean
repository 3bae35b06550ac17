import CommandPalette.Command.Name
import CommandPalette.Proofs.Text.Blank
import Mathlib.Data.List.Basic
import Mathlib.Tactic.Lemma

/-!
# Paths determine their names

A path is a list of words joined by single spaces, and the table of commands is searched by paths
alone.  That this loses nothing rests on one fact: no word holds a blank, so `splitPath` cuts a path
where `joinPath` joined it (`splitPath_joinPath`), and two lists of words with one path are equal
(`joinPath_inj`).

* `IsWord`: a text that is not empty and holds no blank.  The tokens of a line are words
  (`isWord_of_mem_tokens`), and the names of commands are just the words (`isName_iff`).
* `extendPath_joinPath`: a path grows by one name at its end.
* `tokens_joinPath`: a path that is typed as a line is read name by name.
-/

namespace CommandPalette.Command

open CommandPalette.Text

/-- A text that is not empty and holds no blank. -/
def IsWord (s : String) : Prop := s ≠ "" ∧ ∀ c ∈ s.toList, isBlank c = false

lemma IsWord.space_not_mem {s : String} (h : IsWord s) : ' ' ∉ s.toList := by
  intro hmem
  exact absurd (h.2 ' ' hmem) (by decide)

/-- The tokens of a line are words. -/
lemma isWord_of_mem_tokens {text s : String} (h : s ∈ tokens text) : IsWord s := by
  obtain ⟨w, hw, rfl⟩ := List.mem_map.mp h
  obtain ⟨hne, hblank⟩ := ne_nil_of_mem_words hw
  refine ⟨?_, by simpa using hblank⟩
  intro hs
  exact hne (by simpa using congrArg String.toList hs)

lemma isWord_of_mem_take {text s : String} {n : ℕ} (h : s ∈ (tokens text).take n) : IsWord s :=
  isWord_of_mem_tokens (List.mem_of_mem_take h)

lemma take_tokens_ne_nil {text : String} {n : ℕ} (hpos : 1 ≤ n) (hle : n ≤ (tokens text).length) :
    (tokens text).take n ≠ [] := by
  intro hnil
  have hlength := congrArg List.length hnil
  rw [List.length_take, List.length_nil] at hlength
  omega

/-! ## Names are words -/

lemma all_blank_of_words_eq_nil {s : List Char} (h : words s = []) : ∀ c ∈ s, isBlank c = true := by
  induction s with
  | nil => simp
  | cons c rest ih =>
      rw [words] at h
      split at h
      · rename_i hc
        intro d hd
        rcases List.mem_cons.mp hd with rfl | hd
        · exact hc
        · exact ih h d hd
      · exact absurd h (prepend_ne_nil _ _ _)

/-- A text that is one word, up to blanks behind it, and does not start with a blank. -/
lemma words_eq_singleton {s w : List Char} (h : words s = [w]) (hhead : s.head?.all isBlank = false) :
    ∃ rest, s = w ++ rest ∧ (∀ c ∈ w, isBlank c = false) ∧ ∀ c ∈ rest, isBlank c = true := by
  induction s generalizing w with
  | nil => simp [words] at h
  | cons c rest ih =>
      have hc : isBlank c = false := by simpa using hhead
      rw [words, if_neg (by simp [hc])] at h
      cases hwords : words rest with
      | nil =>
          rw [hwords, prepend] at h
          obtain rfl : [c] = w := by simpa using h
          exact ⟨rest, rfl, by simpa using hc, all_blank_of_words_eq_nil hwords⟩
      | cons v vs =>
          rw [hwords, prepend] at h
          split at h
          · simp at h
          · rename_i hapart
            obtain ⟨rfl, rfl⟩ : c :: v = w ∧ vs = [] := by simpa using h
            obtain ⟨tail, rfl, hv, htail⟩ := ih hwords (by simpa using hapart)
            refine ⟨tail, rfl, ?_, htail⟩
            intro d hd
            rcases List.mem_cons.mp hd with rfl | hd
            · exact hc
            · exact hv d hd

lemma dropWhile_eq_self_of_length {p : Char → Bool} {s : List Char}
    (h : s.length ≤ (s.dropWhile p).length) : s.dropWhile p = s :=
  (List.dropWhile_sublist p).eq_of_length_le h

/-- Trimming leaves a text as it is only if neither end is blank. -/
lemma ends_of_trim_eq {s : List Char} (h : trim s = s) :
    s.dropWhile isBlank = s ∧ s.reverse.dropWhile isBlank = s.reverse := by
  have hlength := congrArg List.length h
  simp only [trim, trimRight, trimLeft, List.length_reverse] at hlength
  have hleft : s.dropWhile isBlank = s := by
    apply dropWhile_eq_self_of_length
    have := (List.dropWhile_sublist (l := (s.dropWhile isBlank).reverse) isBlank).length_le
    rw [List.length_reverse] at this
    omega
  refine ⟨hleft, ?_⟩
  rw [hleft] at hlength
  apply dropWhile_eq_self_of_length
  rw [List.length_reverse]
  omega

/-- Whatever passes the check of names is a word. -/
lemma isWord_of_isName {s : String} (h : isName s = true) : IsWord s := by
  simp only [isName, Bool.and_eq_true, Bool.not_eq_true', beq_iff_eq] at h
  obtain ⟨⟨hne, hstrip⟩, hone⟩ := h
  have htrim : trim s.toList = s.toList := by simpa [strip] using congrArg String.toList hstrip
  obtain ⟨hfront, hback⟩ := ends_of_trim_eq htrim
  have hs : s ≠ "" := by
    rintro rfl
    simp at hne
  obtain ⟨w, hw⟩ : ∃ w, words s.toList = [w] := by
    rw [tokens, List.length_map] at hone
    exact List.length_eq_one_iff.mp hone
  have hhead : s.toList.head?.all isBlank = false := by
    cases hl : s.toList with
    | nil => simp [words, hl] at hw
    | cons c rest =>
        rw [hl] at hfront
        by_contra hc
        have hlength := congrArg List.length hfront
        rw [List.dropWhile_cons_of_pos (by simpa using hc)] at hlength
        have := length_dropWhile_le isBlank rest
        simp only [List.length_cons] at hlength
        omega
  obtain ⟨rest, hsplit, hnonblank, hblank⟩ := words_eq_singleton hw hhead
  refine ⟨hs, ?_⟩
  -- a blank behind the word would be the last character, and trimming would have taken it
  cases hr : rest.reverse with
  | nil =>
      obtain rfl : rest = [] := by simpa using hr
      rw [hsplit, List.append_nil]
      exact hnonblank
  | cons c more =>
      exfalso
      have hc : isBlank c = true := by
        apply hblank
        rw [← List.mem_reverse, hr]
        exact List.mem_cons_self
      rw [hsplit, List.reverse_append, hr, List.cons_append,
        List.dropWhile_cons_of_pos hc] at hback
      have hlength := congrArg List.length hback
      have := length_dropWhile_le isBlank (more ++ w.reverse)
      simp only [List.length_cons] at hlength
      omega

/-! ## Joining and splitting -/

@[simp] lemma joinPath_singleton (s : String) : joinPath [s] = s :=
  String.intercalate_singleton

lemma joinPath_cons (s : String) {names : List String} (h : names ≠ []) :
    joinPath (s :: names) = s ++ " " ++ joinPath names :=
  String.intercalate_cons_of_ne_nil h

lemma joinPath_concat {names : List String} (h : names ≠ []) (s : String) :
    joinPath (names ++ [s]) = joinPath names ++ " " ++ s := by
  rw [joinPath, String.intercalate_append_of_ne_nil h (by simp), String.intercalate_singleton]
  rfl

lemma splitSpaces_of_not_mem {s : List Char} (h : ' ' ∉ s) : splitSpaces s = [s] := by
  induction s with
  | nil => rfl
  | cons c rest ih =>
      rw [List.mem_cons, not_or] at h
      rw [splitSpaces, if_neg (Ne.symm h.1), ih h.2]

lemma splitSpaces_append {s : List Char} (h : ' ' ∉ s) (rest : List Char) :
    splitSpaces (s ++ ' ' :: rest) = s :: splitSpaces rest := by
  induction s with
  | nil => simp [splitSpaces]
  | cons c tail ih =>
      rw [List.mem_cons, not_or] at h
      rw [List.cons_append, splitSpaces, if_neg (Ne.symm h.1), ih h.2]

/-- Splitting a path gives back its names. -/
lemma splitPath_joinPath {names : List String} (hne : names ≠ []) (h : ∀ s ∈ names, IsWord s) :
    splitPath (joinPath names) = names := by
  induction names with
  | nil => exact absurd rfl hne
  | cons s rest ih =>
      have hspace := (h s List.mem_cons_self).space_not_mem
      by_cases hrest : rest = []
      · subst hrest
        rw [joinPath_singleton, splitPath, splitSpaces_of_not_mem hspace]
        simp
      · have hih := ih hrest fun t ht => h t (List.mem_cons_of_mem _ ht)
        rw [splitPath] at hih
        have hlist : (joinPath (s :: rest)).toList = s.toList ++ ' ' :: (joinPath rest).toList := by
          rw [joinPath_cons s hrest, String.toList_append, String.toList_append]
          simp
        rw [splitPath, hlist, splitSpaces_append hspace, List.map_cons, hih]
        simp

/-- Two lists of words with one path are equal. -/
lemma joinPath_inj {names other : List String} (hne : names ≠ []) (hne' : other ≠ [])
    (h : ∀ s ∈ names, IsWord s) (h' : ∀ s ∈ other, IsWord s)
    (heq : joinPath names = joinPath other) : names = other := by
  rw [← splitPath_joinPath hne h, heq, splitPath_joinPath hne' h']

lemma joinPath_ne_empty {names : List String} (hne : names ≠ []) (h : ∀ s ∈ names, IsWord s) :
    joinPath names ≠ "" := by
  intro hempty
  have hsplit := splitPath_joinPath hne h
  rw [hempty] at hsplit
  have hword := h "" (by rw [← hsplit]; simp [splitPath, splitSpaces])
  exact hword.1 rfl

/-- A path grows by one name at its end; the path of a root is its name. -/
lemma extendPath_joinPath {lead : List String} (h : ∀ s ∈ lead, IsWord s) (name : String) :
    extendPath (joinPath lead) name = joinPath (lead ++ [name]) := by
  by_cases hlead : lead = []
  · subst hlead
    rw [List.nil_append, joinPath_singleton]
    rfl
  · have hne : (joinPath lead).isEmpty = false := by
      rw [Bool.eq_false_iff]
      intro hempty
      exact joinPath_ne_empty hlead h (String.isEmpty_iff.mp hempty)
    rw [extendPath, hne, joinPath_concat hlead]
    rfl

/-! ## Paths as lines -/

lemma tokens_of_isWord {s : String} (h : IsWord s) : tokens s = [s] := by
  have hne : s.toList ≠ [] := fun hnil => h.1 (String.toList_eq_nil_iff.mp hnil)
  rw [tokens, words_of_solid hne h.2, List.map_singleton, String.ofList_toList]

lemma dropWhile_isBlank_of_solid {s : List Char} (h : ∀ c ∈ s, isBlank c = false) :
    s.dropWhile isBlank = s :=
  List.dropWhile_eq_self_iff.mpr fun hpos => by simp [h]

/-- The check of names lets all words through. -/
lemma isName_iff {s : String} : isName s = true ↔ IsWord s := by
  refine ⟨isWord_of_isName, fun h => ?_⟩
  have hback : s.toList.reverse.dropWhile isBlank = s.toList.reverse :=
    dropWhile_isBlank_of_solid fun c hc => h.2 c (List.mem_reverse.mp hc)
  have hstrip : strip s = s := by
    rw [strip, trim, trimRight, trimLeft, dropWhile_isBlank_of_solid h.2, hback, List.reverse_reverse,
      String.ofList_toList]
  simp [isName, hstrip, tokens_of_isWord h, h.1]

/-- A space keeps the tokens before it apart from those behind it. -/
lemma tokens_append_space (s t : String) : tokens (s ++ " " ++ t) = tokens s ++ tokens t := by
  have hsplit : (s ++ " " ++ t).toList = s.toList ++ ' ' :: t.toList := by
    rw [String.toList_append, String.toList_append, List.append_assoc]
    rfl
  rw [tokens, hsplit, words_append_cons rfl, List.map_append]
  rfl

/-- **The tokens of a path are its names.** -/
lemma tokens_joinPath {names : List String} (h : ∀ s ∈ names, IsWord s) :
    tokens (joinPath names) = names := by
  induction names with
  | nil => rfl
  | cons s rest ih =>
      obtain ⟨hs, hrest⟩ := List.forall_mem_cons.mp h
      by_cases hnil : rest = []
      · rw [hnil, joinPath_singleton, tokens_of_isWord hs]
      · rw [joinPath_cons s hnil, tokens_append_space, tokens_of_isWord hs, ih hrest]
        rfl

end CommandPalette.Command
