import CommandPalette.Proofs.Command.Path
import CommandPalette.Proofs.Settings.Verbatim
import Mathlib.Data.List.Basic

/-!
# What is a single token

A single token is met in three places: a command is called by one, the catch-all command is named by one in the
settings, and a line is read token by token.  Each place has a test of its own.  A name must be left as it is by
trimming, and be one word.  So must the name in the settings, which must also not be too short.  A line is
trimmed and then cut at every run of blanks.  All three come to the same.

* `splitRuns`: a text cut at every run of blanks; `tokenize`: a line read in this way.  These are the words of
  the line (`tokenize_eq`).
* `Spacing`: words as they may be typed in a line.
* **`single_token_iff`**: what a single token is, and that a line is read back as the tokens it is typed from,
  however they are kept apart.
-/

namespace CommandPalette

namespace Text

/-! ## Cutting at runs of blanks -/

/-- A text cut at every run of blanks.  A run at an end of the text leaves an empty piece there. -/
def splitRuns : List Char → List (List Char)
  | [] => [[]]
  | c :: rest =>
    if isBlank c then if rest.head?.any isBlank then splitRuns rest else [] :: splitRuns rest
    else match splitRuns rest with
      | [] => [[c]]
      | piece :: pieces => (c :: piece) :: pieces

/-- The tokens of a line: it is trimmed and then cut at every run of blanks, unless nothing is left. -/
def tokenize (s : String) : List String :=
  let trimmed := strip s
  if trimmed.isEmpty then [] else (splitRuns trimmed.toList).map String.ofList

/-- There is a first piece, and it is empty exactly if the text is or starts with a blank.  A later piece is
empty only if the text ends with a blank. -/
lemma splitRuns_spec (s : List Char) : ∃ piece pieces, splitRuns s = piece :: pieces ∧
    (piece = [] ↔ s.head?.all isBlank = true) ∧ ([] ∈ pieces → s.getLast?.any isBlank = true) := by
  induction s with
  | nil => exact ⟨[], [], rfl, by simp, by simp⟩
  | cons c rest ih =>
      obtain ⟨piece, pieces, hsplit, hfirst, hlater⟩ := ih
      have hlast (h : rest.getLast?.any isBlank = true) : (c :: rest).getLast?.any isBlank = true := by
        cases rest with
        | nil => simp at h
        | cons d more => rwa [List.getLast?_cons_cons]
      rw [splitRuns, hsplit]
      cases hc : isBlank c with
      | false => exact ⟨c :: piece, pieces, by simp, by simp [hc], fun h => hlast (hlater h)⟩
      | true =>
          cases hnext : rest.head?.any isBlank with
          | true =>
              refine ⟨piece, pieces, by simp, ?_, fun h => hlast (hlater h)⟩
              rw [hfirst]
              cases rest with
              | nil => simp at hnext
              | cons d more => simpa [hc] using hnext
          | false =>
              refine ⟨[], piece :: pieces, by simp, by simp [hc], fun h => ?_⟩
              rcases List.mem_cons.mp h with h | h
              · -- An empty piece right behind a blank is the end of the text.
                cases rest with
                | nil => simpa using hc
                | cons d more => simp_all
              · exact hlast (hlater h)

/-- The words of a text are the pieces that are not empty. -/
lemma words_eq_filter_splitRuns (s : List Char) : words s = (splitRuns s).filter (!·.isEmpty) := by
  induction s with
  | nil => rfl
  | cons c rest ih =>
      obtain ⟨piece, pieces, hsplit, hfirst, -⟩ := splitRuns_spec rest
      rw [words, splitRuns, ih, hsplit]
      cases hc : isBlank c with
      | true => cases rest.head?.any isBlank <;> simp
      | false =>
          cases hnext : rest.head?.all isBlank with
          | true =>
              obtain rfl : piece = [] := hfirst.mpr hnext
              cases hwords : pieces.filter (!·.isEmpty) <;> simp [prepend, hwords]
          | false =>
              have hne : piece ≠ [] := fun hnil => by simp [hfirst.mp hnil] at hnext
              simp [prepend, hne]

lemma exists_head_of_dropWhile_eq {s : List Char} (h : s.dropWhile isBlank = s) (hne : s ≠ []) :
    ∃ c, s.head? = some c ∧ isBlank c = false := by
  obtain ⟨c, rest, rfl⟩ := List.exists_cons_of_ne_nil hne
  have hhead := List.head?_dropWhile_not isBlank (c :: rest)
  rw [h] at hhead
  exact ⟨c, rfl, hhead⟩

/-- A text that is trimmed and not empty has no empty pieces. -/
lemma nil_not_mem_splitRuns {s : List Char} (htrim : trim s = s) (hne : s ≠ []) : [] ∉ splitRuns s := by
  obtain ⟨hfront, hback⟩ := Command.ends_of_trim_eq htrim
  obtain ⟨c, hhead, hc⟩ := exists_head_of_dropWhile_eq hfront hne
  obtain ⟨d, hlast, hd⟩ := exists_head_of_dropWhile_eq hback (by simpa using hne)
  rw [List.head?_reverse] at hlast
  obtain ⟨piece, pieces, hsplit, hfirst, hlater⟩ := splitRuns_spec s
  rw [hsplit, List.mem_cons, not_or]
  refine ⟨fun hnil => ?_, fun hmem => ?_⟩
  · simpa [hhead, hc] using hfirst.mp hnil.symm
  · simpa [hlast, hd] using hlater hmem

/-- **A line that is trimmed and cut at its runs of blanks is cut into its words.** -/
lemma tokenize_eq (s : String) : tokenize s = tokens s := by
  rw [tokenize, tokens, ← words_trim, strip, String.toList_ofList]
  split
  · rename_i hempty
    obtain hnil : trim s.toList = [] := by simpa using hempty
    rw [hnil]
    rfl
  · rename_i hne
    have hfull := nil_not_mem_splitRuns (trim_trim s.toList) (by simpa using hne)
    rw [words_eq_filter_splitRuns, List.filter_eq_self.mpr]
    intro piece hpiece
    cases piece with
    | nil => exact absurd hpiece hfull
    | cons => rfl

end Text

open Command Settings Text

/-! ## Typed lines -/

/-- Words as they may be typed in a line: blanks may stand in front of each of them and behind the last one,
and at least one stands between two of them. -/
structure Spacing where
  /-- The words, each with the blanks in front of it. -/
  words : List (List Char × List Char)
  /-- The blanks behind the last word. -/
  back : List Char
  blank_front : ∀ e ∈ words, ∀ c ∈ e.1, isBlank c = true
  blank_back : ∀ c ∈ back, isBlank c = true
  apart : ∀ e ∈ words.tail, e.1 ≠ []
  isName_word : ∀ e ∈ words, isName (String.ofList e.2) = true

lemma isName_ofList_iff {w : List Char} :
    isName (String.ofList w) = true ↔ w ≠ [] ∧ ∀ c ∈ w, isBlank c = false := by
  rw [isName_iff, IsWord, String.toList_ofList, ne_eq, String.ofList_eq_empty_iff]

namespace Spacing

/-- The characters of the line. -/
def chars (s : Spacing) : List Char := s.words.flatMap (fun e => e.1 ++ e.2) ++ s.back

/-- The line that is typed. -/
def line (s : Spacing) : String := String.ofList s.chars

/-- The words alone. -/
def names (s : Spacing) : List String := s.words.map fun e => String.ofList e.2

/-- **The tokens of a line are the words that were typed.** -/
lemma tokens_line (s : Spacing) : tokens s.line = s.names := by
  obtain ⟨words, back, hfront, hback, hapart, hnames⟩ := s
  suffices h : Text.words (words.flatMap (fun e => e.1 ++ e.2) ++ back) = words.map Prod.snd by
    simp [tokens, line, chars, names, h]
  induction words with
  | nil => simpa [Text.words] using words_append_of_blank_left hback []
  | cons e rest ih =>
      obtain ⟨front, word⟩ := e
      obtain ⟨hgap, hgaps⟩ := List.forall_mem_cons.mp hfront
      obtain ⟨hname, hnames⟩ := List.forall_mem_cons.mp hnames
      obtain ⟨hne, hsolid⟩ := isName_ofList_iff.mp hname
      have hrest := ih hgaps (fun e he => hapart e (List.mem_of_mem_tail he)) hnames
      rw [List.flatMap_cons, List.append_assoc, List.append_assoc, words_append_of_blank_left hgap,
        List.map_cons]
      cases rest with
      | nil => rw [List.flatMap_nil, List.nil_append, words_append_of_blank _ hback, words_of_solid hne hsolid]; rfl
      | cons e more =>
          obtain ⟨gap, next⟩ := e
          -- The blank behind the word keeps it apart from what follows.
          obtain ⟨c, gap, rfl⟩ := List.exists_cons_of_ne_nil (hapart _ List.mem_cons_self)
          have hc : isBlank c = true := hgaps _ List.mem_cons_self c List.mem_cons_self
          rw [← hrest]
          simp only [List.flatMap_cons, List.cons_append]
          rw [words_append_cons hc, words_of_solid hne hsolid, words_cons_of_blank hc]
          rfl

lemma exists_chars_eq (t : List Char) : ∃ s : Spacing, s.chars = t := by
  induction t with
  | nil => exact ⟨⟨[], [], nofun, nofun, nofun, nofun⟩, rfl⟩
  | cons c rest ih =>
      obtain ⟨⟨words, back, hfront, hback, hapart, hnames⟩, rfl⟩ := ih
      cases hc : isBlank c with
      | true =>
          cases words with
          | nil => exact ⟨⟨[], c :: back, nofun, List.forall_mem_cons.mpr ⟨hc, hback⟩, nofun, nofun⟩, rfl⟩
          | cons e more =>
              obtain ⟨gap, word⟩ := e
              obtain ⟨hgap, hgaps⟩ := List.forall_mem_cons.mp hfront
              refine ⟨⟨(c :: gap, word) :: more, back, ?_, hback, hapart, ?_⟩, rfl⟩
              · exact List.forall_mem_cons.mpr ⟨List.forall_mem_cons.mpr ⟨hc, hgap⟩, hgaps⟩
              · exact List.forall_mem_cons.mpr (List.forall_mem_cons.mp hnames)
      | false =>
          have hletter : isName (String.ofList [c]) = true := isName_ofList_iff.mpr (by simp [hc])
          cases words with
          | nil =>
              refine ⟨⟨[([], [c])], back, ?_, hback, nofun, ?_⟩, rfl⟩
              · exact List.forall_mem_singleton.mpr nofun
              · exact List.forall_mem_singleton.mpr hletter
          | cons e more =>
              obtain ⟨gap, word⟩ := e
              obtain ⟨hname, hmore⟩ := List.forall_mem_cons.mp hnames
              cases gap with
              | nil =>
                  -- The character joins the word that follows.
                  obtain ⟨-, hsolid⟩ := isName_ofList_iff.mp hname
                  have hjoined : isName (String.ofList (c :: word)) = true :=
                    isName_ofList_iff.mpr ⟨by simp, List.forall_mem_cons.mpr ⟨hc, hsolid⟩⟩
                  refine ⟨⟨([], c :: word) :: more, back, ?_, hback, hapart, ?_⟩, rfl⟩
                  · exact List.forall_mem_cons.mpr (List.forall_mem_cons.mp hfront)
                  · exact List.forall_mem_cons.mpr ⟨hjoined, hmore⟩
              | cons d gap =>
                  refine ⟨⟨([], [c]) :: (d :: gap, word) :: more, back, ?_, hback, ?_, ?_⟩, rfl⟩
                  · exact List.forall_mem_cons.mpr ⟨nofun, hfront⟩
                  · exact List.forall_mem_cons.mpr ⟨by simp, hapart⟩
                  · exact List.forall_mem_cons.mpr ⟨hletter, hnames⟩

/-- **Every line is typed from its tokens.** -/
lemma exists_line_eq (text : String) : ∃ s : Spacing, s.line = text ∧ s.names = tokens text := by
  obtain ⟨s, hs⟩ := exists_chars_eq text.toList
  have hline : s.line = text := by rw [line, hs, String.ofList_toList]
  exact ⟨s, hline, by rw [← tokens_line, hline]⟩

end Spacing

/-! ## The three tests -/

lemma isName_iff_tokens {s : String} : isName s = true ↔ tokens s = [s] := by
  rw [isName_iff]
  exact ⟨tokens_of_isWord, fun h => isWord_of_mem_tokens (h ▸ List.mem_cons_self)⟩

lemma checkName_text_eq_ok_iff {s : String} {v : Value} :
    checkName (.text s) = .ok v ↔ isName s = true ∧ v = .text s := by
  simp only [checkName]
  split
  · rename_i hname
    rw [Except.ok.injEq, eq_comm]
    exact (and_iff_right hname).symm
  · rename_i hname
    exact ⟨nofun, fun h => absurd h.1 hname⟩

lemma oneToken_text_eq_ok_iff {s t : String} : Rule.oneToken (.text s) = .ok t ↔ isName s = true ∧ t = s := by
  have hname : isName s = true ↔ s.isEmpty = false ∧ ((tokens s).length = 1 && s == strip s) = true := by
    simp only [isName, Bool.and_eq_true, Bool.not_eq_true', beq_iff_eq, decide_eq_true_eq, eq_comm (a := strip s),
      and_assoc, and_comm (a := s = strip s)]
  have htext : Rule.text (.text s) = .ok s := rfl
  rw [Rule.oneToken, Rule.someText, htext, hname]
  cases hempty : s.isEmpty with
  | true => simp [Checked.andThen, Checked.complain, hempty]
  | false =>
      simp only [Checked.andThen, hempty, Bool.false_eq_true, if_false, true_and]
      split
      · rename_i hone
        rw [Checked.ok.injEq, eq_comm]
        exact (and_iff_right hone).symm
      · rename_i hmany
        refine ⟨fun h => ?_, fun h => absurd h.1 hmany⟩
        cases h

/-- Settings that set nothing but the name of the catch-all command. -/
lemma Settings.Input.ofTable_called_eq_ok_iff {s : String} {i : Input} :
    Input.ofTable (table [("default_command", .text s)]) = .ok i ↔
      isName s = true ∧ i = { defaultCommand := s } := by
  have hfields : Input.ofTable (table [("default_command", .text s)]) =
      (fun command : String => ({ defaultCommand := command } : Input)) <$>
        (Rule.oneToken (.text s)).within "default_command" := by
    simp only [Input.ofTable, table, List.map_cons, List.map_nil, field_single]
    simp (disch := decide) only [field_single_of_ne, Checked.map_ok, Checked.ok_seq]
    cases (Rule.oneToken (.text s)).within "default_command" <;> rfl
  simp only [hfields, Checked.map_eq_ok, Checked.within_eq_ok, oneToken_text_eq_ok_iff]
  constructor
  · rintro ⟨_, ⟨hname, rfl⟩, rfl⟩
    exact ⟨hname, rfl⟩
  · rintro ⟨hname, rfl⟩
    exact ⟨s, ⟨hname, rfl⟩, rfl⟩

/-! ## The main statement -/

/-- **What a single token is.**  A command can be called by a text exactly if the catch-all command can be named
by it in the settings, and exactly if a line that consists of the text is read as this one token.  The text is
then taken as it is.  And a line is read as the tokens that it is typed from, whatever blanks stand around and
between them; every line is typed from its tokens in this sense. -/
theorem single_token_iff :
    (∀ s : String,
      (∀ v, checkName (.text s) = .ok v ↔ tokenize s = [s] ∧ v = .text s) ∧
      ∀ i, Input.ofTable (table [("default_command", .text s)]) = .ok i ↔
        tokenize s = [s] ∧ i = { defaultCommand := s }) ∧
    (∀ text, tokenize text = tokens text) ∧
    (∀ typed : Spacing, tokenize typed.line = typed.names) ∧
    ∀ text, ∃ typed : Spacing, typed.line = text ∧ typed.names = tokenize text := by
  simp only [tokenize_eq]
  refine ⟨fun s => ?_, fun _ => trivial, Spacing.tokens_line, Spacing.exists_line_eq⟩
  rw [← isName_iff_tokens]
  exact ⟨fun v => checkName_text_eq_ok_iff, fun i => Input.ofTable_called_eq_ok_iff⟩

end CommandPalette
