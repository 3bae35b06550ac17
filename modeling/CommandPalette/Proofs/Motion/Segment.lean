import CommandPalette.Motion.Segment
import CommandPalette.Proofs.Motion.Code
import CommandPalette.Proofs.Text.Blank

/-!
# A line and its motions

Only an opening bracket starts a motion, so a line without one is all command line, and a motion
behind such a line is read as it stands.

* `scan_append`: what stands before the first bracket is passed over character by character.
* `segments_eq_nil_iff`: a line has motions exactly if it has a bracket.
* `solid_shown_sublist`, `not_mem_shown`: taking motions out of a line adds no character other than
  blanks, and leaves no bracket.
* `labelled`: a line with a motion behind it.  Its command line is that of the line alone
  (`stripSegments_labelled`); **`read_labelled`**: if the motion is the code of an entry, it leads
  to that entry.
-/

namespace CommandPalette.Motion

open CommandPalette.Text

/-! ## Brackets -/

lemma scan_cons_of_ne {c : Char} (h : c ≠ '[') (s : List Char) :
    scan (c :: s) = .plain c :: scan s := by
  rw [scan, if_neg h]

lemma scan_bracket (s : List Char) :
    scan ('[' :: s) =
      .motion (s.takeWhile Char.isAlphanum) :: scan (dropClosing (s.dropWhile Char.isAlphanum)) := by
  rw [scan, if_pos rfl]

/-- What stands before the first bracket belongs to the command line. -/
lemma scan_append {s : List Char} (h : '[' ∉ s) (rest : List Char) :
    scan (s ++ rest) = s.map .plain ++ scan rest := by
  induction s with
  | nil => rfl
  | cons c s ih =>
      rw [List.mem_cons, not_or] at h
      rw [List.cons_append, scan_cons_of_ne (Ne.symm h.1), ih h.2]
      rfl

lemma scan_of_not_mem {s : List Char} (h : '[' ∉ s) : scan s = s.map .plain := by
  have happend := scan_append h []
  rwa [List.append_nil, scan, List.append_nil] at happend

lemma shown_plain (s : List Char) : (s.map Piece.plain).map Piece.shown = s := by
  rw [List.map_map]
  exact List.map_id s

lemma inner?_plain (s : List Char) : (s.map Piece.plain).filterMap Piece.inner? = [] := by
  rw [List.filterMap_map]
  exact List.filterMap_eq_nil_iff.mpr fun _ _ => rfl

/-- A line without a bracket is all command line. -/
lemma stripSegments_of_not_mem {s : List Char} (h : '[' ∉ s) : stripSegments s = trim s := by
  rw [stripSegments, scan_of_not_mem h, shown_plain]

/-- **A line has motions exactly if it has a bracket.** -/
lemma segments_eq_nil_iff {s : List Char} : segments s = [] ↔ '[' ∉ s := by
  induction s using scan.induct with
  | case1 => simp [segments, scan]
  | case2 rest ih =>
      rw [segments, scan_bracket]
      simp [Piece.inner?]
  | case3 c rest hc ih =>
      have hrest : segments (c :: rest) = segments rest := by
        rw [segments, scan_cons_of_ne hc]
        rfl
      rw [hrest, ih]
      simp [Ne.symm hc]

lemma isVimMode_read (keymap : Keymap) (line : List Char) :
    (read keymap line).isVimMode = decide ('[' ∈ line) := by
  rw [Reading.isVimMode, read]
  by_cases hmem : '[' ∈ line
  · have hsegments : segments line ≠ [] := fun hnil => segments_eq_nil_iff.mp hnil hmem
    simp [hmem, hsegments]
  · simp [hmem, segments_eq_nil_iff.mpr hmem]

lemma read_of_not_mem {line : List Char} (h : '[' ∉ line) (keymap : Keymap) :
    (read keymap line).position = {} ∧ (read keymap line).chains = [] := by
  simp [read, segments_eq_nil_iff.mpr h]

/-! ## The command line -/

/-- No bracket is left of a line whose motions were taken out. -/
lemma not_mem_shown (s : List Char) : '[' ∉ (scan s).map Piece.shown := by
  induction s using scan.induct with
  | case1 => simp [scan]
  | case2 rest ih =>
      rw [scan_bracket, List.map_cons, List.mem_cons, not_or]
      exact ⟨show '[' ≠ ' ' by decide, ih⟩
  | case3 c rest hc ih =>
      rw [scan_cons_of_ne hc, List.map_cons, List.mem_cons, not_or]
      exact ⟨Ne.symm hc, ih⟩

lemma dropClosing_sublist (s : List Char) : (dropClosing s).Sublist s := by
  unfold dropClosing
  split
  · exact List.sublist_cons_self _ _
  · exact List.Sublist.refl _

/-- Taking motions out of a line adds no character other than blanks. -/
lemma solid_shown_sublist (s : List Char) :
    (solid ((scan s).map Piece.shown)).Sublist (solid s) := by
  induction s using scan.induct with
  | case1 => simp [scan]
  | case2 rest ih =>
      have hrest : (dropClosing (rest.dropWhile Char.isAlphanum)).Sublist ('[' :: rest) :=
        ((dropClosing_sublist _).trans (List.dropWhile_sublist _)).trans (List.sublist_cons_self _ _)
      rw [scan_bracket]
      exact ih.trans (hrest.filter _)
  | case3 c rest hc ih =>
      rw [scan_cons_of_ne hc]
      show (solid ([c] ++ (scan rest).map Piece.shown)).Sublist (solid ([c] ++ rest))
      rw [solid_append, solid_append]
      exact ih.append_left _

/-! ## A motion behind a line -/

/-- A line with a motion behind it. -/
def labelled (line inner : List Char) : List Char := line ++ ' ' :: '[' :: (inner ++ [']'])

section Labelled

variable {line inner : List Char} (hline : '[' ∉ line) (hinner : ∀ c ∈ inner, c.isAlphanum = true)

include hline hinner

lemma scan_labelled : scan (labelled line inner) = line.map .plain ++ [.plain ' ', .motion inner] := by
  have htake : (inner ++ [']']).takeWhile Char.isAlphanum = inner := by
    rw [List.takeWhile_append_of_pos hinner]
    exact List.append_nil inner
  have hdrop : (inner ++ [']']).dropWhile Char.isAlphanum = [']'] := by
    rw [List.dropWhile_append_of_pos hinner]
    rfl
  rw [labelled, scan_append hline, scan_cons_of_ne (by decide), scan_bracket, htake, hdrop,
    dropClosing, scan]

/-- A motion behind a line does not change what the line commands. -/
lemma stripSegments_labelled : stripSegments (labelled line inner) = stripSegments line := by
  have hblank : ∀ c ∈ [' ', ' '], isBlank c = true := by
    intro c hc
    obtain rfl : c = ' ' := by simpa using hc
    rfl
  rw [stripSegments, scan_labelled hline hinner, List.map_append, shown_plain,
    stripSegments_of_not_mem hline]
  exact trim_append_of_blank line hblank

lemma segments_labelled : segments (labelled line inner) = [inner] := by
  rw [segments, scan_labelled hline hinner, List.filterMap_append, inner?_plain]
  rfl

end Labelled

/-- **The code of an entry behind a line leads to that entry.** -/
lemma read_labelled {line : List Char} (h : '[' ∉ line) {n i : ℕ} (hi : i < n) :
    (read (.generate n) (labelled line (codeOf i))).position = { y := i } := by
  rw [read, segments_labelled h fun _ => isAlphanum_of_mem_codeOf]
  simp only [List.map_cons, List.map_nil, List.foldl_cons, List.foldl_nil, offset_parse_codeOf hi,
    Int.zero_add]

end CommandPalette.Motion
