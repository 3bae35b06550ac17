import CommandPalette.Proofs.Arrangement
import CommandPalette.Proofs.Engine.Number
import CommandPalette.Proofs.Motion.Segment

/-!
# How a menu comes to be shown

A menu is shown in two moves: the motions of the line are read against the jump codes of the menu, and
the menu is turned to the row that they lead to.

* `move_of_disabled`, `move_of_plain`, `move_of_vim`: what reading the motions does to a session, where
  motions are not read, where there are none and the session has not had any, and in vim mode.
* `present_ok`, `present_session`, `reject_session`: what showing a menu comes to, and what a provider
  that fails.
* **`turned_of_present`**: a menu in vim mode is turned to the row of the motions.  There is always one
  if the template takes every jump code, `exists_present`.
-/

namespace CommandPalette

open Command Motion

variable {α β : Type}

namespace Session

/-- The jump codes at hand, if there are any, are those of some menu. -/
def Keyed (s : Session) : Prop := ∀ keymap, s.keymap = some keymap → keymap = .generate keymap.size

/-- A session in vim mode, with the jump codes of a menu and what a line says about motion. -/
def moved (s : Session) (size : ℕ) (line : List Char) : Session :=
  { s with
    mode := .vim
    keymap := some (.generate size)
    position := (read (.generate size) line).position
    chains := (read (.generate size) line).chains }

lemma withKeymap_of_keyed {s : Session} (h : s.Keyed) (size : ℕ) :
    (s.withKeymap size).1 = { s with keymap := some (.generate size) } := by
  cases hhas : s.hasKeymap size with
  | false => rw [withKeymap, hhas]; rfl
  | true =>
      obtain ⟨keymap, hkeymap, hsize⟩ := (Option.any_eq_true _ _).mp hhas
      have hsize' : keymap.size = size := Int.ofNat_inj.mp (eq_of_beq hsize)
      have hgenerate : some (Keymap.generate size) = s.keymap := by
        rw [hkeymap, h keymap hkeymap, hsize']
      rw [withKeymap, hhas, hgenerate]
      rfl

lemma enterVimMode_fst (s : Session) : s.enterVimMode.1 = { s with mode := .vim } := by
  cases hmode : s.mode <;> simp [enterVimMode, vimMode, hmode]
  rw [← hmode]

/-- A line with motions leads to vim mode, and no line leads out of it. -/
lemma applyMotion_fst (s : Session) (motion : Reading) :
    (s.applyMotion motion).1 =
      { s with
        mode := if motion.isVimMode then .vim else s.mode
        position := motion.position
        chains := motion.chains } := by
  cases hmotion : motion.isVimMode with
  | false => simp [applyMotion, hmotion]
  | true => simp [applyMotion, hmotion, enterVimMode_fst]

end Session

namespace Engine

lemma hasMotion_eq {e : Engine α β} (h : e.config.vim.enabled = true) (text : String) :
    e.hasMotion text = decide ('[' ∈ (e.stripLead text).toList) := by
  rw [hasMotion, h, Bool.true_and, ← isVimMode_read {}, Reading.isVimMode, Motion.read,
    List.isEmpty_map]

/-! ## Reading the motions -/

lemma move_of_disabled {e : Engine α β} (h : e.config.vim.enabled = false) (text : String) (size : ℕ) :
    (e.move text size).1 = e.session := by
  rw [move, h]
  rfl

/-- Without motions, and if there were none before, the menu stays on its first row. -/
lemma move_of_plain {e : Engine α β} (h : e.config.vim.enabled = true) {text : String}
    (hplain : (e.session.vimMode || e.hasMotion text) = false) (size : ℕ) :
    (e.move text size).1 = { e.session with position := {}, chains := [] } := by
  have hmem : '[' ∉ (e.stripLead text).toList := by
    rw [hasMotion_eq h, Bool.or_eq_false_iff] at hplain
    simpa using hplain.2
  have hread := read_of_not_mem hmem {}
  simp only [move, h, hplain, Bool.not_true, Bool.false_eq_true, if_false]
  rw [Session.applyMotion_fst, isVimMode_read, decide_eq_false hmem, hread.1, hread.2]
  rfl

/-- **Reading motions leads to vim mode**, with the jump codes of the menu at hand. -/
lemma move_of_vim {e : Engine α β} (h : e.config.vim.enabled = true) (hkeyed : e.session.Keyed)
    {text : String} (hvim : (e.session.vimMode || e.hasMotion text) = true) (size : ℕ) :
    (e.move text size).1 = e.session.moved size (e.stripLead text).toList := by
  have hmode : (if decide ('[' ∈ (e.stripLead text).toList) = true then Session.Mode.vim
      else e.session.mode) = .vim := by
    rw [hasMotion_eq h, Bool.or_eq_true] at hvim
    rcases hvim with hmode | hmem
    · rw [show e.session.mode = .vim by simpa [Session.vimMode] using hmode, ite_self]
    · rw [if_pos hmem]
  simp only [move, h, hvim, Bool.not_true, Bool.false_eq_true, if_false, if_true]
  rw [Session.applyMotion_fst, isVimMode_read, Session.withKeymap_of_keyed hkeyed]
  simp only [Option.getD_some, hmode]
  rfl

/-- Reading motions does not touch the menu that is shown. -/
lemma move_frame (e : Engine α β) (text : String) (size : ℕ) :
    (e.move text size).1.suggestions = e.session.suggestions ∧
      (e.move text size).1.selected = e.session.selected := by
  have hkeymap : ∀ s : Session, (s.withKeymap size).1.suggestions = s.suggestions ∧
      (s.withKeymap size).1.selected = s.selected := by
    intro s
    unfold Session.withKeymap
    split <;> exact ⟨rfl, rfl⟩
  cases h : e.config.vim.enabled with
  | false => rw [move_of_disabled h]; exact ⟨rfl, rfl⟩
  | true =>
      simp only [move, h, Bool.not_true, Bool.false_eq_true, if_false]
      rw [Session.applyMotion_fst]
      cases e.session.vimMode || e.hasMotion text with
      | false => exact ⟨rfl, rfl⟩
      | true => exact hkeymap e.session

/-! ## Showing the menu -/

/-- A menu is arranged by the session in which the motions have been read. -/
lemma present_ok {e : Engine α β} {text : String} {suggestions : List Suggestion}
    {menu : Arrangement} (h : arrange e.look (e.move text suggestions.length).1.vimMode
      (e.move text suggestions.length).1.keymap (e.move text suggestions.length).1.position.y
      suggestions = .ok menu) :
    (e.present text suggestions).result = .ok menu.suggestions ∧
      (e.present text suggestions).engine.session =
        (e.move text suggestions.length).1.complete menu.suggestions menu.selected := by
  simp only [present, h, and_self]

/-- What is shown is either the answer, with its first entry selected, or what was shown before. -/
lemma present_session (e : Engine α β) (text : String) (suggestions : List Suggestion) :
    ∃ shown selected, (e.present text suggestions).engine.session =
        (e.move text suggestions.length).1.complete shown selected ∧
      ((e.present text suggestions).result = .ok shown ∧
          selected = (shown.head?.map Suggestion.content).getD "" ∨
        shown = e.session.suggestions ∧ selected = e.session.selected) := by
  cases h : arrange e.look (e.move text suggestions.length).1.vimMode
      (e.move text suggestions.length).1.keymap (e.move text suggestions.length).1.position.y
      suggestions with
  | ok menu =>
      obtain ⟨hresult, hsession⟩ := present_ok h
      exact ⟨_, _, hsession, .inl ⟨hresult, selected_of_arrange h⟩⟩
  | error fault =>
      obtain ⟨hshown, hselected⟩ := e.move_frame text suggestions.length
      refine ⟨_, _, ?_, .inr ⟨hshown, hselected⟩⟩
      simp only [present, h]
      rfl

section Vim

variable {e : Engine α β} (h : e.config.vim.enabled = true) (hkeyed : e.session.Keyed) {text : String}
  (hvim : (e.session.vimMode || e.hasMotion text) = true)

include h hkeyed hvim

/-- **A menu in vim mode is turned to the row of the motions.** -/
lemma turned_of_present {suggestions menu : List Suggestion}
    (hmenu : (e.present text suggestions).result = .ok menu) :
    let session := e.session.moved suggestions.length (e.stripLead text).toList
    (e.present text suggestions).engine.session =
        session.complete menu ((menu.head?.map Suggestion.content).getD "") ∧
      e.look.Turned (.generate suggestions.length) session.position.y suggestions menu := by
  have hmove := move_of_vim h hkeyed hvim suggestions.length
  cases harrange : arrange e.look (e.move text suggestions.length).1.vimMode
      (e.move text suggestions.length).1.keymap (e.move text suggestions.length).1.position.y
      suggestions with
  | error fault => simp [present, harrange] at hmenu
  | ok arranged =>
      obtain ⟨hresult, hsession⟩ := present_ok harrange
      obtain rfl : arranged.suggestions = menu := Except.ok.inj (hresult.symm.trans hmenu)
      rw [hsession, selected_of_arrange harrange]
      rw [hmove] at harrange ⊢
      exact ⟨rfl, turned_of_arrange harrange⟩

/-- If the template takes every jump code, there is always a menu. -/
lemma exists_present (hformats : e.look.Formats) (suggestions : List Suggestion) :
    ∃ menu, (e.present text suggestions).result = .ok menu := by
  have hmove := move_of_vim h hkeyed hvim suggestions.length
  obtain ⟨menu, hmenu⟩ := exists_arrange hformats
    (e.session.moved suggestions.length (e.stripLead text).toList).position.y suggestions
  refine ⟨menu.suggestions, (present_ok ?_).1⟩
  rw [hmove]
  exact hmenu

end Vim

/-- What a failed provider does to the session: an empty menu, and vim mode if the line had motions. -/
lemma reject_session (e : Engine α β) (text : String) (fault : Fault) :
    (e.reject text fault).engine.session =
      { e.session with
        mode := if e.hasMotion text then .vim else e.session.mode
        suggestions := []
        selected := ""
        lastError := some fault } := by
  have hreport : ∀ e' : Engine α β,
      (e'.report fault).engine.session = { e'.session with lastError := some fault } := by
    intro e'
    simp only [report]
    split
    · rfl
    · split
      · rfl
      · split <;> rfl
  unfold reject
  cases hmotion : e.hasMotion text with
  | false =>
      simp only [Bool.false_eq_true, if_false]
      rw [hreport]
      rfl
  | true =>
      simp only [if_true]
      rw [hreport, Session.enterVimMode_fst]
      rfl

end Engine

end CommandPalette
