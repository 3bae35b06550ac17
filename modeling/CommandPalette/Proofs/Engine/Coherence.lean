import CommandPalette.Proofs.Engine.Menu
import CommandPalette.Proofs.Engine.Turn

/-!
# A session is coherent at every moment

The fields of a session are written by different operations, at different times, and some events write
only a few of them: a change that waits for its provider, a provider that fails, an answer that comes
too late.  What the fields say about each other holds all the same.

* `Session.Coherent`: what they say.  Each operation keeps it: `Coherent.beginChange`,
  `Coherent.present`, `Coherent.reject`.
* `Session.Coded`: what the entries of a menu in vim mode say, which takes a template that no jump code
  spoils.
* `Live.Coherent`: what makes it last from one event to the next: only a session that is not idle has
  a current call.  `Live.Coherent.step` is one event, `Live.Coherent.after` a run.
* **`Engine.session_coherent`**: so a session is coherent after any run of an engine.
-/

namespace CommandPalette

open Command Motion

variable {α β : Type}

namespace Session

/-- What the fields of a session say about each other. -/
structure Coherent (s : Session) : Prop where
  /-- The selected content is that of the first entry. -/
  selected_eq : s.selected = (s.suggestions.head?.map Suggestion.content).getD ""
  /-- Jump codes are those of a menu. -/
  keyed : s.Keyed
  /-- There are jump codes only in vim mode. -/
  unkeyed : s.mode ≠ .vim → s.keymap = none
  /-- An idle session is as it was at the start, but for its number. -/
  idle : s.mode = .idle → s = { sequence := s.sequence }
  /-- Without vim mode there are no motions, and the menu stands on its first row. -/
  composing : s.mode = .composing → s.chains = [] ∧ s.position.y = 0
  /-- The menu has one column. -/
  column : s.position.x = 0

/-- In vim mode the jump codes are those of the menu that is shown, and each entry bears the code of the
place from which it was turned. -/
def Coded (s : Session) : Prop :=
  s.mode = .vim → s.suggestions ≠ [] →
    s.keymap = some (.generate s.suggestions.length) ∧
      ∀ i < s.suggestions.length, s.suggestions[i]?.bind Suggestion.code =
        some (String.ofList (codeOf (ringIndex (s.position.y + i) s.suggestions.length)))

lemma coherent_fresh (n : ℕ) : ({ sequence := n } : Session).Coherent where
  selected_eq := rfl
  keyed keymap h := by cases h
  unkeyed _ := rfl
  idle _ := rfl
  composing h := by cases h
  column := rfl

lemma Coherent.position_eq {s : Session} (h : s.Coherent) (hmode : s.mode = .composing) :
    s.position = {} := by
  cases hposition : s.position with
  | mk x y =>
      obtain rfl : x = 0 := by simpa [hposition] using h.column
      obtain rfl : y = 0 := by simpa [hposition] using (h.composing hmode).2
      rfl

lemma beginChange_mode (s : Session) (text : String) :
    (s.beginChange text).mode ≠ .idle ∧ ((s.beginChange text).mode = .vim ↔ s.mode = .vim) ∧
      ((s.beginChange text).mode = .composing ↔ s.mode ≠ .vim) := by
  unfold Session.beginChange
  cases s.mode <;> simp

lemma Coherent.beginChange {s : Session} (h : s.Coherent) (text : String) :
    (s.beginChange text).Coherent := by
  obtain ⟨hawake, hvim, hcomposing⟩ := s.beginChange_mode text
  refine ⟨h.selected_eq, h.keyed, ?_, fun hidle => absurd hidle hawake, ?_, h.column⟩
  · intro hne
    exact h.unkeyed fun hmode => hne (hvim.mpr hmode)
  · intro hmode
    cases hs : s.mode with
    | vim => exact absurd hs (hcomposing.mp hmode)
    | idle =>
        rw [h.idle hs]
        exact ⟨rfl, rfl⟩
    | composing => exact h.composing hs

end Session

namespace Engine

/-- An engine with a coherent session, where vim mode comes from motions that are read. -/
structure Coherent (e : Engine α β) : Prop where
  session : e.session.Coherent
  enabled : e.session.mode = .vim → e.config.vim.enabled = true

/-- Whether the menu is in vim mode, or shown as it was suggested. -/
lemma vim_or_plain (e : Engine α β) (text : String) :
    (e.config.vim.enabled = true ∧ (e.session.vimMode || e.hasMotion text) = true) ∨
      e.config.vim.enabled = false ∨ (e.session.vimMode || e.hasMotion text) = false := by
  cases e.config.vim.enabled <;> cases (e.session.vimMode || e.hasMotion text) <;> simp

section Menus

variable {e : Engine α β} (h : e.Coherent) (hawake : e.session.mode ≠ .idle)

include h hawake

/-- Where the menu is not in vim mode, it is shown as it was suggested. -/
lemma Coherent.present_plain {text : String}
    (hplain : e.config.vim.enabled = false ∨ (e.session.vimMode || e.hasMotion text) = false)
    (suggestions : List Suggestion) :
    e.session.mode = .composing ∧ (e.present text suggestions).engine.session =
      e.session.complete suggestions ((suggestions.head?.map Suggestion.content).getD "") := by
  have hmode : e.session.mode = .composing := by
    cases hs : e.session.mode with
    | idle => exact absurd hs hawake
    | composing => rfl
    | vim =>
        rcases hplain with hdisabled | hplain
        · rw [h.enabled hs] at hdisabled
          cases hdisabled
        · simp [Session.vimMode, hs] at hplain
  have hmove : (e.move text suggestions.length).1 = e.session := by
    cases hvim : e.config.vim.enabled with
    | false => exact move_of_disabled hvim text _
    | true =>
        rcases hplain with hdisabled | hplain
        · rw [hvim] at hdisabled
          cases hdisabled
        · rw [move_of_plain hvim hplain, ← h.session.position_eq hmode,
            ← (h.session.composing hmode).1]
  have hvimMode : e.session.vimMode = false := by simp [Session.vimMode, hmode]
  have hrow : rotate suggestions e.session.position.y = suggestions := by
    rw [(h.session.composing hmode).2]
    exact rotate_zero suggestions
  have hmenu : arrange e.look e.session.vimMode e.session.keymap e.session.position.y suggestions =
      .ok (.ofList suggestions) := by
    rw [hvimMode, ← congrArg Arrangement.ofList hrow]
    rfl
  have hpresent := present_ok (by rw [hmove]; exact hmenu)
  rw [hmove] at hpresent
  exact ⟨hmode, hpresent.2⟩

/-- Showing a menu keeps an engine coherent. -/
lemma Coherent.present (text : String) (suggestions : List Suggestion) :
    (e.present text suggestions).engine.Coherent ∧
      (e.present text suggestions).engine.session.mode ≠ .idle := by
  have hconfig : (e.present text suggestions).engine.config = e.config :=
    (e.present_sameHost text suggestions).config
  rcases e.vim_or_plain text with ⟨hvim, hmotion⟩ | hplain
  · obtain ⟨shown, selected, hsession, hshown⟩ := e.present_session text suggestions
    rw [move_of_vim hvim h.session.keyed hmotion] at hsession
    refine ⟨⟨?_, fun _ => hconfig ▸ hvim⟩, by rw [hsession]; exact nofun⟩
    rw [hsession]
    refine ⟨?_, ?_, fun hne => absurd rfl hne, nofun, nofun, rfl⟩
    · rcases hshown with ⟨-, hselected⟩ | ⟨rfl, rfl⟩
      · exact hselected
      · exact h.session.selected_eq
    · intro keymap hkeymap
      obtain rfl : Keymap.generate suggestions.length = keymap := Option.some.inj hkeymap
      rw [Keymap.size_generate]
  · obtain ⟨hmode, hsession⟩ := h.present_plain hawake hplain suggestions
    have hmode' : (e.present text suggestions).engine.session.mode = .composing := by
      rw [hsession]
      exact hmode
    refine ⟨⟨?_, fun hvim => by rw [hmode'] at hvim; cases hvim⟩, by rw [hmode']; exact nofun⟩
    rw [hsession] at hmode' ⊢
    refine ⟨rfl, h.session.keyed, fun _ => h.session.unkeyed (by rw [hmode]; exact nofun), ?_,
      fun _ => h.session.composing hmode, h.session.column⟩
    intro hidle
    rw [hmode'] at hidle
    cases hidle

/-- The entries of a menu that is shown in vim mode bear their codes. -/
lemma Coherent.coded_present (hformats : e.look.Formats) (text : String)
    (suggestions : List Suggestion) : (e.present text suggestions).engine.session.Coded := by
  rcases e.vim_or_plain text with ⟨hvim, hmotion⟩ | hplain
  · obtain ⟨menu, hmenu⟩ := exists_present hvim h.session.keyed hmotion hformats suggestions
    obtain ⟨hsession, hturned⟩ := turned_of_present hvim h.session.keyed hmotion hmenu
    have hlength : menu.length = suggestions.length := hturned.length_eq
    rw [hsession]
    intro _ _
    refine ⟨congrArg (fun n : ℕ => some (Keymap.generate n)) hlength.symm, fun i hi => ?_⟩
    have hi' : i < suggestions.length := hlength ▸ hi
    obtain ⟨lead, -, hshown⟩ :=
      hturned.getElem? (ringIndex_lt (Nat.zero_lt_of_lt hi') _) hi' rfl
    show menu[i]?.bind Suggestion.code = some (String.ofList (codeOf (ringIndex _ menu.length)))
    rw [hshown, hlength]
    rfl
  · obtain ⟨hmode, hsession⟩ := h.present_plain hawake hplain suggestions
    rw [hsession]
    intro hvim
    cases hmode.symm.trans hvim

/-- So does a provider that fails. -/
lemma Coherent.reject (text : String) (fault : Fault) :
    (e.reject text fault).engine.Coherent ∧ (e.reject text fault).engine.session.mode ≠ .idle := by
  have hconfig : (e.reject text fault).engine.config = e.config :=
    (e.reject_sameHost text fault).config
  have hmode : (e.reject text fault).engine.session.mode =
      if e.hasMotion text then .vim else e.session.mode := by rw [reject_session]
  have hnotIdle : (e.reject text fault).engine.session.mode ≠ .idle := by
    rw [hmode]
    split
    · exact nofun
    · exact hawake
  refine ⟨⟨?_, ?_⟩, hnotIdle⟩
  · rw [reject_session] at hnotIdle ⊢
    refine ⟨rfl, h.session.keyed, ?_, fun hidle => absurd hidle hnotIdle, ?_, h.session.column⟩
    · intro hne
      refine h.session.unkeyed fun hvim => hne ?_
      show (if e.hasMotion text then Session.Mode.vim else e.session.mode) = .vim
      rw [hvim, ite_self]
    · intro hcomposing
      refine h.session.composing ?_
      change (if e.hasMotion text then Session.Mode.vim else e.session.mode) = .composing at hcomposing
      split at hcomposing
      · cases hcomposing
      · exact hcomposing
  · intro hvim
    rw [hconfig]
    rw [hmode] at hvim
    split at hvim
    · rename_i hmotion
      rw [hasMotion, Bool.and_eq_true] at hmotion
      exact hmotion.1
    · exact h.enabled hvim

end Menus

lemma Coherent.begun {e : Engine α β} (h : e.Coherent) (text : String) :
    (e.begun text).Coherent ∧ (e.begun text).session.mode ≠ .idle := by
  obtain ⟨hawake, hvim, -⟩ := e.session.beginChange_mode text
  exact ⟨⟨h.session.beginChange text, fun hmode => h.enabled (hvim.mp hmode)⟩, hawake⟩

lemma Coherent.ended {e : Engine α β} : e.ended.Coherent :=
  ⟨Session.coherent_fresh _, nofun⟩

/-! ## Runs -/

namespace Live

/-- A coherent engine whose session has no current call while it is idle. -/
structure Coherent (s : Live α β) : Prop where
  engine : s.engine.Coherent
  numbered : s.Numbered
  awake : ∀ call, s.Current call → s.engine.session.mode ≠ .idle

lemma coherent_live {e : Engine α β} (h : e.session = {}) : e.live.Coherent where
  engine := by
    refine ⟨?_, ?_⟩
    · show e.session.Coherent
      rw [h]
      exact Session.coherent_fresh 0
    · show e.session.mode = .vim → _
      rw [h]
      exact nofun
  numbered := numbered_live e
  awake call hcurrent := by
    obtain ⟨request, hrequest, -⟩ := hcurrent
    cases hrequest

/-- **One event keeps a state coherent.** -/
lemma Coherent.step {s : Live α β} (h : s.Coherent) (event : Event α) :
    (s.step event).1.Coherent := by
  suffices hstep : (s.step event).1.engine.Coherent ∧
      ∀ call, (s.step event).1.Current call → (s.step event).1.engine.session.mode ≠ .idle from
    ⟨hstep.1, h.numbered.step event, hstep.2⟩
  -- A call that is current afterwards was so before, unless the event wakes the session or ends it.
  have hturn := s.turn_step event
  generalize (s.step event).1.engine = engine at hturn ⊢
  generalize (s.step event).2 = effects at hturn
  cases hturn with
  | stray lead =>
      refine ⟨h.engine, fun call hcurrent => h.awake call ?_⟩
      rwa [step_change_of_not_hasLead lead] at hcurrent
  | asks | unworded =>
      obtain ⟨hbegun, hawake⟩ := h.engine.begun _
      exact ⟨hbegun, fun _ _ => hawake⟩
  | shows lead suggestions =>
      obtain ⟨hbegun, hawake⟩ := h.engine.begun _
      obtain ⟨hpresent, hawake'⟩ := hbegun.present hawake _ suggestions
      exact ⟨hpresent, fun _ _ => hawake'⟩
  | absent | passes =>
      exact ⟨h.engine, fun call hcurrent => h.awake call (current_of_step_settle hcurrent)⟩
  | takes pending current provided =>
      obtain ⟨hpresent, hawake⟩ := h.engine.present (h.awake _ ⟨_, pending, current⟩) _ _
      exact ⟨hpresent, fun _ _ => hawake⟩
  | rejects pending current failed rejection =>
      obtain ⟨hreject, hawake⟩ := h.engine.reject (h.awake _ ⟨_, pending, current⟩) _ _
      exact ⟨hreject, fun _ _ => hawake⟩
  | enters | starts | cancels =>
      exact ⟨Engine.Coherent.ended, fun call hcurrent =>
        absurd hcurrent (not_current_of_supersedes h.numbered rfl rfl)⟩

/-- A run keeps a state coherent. -/
lemma Coherent.after {s : Live α β} (h : s.Coherent) (events : List (Event α)) :
    (s.after events).Coherent := by
  induction events generalizing s with
  | nil => exact h
  | cons event rest ih => exact ih (h.step event)

/-- One event keeps the entries of a menu under their codes. -/
lemma Coherent.coded_step {s : Live α β} (h : s.Coherent) (hformats : s.engine.look.Formats)
    (hcoded : s.engine.session.Coded) (event : Event α) :
    (s.step event).1.engine.session.Coded := by
  have hbegun : ∀ text, (s.engine.begun text).session.Coded := fun text hvim =>
    hcoded ((s.engine.session.beginChange_mode text).2.1.mp hvim)
  have hturn := s.turn_step event
  generalize (s.step event).1.engine = engine at hturn ⊢
  generalize (s.step event).2 = effects at hturn
  cases hturn with
  | stray | absent | passes => exact hcoded
  | asks | unworded => exact hbegun _
  | shows lead suggestions =>
      obtain ⟨hcoherent, hawake⟩ := h.engine.begun _
      exact hcoherent.coded_present hawake hformats _ suggestions
  | takes pending current provided =>
      exact h.engine.coded_present (h.awake _ ⟨_, pending, current⟩) hformats _ _
  | rejects =>
      rw [reject_session]
      exact fun _ hne => absurd rfl hne
  | enters | starts | cancels => exact nofun

/-- A run does so too. -/
lemma Coherent.coded_after {s : Live α β} (h : s.Coherent) (hformats : s.engine.look.Formats)
    (hcoded : s.engine.session.Coded) (events : List (Event α)) :
    (s.after events).engine.session.Coded := by
  induction events generalizing s with
  | nil => exact hcoded
  | cons event rest ih =>
      refine ih (h.step event) ?_ (h.coded_step hformats hcoded event)
      rw [look, (s.sameHost_step event).config]
      exact hformats

end Live

/-- **A session is coherent after any run**, whatever its events are and in whatever order the
providers answer; and in vim mode the entries bear their codes, if the template takes them all. -/
theorem session_coherent {e : Engine α β} (hfresh : e.session = {}) (events : List (Event α)) :
    (e.live.after events).engine.session.Coherent ∧
      (e.look.Formats → (e.live.after events).engine.session.Coded) := by
  have hcoherent := Live.coherent_live hfresh
  refine ⟨(hcoherent.after events).engine.session, fun hformats => ?_⟩
  refine hcoherent.coded_after hformats ?_ events
  show e.session.Coded
  rw [hfresh]
  exact nofun

/-- A command that leaves its suggestions to a provider. -/
def shelf : Engine Unit Unit where
  registry := (({} : Registry Unit Unit).register
    [.command (.text "list") [] .null .absent [] (.callable ())]).1

lemma shelf_session : shelf.session = {} := rfl

/-- The suggestion of a provider. -/
def single : Except Fault Provided :=
  .ok (.items [.suggestion { content := "a", description := "" }])

/-- A menu is shown in vim mode, and the next change waits for its provider. -/
theorem shelf_session_coherent :
    let s := shelf.live.after [.change 0 "list [j]", .settle 0 single, .change 1 "list"]
    shelf.session = {} ∧ shelf.look.Formats ∧ s.engine.session.mode = .vim ∧
      s.engine.session.suggestions.map Suggestion.content = ["list a"] ∧
      s.engine.session.Coherent ∧ s.engine.session.Coded :=
  have hformats : shelf.look.Formats := Annotation.formats_default
  have hcoherent := session_coherent (e := shelf) rfl
    [.change 0 "list [j]", .settle 0 single, .change 1 "list"]
  ⟨rfl, hformats, by decide +kernel, by decide +kernel, hcoherent.1, hcoherent.2 hformats⟩

end Engine

end CommandPalette
