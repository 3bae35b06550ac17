import CommandPalette.Proofs.Engine.Raising

/-!
# What a change takes from the past

A session carries much from one change to the next: jump codes, a position, a menu and what is selected
in it, the last failure.  A change that is answered in time takes nothing of it but whether the session is
in vim mode.

* `Session.ShowsAlike`, `Session.PlacedAlike`: what two sessions have in common after such a change.
* `Engine.Peers`: two engines of one host, to which a line means the same.  They show a menu alike
  (`Peers.present`), and a failure (`Peers.reject`).
* **`Timely.answers_alike`**: so two changes with one line and one outcome come to the same, and a change
  that is repeated comes to the same again.
-/

namespace CommandPalette

open Command Motion

variable {α β : Type}

namespace Session

/-- Two sessions show the same menu in the same mode, with the same entry selected. -/
structure ShowsAlike (s s' : Session) : Prop where
  mode : s'.mode = s.mode
  suggestions : s'.suggestions = s.suggestions
  selected : s'.selected = s.selected

/-- Two sessions stand at the same place by the same motions, with the same jump codes at hand. -/
structure PlacedAlike (s s' : Session) : Prop where
  position : s'.position = s.position
  chains : s'.chains = s.chains
  keymap : s'.keymap = s.keymap

end Session

namespace Engine

/-! ## What is left after a change -/

/-- A line has its provider asked, and the provider fails. -/
def Fails (e : Engine α β) (text : String) (outcome : Except Fault Provided) : Prop :=
  e.Asks text ∧ ∃ fault, concluded outcome = .error fault

lemma fails_of_suggested {e : Engine α β} {text : String} (h : e.Asks text)
    {outcome : Except Fault Provided} {fault : Fault} (hsuggested : e.suggested text outcome = .error fault) :
    e.Fails text outcome := by
  obtain ⟨request, lines, hrespond, htext, hmap⟩ := respond_of_asks h
  rw [hmap outcome] at hsuggested
  cases hconcluded : concluded outcome with
  | ok provided => rw [hconcluded] at hsuggested; cases hsuggested
  | error other => exact ⟨h, other, hconcluded⟩

/-- If the line comes again right after the change, its menu is in vim mode exactly if it was the first
time. -/
lemma vimMode_completed (e : Engine α β) (text : String) (outcome : Except Fault Provided) :
    ((e.completed text outcome).engine.session.vimMode || e.hasMotion text) =
      (e.session.vimMode || e.hasMotion text) := by
  have hmode : (e.completed text outcome).engine.session.mode = e.session.mode ∨
      (e.completed text outcome).engine.session.mode =
        if e.hasMotion text then .vim else e.session.mode := by
    unfold completed
    split
    · exact .inr (e.present_mode text _)
    · split
      · exact .inr (e.reject_mode text _)
      · exact .inl rfl
  unfold Session.vimMode
  rcases hmode with hmode | hmode
  · rw [hmode]
  · rw [hmode]
    cases e.hasMotion text <;> simp

/-! ## Engines that differ in their past -/

/-- Where a menu is not in vim mode, what is suggested is what is returned. -/
lemma Coherent.present_plain_result {e : Engine α β} (h : e.Coherent) (hawake : e.session.mode ≠ .idle)
    {text : String} (hplain : ¬ e.InVim text) (suggestions : List Suggestion) :
    (e.present text suggestions).result = .ok suggestions := by
  obtain ⟨menu, hmenu⟩ : ∃ menu, arrange e.look (e.move text suggestions.length).1.vimMode
      (e.move text suggestions.length).1.keymap (e.move text suggestions.length).1.position.y
      suggestions = .ok menu := by
    rw [vimMode_of_not_inVim h hplain]
    exact ⟨_, rfl⟩
  obtain ⟨hresult, hsession⟩ := present_ok hmenu
  have hshown := (h.present_plain hawake ((e.vim_or_plain text).resolve_left hplain) suggestions).2
  rw [hresult]
  exact congrArg Except.ok (congrArg Session.suggestions (hsession.symm.trans hshown))

/-- Two engines of one host that differ in their past only, and to which a line means the same. -/
structure Peers (e e' : Engine α β) (text : String) : Prop where
  host : e.SameHost e'
  coherent : e.Coherent
  coherent' : e'.Coherent
  awake : e.session.mode ≠ .idle
  awake' : e'.session.mode ≠ .idle
  inVim : (e'.session.vimMode || e'.hasMotion text) = (e.session.vimMode || e.hasMotion text)

namespace Peers

variable {e e' : Engine α β} {text : String}

lemma hasMotion (h : e.Peers e' text) : e'.hasMotion text = e.hasMotion text := by
  rw [h.host.eq]
  rfl

/-- They show what is suggested alike, in whatever way each of them has to turn its own menu. -/
lemma present (h : e.Peers e' text) (suggestions : List Suggestion) :
    (e'.present text suggestions).result = (e.present text suggestions).result ∧
      ∀ menu, (e.present text suggestions).result = .ok menu →
        (e.present text suggestions).engine.session.ShowsAlike
            (e'.present text suggestions).engine.session ∧
          (e.present text suggestions).engine.session.PlacedAlike
            (e'.present text suggestions).engine.session := by
  by_cases hvim : e.InVim text
  · -- All that the menu is turned by is made anew from the line.
    have hvim' : e'.InVim text := ⟨h.host.config ▸ hvim.1, h.inVim.trans hvim.2⟩
    have hresult : (e'.present text suggestions).result = (e.present text suggestions).result := by
      rw [present_result, present_result, move_of_vim hvim.1 h.coherent.session.keyed hvim.2,
        move_of_vim hvim'.1 h.coherent'.session.keyed hvim'.2, h.host.look, h.host.stripLead]
      rfl
    refine ⟨hresult, fun menu hmenu => ?_⟩
    rw [(turned_of_present hvim.1 h.coherent.session.keyed hvim.2 hmenu).1,
      (turned_of_present hvim'.1 h.coherent'.session.keyed hvim'.2 (hresult.trans hmenu)).1,
      h.host.stripLead]
    exact ⟨⟨rfl, rfl, rfl⟩, ⟨rfl, rfl, rfl⟩⟩
  · have hvim' : ¬ e'.InVim text := fun hvim' =>
      hvim ⟨h.host.config ▸ hvim'.1, h.inVim.symm.trans hvim'.2⟩
    obtain ⟨hmode, hsession⟩ := h.coherent.present_plain h.awake
      ((e.vim_or_plain text).resolve_left hvim) suggestions
    obtain ⟨hmode', hsession'⟩ := h.coherent'.present_plain h.awake'
      ((e'.vim_or_plain text).resolve_left hvim') suggestions
    rw [h.coherent.present_plain_result h.awake hvim, h.coherent'.present_plain_result h.awake' hvim',
      hsession, hsession']
    refine ⟨rfl, fun menu hmenu => ⟨⟨hmode'.trans hmode.symm, rfl, rfl⟩, ?_, ?_, ?_⟩⟩
    · exact (h.coherent'.session.position_eq hmode').trans (h.coherent.session.position_eq hmode).symm
    · exact (h.coherent'.session.composing hmode').1.trans (h.coherent.session.composing hmode).1.symm
    · have hkeymap : ∀ {s : Session}, s.Coherent → s.mode = .composing → s.keymap = none :=
        fun hs hcomposing => hs.unkeyed (by rw [hcomposing]; exact nofun)
      exact (hkeymap h.coherent'.session hmode').trans (hkeymap h.coherent.session hmode).symm

lemma mode_eq (h : e.Peers e' text) (hplain : e.hasMotion text = false) :
    e'.session.mode = e.session.mode := by
  have hvim := h.inVim
  rw [h.hasMotion, hplain, Bool.or_false, Bool.or_false, Session.vimMode, Session.vimMode] at hvim
  have hawake := h.awake
  have hawake' := h.awake'
  revert hvim hawake hawake'
  cases e.session.mode <;> cases e'.session.mode <;> simp

/-- They take a failure alike. -/
lemma reject (h : e.Peers e' text) (fault : Fault) :
    (e'.reject text fault).result = (e.reject text fault).result ∧
      (e.reject text fault).engine.session.ShowsAlike (e'.reject text fault).engine.session := by
  constructor
  · have hreport : ∀ left right : Engine α β, left.onError = right.onError →
        (left.report fault).result = (right.report fault).result := by
      intro left right honError
      have hiff : ∀ raised, (left.report fault).result = .error raised ↔
          (right.report fault).result = .error raised := by
        intro raised
        rw [report_eq_error_iff, report_eq_error_iff, honError]
      cases hleft : (left.report fault).result with
      | error raised => exact ((hiff raised).mp hleft).symm
      | ok done => cases hright : (right.report fault).result with
        | ok done => rfl
        | error raised => cases hleft.symm.trans ((hiff raised).mpr hright)
    exact congrArg (Except.map fun _ => []) (hreport _ _ h.host.onError)
  · rw [reject_session, reject_session]
    refine ⟨?_, rfl, rfl⟩
    show (if e'.hasMotion text then Session.Mode.vim else e'.session.mode) =
      if e.hasMotion text then .vim else e.session.mode
    rw [h.hasMotion]
    cases hmotion : e.hasMotion text with
    | true => rfl
    | false => exact h.mode_eq hmotion

/-- **They answer a change alike**, and stand alike afterwards unless its provider has failed. -/
lemma completed (h : e.Peers e' text) (outcome : Except Fault Provided) :
    (e'.completed text outcome).result = (e.completed text outcome).result ∧
      ∀ menu, (e.completed text outcome).result = .ok menu →
        (e.completed text outcome).engine.session.ShowsAlike (e'.completed text outcome).engine.session ∧
          (¬ e.Fails text outcome → (e.completed text outcome).engine.session.PlacedAlike
            (e'.completed text outcome).engine.session) := by
  have hasks : e'.Asks text ↔ e.Asks text := by
    rw [Asks, Asks, h.host.process]
  unfold Engine.completed
  rw [h.host.suggested]
  cases hsuggested : e.suggested text outcome with
  | ok suggestions =>
      obtain ⟨hresult, hshown⟩ := h.present suggestions
      exact ⟨hresult, fun menu hmenu => ⟨(hshown menu hmenu).1, fun _ => (hshown menu hmenu).2⟩⟩
  | error fault =>
      dsimp only
      by_cases hrejects : e.Asks text ∧ fault.isRejection = true
      · rw [if_pos hrejects, if_pos ⟨hasks.mpr hrejects.1, hrejects.2⟩]
        obtain ⟨hresult, hshown⟩ := h.reject fault
        exact ⟨hresult, fun menu _ => ⟨hshown, absurd (fails_of_suggested hrejects.1 hsuggested)⟩⟩
      · rw [if_neg hrejects, if_neg fun hrejects' => hrejects ⟨hasks.mp hrejects'.1, hrejects'.2⟩]
        exact ⟨rfl, fun menu hmenu => by cases hmenu⟩

end Peers

/-! ## Changes that are answered in time -/

namespace Timely

variable {e : Engine α β}

/-- Two changes are noted by engines to which the line of the first means the same, if both find the session
in vim mode or neither does, or if the second comes right after the first. -/
lemma peers_noted (run run' : Timely e)
    (hstart : run'.start.engine.session.vimMode = run.start.engine.session.vimMode ∨
      run'.before = run.before ++ run.events) : run.noted.Peers run'.noted run.text := by
  have hhost : run.noted.SameHost run'.noted := by
    obtain ⟨hconfig, hregistry, honError⟩ := run.sameHost_noted
    obtain ⟨hconfig', hregistry', honError'⟩ := run'.sameHost_noted
    exact ⟨hconfig'.trans hconfig.symm, hregistry'.trans hregistry.symm, honError'.trans honError.symm⟩
  have hvim : ∀ run : Timely e, run.noted.session.vimMode = run.start.engine.session.vimMode := by
    intro run
    rw [Session.vimMode, Session.vimMode, Bool.eq_iff_iff, beq_iff_eq, beq_iff_eq]
    exact (run.start.engine.session.beginChange_mode run.text).2.1
  have hmotion : run'.noted.hasMotion run.text = run.noted.hasMotion run.text := by
    rw [hhost.eq]
    rfl
  refine ⟨hhost, run.coherent_noted.1, run'.coherent_noted.1, run.coherent_noted.2,
    run'.coherent_noted.2, ?_⟩
  rw [hmotion, hvim, hvim]
  rcases hstart with hsame | hrepeat
  · rw [hsame]
  · -- What the first change leaves is in vim mode only if it was before, or the line has motions.
    have hstate : run'.start = run.state := by
      rw [start, hrepeat, Live.after_append]
      rfl
    rw [hstate, run.completed_spec.1, vimMode_completed, hvim]

/-- **A change takes nothing from the past but the mode.**  Two changes of a command line, made after any
two histories of an engine, are answered in time with one outcome of the provider; both find the session in
vim mode or neither does, or the second repeats the first.  Then they are answered alike.  If the answer is
a list, the sessions have the same mode, menu and selection afterwards, and unless the provider has failed
they stand at the same place, by the same motions and jump codes. -/
theorem answers_alike (run run' : Timely e) (htext : run'.text = run.text)
    (houtcome : run'.outcome = run.outcome)
    (hstart : run'.start.engine.session.vimMode = run.start.engine.session.vimMode ∨
      run'.before = run.before ++ run.events) :
    (∀ result, .answered run'.call result ∈ run'.seen ↔ .answered run.call result ∈ run.seen) ∧
      ∀ menu, .answered run.call (.ok menu) ∈ run.seen →
        run.state.engine.session.ShowsAlike run'.state.engine.session ∧
          (¬ e.Fails run.text run.outcome →
            run.state.engine.session.PlacedAlike run'.state.engine.session) := by
  obtain ⟨hengine, hseen⟩ := run.completed_spec
  obtain ⟨hengine', hseen'⟩ := run'.completed_spec
  obtain ⟨hresult, hshown⟩ := (run.peers_noted run' hstart).completed run.outcome
  rw [htext, houtcome] at hengine' hseen'
  constructor
  · intro result
    rw [hseen, hseen', hresult]
  · intro menu hanswered
    obtain ⟨halike, hplaced⟩ := hshown menu ((hseen _).mp hanswered).symm
    rw [hengine, hengine']
    refine ⟨halike, fun hnot => hplaced fun hfails => hnot ⟨?_, hfails.2⟩⟩
    rw [Asks, ← run.sameHost_noted.process]
    exact hfails.1

/-- A change in vim mode, after an empty menu and a provider that has failed. -/
def weathered : Timely shelf where
  call := 2
  text := "list [k]"
  outcome := single
  before := [.change 0 "list [2j]", .settle 0 (.ok (.items [])), .change 1 "list",
    .settle 1 (.error (.foreign "ValueError" ""))]
  between := []
  fresh := (shelfRun "list" single).fresh
  lead := by decide +kernel
  foreign := by decide
  newest := (shelfRun "list" single).newest

/-- The same change early in a session. -/
def sheltered : Timely shelf where
  call := 1
  text := "list [k]"
  outcome := single
  before := [.change 0 "list [j]", .settle 0 single]
  between := []
  fresh := weathered.fresh
  lead := weathered.lead
  foreign := by decide
  newest := weathered.newest

/-- The change once more. -/
def renewed : Timely shelf where
  call := 3
  text := "list [k]"
  outcome := single
  before := weathered.before ++ weathered.events
  between := []
  fresh := weathered.fresh
  lead := weathered.lead
  foreign := by decide
  newest := weathered.newest

/-- Other codes and another failure were left by the past, and the answers are the same. -/
theorem weathered_answers_alike :
    weathered.start.engine.session.keymap.map Keymap.size = some 0 ∧
      weathered.start.engine.session.lastError.isSome = true ∧
      sheltered.start.engine.session.keymap.map Keymap.size = some 1 ∧
      sheltered.start.engine.session.lastError.isSome = false ∧
      (∃ menu, .answered 2 (.ok menu) ∈ weathered.seen ∧ .answered 1 (.ok menu) ∈ sheltered.seen ∧
        .answered 3 (.ok menu) ∈ renewed.seen) ∧
      weathered.state.engine.session.ShowsAlike sheltered.state.engine.session ∧
      weathered.state.engine.session.PlacedAlike renewed.state.engine.session := by
  have hmode : sheltered.start.engine.session.vimMode = weathered.start.engine.session.vimMode := by
    decide +kernel
  have hline : shelf.commandLine weathered.text = "list" := by decide +kernel
  have hitems : concluded weathered.outcome = .ok [{ content := "a", description := "" }] := rfl
  obtain ⟨menu, hmenu⟩ := weathered.exists_answered (by decide +kernel) (shelf_suggested hline hitems)
    Annotation.formats_default
  have hnot : ¬ shelf.Fails weathered.text weathered.outcome := by
    rintro ⟨-, fault, hfault⟩
    cases hitems.symm.trans hfault
  obtain ⟨hseen, halike⟩ := weathered.answers_alike sheltered rfl rfl (.inl hmode)
  obtain ⟨hseen', halike'⟩ := weathered.answers_alike renewed rfl rfl (.inr rfl)
  exact ⟨by decide +kernel, by decide +kernel, by decide +kernel, by decide +kernel,
    ⟨menu, hmenu, (hseen _).mpr hmenu, (hseen' _).mpr hmenu⟩, (halike menu hmenu).1,
    (halike' menu hmenu).2 hnot⟩

end Timely

end Engine

end CommandPalette
