import CommandPalette.Proofs.Engine.Coherence
import CommandPalette.Proofs.Engine.Erasure
import CommandPalette.Proofs.Engine.Newest

/-!
# Submissions while a change waits

A change that waits for its provider has been noted, and no more: the menu of an earlier change is still
shown, and with it the highlighted entry that a submission runs in vim mode.

* `Live.suggestions_after`: a menu that is shown was an answer of the run.
* `Session.highlighted?`: the entry that a submission runs, if there is one.
* **`Waiting.submits_shown`**: what is submitted while a change waits is what would have been submitted
  without the change.  It is the highlighted entry of a menu that the episode has seen, or the line.
-/

namespace CommandPalette

open Command Motion

variable {α β : Type}

namespace Session

/-- The content of the highlighted entry: the first one of a menu in vim mode, unless it is empty. -/
def highlighted? (s : Session) : Option String :=
  if s.vimMode then (s.suggestions.head?.map Suggestion.content).filter (!·.isEmpty) else none

/-- A submission runs the highlighted entry, or else the line. -/
lemma Coherent.submissionText_eq {s : Session} (h : s.Coherent) (line : String) :
    s.submissionText line = s.highlighted?.getD line := by
  rw [submissionText, highlighted?, h.selected_eq]
  cases s.vimMode with
  | false => rfl
  | true =>
      cases s.suggestions.head? with
      | none => rfl
      | some first => cases hempty : first.content.isEmpty <;> simp [Option.filter, hempty]

lemma of_highlighted? {s : Session} {content : String} (h : s.highlighted? = some content) :
    content ≠ "" ∧ s.suggestions.head?.map Suggestion.content = some content := by
  rw [highlighted?] at h
  split at h
  · obtain ⟨hcontent, hempty⟩ := Option.filter_eq_some_iff.mp h
    refine ⟨?_, hcontent⟩
    rintro rfl
    simp at hempty
  · cases h

end Session

namespace Engine

namespace Live

/-! ## Where a menu comes from -/

lemma suggestions_present (e : Engine α β) (text : String) (suggestions : List Suggestion) :
    (e.present text suggestions).engine.session.suggestions = e.session.suggestions ∨
      (e.present text suggestions).result =
        .ok (e.present text suggestions).engine.session.suggestions := by
  obtain ⟨shown, selected, hsession, ⟨hresult, -⟩ | ⟨hshown, -⟩⟩ := e.present_session text suggestions
  · right
    rw [hsession]
    exact hresult
  · left
    rw [hsession]
    exact hshown

/-- An event leaves the menu as it is, empties it, or answers a call with it. -/
lemma suggestions_step (s : Live α β) (event : Event α) :
    (s.step event).1.engine.session.suggestions = s.engine.session.suggestions ∨
      (s.step event).1.engine.session.suggestions = [] ∨
      ∃ call, .answered call (.ok (s.step event).1.engine.session.suggestions) ∈ (s.step event).2 := by
  have hturn := s.turn_step event
  generalize (s.step event).1.engine = engine at hturn ⊢
  generalize (s.step event).2 = effects at hturn ⊢
  cases hturn with
  | stray | asks | unworded | absent | passes => exact .inl rfl
  | shows lead suggestions =>
      rcases suggestions_present (s.engine.begun _) _ suggestions with hsame | hresult
      · exact .inl hsame
      · exact .inr (.inr ⟨_, by rw [← hresult]; exact List.mem_singleton_self _⟩)
  | takes =>
      rcases suggestions_present s.engine _ _ with hsame | hresult
      · exact .inl hsame
      · exact .inr (.inr ⟨_, by rw [← hresult]; exact List.mem_singleton_self _⟩)
  | rejects => exact .inr (.inl (by rw [reject_session]))
  | enters | starts | cancels => exact .inr (.inl rfl)

/-- **A menu that a run shows is the one from before the run, is empty, or was an answer.** -/
lemma suggestions_after (s : Live α β) (events : List (Event α)) :
    (s.after events).engine.session.suggestions = s.engine.session.suggestions ∨
      (s.after events).engine.session.suggestions = [] ∨
      ∃ call, .answered call (.ok (s.after events).engine.session.suggestions) ∈ s.trace events := by
  induction events generalizing s with
  | nil => exact .inl rfl
  | cons event rest ih =>
      rw [after, trace]
      rcases ih (s.step event).1 with hsame | hempty | ⟨call, hanswered⟩
      · rw [hsame]
        rcases s.suggestions_step event with hsame' | hempty | ⟨call, hanswered⟩
        · exact .inl hsame'
        · exact .inr (.inl hempty)
        · exact .inr (.inr ⟨call, List.mem_append_left _ hanswered⟩)
      · exact .inr (.inl hempty)
      · exact .inr (.inr ⟨call, List.mem_append_right _ hanswered⟩)

end Live

/-- A run in which the newest change of an episode waits for its provider, or was interrupted. -/
structure Waiting (e : Engine α β) where
  call : ℕ
  text : String
  /-- The events before the episode, those of the episode before the change, and those since. -/
  earlier : List (Event α)
  episode : List (Event α)
  since : List (Event α)
  fresh : e.session = {}
  idle : (e.live.after earlier).engine.session.mode = .idle
  lead : e.hasLead text = true
  asks : e.Asks text
  newest : ∀ event ∈ since, event.supersedes e = false
  unanswered : ∀ outcome, .settle call outcome ∈ since → ∃ fault, Interrupts outcome fault

namespace Waiting

variable {e : Engine α β}

/-- The state before the change. -/
def before (run : Waiting e) : Live α β := e.live.after (run.earlier ++ run.episode)

/-- The state while the change waits. -/
def state (run : Waiting e) : Live α β :=
  e.live.after (run.earlier ++ run.episode ++ .change run.call run.text :: run.since)

/-- All that has happened to the engine since is that the change was noted. -/
lemma engine_state (run : Waiting e) : run.state.engine = run.before.engine.begun run.text := by
  have hhost : e.SameHost run.before.engine := e.live.sameHost_after _
  have hnumbered : run.before.Numbered := Live.numbered_after e _
  have hlead : run.before.engine.hasLead run.text = true := by rw [hhost.hasLead, run.lead]
  rw [state, Live.after_append, Live.after, ← before,
    hnumbered.engine_after_change hhost run.lead run.newest run.unanswered]
  exact Live.engine_of_asks hlead (hhost.asks run.asks) run.call

lemma coherent_state (run : Waiting e) : run.state.engine.session.Coherent :=
  ((Live.coherent_live run.fresh).after _).engine.session

/-- The menu that is still shown is empty or an answer of the episode. -/
lemma suggestions_state (run : Waiting e) : run.state.engine.session.suggestions = [] ∨
    ∃ call, .answered call (.ok run.state.engine.session.suggestions) ∈
      (e.live.after run.earlier).trace run.episode := by
  have hkept : run.state.engine.session.suggestions = run.before.engine.session.suggestions := by
    rw [engine_state]
    rfl
  rw [hkept, before, Live.after_append]
  rcases (e.live.after run.earlier).suggestions_after run.episode with hsame | hempty | hanswered
  · -- An idle session shows nothing.
    have hidle := ((Live.coherent_live run.fresh).after run.earlier).engine.session.idle run.idle
    left
    rw [hsame, hidle]
  · exact .inl hempty
  · exact .inr hanswered

/-- **A change that waits has no part in a submission.**  What is seen of the submission is what would
have been seen without the change.  The line that is run is the highlighted entry of the menu that is
still shown, which an earlier call of the episode has answered with; if there is none, it is the line
itself. -/
theorem submits_shown (run : Waiting e) (act : α → List String → Except Fault Returned) (line : String)
    (disposition : Option String) :
    (run.state.step (.enter act line disposition)).2 =
        (run.before.step (.enter act line disposition)).2 ∧
      run.state.engine.session.submissionText line =
        run.state.engine.session.highlighted?.getD line ∧
      ∀ content, run.state.engine.session.highlighted? = some content → content ≠ "" ∧
        ∃ call menu, .answered call (.ok menu) ∈ (e.live.after run.earlier).trace run.episode ∧
          menu.head?.map Suggestion.content = some content := by
  refine ⟨?_, run.coherent_state.submissionText_eq line, fun content hcontent => ?_⟩
  · rw [step_of_supersedes rfl, step_of_supersedes rfl, engine_state, superseding_begun]
    rfl
  · obtain ⟨hne, hfirst⟩ := Session.of_highlighted? hcontent
    refine ⟨hne, ?_⟩
    rcases run.suggestions_state with hempty | ⟨call, hanswered⟩
    · rw [hempty] at hfirst
      cases hfirst
    · exact ⟨call, _, hanswered, hfirst⟩

open Overtaken (menu late)

/-- A menu in vim mode, and then a change whose provider is cancelled. -/
def hurried : Waiting menu where
  call := 1
  text := "slow"
  earlier := []
  episode := [.change 0 "fast [j]", .settle 0 late]
  since := [.settle 1 (.error (.foreign "CancelledError" ""))]
  fresh := rfl
  idle := rfl
  lead := by decide +kernel
  asks := by decide +kernel
  newest := by decide
  unanswered outcome hmem := by
    simp only [List.mem_singleton, Event.settle.injEq, true_and] at hmem
    exact ⟨.foreign "CancelledError" "", by rw [hmem]; rfl, by decide +kernel⟩

/-- The entry of the earlier menu is run. -/
theorem hurried_submits_shown :
    hurried.state.engine.session.highlighted? = some "fast late" ∧
      hurried.state.engine.session.submissionText "slow" = "fast late" ∧
      ∃ call menu, .answered call (.ok menu) ∈
          (Overtaken.menu.live.after hurried.earlier).trace hurried.episode ∧
        menu.head?.map Suggestion.content = some "fast late" := by
  have hhighlighted : hurried.state.engine.session.highlighted? = some "fast late" := by
    decide +kernel
  obtain ⟨-, hline, hseen⟩ := submits_shown hurried (fun _ _ => .ok (.value .null)) "slow" none
  refine ⟨hhighlighted, ?_, (hseen _ hhighlighted).2⟩
  rw [hline, hhighlighted]
  rfl

/-- **The line itself is not always what is run while a change waits.** -/
theorem hurried_not_submits_line :
    menu.hasLead "slow" = true ∧
      ¬ hurried.state.engine.session.submissionText "slow" = "slow" := by
  decide +kernel

end Waiting

end Engine

end CommandPalette
