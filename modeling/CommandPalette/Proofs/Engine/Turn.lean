import CommandPalette.Proofs.Engine.Number

/-!
# What one event does

`Live.step` is defined by the operations of an engine, and an operation may end in several ways.  Here
the ways are listed once, each with its condition, the engine that it leaves and what is seen of it, so
that a property of all runs is proved by going through a list.

* `Live.Turn`: the ways in which an event may go.
* **`Live.turn_step`**: every event goes one of these ways.
-/

namespace CommandPalette

open Command Motion

variable {α β : Type}

namespace Engine

namespace Live

/-- The ways in which an event may go, with the engine that it leaves and what is seen of it. -/
inductive Turn (s : Live α β) : Event α → Engine α β → List (Effect α β) → Prop
  /-- A line that is no command line is answered at once. -/
  | stray {call : ℕ} {text : String} (lead : s.engine.hasLead text = false) :
      Turn s (.change call text) s.engine [.answered call (.ok [])]
  /-- A change asks a provider. -/
  | asks {call : ℕ} {text : String} (lead : s.engine.hasLead text = true) (provider : β)
      (args : List String) :
      Turn s (.change call text) (s.engine.begun text) [.asked call provider args]
  /-- A suggestion has no wording. -/
  | unworded {call : ℕ} {text : String} (lead : s.engine.hasLead text = true) (fault : Fault) :
      Turn s (.change call text) (s.engine.begun text) [.answered call (.error fault)]
  /-- A change shows what needs no provider. -/
  | shows {call : ℕ} {text : String} (lead : s.engine.hasLead text = true)
      (suggestions : List Suggestion) :
      Turn s (.change call text) ((s.engine.begun text).present text suggestions).engine
        [.answered call ((s.engine.begun text).present text suggestions).result]
  /-- There is no such call. -/
  | absent {call : ℕ} {outcome : Except Fault Provided} (unknown : s.pending call = none) :
      Turn s (.settle call outcome) s.engine []
  /-- A call ends out of date, or is interrupted. -/
  | passes {call : ℕ} {outcome : Except Fault Provided} {request : Request β}
      (pending : s.pending call = some request)
      (unheard : request.sequence ≠ s.engine.session.sequence ∨ ∃ fault, Interrupts outcome fault) :
      Turn s (.settle call outcome) s.engine [.answered call (discarded outcome)]
  /-- The suggestions of a current call are shown. -/
  | takes {call : ℕ} {outcome : Except Fault Provided} {request : Request β}
      {suggestions : List Suggestion} (pending : s.pending call = some request)
      (current : request.sequence = s.engine.session.sequence)
      (provided : concluded outcome = .ok suggestions) :
      Turn s (.settle call outcome)
        (s.engine.present request.text (suggestions.map (underPath request.path))).engine
        [.answered call
          (s.engine.present request.text (suggestions.map (underPath request.path))).result]
  /-- The provider of a current call fails. -/
  | rejects {call : ℕ} {outcome : Except Fault Provided} {request : Request β} {fault : Fault}
      (pending : s.pending call = some request)
      (current : request.sequence = s.engine.session.sequence)
      (failed : concluded outcome = .error fault) (rejection : fault.isRejection = true) :
      Turn s (.settle call outcome) (s.engine.reject request.text fault).engine
        ((s.engine.reject request.text fault).effects call)
  /-- A submission ends the session. -/
  | enters {act : α → List String → Except Fault Returned} {text : String}
      {disposition : Option String} :
      Turn s (.enter act text disposition) s.engine.ended
        (s.engine.enter act text disposition).submitted
  | starts : Turn s .start s.engine.ended []
  | cancels : Turn s .cancel s.engine.ended []

lemma present_effects (e : Engine α β) (call : ℕ) (text : String) (suggestions : List Suggestion) :
    (e.present text suggestions).effects call = [.answered call (e.present text suggestions).result] := by
  unfold present
  split
  split <;> rfl

/-- The suggestions of a current call are shown. -/
lemma step_settle_current {s : Live α β} {call : ℕ} {request : Request β}
    (h : s.pending call = some request) (hcurrent : request.sequence = s.engine.session.sequence)
    {outcome : Except Fault Provided} {suggestions : List Suggestion}
    (hprovided : concluded outcome = .ok suggestions) :
    let answer := s.engine.present request.text (suggestions.map (underPath request.path))
    s.step (.settle call outcome) =
      (⟨answer.engine, Function.update s.pending call none⟩, [.answered call answer.result]) := by
  intro answer
  rw [step_settle h, decide_eq_true hcurrent, hprovided, ← present_effects]
  rfl

lemma turn_change {s : Live α β} {text : String} (h : s.engine.hasLead text = true) (call : ℕ) :
    s.Turn (.change call text) (noted s.pending call ((s.engine.begun text).respond text)).1.engine
      (noted s.pending call ((s.engine.begun text).respond text)).2 := by
  have hshown : ∀ suggestions, s.Turn (.change call text)
      (noted s.pending call ((s.engine.begun text).shown text suggestions)).1.engine
      (noted s.pending call ((s.engine.begun text).shown text suggestions)).2 := by
    intro suggestions
    cases suggestions with
    | error fault => exact .unworded h fault
    | ok suggestions =>
        have hturn : s.Turn (.change call text) _ _ := .shows h suggestions
        rw [← present_effects] at hturn
        exact hturn
  unfold respond
  split
  · exact hshown _
  · split
    · exact .asks h _ _
    · exact hshown _

/-- **Every event goes one of these ways.** -/
lemma turn_step (s : Live α β) (event : Event α) :
    s.Turn event (s.step event).1.engine (s.step event).2 := by
  cases event with
  | change call text =>
      cases hlead : s.engine.hasLead text with
      | false =>
          rw [step_change_of_not_hasLead hlead]
          exact .stray hlead
      | true =>
          rw [step_change_of_hasLead hlead]
          exact turn_change hlead call
  | settle call outcome =>
      cases hpending : s.pending call with
      | none =>
          rw [step_settle_none hpending]
          exact .absent hpending
      | some request =>
          by_cases hcurrent : request.sequence = s.engine.session.sequence
          · cases hconcluded : concluded outcome with
            | ok suggestions =>
                rw [step_settle_current hpending hcurrent hconcluded]
                exact .takes hpending hcurrent hconcluded
            | error fault =>
                rw [step_settle hpending, decide_eq_true hcurrent, hconcluded]
                cases hrejection : fault.isRejection with
                | true =>
                    simp only [settled, hrejection, if_true]
                    exact .rejects hpending hcurrent hconcluded hrejection
                | false =>
                    have hinterrupts : Interrupts outcome fault := ⟨hconcluded, hrejection⟩
                    rw [← hconcluded, settled_interrupts _ _ _ _ hinterrupts]
                    exact .passes hpending (.inr ⟨fault, hinterrupts⟩)
          · rw [step_settle_stale hpending hcurrent]
            exact .passes hpending (.inl hcurrent)
  | enter act text disposition =>
      rw [step_enter]
      exact .enters
  | start => exact .starts
  | cancel => exact .cancels

end Live

end Engine

end CommandPalette
