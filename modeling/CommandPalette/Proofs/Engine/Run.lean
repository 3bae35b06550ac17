import CommandPalette.Engine
import Mathlib.Data.Nat.Basic
import Mathlib.Logic.Function.Basic
import Mathlib.Tactic.Lemma

/-!
# Runs of an engine

The host's events reach an engine one at a time, but the provider that a change has asked may answer
much later.  A run is a list of events in the order in which they take place, where the answer to a
change is an event of its own; so every interleaving of events and answers is a run.

* `Engine.Event`: what can happen.  A change is known by a number that its caller chose, and the
  provider's answer to it carries the same number.
* `Engine.Live`: an engine with the calls that are in flight.
* `Live.step`, `Live.after`, `Live.trace`: one event, the state that a run leads to, and what the host
  and its callbacks saw of it.
* `Engine.concluded`: what a provider's answer comes to under its guard.
* `Engine.settled`, `Engine.discarded`: what the second half of a change comes to, and what is left
  of it when the call is out of date.
-/

namespace CommandPalette

open Command Motion

variable {α β : Type}

namespace Engine

/-! ## Events and what they bring about -/

/-- What can happen to an engine. -/
inductive Event (α : Type) where
  /-- The line changes; the call has the given number. -/
  | change (call : ℕ) (text : String)
  /-- The provider that a call has asked answers or fails. -/
  | settle (call : ℕ) (outcome : Except Fault Provided)
  /-- The line is submitted; `act` says what running an action comes to. -/
  | enter (act : α → List String → Except Fault Returned) (text : String)
      (disposition : Option String)
  | start
  | cancel

/-- What the host and its callbacks see. -/
inductive Effect (α β : Type) where
  /-- A call asks a provider. -/
  | asked (call : ℕ) (provider : β) (args : List String)
  /-- A call returns, or raises. -/
  | answered (call : ℕ) (result : Except Fault (List Suggestion))
  /-- A failure is reported to the host's callback. -/
  | told (fault : Fault)
  /-- An action is run. -/
  | ran (action : α) (args : List String)
  /-- A submission returns, or raises. -/
  | entered (result : Except Fault (Option Fault))

/-- Whether an event belongs to a call. -/
def Event.concerns (call : ℕ) : Event α → Bool
  | change c _ => c == call
  | settle c _ => c == call
  | _ => false

/-- Whether an effect belongs to a call. -/
def Effect.concerns (call : ℕ) : Effect α β → Bool
  | asked c .. => c == call
  | answered c _ => c == call
  | _ => false

/-- An engine with the calls that wait for their providers. -/
@[ext]
structure Live (α β : Type) where
  /-- The engine. -/
  engine : Engine α β
  /-- What the calls in flight have asked for. -/
  pending : ℕ → Option (Request β)

/-- An engine without calls in flight. -/
def live (e : Engine α β) : Live α β := ⟨e, fun _ => none⟩

/-- What the host sees when a call ends. -/
def Answer.effects (answer : Answer α β (Except Fault (List Suggestion))) (call : ℕ) :
    List (Effect α β) :=
  answer.reported.map .told ++ [.answered call answer.result]

/-- What is seen of a submission: what it runs, and what it returns. -/
def Answer.submitted (answer : Answer α β (Except Fault (Option Fault))) : List (Effect α β) :=
  answer.ran.map (fun run => .ran run.1 run.2) ++ [.entered answer.result]

namespace Live

/-- The first half of a change: either it is answered, or the call waits. -/
def noted (pending : ℕ → Option (Request β)) (call : ℕ) :
    Change α β → Live α β × List (Effect α β)
  | .answered answer => (⟨answer.engine, pending⟩, answer.effects call)
  | .asks engine request _ =>
    (⟨engine, Function.update pending call (some request)⟩,
      [.asked call request.provider request.args])

/-- One event: the state afterwards and what was seen of it. -/
def step (s : Live α β) : Event α → Live α β × List (Effect α β)
  | .change call text => noted s.pending call (s.engine.change text)
  | .settle call outcome => match s.pending call with
    | none => (s, [])
    | some request =>
      let answer := s.engine.settle request outcome
      (⟨answer.engine, Function.update s.pending call none⟩, answer.effects call)
  | .enter act text disposition =>
    let answer := s.engine.enter act text disposition
    ({ s with engine := answer.engine }, answer.submitted)
  | .start => ({ s with engine := s.engine.start.engine }, [])
  | .cancel => ({ s with engine := s.engine.cancel.engine }, [])

/-- The state that a run leads to. -/
def after (s : Live α β) : List (Event α) → Live α β
  | [] => s
  | event :: rest => (s.step event).1.after rest

/-- What is seen of a run. -/
def trace (s : Live α β) : List (Event α) → List (Effect α β)
  | [] => []
  | event :: rest => (s.step event).2 ++ (s.step event).1.trace rest

lemma after_append (s : Live α β) (first later : List (Event α)) :
    s.after (first ++ later) = (s.after first).after later := by
  induction first generalizing s with
  | nil => rfl
  | cons event rest ih => rw [List.cons_append, after, after, ih]

lemma trace_append (s : Live α β) (first later : List (Event α)) :
    s.trace (first ++ later) = s.trace first ++ (s.after first).trace later := by
  induction first generalizing s with
  | nil => rfl
  | cons event rest ih => rw [List.cons_append, trace, trace, after, ih, List.append_assoc]

/-- A call waits for its provider. -/
def InFlight (s : Live α β) (call : ℕ) : Prop := (s.pending call).isSome = true

instance (s : Live α β) (call : ℕ) : Decidable (s.InFlight call) :=
  inferInstanceAs (Decidable (_ = true))

/-- A call waits for its provider, and no later event has made it out of date. -/
def Current (s : Live α β) (call : ℕ) : Prop :=
  ∃ request, s.pending call = some request ∧ request.sequence = s.engine.session.sequence

instance (s : Live α β) (call : ℕ) : Decidable (s.Current call) :=
  decidable_of_iff
    ((s.pending call).any (fun request => request.sequence == s.engine.session.sequence) = true)
    (by simp [Current, Option.any_eq_true])

end Live

/-! ## The operations, once and for all

From here on no proof about runs opens `change`, `settle`, `enter`, `start` or `cancel`.
-/

/-- An engine that has noted a change of the line. -/
def begun (e : Engine α β) (text : String) : Engine α β :=
  { e with session := e.session.beginChange text }

/-- An engine whose session is over. -/
def ended (e : Engine α β) : Engine α β := { e with session := e.session.reset }

/-- The answer to a change that needs no provider, once the change has been noted. -/
def shown (e : Engine α β) (text : String) (suggestions : Except Fault (List Suggestion)) :
    Change α β :=
  match suggestions with
  | .error fault =>
    .answered { engine := e, result := .error fault, lines := e.processRemarks text }
  | .ok suggestions =>
    let answer := e.present text suggestions
    .answered { answer with lines := e.processRemarks text ++ answer.lines }

/-- The first half of a change, once the change has been noted. -/
def respond (e : Engine α β) (text : String) : Change α β :=
  match (e.process text).command with
  | none => e.shown text e.listing
  | some entry => match entry.provider with
    | some provider =>
      .asks e
        { text, sequence := e.session.sequence, provider, args := (e.process text).args
          path := if e.registry.isDefault entry then none else some entry.name }
        (e.processRemarks text ++ [providerGuard.started])
    | none =>
      e.shown text (if e.registry.isDefault entry then e.listing else e.entrySuggestions entry)

lemma change_of_hasLead {e : Engine α β} {text : String} (h : e.hasLead text = true) :
    e.change text = (e.begun text).respond text := by
  rw [change, if_neg (by simp [h])]
  rfl

lemma change_of_not_hasLead {e : Engine α β} {text : String} (h : e.hasLead text = false) :
    e.change text = .answered { engine := e, result := .ok [] } := by
  rw [change, if_pos (by simp [h])]

/-- What a provider's answer comes to under its guard. -/
def concluded (outcome : Except Fault Provided) : Except Fault (List Suggestion) :=
  (providerGuard.finish (Guard.awaited outcome >>= Provided.suggestions?)).outcome

/-- A provider's answer that no engine holds back: the call was cancelled or the program stopped. -/
def Interrupts (outcome : Except Fault Provided) (fault : Fault) : Prop :=
  concluded outcome = .error fault ∧ fault.isRejection = false

/-- The second half of a change without the lines that it writes, given whether the call is still
current and what the provider's answer came to. -/
def settled (e : Engine α β) (current : Bool) (text : String) (path : Option String) :
    Except Fault (List Suggestion) → Answer α β (Except Fault (List Suggestion))
  | .error fault =>
    if fault.isRejection then
      if current then { e.reject text fault with lines := [] }
      else { engine := e, result := .ok [] }
    else { engine := e, result := .error fault }
  | .ok suggestions =>
    if current then { e.present text (suggestions.map (underPath path)) with lines := [] }
    else { engine := e, result := .ok [] }

/-- What a call returns whose suggestions are discarded. -/
def discarded (outcome : Except Fault Provided) : Except Fault (List Suggestion) :=
  match concluded outcome with
  | .error fault => if fault.isRejection then .ok [] else .error fault
  | .ok _ => .ok []

lemma isCurrent_eq (s : Session) (sequence : ℕ) :
    s.isCurrent sequence = decide (sequence = s.sequence) := by
  rw [Session.isCurrent, Bool.beq_eq_decide_eq]
  exact decide_eq_decide.mpr Int.ofNat_inj

lemma settle_eq (e : Engine α β) (request : Request β) (outcome : Except Fault Provided) :
    { e.settle request outcome with lines := [] } =
      e.settled (decide (request.sequence = e.session.sequence)) request.text request.path
        (concluded outcome) := by
  rw [settle, isCurrent_eq, settled.eq_def]
  unfold concluded
  cases (providerGuard.finish (Guard.awaited outcome >>= Provided.suggestions?)).outcome with
  | ok suggestions =>
      by_cases h : request.sequence = e.session.sequence
      · simp [h]
      · simp [h]
  | error fault =>
      by_cases h : request.sequence = e.session.sequence
      · cases hr : fault.isRejection <;> simp [h, hr]
      · cases hr : fault.isRejection <;> simp [h, hr]

/-- An answer to an earlier line changes nothing. -/
lemma settled_stale (e : Engine α β) (text : String) (path : Option String)
    (outcome : Except Fault Provided) :
    e.settled false text path (concluded outcome) =
      { engine := e, result := discarded outcome } := by
  rw [discarded, settled.eq_def]
  cases concluded outcome with
  | ok suggestions => rfl
  | error fault => cases hr : fault.isRejection <;> simp [hr]

/-- What interrupts a call passes, whether or not the call is out of date. -/
lemma settled_interrupts (e : Engine α β) (current : Bool) (text : String) (path : Option String)
    {outcome : Except Fault Provided} {fault : Fault} (h : Interrupts outcome fault) :
    e.settled current text path (concluded outcome) =
      { engine := e, result := discarded outcome } := by
  rw [discarded, h.1, settled.eq_def]
  simp [h.2]

lemma discarded_cases (outcome : Except Fault Provided) :
    discarded outcome = .ok [] ∨ ∃ fault, Interrupts outcome fault ∧ discarded outcome = .error fault := by
  unfold discarded Interrupts
  cases concluded outcome with
  | ok suggestions => exact .inl rfl
  | error fault =>
      cases hr : fault.isRejection with
      | true => exact .inl (if_pos hr)
      | false => exact .inr ⟨fault, ⟨rfl, hr⟩, if_neg (by simp [hr])⟩

lemma enter_engine (e : Engine α β) (act : α → List String → Except Fault Returned) (text : String)
    (disposition : Option String) : (e.enter act text disposition).engine = e.ended := by
  unfold enter ended
  rcases e.submission text disposition with ⟨_ | _, _⟩ <;> rfl

/-- What is seen of a submission is decided by what it runs. -/
lemma enter_submitted_congr {e e' : Engine α β} {text : String} {disposition : Option String}
    (h : (e.submission text disposition).1 = (e'.submission text disposition).1)
    (act : α → List String → Except Fault Returned) :
    (e.enter act text disposition).submitted = (e'.enter act text disposition).submitted := by
  unfold enter
  rcases hs : e.submission text disposition with ⟨result, lines⟩
  rcases hs' : e'.submission text disposition with ⟨result', lines'⟩
  rw [hs, hs'] at h
  obtain rfl : result = result' := h
  cases result <;> rfl

namespace Live

/-- A call that ends. -/
lemma step_settle {s : Live α β} {call : ℕ} {request : Request β}
    (h : s.pending call = some request) (outcome : Except Fault Provided) :
    let answer := s.engine.settled (decide (request.sequence = s.engine.session.sequence))
      request.text request.path (concluded outcome)
    s.step (.settle call outcome) =
      (⟨answer.engine, Function.update s.pending call none⟩, answer.effects call) := by
  intro answer
  have heq : { s.engine.settle request outcome with lines := [] } = answer :=
    settle_eq s.engine request outcome
  rw [← heq]
  simp only [step, h]
  rfl

/-- A call that ends out of date. -/
lemma step_settle_stale {s : Live α β} {call : ℕ} {request : Request β}
    (h : s.pending call = some request) (hstale : request.sequence ≠ s.engine.session.sequence)
    (outcome : Except Fault Provided) :
    s.step (.settle call outcome) =
      (⟨s.engine, Function.update s.pending call none⟩, [.answered call (discarded outcome)]) := by
  rw [step_settle h, decide_eq_false hstale, settled_stale]
  rfl

lemma step_settle_none {s : Live α β} {call : ℕ} (h : s.pending call = none)
    (outcome : Except Fault Provided) : s.step (.settle call outcome) = (s, []) := by
  simp only [step, h]

/-- A submission. -/
lemma step_enter (s : Live α β) (act : α → List String → Except Fault Returned) (text : String)
    (disposition : Option String) :
    s.step (.enter act text disposition) =
      (⟨s.engine.ended, s.pending⟩, (s.engine.enter act text disposition).submitted) := by
  simp only [step, enter_engine]

lemma step_change_of_not_hasLead {s : Live α β} {text : String}
    (h : s.engine.hasLead text = false) (call : ℕ) :
    s.step (.change call text) = (s, [.answered call (.ok [])]) := by
  rw [step, change_of_not_hasLead h]
  rfl

lemma step_change_of_hasLead {s : Live α β} {text : String} (h : s.engine.hasLead text = true)
    (call : ℕ) :
    s.step (.change call text) = noted s.pending call ((s.engine.begun text).respond text) := by
  rw [step, change_of_hasLead h]

/-- An event leaves the calls alone that it does not concern. -/
lemma pending_step {event : Event α} {call : ℕ} (h : event.concerns call = false) (s : Live α β) :
    (s.step event).1.pending call = s.pending call := by
  cases event with
  | change c text =>
      have hne : call ≠ c := by
        rintro rfl
        simp [Event.concerns] at h
      rw [step]
      cases s.engine.change text with
      | answered answer => rfl
      | asks engine request lines => exact Function.update_of_ne hne _ _
  | settle c outcome =>
      have hne : call ≠ c := by
        rintro rfl
        simp [Event.concerns] at h
      cases hpending : s.pending c with
      | none => rw [step_settle_none hpending]
      | some request =>
          rw [step_settle hpending]
          exact Function.update_of_ne hne _ _
  | enter act text disposition => rfl
  | start => rfl
  | cancel => rfl

/-- An event is seen only by the calls that it concerns. -/
lemma concerns_of_mem_step {event : Event α} {call : ℕ} (h : event.concerns call = false)
    (s : Live α β) : ∀ effect ∈ (s.step event).2, effect.concerns call = false := by
  have hanswer : ∀ (answer : Answer α β (Except Fault (List Suggestion))) (c : ℕ),
      (c == call) = false → ∀ effect ∈ answer.effects c, effect.concerns call = false := by
    intro answer c hc effect heffect
    rw [Answer.effects, List.mem_append, List.mem_map, List.mem_singleton] at heffect
    rcases heffect with ⟨fault, -, rfl⟩ | rfl
    · rfl
    · exact hc
  cases event with
  | change c text =>
      rw [step]
      cases s.engine.change text with
      | answered answer => exact hanswer answer c h
      | asks engine request lines =>
          intro effect heffect
          obtain rfl := List.mem_singleton.mp heffect
          exact h
  | settle c outcome =>
      cases hpending : s.pending c with
      | none =>
          rw [step_settle_none hpending]
          intro effect heffect
          cases heffect
      | some request =>
          rw [step_settle hpending]
          exact hanswer _ c h
  | enter act text disposition =>
      intro effect heffect
      rw [step_enter, Answer.submitted, List.mem_append, List.mem_map, List.mem_singleton] at heffect
      rcases heffect with ⟨ran, -, rfl⟩ | rfl
      · rfl
      · rfl
  | start => intro effect heffect; cases heffect
  | cancel => intro effect heffect; cases heffect

lemma concerns_of_mem_trace {events : List (Event α)} {call : ℕ}
    (h : ∀ event ∈ events, event.concerns call = false) (s : Live α β) :
    ∀ effect ∈ s.trace events, effect.concerns call = false := by
  induction events generalizing s with
  | nil => intro effect heffect; cases heffect
  | cons event rest ih =>
      intro effect heffect
      rw [trace, List.mem_append] at heffect
      rcases heffect with hfirst | hrest
      · exact concerns_of_mem_step (h event List.mem_cons_self) s effect hfirst
      · exact ih (fun later hlater => h later (List.mem_cons_of_mem _ hlater)) _ effect hrest

/-- A call has no part in a run that does not concern it. -/
lemma filter_concerns_trace {events : List (Event α)} {call : ℕ}
    (h : ∀ event ∈ events, event.concerns call = false) (s : Live α β) :
    (s.trace events).filter (·.concerns call) = [] := by
  refine List.filter_eq_nil_iff.mpr fun effect heffect => ?_
  rw [concerns_of_mem_trace h s effect heffect]
  exact Bool.false_ne_true

lemma filter_not_concerns_trace {events : List (Event α)} {call : ℕ}
    (h : ∀ event ∈ events, event.concerns call = false) (s : Live α β) :
    (s.trace events).filter (fun effect => !effect.concerns call) = s.trace events := by
  refine List.filter_eq_self.mpr fun effect heffect => ?_
  rw [concerns_of_mem_trace h s effect heffect]
  rfl

end Live

end Engine

end CommandPalette
