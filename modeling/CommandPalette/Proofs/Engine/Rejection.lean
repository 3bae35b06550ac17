import CommandPalette.Proofs.Engine.Coroutine
import CommandPalette.Proofs.Engine.Raising

/-!
# Failures of providers

A provider may fail when it is called, after any suspension, or by what it returns.  Whichever way it
takes, the engine gets to know one fault, makes a rejection of it, and rejects the change.

**Ways to fail.**  `FailsWith` lists them, each with the fault that the engine gets to know.  The guard makes
the rejection of this fault, `concluded_of_failsWith`, and rejects for no other reason,
`exists_failsWith_iff`.

**Reports.**  While a change waits, no other call is current, so nothing but its own failure is reported:
`Live.Only.untold_trace`.

**`Timely.failure_contained`** puts the two together: what is left of a change whose provider fails, and
what the host and its callback see of it.
-/

namespace CommandPalette

open Command Motion

/-! ## Ways to fail -/

/-- A rejection tells of a fault: it is the fault itself, if that is a rejection, and else it is chained
to the fault and records its class and its text. -/
structure Fault.Recounts (rejection fault : Fault) : Prop where
  kind : rejection.rootName = Kind.providerRejected.name
  own : fault.isRejection = true → rejection = fault
  cause : fault.isRejection = false → rejection.cause? = some fault
  details : fault.isRejection = false → rejection.details =
    [("error_type", .text fault.className), ("original_error", .text fault.message)]

namespace Engine

variable {α β : Type}

/-- A provider fails, and the engine gets to know a fault. -/
inductive FailsWith : Except Fault Provided → Fault → Prop
  /-- It raises a failure, at once or after some suspensions. -/
  | raises {fault : Fault} (failure : fault.isFailure = true)
      (lasting : fault.isExhausted = false) : FailsWith (.error fault) fault
  /-- It raises that an iterator is exhausted, which no coroutine lets out. -/
  | exhausts {fault : Fault} (stopped : fault.isExhausted = true) :
      FailsWith (.error fault) (.foreign "RuntimeError" "coroutine raised StopIteration")
  /-- It returns a value that is not empty and cannot be gone through. -/
  | returns {v : Value} (full : v.truthy = true) (closed : v.items? = none) :
      FailsWith (.ok (.value v)) (.notIterable v.typeName)
  /-- It returns items, of which this one is the first that stands for no suggestion. -/
  | lists {provided : Provided} {items : List Item} {i : ℕ} {item : Item} {fault : Fault}
      (listed : provided.items? = .ok items) (place : items[i]? = some item) (unfit : item.Unfit fault)
      (first : ∀ j < i, ∀ other, items[j]? = some other → ∀ complaint, ¬ other.Unfit complaint) :
      FailsWith (.ok provided) fault

lemma failsWith_error_iff {raised fault : Fault} :
    FailsWith (.error raised) fault ↔
      (Guard.awaited (.error raised) : Except Fault Provided) = .error fault ∧ fault.isFailure = true := by
  constructor
  · intro h
    cases h with
    | raises failure lasting => exact ⟨if_neg (by simpa using lasting), failure⟩
    | exhausts stopped => exact ⟨if_pos stopped, by decide⟩
  · rintro ⟨h, hfailure⟩
    cases hstopped : raised.isExhausted with
    | true =>
        rw [Guard.awaited, if_pos hstopped] at h
        obtain rfl := Except.error.inj h
        exact .exhausts hstopped
    | false =>
        rw [Guard.awaited, if_neg (by simp [hstopped])] at h
        obtain rfl := Except.error.inj h
        exact .raises hfailure hstopped

lemma failsWith_ok_iff {provided : Provided} {fault : Fault} :
    FailsWith (.ok provided) fault ↔ provided.suggestions? = .error fault := by
  rw [Provided.suggestions?]
  constructor
  · intro h
    cases h with
    | returns full closed =>
        rw [Provided.items?_eq_error_iff.mpr ⟨_, rfl, full, closed, rfl⟩]
        rfl
    | lists listed place unfit first =>
        rw [listed]
        exact mapM_eq_error_iff.mpr ⟨_, _, place, Item.suggestion?_eq_error_iff.mpr unfit,
          fun j hj other hother => Item.exists_suggestion?_iff.mpr (first j hj other hother)⟩
  · intro h
    rcases error_of_bind h with hitems | ⟨items, hitems, hlist⟩
    · obtain ⟨v, rfl, hfull, hclosed, rfl⟩ := Provided.items?_eq_error_iff.mp hitems
      exact .returns hfull hclosed
    · obtain ⟨i, item, hplace, hunfit, hfirst⟩ := mapM_eq_error_iff.mp hlist
      exact .lists hitems hplace (Item.suggestion?_eq_error_iff.mp hunfit)
        fun j hj other hother => Item.exists_suggestion?_iff.mp (hfirst j hj other hother)

/-- **The guard makes a rejection of the fault by which a provider fails.** -/
lemma concluded_of_failsWith {outcome : Except Fault Provided} {fault : Fault}
    (h : FailsWith outcome fault) : concluded outcome = .error (rejectionOf fault) := by
  cases outcome with
  | error raised =>
      obtain ⟨hawaited, hfailure⟩ := failsWith_error_iff.mp h
      rw [concluded, hawaited]
      exact finish_of_failure hfailure
  | ok provided =>
      have hsuggestions : provided.suggestions? = .error fault := failsWith_ok_iff.mp h
      have hawaited : (Guard.awaited (.ok provided) >>= Provided.suggestions?) = .error fault := hsuggestions
      rw [concluded, hawaited]
      exact finish_of_failure (Provided.isFailure_of_suggestions? hsuggestions)

/-- **A provider fails in one of these ways exactly if its answer comes to a rejection.** -/
lemma exists_failsWith_iff {outcome : Except Fault Provided} :
    (∃ fault, FailsWith outcome fault) ↔
      ∃ rejection, concluded outcome = .error rejection ∧ rejection.isRejection = true := by
  constructor
  · rintro ⟨fault, h⟩
    exact ⟨_, concluded_of_failsWith h, isRejection_rejectionOf fault⟩
  · rintro ⟨rejection, hconcluded, hrejection⟩
    cases outcome with
    | ok provided =>
        cases hsuggestions : provided.suggestions? with
        | error fault => exact ⟨fault, failsWith_ok_iff.mpr hsuggestions⟩
        | ok suggestions =>
            have hok : concluded (.ok provided) = (providerGuard.finish provided.suggestions?).outcome := rfl
            rw [hok, hsuggestions] at hconcluded
            cases hconcluded
    | error raised =>
        obtain ⟨fault, hawaited, hkind, -⟩ := awaited_error raised
        cases hfailure : raised.isFailure with
        | true => exact ⟨fault, failsWith_error_iff.mpr ⟨hawaited, hkind.trans hfailure⟩⟩
        | false =>
            -- What is no failure passes the guard as it is, and no rejection is of that kind.
            obtain rfl := Except.error.inj ((concluded_of_stop hfailure).symm.trans hconcluded)
            cases hfailure.symm.trans (Fault.isFailure_of_isRejection hrejection)

lemma recounts_rejectionOf (fault : Fault) : (rejectionOf fault).Recounts fault := by
  rw [rejectionOf]
  cases hrejection : fault.isRejection with
  | false =>
      have hnot : ¬ fault.isRejection = true := by simp [hrejection]
      exact ⟨rfl, fun h => absurd h hnot, fun _ => rfl, fun _ => rfl⟩
  | true =>
      have hnot : ¬ fault.isRejection = false := by simp [hrejection]
      exact ⟨Fault.rootName_of_isRejection hrejection, fun _ => rfl, fun h => absurd h hnot, fun h => absurd h hnot⟩

/-! ## Reports -/

/-- The failure that is reported with an effect. -/
def Effect.told? : Effect α β → Option Fault
  | told fault => some fault
  | _ => none

lemma Answer.told_effects (answer : Answer α β (Except Fault (List Suggestion))) (call : ℕ) :
    (answer.effects call).filterMap Effect.told? = answer.reported := by
  rw [effects, List.filterMap_append, List.filterMap_map]
  show answer.reported.filterMap some ++ [] = _
  rw [List.filterMap_some, List.append_nil]

/-- A rejection is reported once, if there is a callback. -/
lemma reject_reported (e : Engine α β) (text : String) (rejection : Fault) :
    (e.reject text rejection).reported = e.onError.toList.map fun _ => rejection := by
  show (report _ rejection).reported = _
  unfold report
  cases e.onError with
  | none => simp
  | some callback =>
      cases hraised : callback rejection with
      | none => simp [hraised]
      | some raised => cases hfailure : raised.isFailure <;> simp [hraised, hfailure]

/-- The host's callback stops the answer to a rejected change. -/
lemma reject_stopped_iff {e : Engine α β} {text : String} {rejection raised : Fault} :
    (e.reject text rejection).result = .error raised ↔
      e.onError.bind (· rejection) = some raised ∧ raised.isFailure = false := by
  rw [reject_eq_error_iff, Option.bind_eq_some_iff]
  constructor
  · rintro ⟨callback, honError, hraised, hstop⟩
    exact ⟨⟨callback, honError, hraised⟩, hstop⟩
  · rintro ⟨⟨callback, honError, hraised⟩, hstop⟩
    exact ⟨callback, honError, hraised, hstop⟩

/-- Otherwise the answer is an empty list. -/
lemma reject_returns_iff {e : Engine α β} {text : String} {rejection : Fault} {menu : List Suggestion} :
    (e.reject text rejection).result = .ok menu ↔
      menu = [] ∧ ∀ raised, e.onError.bind (· rejection) = some raised → raised.isFailure = true := by
  constructor
  · intro h
    refine ⟨eq_nil_of_reject h, fun raised hraised => ?_⟩
    by_contra hstop
    cases h.symm.trans (reject_stopped_iff.mpr ⟨hraised, by simpa using hstop⟩)
  · rintro ⟨rfl, hall⟩
    cases hresult : (e.reject text rejection).result with
    | ok other => rw [eq_nil_of_reject hresult]
    | error raised =>
        obtain ⟨hraised, hstop⟩ := reject_stopped_iff.mp hresult
        cases hstop.symm.trans (hall raised hraised)

namespace Live

/-- While a call waits, an event that does not supersede it reports nothing of its own. -/
lemma Only.untold {s : Live α β} {call : ℕ} (h : s.Only call) {event : Event α}
    (hforeign : event.concerns call = false) (hnewest : event.supersedes s.engine = false) :
    (s.step event).2.filterMap Effect.told? = [] := by
  rcases Event.eq_of_not_supersedes hnewest with ⟨c, text, rfl, hlead⟩ | ⟨c, outcome, rfl⟩
  · rw [step_change_of_not_hasLead hlead]
    rfl
  · have hne : c ≠ call := by simpa [Event.concerns] using hforeign
    have hturn := s.turn_step (.settle c outcome)
    generalize (s.step (.settle c outcome)).1.engine = engine at hturn
    generalize (s.step (.settle c outcome)).2 = effects at hturn ⊢
    cases hturn with
    | absent => rfl
    | passes => rfl
    | takes => rfl
    | rejects pending current =>
        -- Only the call that waits could be rejected.
        exact absurd (h c ⟨_, pending, current⟩) hne

/-- **While a call waits, nothing is reported**, whatever else ends. -/
lemma Only.untold_trace {s : Live α β} {call : ℕ} (h : s.Only call) {events : List (Event α)}
    (hforeign : ∀ event ∈ events, event.concerns call = false)
    (hnewest : ∀ event ∈ events, event.supersedes s.engine = false) :
    (s.trace events).filterMap Effect.told? = [] := by
  induction events generalizing s with
  | nil => rfl
  | cons event rest ih =>
      have hfirst := hforeign event List.mem_cons_self
      obtain ⟨hengine, honly⟩ := h.step (hnewest event List.mem_cons_self) fun outcome hevent => by
        rw [hevent] at hfirst
        simp [Event.concerns] at hfirst
      rw [trace, List.filterMap_append, h.untold hfirst (hnewest event List.mem_cons_self),
        ih honly (fun later hlater => hforeign later (List.mem_cons_of_mem _ hlater)) ?_, List.nil_append]
      intro later hlater
      rw [hengine]
      exact hnewest later (List.mem_cons_of_mem _ hlater)

end Live

/-! ## Changes whose provider fails -/

namespace Timely

variable {e : Engine α β} (run : Timely e)

/-- What is reported from the change on is what its end reports. -/
lemma told_seen (hasks : e.Asks run.text) :
    run.seen.filterMap Effect.told? = (run.noted.completed run.text run.outcome).reported := by
  obtain ⟨⟨provider, args, hasked⟩, pending, hsettle⟩ := run.steps_of_asks (run.sameHost_noted.asks hasks)
  -- The change itself only asks, and until its provider answers no other call is current.
  have hbetween : (((run.start.step (.change run.call run.text)).1).trace run.between).filterMap
      Effect.told? = [] := by
    have hnumbered : run.start.Numbered := Live.numbered_after e _
    refine (Live.only_of_change hnumbered (by rw [run.sameHost_start.hasLead, run.lead])
      run.call).untold_trace run.foreign_between fun event hevent => ?_
    rw [Event.supersedes_congr (run.sameHost_start.trans (run.start.sameHost_step _)).config]
    exact run.newest event hevent
  have hlast : (run.waiting.step (.settle run.call run.outcome)).2.filterMap Effect.told? =
      (run.noted.completed run.text run.outcome).reported := by
    rw [hsettle]
    exact Answer.told_effects _ _
  rw [seen, events, Live.trace, hasked, Live.trace_append, List.filterMap_append, List.filterMap_append,
    hbetween]
  show [] ++ ([] ++ (((run.waiting.step (.settle run.call run.outcome)).2 ++ []).filterMap _)) = _
  rw [List.append_nil, hlast]
  rfl

variable {run}

/-- A change whose provider fails comes to a rejection. -/
lemma completed_of_failsWith (hasks : e.Asks run.text) {fault : Fault}
    (hfails : FailsWith run.outcome fault) :
    run.noted.completed run.text run.outcome = run.noted.reject run.text (rejectionOf fault) := by
  have hasks' := run.sameHost_noted.asks hasks
  obtain ⟨request, lines, -, -, hsuggested⟩ := respond_of_asks hasks'
  rw [completed, hsuggested, concluded_of_failsWith hfails]
  exact if_pos ⟨hasks', isRejection_rejectionOf fault⟩

/-- The engine after a change whose provider fails. -/
lemma state_of_failsWith (hasks : e.Asks run.text) {fault : Fault}
    (hfails : FailsWith run.outcome fault) :
    run.state.engine = { run.start.engine with
      session := { run.start.engine.session with
        mode :=
          if e.config.vim.enabled = true ∧ '[' ∈ (e.stripLead run.text).toList then .vim
          else run.start.engine.session.mode.wakened
        rawText := run.text
        suggestions := []
        selected := ""
        lastError := some (rejectionOf fault)
        sequence := run.start.engine.session.sequence + 1 } } := by
  rw [run.completed_spec.1, completed_of_failsWith hasks hfails,
    (run.noted.reject_sameHost run.text (rejectionOf fault)).eq, reject_session]
  simp only [run.sameHost_noted.hasMotion_iff]
  rw [← Session.beginChange_mode_eq _ run.text]
  rfl

/-- However often its provider is suspended, awaiting it is the last event of the change. -/
lemma await_last (hasks : e.Asks run.text) {reaction : Reaction}
    (houtcome : reaction.provided.outcome = run.outcome) {request : Request β}
    (hpending : run.waiting.pending run.call = some request) :
    let answer := run.waiting.engine.await request reaction.wrapped
    answer.engine = run.state.engine ∧ answer.reported = run.seen.filterMap Effect.told? ∧
      .answered run.call answer.result ∈ run.seen := by
  intro answer
  have hstep : run.waiting.step (.settle run.call run.outcome) =
      (⟨answer.engine, Function.update run.waiting.pending run.call none⟩, answer.effects run.call) := by
    simp only [answer, await_wrapped, houtcome, Live.step, hpending]
  obtain ⟨-, pending, hsettle⟩ := run.steps_of_asks (run.sameHost_noted.asks hasks)
  have heffects : answer.effects run.call =
      (run.noted.completed run.text run.outcome).effects run.call :=
    congrArg Prod.snd (hstep.symm.trans hsettle)
  refine ⟨?_, ?_, ?_⟩
  · rw [state_eq, hstep]
  · rw [run.told_seen hasks, ← Answer.told_effects answer run.call, heffects, Answer.told_effects]
  · rw [answered_mem_seen_iff, hstep]
    exact .inr ((Answer.answered_mem_effects_iff answer _ _).mpr rfl)

/-- **A provider's failure is contained.**  Whatever was before, and whichever way the provider fails while
its change is current, the change leaves an empty menu and nothing selected, and the place, the motions and
the jump codes as they were; it leads to vim mode only by brackets that are read.  The rejection is noted,
and reported once if there is a callback.  The host is answered with an empty list, unless its own callback
raises what is no failure; the session is the same in either case. -/
theorem failure_contained (run : Timely e) (hasks : e.Asks run.text) {fault : Fault}
    (hfails : FailsWith run.outcome fault) :
    let before := run.start.engine.session
    let after := run.state.engine.session
    let brackets := e.config.vim.enabled = true ∧ '[' ∈ (e.stripLead run.text).toList
    ∃ rejection : Fault, rejection.Recounts fault ∧
      run.state.engine = { run.start.engine with
        session := { before with
          mode := if brackets then .vim else before.mode.wakened
          rawText := run.text
          suggestions := []
          selected := ""
          lastError := some rejection
          sequence := before.sequence + 1 } } ∧
      (after.mode = .vim ↔ before.mode = .vim ∨ brackets) ∧
      run.seen.filterMap Effect.told? = e.onError.toList.map (fun _ => rejection) ∧
      (∀ menu, .answered run.call (.ok menu) ∈ run.seen ↔
        menu = [] ∧ ∀ raised, e.onError.bind (· rejection) = some raised → raised.isFailure = true) ∧
      (∀ raised, .answered run.call (.error raised) ∈ run.seen ↔
        e.onError.bind (· rejection) = some raised ∧ raised.isFailure = false) ∧
      ∀ (reaction : Reaction) (request : Request β), reaction.provided.outcome = run.outcome →
        run.waiting.pending run.call = some request →
        let answer := run.waiting.engine.await request reaction.wrapped
        answer.engine = run.state.engine ∧ answer.reported = run.seen.filterMap Effect.told? ∧
          .answered run.call answer.result ∈ run.seen := by
  intro before after brackets
  have hcompleted := completed_of_failsWith hasks hfails
  have honError : run.noted.onError = e.onError := run.sameHost_noted.onError
  have hstate := state_of_failsWith hasks hfails
  refine ⟨rejectionOf fault, recounts_rejectionOf fault, hstate, ?_, ?_, fun menu => ?_, fun raised => ?_,
    fun reaction request houtcome hpending => await_last hasks houtcome hpending⟩
  · have hmode : after.mode = if brackets then .vim else before.mode.wakened :=
      congrArg (fun engine => engine.session.mode) hstate
    rw [hmode]
    by_cases hbrackets : brackets
    · simp [hbrackets]
    · simp only [hbrackets, if_false, or_false]
      cases before.mode <;> simp [Session.Mode.wakened]
  · rw [run.told_seen hasks, hcompleted, reject_reported, honError]
  · rw [run.completed_spec.2, hcompleted, eq_comm, reject_returns_iff, honError]
  · rw [run.completed_spec.2, hcompleted, eq_comm, reject_stopped_iff, honError]

end Timely

/-- A shelf whose callback for failures raises. -/
def touchy (raised : Fault) : Engine Unit Unit := { shelf with onError := some fun _ => some raised }

/-- The second item of a list stands for no suggestion.  An earlier call has ended meanwhile. -/
def halfway : Timely (touchy (.foreign "ValueError" "callback bug")) where
  call := 2
  text := "list b"
  outcome := .ok (.items [.suggestion { content := "a", description := "" }, .value (.int 5)])
  before := [.change 0 "list [j]", .settle 0 single, .change 1 "list"]
  between := [.settle 1 single]
  fresh := rfl
  lead := by decide
  foreign := by decide
  newest := by decide

lemma halfway_fails : FailsWith halfway.outcome (.notSuggestion "int") :=
  failsWith_ok_iff.mpr rfl

/-- Nothing of the first item is shown, and what the callback raises does not get out. -/
theorem halfway_contained :
    let after := halfway.state.engine.session
    after.suggestions = [] ∧ after.selected = "" ∧ after.mode = .vim ∧
      after.keymap = halfway.start.engine.session.keymap ∧
      (∃ rejection, after.lastError = some rejection ∧
        rejection.cause? = some (.notSuggestion "int") ∧
        halfway.seen.filterMap Effect.told? = [rejection]) ∧
      .answered 2 (.ok []) ∈ halfway.seen := by
  intro after
  have hasks : (touchy (.foreign "ValueError" "callback bug")).Asks halfway.text := by decide +kernel
  have hmode : halfway.start.engine.session.mode = .vim := by decide +kernel
  obtain ⟨rejection, hrecounts, hstate, hvim, htold, hreturns, -, -⟩ :=
    Timely.failure_contained halfway hasks halfway_fails
  refine ⟨?_, ?_, hvim.mpr (.inl hmode), ?_, ⟨rejection, ?_, hrecounts.cause rfl, htold⟩, ?_⟩
  · simp only [after, hstate]
  · simp only [after, hstate]
  · simp only [after, hstate]
  · simp only [after, hstate]
  · refine (hreturns []).mpr ⟨rfl, fun raised hraised => ?_⟩
    obtain rfl : Fault.foreign "ValueError" "callback bug" = raised := Option.some.inj hraised
    decide

/-- The first change of a session, answered at once. -/
def Timely.lone (e : Engine α β) (fresh : e.session = {}) (text : String) (lead : e.hasLead text = true)
    (outcome : Except Fault Provided) : Timely e where
  call := 0
  text := text
  outcome := outcome
  before := []
  between := []
  fresh := fresh
  lead := lead
  foreign := nofun
  newest := nofun

/-- A provider raises that an iterator is exhausted. -/
def exhausted : Timely (touchy (.foreign "KeyboardInterrupt" "")) :=
  .lone _ rfl "list" (by decide) (.error (.foreign "StopIteration" "x"))

/-- A provider fails, and every command line starts with a bracket. -/
def fenced : Timely { shelf with config := { input := { lead := "[" } } } :=
  .lone _ rfl "[list" (by decide) (.error (.foreign "ValueError" "x"))

/-- The exhausted iterator is not what the rejection is chained to and records; what a callback raises gets
out if it is no failure; and a bracket that every command line starts with does not lead to vim mode. -/
theorem exhausted_not_recounted :
    (∃ rejection, exhausted.state.engine.session.lastError = some rejection ∧
        rejection.cause? ≠ some (.foreign "StopIteration" "x") ∧
        ("error_type", .text "StopIteration") ∉ rejection.details) ∧
      .answered 0 (.error (.foreign "KeyboardInterrupt" "")) ∈ exhausted.seen ∧
      ('[' ∈ fenced.text.toList ∧ fenced.state.engine.config.vim.enabled = true ∧
        fenced.state.engine.session.lastError.isSome = true ∧
        fenced.state.engine.session.mode ≠ .vim) := by
  have hasks : (touchy (.foreign "KeyboardInterrupt" "")).Asks exhausted.text := by decide +kernel
  have hfails : FailsWith exhausted.outcome
      (.foreign "RuntimeError" "coroutine raised StopIteration") := .exhausts rfl
  refine ⟨⟨_, by rw [Timely.state_of_failsWith hasks hfails], ?_, ?_⟩, ?_, by decide, by decide +kernel,
    by decide +kernel, by decide +kernel⟩
  · show some (Fault.foreign _ _) ≠ _
    simp
  · show _ ∉ [("error_type", Value.text "RuntimeError"), _]
    simp
  · refine (exhausted.completed_spec.2 _).mpr ?_
    rw [Timely.completed_of_failsWith hasks hfails, eq_comm, reject_stopped_iff,
      exhausted.sameHost_noted.onError]
    exact ⟨rfl, by decide⟩

end Engine

end CommandPalette
