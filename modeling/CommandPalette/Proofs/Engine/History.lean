import CommandPalette.Proofs.Engine.Newest
import Mathlib.Data.List.Induction

/-!
# The mode of a session tells its history

A session does not remember its events, but its mode says which of two things have happened in the
episode: whether the line was changed, and whether motions have been heard of.

**Since the last reset.**  A run is looked at from its end: `Since` says that something has happened
with an event after which no episode was ended, and `since_concat` what one more event makes of that.

**Hearing of motions.**  `Live.Hears` are the events with which a change gets its suggestions or the
refusal of its provider, while it is still current.  A change that is out of date, or that is
interrupted, is not heard of.

**`mode_tells_history`**: after any run, the session is idle unless a change of a command line has
begun since the last reset, and in vim mode exactly if motions are read and a line with a bracket has
been heard of since then.
-/

namespace CommandPalette

open Command Motion

variable {α β : Type}

namespace Session

/-- The mode of a session that is not idle any more. -/
def Mode.wakened : Mode → Mode
  | idle => composing
  | mode => mode

lemma beginChange_mode_eq (s : Session) (text : String) :
    (s.beginChange text).mode = s.mode.wakened := by
  unfold Session.beginChange
  cases s.mode <;> rfl

end Session

namespace Engine

/-! ## Since the last reset -/

/-- Whether an event ends an episode. -/
def Event.resets : Event α → Bool
  | enter .. => true
  | start => true
  | cancel => true
  | change .. => false
  | settle .. => false

/-- Whether an event begins a change of a command line. -/
def Event.begins (e : Engine α β) : Event α → Bool
  | change _ text => e.hasLead text
  | _ => false

/-- Something has happened with an event of a run, given the events before it, and no episode has
ended since. -/
def Since (P : List (Event α) → Event α → Prop) (events : List (Event α)) : Prop :=
  ∃ before event later, events = before ++ event :: later ∧ P before event ∧
    ∀ next ∈ event :: later, next.resets = false

section Since

variable {P : List (Event α) → Event α → Prop}

lemma not_since_nil : ¬ Since P [] := by
  rintro ⟨before, event, later, hevents, -⟩
  simp at hevents

/-- One more event ends the episode, or adds to what has happened in it. -/
lemma since_concat (events : List (Event α)) (event : Event α) :
    Since P (events ++ [event]) ↔ event.resets = false ∧ (P events event ∨ Since P events) := by
  constructor
  · rintro ⟨before, first, later, hevents, hfirst, hlater⟩
    rcases List.eq_nil_or_concat later with rfl | ⟨rest, last, rfl⟩
    · obtain ⟨rfl, hlast⟩ := List.append_inj' hevents rfl
      obtain rfl : event = first := List.singleton_inj.mp hlast
      exact ⟨hlater event List.mem_cons_self, .inl hfirst⟩
    · rw [List.concat_eq_append, ← List.cons_append, ← List.append_assoc] at hevents
      obtain ⟨rfl, hlast⟩ := List.append_inj' hevents rfl
      obtain rfl : event = last := List.singleton_inj.mp hlast
      refine ⟨hlater event (by simp), .inr ⟨before, first, rest, rfl, hfirst, fun next hnext => ?_⟩⟩
      rw [List.concat_eq_append, ← List.cons_append] at hlater
      exact hlater next (List.mem_append_left _ hnext)
  · rintro ⟨hevent, hnow | ⟨before, first, rest, rfl, hfirst, hrest⟩⟩
    · refine ⟨events, event, [], rfl, hnow, fun next hnext => ?_⟩
      rw [List.mem_singleton.mp hnext, hevent]
    · refine ⟨before, first, rest ++ [event], by simp, hfirst, fun next hnext => ?_⟩
      rw [← List.cons_append, List.mem_append, List.mem_singleton] at hnext
      rcases hnext with hnext | rfl
      · exact hrest next hnext
      · exact hevent

end Since

/-! ## Hearing of a change -/

namespace Live

/-- A call that is still current gets the suggestions for its line with an event: the line asks no
provider, or its provider has answered. -/
inductive Supplies (s : Live α β) (call : ℕ) : Event α → String → List Suggestion → Prop
  | atOnce {text : String} {suggestions : List Suggestion} (lead : s.engine.hasLead text = true)
      (unasked : ¬ s.engine.Asks text)
      (suggested : ∀ outcome, s.engine.suggested text outcome = .ok suggestions) :
      Supplies s call (.change call text) text suggestions
  | arrives {outcome : Except Fault Provided} {request : Request β} {suggestions : List Suggestion}
      (pending : s.pending call = some request)
      (current : request.sequence = s.engine.session.sequence)
      (provided : concluded outcome = .ok suggestions) :
      Supplies s call (.settle call outcome) request.text (suggestions.map (underPath request.path))

/-- A change is heard of with an event, while it is still current: its suggestions arrive, or its provider
fails. -/
inductive Hears (s : Live α β) : Event α → String → Prop
  | arrives {call : ℕ} {event : Event α} {text : String} {suggestions : List Suggestion}
      (supplied : s.Supplies call event text suggestions) : Hears s event text
  | fails {call : ℕ} {outcome : Except Fault Provided} {request : Request β} {fault : Fault}
      (pending : s.pending call = some request)
      (current : request.sequence = s.engine.session.sequence)
      (failed : concluded outcome = .error fault) (rejection : fault.isRejection = true) :
      Hears s (.settle call outcome) request.text

end Live

/-! ## What one event does to the mode -/

lemma move_mode (e : Engine α β) (text : String) (size : ℕ) :
    (e.move text size).1.mode = if e.hasMotion text then .vim else e.session.mode := by
  cases h : e.config.vim.enabled with
  | false => rw [move_of_disabled h, hasMotion, h]; rfl
  | true =>
      have hkeymap : (e.session.withKeymap size).1.mode = e.session.mode := by
        unfold Session.withKeymap
        split <;> rfl
      simp only [move, h, Bool.not_true, Bool.false_eq_true, if_false]
      rw [Session.applyMotion_fst, isVimMode_read, ← hasMotion_eq h]
      dsimp only
      split
      · rfl
      · split
        · exact hkeymap
        · rfl

lemma present_mode (e : Engine α β) (text : String) (suggestions : List Suggestion) :
    (e.present text suggestions).engine.session.mode =
      if e.hasMotion text then .vim else e.session.mode := by
  obtain ⟨shown, selected, hsession, -⟩ := e.present_session text suggestions
  rw [hsession, ← e.move_mode text suggestions.length]
  rfl

lemma reject_mode (e : Engine α β) (text : String) (fault : Fault) :
    (e.reject text fault).engine.session.mode =
      if e.hasMotion text then .vim else e.session.mode := by
  rw [reject_session]

namespace Live

/-- Motions are heard of with an event. -/
def HearsMotion (s : Live α β) (event : Event α) : Prop :=
  ∃ text, s.Hears event text ∧ s.engine.hasMotion text = true

lemma step_of_resets {event : Event α} (h : event.resets = true) (s : Live α β) :
    (s.step event).1 = ⟨s.engine.ended, s.pending⟩ := by
  cases event with
  | change call text => cases h
  | settle call outcome => cases h
  | enter act text disposition => rw [step_enter]
  | start => rfl
  | cancel => rfl

/-- A change of a command line is heard of at once and its menu is shown, or it is only noted. -/
lemma hears_or_noted {s : Live α β} {text : String} (hlead : s.engine.hasLead text = true) (call : ℕ) :
    (s.Hears (.change call text) text ∧ ∃ suggestions, (s.step (.change call text)).1.engine =
        ((s.engine.begun text).present text suggestions).engine) ∨
      (∀ line, ¬ s.Hears (.change call text) line) ∧
        (s.step (.change call text)).1.engine = s.engine.begun text := by
  have hsame := s.engine.begun_sameHost text
  by_cases hasks : s.engine.Asks text
  · refine .inr ⟨fun line hhears => ?_, engine_of_asks hlead hasks call⟩
    cases hhears with
    | arrives supplied => cases supplied with
      | atOnce lead unasked suggested => exact unasked hasks
  · have hunasked : ¬ (s.engine.begun text).Asks text := hasks
    let empty : Except Fault Provided := .ok (.items [])
    have hrespond := respond_of_not_asks hunasked empty
    rw [hsame.suggested] at hrespond
    rw [step_change_of_hasLead hlead, hrespond]
    cases hsuggested : s.engine.suggested text empty with
    | error fault =>
        refine .inr ⟨fun line hhears => ?_, rfl⟩
        cases hhears with
        | arrives supplied => cases supplied with
          | atOnce lead unasked suggested => cases hsuggested.symm.trans (suggested empty)
    | ok suggestions =>
        have hall : ∀ outcome, s.engine.suggested text outcome = .ok suggestions := fun outcome => by
          rw [suggested_of_not_asks hasks outcome empty, hsuggested]
        exact .inl ⟨.arrives (.atOnce hlead hasks hall), suggestions, rfl⟩

lemma Hears.line {s : Live α β} {event : Event α} {line : String} (h : s.Hears event line) :
    (∃ call, event = .change call line) ∨ ∃ call outcome request, event = .settle call outcome ∧
      s.pending call = some request ∧ line = request.text := by
  cases h with
  | arrives supplied => cases supplied with
    | atOnce => exact .inl ⟨_, rfl⟩
    | arrives pending => exact .inr ⟨_, _, _, rfl, pending, rfl⟩
  | fails pending => exact .inr ⟨_, _, _, rfl, pending, rfl⟩

lemma Hears.line_eq {s : Live α β} {event : Event α} {line other : String} (h : s.Hears event line)
    (h' : s.Hears event other) : other = line := by
  rcases h.line with ⟨call, rfl⟩ | ⟨call, outcome, request, rfl, hrequest, rfl⟩
  · rcases h'.line with ⟨call', hevent⟩ | ⟨call', outcome, request, hevent, -⟩
    · exact (Event.change.inj hevent).2.symm
    · cases hevent
  · rcases h'.line with ⟨call', hevent⟩ | ⟨call', outcome', request', hevent, hrequest', rfl⟩
    · cases hevent
    · obtain rfl := (Event.settle.inj hevent).1
      rw [Option.some.inj (hrequest'.symm.trans hrequest)]

/-- What is heard of reaches a session that is awake, and leads to vim mode if the line has motions. -/
lemma Coherent.mode_of_hears {s : Live α β} (h : s.Coherent) {event : Event α} {line : String}
    (hhears : s.Hears event line) :
    (event.begins s.engine = true ∨ s.engine.session.mode ≠ .idle) ∧
      (s.step event).1.engine.session.mode =
        if s.engine.hasMotion line then .vim else s.engine.session.mode.wakened := by
  -- A call that is still current is of this episode.
  have hawake : ∀ {call request}, s.pending call = some request →
      request.sequence = s.engine.session.sequence → s.engine.session.mode ≠ .idle ∧
        s.engine.session.mode = s.engine.session.mode.wakened := by
    intro call request pending current
    have hne := h.awake call ⟨request, pending, current⟩
    refine ⟨hne, ?_⟩
    cases hmode : s.engine.session.mode with
    | idle => exact absurd hmode hne
    | composing | vim => rfl
  cases hhears with
  | arrives supplied => cases supplied with
    | atOnce lead unasked suggested =>
        refine ⟨.inl lead, ?_⟩
        rcases hears_or_noted lead _ with ⟨-, shown, hengine⟩ | ⟨hunheard, -⟩
        · rw [hengine, present_mode, ← Session.beginChange_mode_eq _ line]
          rfl
        · exact absurd (.arrives (.atOnce lead unasked suggested)) (hunheard line)
    | arrives pending current provided =>
        obtain ⟨hne, hmode⟩ := hawake pending current
        rw [step_settle_current pending current provided, present_mode, ← hmode]
        exact ⟨.inr hne, rfl⟩
  | fails pending current failed rejection =>
      obtain ⟨hne, hmode⟩ := hawake pending current
      rw [step_settle pending, decide_eq_true current, failed, settled, if_pos rejection, if_pos rfl,
        ← hmode]
      exact ⟨.inr hne, reject_mode _ _ _⟩

/-- What is not heard of leaves the mode alone, but for a change that begins. -/
lemma mode_of_unheard {s : Live α β} {event : Event α} (hevent : event.resets = false)
    (hunheard : ∀ line, ¬ s.Hears event line) :
    (s.step event).1.engine.session.mode =
      if event.begins s.engine then s.engine.session.mode.wakened else s.engine.session.mode := by
  cases event with
  | change call text =>
      cases hlead : s.engine.hasLead text with
      | false =>
          rw [step_change_of_not_hasLead hlead, Event.begins, hlead]
          rfl
      | true =>
          rcases hears_or_noted hlead call with ⟨hhears, -⟩ | ⟨-, hengine⟩
          · exact absurd hhears (hunheard text)
          · rw [hengine, Event.begins, if_pos hlead, ← Session.beginChange_mode_eq _ text]
            rfl
  | settle call outcome =>
      have hturn := s.turn_step (.settle call outcome)
      generalize (s.step (.settle call outcome)).1.engine = engine at hturn ⊢
      generalize (s.step (.settle call outcome)).2 = effects at hturn
      cases hturn with
      | absent | passes => rfl
      | takes pending current provided =>
          exact absurd (.arrives (.arrives pending current provided)) (hunheard _)
      | rejects pending current failed rejection =>
          exact absurd (.fails pending current failed rejection) (hunheard _)
  | enter act text disposition => cases hevent
  | start => cases hevent
  | cancel => cases hevent

/-- **What one event of an episode does to the mode.**  The session leaves the idle state with a change,
and goes into vim mode with the motions that are heard of. -/
lemma Coherent.mode_step {s : Live α β} (h : s.Coherent) {event : Event α}
    (hevent : event.resets = false) :
    ((s.step event).1.engine.session.mode = .idle ↔
        s.engine.session.mode = .idle ∧ event.begins s.engine = false) ∧
      ((s.step event).1.engine.session.mode = .vim ↔
        s.engine.session.mode = .vim ∨ s.HearsMotion event) := by
  by_cases hheard : ∃ line, s.Hears event line
  · obtain ⟨line, hhears⟩ := hheard
    obtain ⟨hawake, hmode⟩ := h.mode_of_hears hhears
    have hmotion : s.HearsMotion event ↔ s.engine.hasMotion line = true := by
      constructor
      · rintro ⟨other, hother, hmotion⟩
        rwa [hhears.line_eq hother] at hmotion
      · exact fun hmotion => ⟨line, hhears, hmotion⟩
    rw [hmode, hmotion]
    cases hm : s.engine.hasMotion line <;> cases hs : s.engine.session.mode <;>
      cases hb : event.begins s.engine <;> simp_all [Session.Mode.wakened]
  · rw [not_exists] at hheard
    have hmotion : ¬ s.HearsMotion event := fun ⟨line, hhears, _⟩ => hheard line hhears
    rw [mode_of_unheard hevent hheard]
    cases hs : s.engine.session.mode <;> cases hb : event.begins s.engine <;>
      simp [Session.Mode.wakened, hmotion]

end Live

/-! ## Whole runs -/

lemma Event.begins_congr {e e' : Engine α β} (h : e.SameHost e') (event : Event α) :
    event.begins e' = event.begins e := by
  cases event with
  | change call text => exact h.hasLead text
  | _ => rfl

lemma SameHost.hasMotion_iff {e e' : Engine α β} (h : e.SameHost e') (text : String) :
    e'.hasMotion text = true ↔ e.config.vim.enabled = true ∧ '[' ∈ (e.stripLead text).toList := by
  rw [h.eq]
  cases hvim : e.config.vim.enabled with
  | false => simp [hasMotion, hvim]
  | true =>
      show e.hasMotion text = true ↔ _
      rw [hasMotion_eq hvim, decide_eq_true_iff]
      simp

/-- A change of a command line has begun with an event. -/
def Begun (e : Engine α β) (_before : List (Event α)) (event : Event α) : Prop := event.begins e = true

/-- A change is heard of with an event, and its line has a bracket after what every command line starts
with. -/
def Bracketed (e : Engine α β) (before : List (Event α)) (event : Event α) : Prop :=
  ∃ text, (e.live.after before).Hears event text ∧ '[' ∈ (e.stripLead text).toList

/-- **The mode of a session tells its history.**  It is idle exactly if no change of a command line has
begun since the last reset; it is in vim mode exactly if motions are read, and since the last reset a
line with a bracket has been heard of; and otherwise a line is being composed. -/
theorem mode_tells_history {e : Engine α β} (hfresh : e.session = {}) (events : List (Event α)) :
    let mode := (e.live.after events).engine.session.mode
    (mode = .idle ↔ ¬ Since e.Begun events) ∧
      (mode = .vim ↔ e.config.vim.enabled = true ∧ Since e.Bracketed events) ∧
      (mode = .composing ↔ Since e.Begun events ∧
        ¬ (e.config.vim.enabled = true ∧ Since e.Bracketed events)) := by
  suffices htwo : ((e.live.after events).engine.session.mode = .idle ↔ ¬ Since e.Begun events) ∧
      ((e.live.after events).engine.session.mode = .vim ↔
        e.config.vim.enabled = true ∧ Since e.Bracketed events) by
    refine ⟨htwo.1, htwo.2, ?_⟩
    have hbegun := not_iff_comm.mp htwo.1.symm
    rw [← htwo.2, ← hbegun]
    cases (e.live.after events).engine.session.mode <;> simp
  induction events using List.reverseRecOn with
  | nil =>
      have hmode : e.session.mode = .idle := by rw [hfresh]
      exact ⟨iff_of_true hmode not_since_nil,
        iff_of_false (by rw [show e.live.after [] = e.live from rfl, live, hmode]; exact nofun)
          fun h => not_since_nil h.2⟩
  | append_singleton events event ih =>
      have hhost : e.SameHost (e.live.after events).engine := e.live.sameHost_after events
      have hstep : e.live.after (events ++ [event]) = ((e.live.after events).step event).1 := by
        rw [Live.after_append]
        rfl
      rw [hstep, since_concat, since_concat]
      cases hresets : event.resets with
      | true =>
          have hmode : ((e.live.after events).step event).1.engine.session.mode = .idle := by
            rw [Live.step_of_resets hresets]
            rfl
          rw [hmode]
          simp
      | false =>
          have hmotion : (e.live.after events).HearsMotion event ↔
              e.config.vim.enabled = true ∧ e.Bracketed events event := by
            simp only [Live.HearsMotion, Bracketed, hhost.hasMotion_iff]
            constructor
            · rintro ⟨text, hhears, hvim, hmem⟩
              exact ⟨hvim, text, hhears, hmem⟩
            · rintro ⟨hvim, text, hhears, hmem⟩
              exact ⟨text, hhears, hvim, hmem⟩
          obtain ⟨hidle, hvim⟩ := ((Live.coherent_live hfresh).after events).mode_step hresets
          rw [hidle, hvim, ih.1, ih.2, hmotion, Event.begins_congr hhost, ← Bool.not_eq_true]
          simp only [Begun, true_and, not_or, and_or_left]
          exact ⟨and_comm, or_comm⟩

/-- The motions of an episode that is over are not heard of in the next one, until a provider fails on a
line that has some. -/
theorem shelf_mode_tells_history :
    let late : List (Event Unit) :=
      [.change 0 "list [j]", .start, .change 1 "list", .settle 0 single]
    let failed : List (Event Unit) :=
      late ++ [.change 2 "list [k]", .settle 2 (.error (.foreign "ValueError" ""))]
    shelf.session = {} ∧
      (shelf.live.after late).engine.session.mode = .composing ∧ ¬ Since shelf.Bracketed late ∧
      (shelf.live.after failed).engine.session.mode = .vim ∧ Since shelf.Bracketed failed := by
  intro late failed
  have hlate : (shelf.live.after late).engine.session.mode = .composing := by decide +kernel
  have hfailed : (shelf.live.after failed).engine.session.mode = .vim := by decide +kernel
  have hvim : shelf.config.vim.enabled = true := by decide +kernel
  have hcomposing := (mode_tells_history (e := shelf) rfl late).2.2.mp hlate
  have hbracketed := (mode_tells_history (e := shelf) rfl failed).2.1.mp hfailed
  exact ⟨rfl, hlate, fun h => hcomposing.2 ⟨hvim, h⟩, hfailed, hbracketed.2⟩

end Engine

end CommandPalette
