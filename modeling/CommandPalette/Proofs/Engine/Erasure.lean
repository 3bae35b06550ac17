import CommandPalette.Proofs.Engine.Likeness

/-!
# Taking a call out of a run

A call that is out of date when its provider answers leaves no trace.  To say so, a run is compared
with the same run without the call.  The comparison has two phases.

**While the call is current** (`Shadowed`) the engine is that of the shorter run but for the noted
change.  The two runs differ in what they make of older calls: the longer run discards their answers,
the shorter one may take them in.  So the comparison breaks where an older call is answered while the
call has its place (`Live.Displaces`), unless the answer is a cancellation, which both runs pass on.

**Once an event supersedes the call** (`Alike`) the engines are the same up to the number of the
session, and the calls in flight up to theirs.  This is so whatever the superseding event is:
`superseding_begun` says that it forgets the noted change.

* `Shadowed.step`, `Alike.step`: one event in the two phases.
* `Overtaken`: a run with a call that is superseded before its provider answers.
* **`Overtaken.erasable_of_quiet`**: what is left of such a call, and of the run without it.
-/

namespace CommandPalette

open Command Motion

variable {α β : Type}

namespace Engine

/-! ## What supersedes -/

lemma superseding_begun (e : Engine α β) (first : String) (pending : ℕ → Option (Request β)) (n : ℕ)
    (event : Event α) : (e.begun first).superseding pending n event = e.superseding pending n event := by
  cases event with
  | change call text =>
      rw [superseding, superseding, begun_begun, respond_renumber, Change.renumber_renumber]
  | enter act text disposition =>
      have hsubmission := e.submission_begun first text disposition
      rw [superseding, superseding, enter_submitted_congr (congrArg Prod.fst hsubmission) act]
      rfl
  | settle call outcome => rfl
  | start => rfl
  | cancel => rfl

/-! ## Runs that are alike -/

/-- Two states that differ only in numbers, and in a call that is out of date. -/
structure Alike (call : ℕ) (full less : Live α β) : Prop where
  engine : less.engine = full.engine.renumber less.engine.session.sequence
  pending : ∀ other, other ≠ call →
    Twins full.engine.session.sequence less.engine.session.sequence
      (full.pending other) (less.pending other)
  gone : less.pending call = none
  stale : ¬ full.Current call

/-- One call is out of date in the longer run and unknown in the shorter one. -/
lemma alike_iff_like {call : ℕ} {full less : Live α β} :
    Alike call full less ↔ Like (· = call) full less := by
  constructor
  · rintro ⟨hengine, hpending, hgone, hstale⟩
    exact ⟨hengine, hpending, fun _ heq => heq ▸ hgone, fun _ heq => heq ▸ hstale⟩
  · rintro ⟨hengine, hpending, hunknown, hstale⟩
    exact ⟨hengine, hpending, hunknown call rfl, hstale call rfl⟩

/-- **Runs that are alike stay so**, and nobody sees a difference. -/
lemma Alike.step {call : ℕ} {full less : Live α β} (h : Alike call full less)
    (hfull : full.Numbered) (hless : less.Numbered) {event : Event α}
    (hforeign : event.concerns call = false) :
    (full.step event).2 = (less.step event).2 ∧ Alike call (full.step event).1 (less.step event).1 := by
  have hstep := (alike_iff_like.mp h).step hfull hless fun _ heq => heq ▸ hforeign
  exact ⟨hstep.1, alike_iff_like.mpr hstep.2⟩

/-! ## Runs while the call is current -/

/-- Two states of which the longer run's has noted a change that is still unanswered. -/
structure Shadowed (call : ℕ) (text : String) (full less : Live α β) : Prop where
  engine : full.engine = less.engine.begun text
  pending : ∀ other, other ≠ call → full.pending other = less.pending other
  gone : less.pending call = none
  current : full.Current call

/-- A call is the newest, and another one in flight was so before it. -/
def Live.Displaces (s : Live α β) (call other : ℕ) : Prop :=
  s.Current call ∧ ∃ request, s.pending other = some request ∧
    request.sequence + 1 = s.engine.session.sequence

/-- While the call is current, the longer run discards the older answers.  The shorter one does the
same if they are out of date for it too, or interrupt their calls. -/
lemma Shadowed.step_settle {call : ℕ} {text : String} {full less : Live α β}
    (h : Shadowed call text full less) (hless : less.Numbered) {c : ℕ} (hne : c ≠ call)
    {outcome : Except Fault Provided}
    (hquiet : full.Displaces call c → ∃ fault, Interrupts outcome fault) :
    (full.step (.settle c outcome)).2 = (less.step (.settle c outcome)).2 ∧
      Shadowed call text (full.step (.settle c outcome)).1 (less.step (.settle c outcome)).1 := by
  have hnumber : full.engine.session.sequence = less.engine.session.sequence + 1 := by
    rw [h.engine]
    rfl
  cases hr : less.pending c with
  | none =>
      have hr' : full.pending c = none := by rw [h.pending c hne, hr]
      rw [Live.step_settle_none hr, Live.step_settle_none hr']
      exact ⟨rfl, h⟩
  | some request =>
      have hr' : full.pending c = some request := by rw [h.pending c hne, hr]
      have hle := hless c request hr
      have hanswer : less.engine.settled (decide (request.sequence = less.engine.session.sequence))
          request.text request.path (concluded outcome) =
            { engine := less.engine, result := discarded outcome } := by
        by_cases hcurrent : request.sequence = less.engine.session.sequence
        · -- Only the shorter run would take this answer in.
          obtain ⟨fault, hfault⟩ := hquiet ⟨h.current, request, hr', by omega⟩
          exact settled_interrupts _ _ _ _ hfault
        · rw [decide_eq_false hcurrent, settled_stale]
      rw [Live.step_settle_stale hr' (by omega), Live.step_settle hr, hanswer]
      refine ⟨rfl, h.engine, ?_, ?_, ?_⟩
      · intro other hother
        show Function.update full.pending c none other = Function.update less.pending c none other
        by_cases hc : other = c
        · subst hc
          rw [Function.update_self, Function.update_self]
        · rw [Function.update_of_ne hc, Function.update_of_ne hc, h.pending other hother]
      · show Function.update less.pending c none call = none
        rw [Function.update_of_ne hne.symm, h.gone]
      · obtain ⟨asked, hasked, hcurrent⟩ := h.current
        exact ⟨asked, (Function.update_of_ne hne.symm _ _).trans hasked, hcurrent⟩

/-- **The two runs differ in the noted change until an event supersedes it, and are alike then.** -/
lemma Shadowed.step {call : ℕ} {text : String} {full less : Live α β}
    (h : Shadowed call text full less) (hless : less.Numbered) {event : Event α}
    (hforeign : event.concerns call = false)
    (hquiet : ∀ other outcome, event = .settle other outcome → full.Displaces call other →
      ∃ fault, Interrupts outcome fault) :
    (full.step event).2 = (less.step event).2 ∧
      (Shadowed call text (full.step event).1 (less.step event).1 ∨
        Alike call (full.step event).1 (less.step event).1) := by
  have hnumber : full.engine.session.sequence = less.engine.session.sequence + 1 := by
    rw [h.engine]
    rfl
  cases hsupersedes : event.supersedes less.engine with
  | true =>
      have hsupersedes' : event.supersedes full.engine = true := by
        rw [h.engine, ← hsupersedes]
        exact Event.supersedes_congr rfl event
      have hstep : full.step event =
          less.engine.superseding full.pending (less.engine.session.sequence + 2) event := by
        rw [step_of_supersedes hsupersedes', hnumber, h.engine, superseding_begun]
      rw [step_of_supersedes hsupersedes, hstep]
      have hpending : ∀ other, other ≠ call → Twins (less.engine.session.sequence + 2)
          (less.engine.session.sequence + 1) (full.pending other) (less.pending other) := by
        intro other hother
        rw [h.pending other hother]
        cases hr : less.pending other with
        | none => exact .inl ⟨rfl, rfl⟩
        | some request =>
            have hle := hless other request hr
            exact twins_of_stale (k := request.sequence) (by omega) (by omega)
      have hstale : ∀ r, full.pending call = some r →
          r.sequence ≠ less.engine.session.sequence + 2 := by
        intro r hr
        obtain ⟨request, hrequest, hcurrent⟩ := h.current
        obtain rfl : request = r := Option.some.inj (hrequest.symm.trans hr)
        omega
      obtain ⟨hseen, hlike⟩ := like_superseding less.engine hpending (fun _ heq => heq ▸ h.gone)
        (fun _ heq => heq ▸ hstale) fun _ heq => heq ▸ hforeign
      exact ⟨hseen, .inr (alike_iff_like.mpr hlike)⟩
  | false =>
      rcases Event.eq_of_not_supersedes hsupersedes with ⟨c, line, rfl, hlead⟩ | ⟨c, outcome, rfl⟩
      · have hlead' : full.engine.hasLead line = false := by
          rw [h.engine]
          exact hlead
        rw [Live.step_change_of_not_hasLead hlead, Live.step_change_of_not_hasLead hlead']
        exact ⟨rfl, .inl h⟩
      · have hsettle := h.step_settle hless (by simpa [Event.concerns] using hforeign)
          (hquiet c outcome rfl)
        exact ⟨hsettle.1, .inl hsettle.2⟩

/-! ## Whole runs -/

lemma Alike.run {call : ℕ} {full less : Live α β} (h : Alike call full less)
    (hfull : full.Numbered) (hless : less.Numbered) {events : List (Event α)}
    (hforeign : ∀ event ∈ events, event.concerns call = false) :
    full.trace events = less.trace events ∧ Alike call (full.after events) (less.after events) := by
  induction events generalizing full less with
  | nil => exact ⟨rfl, h⟩
  | cons event rest ih =>
      obtain ⟨hsame, hnext⟩ := h.step hfull hless (hforeign event List.mem_cons_self)
      obtain ⟨htrace, hend⟩ := ih hnext (hfull.step event) (hless.step event)
        fun later hlater => hforeign later (List.mem_cons_of_mem _ hlater)
      exact ⟨by rw [Live.trace, Live.trace, hsame, htrace], hend⟩

lemma Shadowed.run {call : ℕ} {text : String} {full less : Live α β}
    (h : Shadowed call text full less) (hfull : full.Numbered) (hless : less.Numbered)
    {events : List (Event α)} (hforeign : ∀ event ∈ events, event.concerns call = false)
    (hquiet : ∀ front other outcome back, events = front ++ .settle other outcome :: back →
      (full.after front).Displaces call other → ∃ fault, Interrupts outcome fault) :
    full.trace events = less.trace events ∧
      (Shadowed call text (full.after events) (less.after events) ∨
        Alike call (full.after events) (less.after events)) := by
  induction events generalizing full less with
  | nil => exact ⟨rfl, .inl h⟩
  | cons event rest ih =>
      have hrest : ∀ later ∈ rest, later.concerns call = false := fun later hlater =>
        hforeign later (List.mem_cons_of_mem _ hlater)
      obtain ⟨hsame, hnext⟩ := h.step hless (hforeign event List.mem_cons_self)
        fun other outcome hevent => hquiet [] other outcome rest (by rw [hevent]; rfl)
      have hend : (full.step event).1.trace rest = (less.step event).1.trace rest ∧
          (Shadowed call text ((full.step event).1.after rest) ((less.step event).1.after rest) ∨
            Alike call ((full.step event).1.after rest) ((less.step event).1.after rest)) := by
        rcases hnext with hshadowed | halike
        · refine ih hshadowed (hfull.step event) (hless.step event) hrest ?_
          intro front other outcome back hevents
          exact hquiet (event :: front) other outcome back (by rw [hevents]; rfl)
        · obtain ⟨htrace, halike'⟩ := halike.run (hfull.step event) (hless.step event) hrest
          exact ⟨htrace, .inr halike'⟩
      exact ⟨by rw [Live.trace, Live.trace, hsame, hend.1], hend.2⟩

/-- A change that has asked its provider. -/
lemma shadowed_of_inFlight {s : Live α β} {call : ℕ} {text : String} (hnone : s.pending call = none)
    (h : (s.step (.change call text)).1.InFlight call) :
    Shadowed call text (s.step (.change call text)).1 s ∧
      ∃ provider args, (s.step (.change call text)).2 = [.asked call provider args] := by
  cases hlead : s.engine.hasLead text with
  | false =>
      rw [Live.step_change_of_not_hasLead hlead, Live.InFlight, hnone] at h
      cases h
  | true =>
      rw [Live.step_change_of_hasLead hlead] at h ⊢
      cases hrespond : (s.engine.begun text).respond text with
      | answered answer =>
          rw [hrespond, Live.InFlight, Live.noted, hnone] at h
          cases h
      | asks engine request lines =>
          obtain ⟨hengine, hnumber⟩ := respond_asks hrespond
          refine ⟨⟨hengine, ?_, hnone, ?_⟩, request.provider, request.args, rfl⟩
          · intro other hother
            exact Function.update_of_ne hother _ _
          · refine ⟨request, Function.update_self _ _ _, ?_⟩
            rw [Live.noted, hengine, hnumber]

/-- The answer of the call itself, once it is superseded. -/
lemma Alike.settle_call {call : ℕ} {full less : Live α β} (h : Alike call full less)
    (hflight : full.InFlight call) (outcome : Except Fault Provided) :
    (full.step (.settle call outcome)).2 = [.answered call (discarded outcome)] ∧
      Alike call (full.step (.settle call outcome)).1 less := by
  obtain ⟨hseen, hlike⟩ := (alike_iff_like.mp h).settle_gone rfl outcome
  exact ⟨hseen.trans (if_pos hflight), alike_iff_like.mpr hlike⟩

/-- A run in which a call asks its provider, is superseded, and gets its answer only then. -/
structure Overtaken (e : Engine α β) where
  call : ℕ
  text : String
  /-- What the provider answers. -/
  outcome : Except Fault Provided
  /-- The events before the call, between the call and the answer, and after the answer. -/
  before : List (Event α)
  between : List (Event α)
  later : List (Event α)
  foreign : ∀ event ∈ before ++ between ++ later, event.concerns call = false
  asks : ((e.live.after before).step (.change call text)).1.InFlight call
  superseded : ¬ (e.live.after (before ++ .change call text :: between)).Current call

namespace Overtaken

variable {e : Engine α β}

/-- The whole run. -/
def events (run : Overtaken e) : List (Event α) :=
  run.before ++ .change run.call run.text :: (run.between ++ .settle run.call run.outcome :: run.later)

/-- The run without the call. -/
def rest (run : Overtaken e) : List (Event α) :=
  run.events.filter fun event => !event.concerns run.call

/-- No older call that the call has displaced is answered in its time, unless it is interrupted. -/
def Quiet (run : Overtaken e) : Prop :=
  ∀ front other outcome back, run.between = front ++ .settle other outcome :: back →
    (e.live.after (run.before ++ .change run.call run.text :: front)).Displaces run.call other →
    ∃ fault, Interrupts outcome fault

/-- Without the call, everything else is seen as before, and the engine ends in the same state but for
the number of its session. -/
def Erasable (run : Overtaken e) : Prop :=
  e.live.trace run.rest = (e.live.trace run.events).filter (fun effect => !effect.concerns run.call) ∧
    ∃ n, (e.live.after run.rest).engine = (e.live.after run.events).engine.renumber n

/-- The state once the call has asked its provider. -/
def asked (run : Overtaken e) : Live α β :=
  ((e.live.after run.before).step (.change run.call run.text)).1

lemma foreign_before (run : Overtaken e) :
    ∀ event ∈ run.before, event.concerns run.call = false := fun event h =>
  run.foreign event (List.mem_append_left _ (List.mem_append_left _ h))

lemma foreign_between (run : Overtaken e) :
    ∀ event ∈ run.between, event.concerns run.call = false := fun event h =>
  run.foreign event (List.mem_append_left _ (List.mem_append_right _ h))

lemma foreign_later (run : Overtaken e) :
    ∀ event ∈ run.later, event.concerns run.call = false := fun event h =>
  run.foreign event (List.mem_append_right _ h)

/-- Events that belong to other calls are kept. -/
lemma filter_foreign {call : ℕ} {events : List (Event α)}
    (h : ∀ event ∈ events, event.concerns call = false) :
    events.filter (fun event => !event.concerns call) = events :=
  List.filter_eq_self.mpr fun event hevent => by rw [h event hevent]; rfl

lemma rest_eq (run : Overtaken e) : run.rest = run.before ++ (run.between ++ run.later) := by
  have hchange : (Event.change run.call run.text : Event α).concerns run.call = true :=
    beq_self_eq_true run.call
  have hsettle : (Event.settle run.call run.outcome : Event α).concerns run.call = true :=
    beq_self_eq_true run.call
  rw [rest, events, List.filter_append, filter_foreign run.foreign_before,
    List.filter_cons_of_neg (by simp [hchange]), List.filter_append,
    filter_foreign run.foreign_between, List.filter_cons_of_neg (by simp [hsettle]),
    filter_foreign run.foreign_later]

lemma shadowed (run : Overtaken e) :
    Shadowed run.call run.text run.asked (e.live.after run.before) ∧
      ∃ provider args, ((e.live.after run.before).step (.change run.call run.text)).2 =
        [.asked run.call provider args] :=
  shadowed_of_inFlight (Live.pending_after run.foreign_before e.live) run.asks

lemma after_between (run : Overtaken e) :
    e.live.after (run.before ++ .change run.call run.text :: run.between) =
      run.asked.after run.between := by
  rw [Live.after_append, Live.after, asked]

/-- When its provider answers, the call is still in flight and out of date. -/
lemma settle_call (run : Overtaken e) :
    ∃ pending, (run.asked.after run.between).step (.settle run.call run.outcome) =
      (⟨(run.asked.after run.between).engine, pending⟩,
        [.answered run.call (discarded run.outcome)]) := by
  obtain ⟨request, hrequest, -⟩ := run.shadowed.1.current
  have hflight : (run.asked.after run.between).pending run.call = some request := by
    rw [Live.pending_after run.foreign_between, hrequest]
  have hstale : request.sequence ≠ (run.asked.after run.between).engine.session.sequence := by
    intro hnumber
    refine run.superseded ?_
    rw [after_between]
    exact ⟨request, hflight, hnumber⟩
  exact ⟨_, Live.step_settle_stale hflight hstale _⟩

/-- The trace of the whole run, part by part. -/
lemma trace_events (run : Overtaken e) : ∃ provider args,
    e.live.trace run.events = e.live.trace run.before ++ (.asked run.call provider args ::
      (run.asked.trace run.between ++ (.answered run.call (discarded run.outcome) ::
        ((run.asked.after run.between).step (.settle run.call run.outcome)).1.trace run.later))) := by
  obtain ⟨-, provider, args, hasks⟩ := run.shadowed
  obtain ⟨pending, hsettle⟩ := run.settle_call
  refine ⟨provider, args, ?_⟩
  rw [events, Live.trace_append, Live.trace, Live.trace_append, Live.trace, hasks]
  rw [show ((e.live.after run.before).step (.change run.call run.text)).1 = run.asked from rfl, hsettle]
  rfl

/-- What the call itself is seen to do. -/
lemma own_effects (run : Overtaken e) : ∃ provider args,
    (e.live.trace run.events).filter (·.concerns run.call) =
      [.asked run.call provider args, .answered run.call (discarded run.outcome)] := by
  obtain ⟨provider, args, htrace⟩ := run.trace_events
  refine ⟨provider, args, ?_⟩
  rw [htrace, List.filter_append, Live.filter_concerns_trace run.foreign_before,
    List.filter_cons_of_pos (by simp [Effect.concerns]), List.filter_append,
    Live.filter_concerns_trace run.foreign_between,
    List.filter_cons_of_pos (by simp [Effect.concerns]),
    Live.filter_concerns_trace run.foreign_later]
  rfl

/-- The run with the call and the run without it, side by side. -/
lemma erasable (run : Overtaken e) (hquiet : run.Quiet) : run.Erasable := by
  obtain ⟨provider, args, htrace⟩ := run.trace_events
  have hbefore : (e.live.after run.before).Numbered := Live.numbered_after e run.before
  have hasked : run.asked.Numbered := hbefore.step _
  obtain ⟨hbetween, hend⟩ := run.shadowed.1.run hasked hbefore run.foreign_between
    fun front other outcome back hevents hdisplaces => by
      refine hquiet front other outcome back hevents ?_
      rwa [Live.after_append, Live.after]
  -- The call is out of date by now, so the first phase is over.
  have halike : Alike run.call (run.asked.after run.between)
      ((e.live.after run.before).after run.between) := by
    rcases hend with hshadowed | halike
    · exact absurd (run.after_between ▸ hshadowed.current) run.superseded
    · exact halike
  obtain ⟨request, hrequest, -⟩ := run.shadowed.1.current
  have hflight : (run.asked.after run.between).InFlight run.call := by
    rw [Live.InFlight, Live.pending_after run.foreign_between, hrequest]
    rfl
  obtain ⟨hlater, hlast⟩ := (halike.settle_call hflight run.outcome).2.run
    ((hasked.after run.between).step _) (hbefore.after run.between) run.foreign_later
  constructor
  · rw [htrace, List.filter_append, Live.filter_not_concerns_trace run.foreign_before,
      List.filter_cons_of_neg (by simp [Effect.concerns]), List.filter_append,
      Live.filter_not_concerns_trace run.foreign_between,
      List.filter_cons_of_neg (by simp [Effect.concerns]),
      Live.filter_not_concerns_trace run.foreign_later, hlater, hbetween, rest_eq,
      Live.trace_append, Live.trace_append]
  · have hless : e.live.after run.rest =
        ((e.live.after run.before).after run.between).after run.later := by
      rw [rest_eq, Live.after_append, Live.after_append]
    have hfull : e.live.after run.events =
        ((run.asked.after run.between).step (.settle run.call run.outcome)).1.after run.later := by
      rw [events, Live.after_append, Live.after, Live.after_append, Live.after, asked]
    rw [hfull, hless]
    exact ⟨_, hlast.engine⟩

/-- **A superseded call leaves no trace.**  Whatever its provider answers, the call returns nothing or
what interrupted it.  If in its time no call is answered that it had displaced, the run without it is
the same in all other effects, and ends in the same state but for the number of the session. -/
theorem erasable_of_quiet (run : Overtaken e) :
    (∃ provider args, (e.live.trace run.events).filter (·.concerns run.call) =
      [.asked run.call provider args, .answered run.call (discarded run.outcome)]) ∧
    (discarded run.outcome = .ok [] ∨
      ∃ fault, Interrupts run.outcome fault ∧ discarded run.outcome = .error fault) ∧
    (run.Quiet → run.Erasable) :=
  ⟨run.own_effects, discarded_cases run.outcome, run.erasable⟩

/-! ### A menu whose commands all ask -/

/-- Commands without arguments that leave their suggestions to a provider. -/
def menu : Engine Unit Unit where
  registry := (({} : Registry Unit Unit).register (["slow", "slower", "fast"].map fun name =>
    .command (.text name) [] .null .absent [] (.callable ()))).1

/-- The suggestion of a provider. -/
def late : Except Fault Provided := .ok (.items [.suggestion { content := "late", description := "" }])

/-- The call to `slower` displaces the one to `slow`, whose provider is cancelled then. -/
def patient : Overtaken menu where
  call := 1
  text := "slower"
  outcome := late
  before := [.change 0 "slow"]
  between := [.settle 0 (.error (.foreign "CancelledError" "")), .change 2 "fast"]
  later := []
  foreign := by decide
  asks := by decide +kernel
  superseded := by decide +kernel

/-- The same run, where the provider answers. -/
def hasty : Overtaken menu where
  call := 1
  text := "slower"
  outcome := late
  before := [.change 0 "slow"]
  between := [.settle 0 late, .change 2 "fast"]
  later := []
  foreign := by decide
  asks := by decide +kernel
  superseded := by decide +kernel

theorem patient_erasable : patient.Quiet ∧ patient.Erasable := by
  have hquiet : patient.Quiet := by
    intro front other outcome back hbetween _
    have hmem : (Event.settle other outcome : Event Unit) ∈ patient.between := by
      rw [hbetween]
      exact List.mem_append_right _ List.mem_cons_self
    simp only [patient, List.mem_cons, List.not_mem_nil, or_false, Event.settle.injEq,
      reduceCtorEq] at hmem
    obtain ⟨-, rfl⟩ := hmem
    exact ⟨.foreign "CancelledError" "", rfl, by decide +kernel⟩
  exact ⟨hquiet, (erasable_of_quiet patient).2.2 hquiet⟩

/-- How many suggestions a call returned. -/
def returned? : Effect Unit Unit → Option ℕ
  | .answered _ (.ok suggestions) => some suggestions.length
  | _ => none

/-- **An older call that is answered in between makes a difference.**  In the run without the call it
is not out of date. -/
theorem hasty_not_erasable : ¬ hasty.Erasable := by
  rintro ⟨htrace, -⟩
  have hreturned := congrArg (List.filterMap returned?) htrace
  revert hreturned
  decide +kernel

end Overtaken

end Engine

end CommandPalette
