import CommandPalette.Proofs.Engine.Coherence
import Mathlib.Tactic.ByContra

/-!
# The newest change

**The engine waits with its newest change.**  A change leaves no other call current (`only_of_change`).
So until an event supersedes it, nothing that ends is taken in, and the engine stays as the change has
left it: `Numbered.engine_after_change`.

**What a change suggests.**  `Engine.suggested` are the suggestions for a line, given what the provider
answers if one has to be asked.  A change is `Timely` if its provider answers before an event supersedes
it.  Then it comes to `Engine.completed`, whatever else ends in between: `Timely.completed_spec`.  So it
shows these suggestions (`Timely.engine_state`), in vim mode turned to the row of the motions
(`Timely.turned`).
-/

namespace CommandPalette

open Command Motion

variable {α β : Type}

namespace Engine

lemma begun_sameHost (e : Engine α β) (text : String) : e.SameHost (e.begun text) := ⟨rfl, rfl, rfl⟩

/-! ## While a change is the newest -/

namespace Live

/-- No other call is current. -/
def Only (s : Live α β) (call : ℕ) : Prop := ∀ other, s.Current other → other = call

lemma only_of_change {s : Live α β} (h : s.Numbered) {text : String}
    (hlead : s.engine.hasLead text = true) (call : ℕ) :
    (s.step (.change call text)).1.Only call := by
  intro other hcurrent
  by_contra hne
  have hsupersedes : (Event.change call text).supersedes s.engine = true := hlead
  have hforeign : (Event.change call text : Event α).concerns other = false := by
    simpa [Event.concerns] using Ne.symm hne
  exact not_current_of_supersedes h hsupersedes hforeign hcurrent

/-- While a call waits, an event that does not supersede it does nothing to the engine. -/
lemma Only.step {s : Live α β} {call : ℕ} (h : s.Only call) {event : Event α}
    (hnewest : event.supersedes s.engine = false)
    (hwaits : ∀ outcome, event = .settle call outcome → ∃ fault, Interrupts outcome fault) :
    (s.step event).1.engine = s.engine ∧ (s.step event).1.Only call := by
  rcases Event.eq_of_not_supersedes hnewest with ⟨c, text, rfl, hlead⟩ | ⟨c, outcome, rfl⟩
  · rw [step_change_of_not_hasLead hlead]
    exact ⟨rfl, h⟩
  · refine ⟨?_, fun other hcurrent => h other (current_of_step_settle hcurrent)⟩
    have hturn := s.turn_step (.settle c outcome)
    generalize (s.step (.settle c outcome)).1.engine = engine at hturn ⊢
    generalize (s.step (.settle c outcome)).2 = effects at hturn
    cases hturn with
    | absent => rfl
    | passes => rfl
    | takes pending current provided =>
        -- Only the call that waits could be taken in, and it was interrupted.
        obtain rfl := h c ⟨_, pending, current⟩
        obtain ⟨fault, hfault, -⟩ := hwaits outcome rfl
        cases provided.symm.trans hfault
    | rejects pending current failed rejection =>
        obtain rfl := h c ⟨_, pending, current⟩
        obtain ⟨fault, hfault, hnot⟩ := hwaits outcome rfl
        cases failed.symm.trans hfault
        cases rejection.symm.trans hnot

/-- **While a call waits, the engine stays as it is**, whatever else ends. -/
lemma engine_of_only {s : Live α β} {call : ℕ} (h : s.Only call) {events : List (Event α)}
    (hnewest : ∀ event ∈ events, event.supersedes s.engine = false)
    (hwaits : ∀ outcome, .settle call outcome ∈ events → ∃ fault, Interrupts outcome fault) :
    (s.after events).engine = s.engine := by
  induction events generalizing s with
  | nil => rfl
  | cons event rest ih =>
      obtain ⟨hengine, honly⟩ := h.step (hnewest event List.mem_cons_self)
        fun outcome hevent => hwaits outcome (hevent ▸ List.mem_cons_self)
      rw [after, ih honly, hengine]
      · intro later hlater
        rw [hengine]
        exact hnewest later (List.mem_cons_of_mem _ hlater)
      · exact fun outcome hmem => hwaits outcome (List.mem_cons_of_mem _ hmem)

/-- **Until an event supersedes a change, the engine stays as the change has left it.** -/
lemma Numbered.engine_after_change {s : Live α β} (h : s.Numbered) {e : Engine α β}
    (hhost : e.SameHost s.engine) {call : ℕ} {text : String} (hlead : e.hasLead text = true)
    {events : List (Event α)} (hnewest : ∀ event ∈ events, event.supersedes e = false)
    (hwaits : ∀ outcome, .settle call outcome ∈ events → ∃ fault, Interrupts outcome fault) :
    ((s.step (.change call text)).1.after events).engine = (s.step (.change call text)).1.engine := by
  refine engine_of_only (only_of_change h (by rw [hhost.hasLead, hlead]) call) ?_ hwaits
  intro event hevent
  rw [Event.supersedes_congr (hhost.trans (s.sameHost_step _)).config]
  exact hnewest event hevent

end Live

/-! ## What a change suggests -/

/-- The command of a line has a provider. -/
def Asks (e : Engine α β) (text : String) : Prop :=
  ((e.process text).command.bind Entry.provider).isSome = true

instance (e : Engine α β) (text : String) : Decidable (e.Asks text) :=
  inferInstanceAs (Decidable (_ = true))

lemma SameHost.asks {e e' : Engine α β} (h : e.SameHost e') {text : String} (hasks : e.Asks text) :
    e'.Asks text := by
  rw [Asks, h.process]
  exact hasks

/-- The path that stands before the suggestions of a command. -/
def pathOf (e : Engine α β) (entry : Entry α β) : Option String :=
  if e.registry.isDefault entry then none else some entry.name

/-- What a line suggests, given what the provider answers if one has to be asked. -/
def suggested (e : Engine α β) (text : String) (outcome : Except Fault Provided) :
    Except Fault (List Suggestion) :=
  match (e.process text).command with
  | none => e.listing
  | some entry => match entry.provider with
    | some _ => (concluded outcome).map fun provided => provided.map (underPath (e.pathOf entry))
    | none => if e.registry.isDefault entry then e.listing else e.entrySuggestions entry

lemma SameHost.suggested {e e' : Engine α β} (h : e.SameHost e') (text : String)
    (outcome : Except Fault Provided) : e'.suggested text outcome = e.suggested text outcome := by
  rw [h.eq]
  rfl

/-- Where a provider has to be asked, the suggestions are what it answers. -/
lemma suggested_of_provider {e : Engine α β} {text : String} {entry : Entry α β}
    (hcommand : (e.process text).command = some entry) (hprovider : entry.provider.isSome = true)
    (outcome : Except Fault Provided) :
    e.suggested text outcome =
      (concluded outcome).map fun provided => provided.map (underPath (e.pathOf entry)) := by
  obtain ⟨provider, hprovider⟩ := Option.isSome_iff_exists.mp hprovider
  simp only [suggested, hcommand, hprovider]

/-- A line that asks no provider suggests the same whatever a provider would answer. -/
lemma suggested_of_not_asks {e : Engine α β} {text : String} (h : ¬ e.Asks text)
    (outcome outcome' : Except Fault Provided) : e.suggested text outcome = e.suggested text outcome' := by
  unfold Asks at h
  unfold suggested
  cases hcommand : (e.process text).command with
  | none => rfl
  | some entry =>
      have hprovider : entry.provider = none := by simpa [hcommand] using h
      simp only [hprovider]

lemma respond_of_not_asks {e : Engine α β} {text : String} (h : ¬ e.Asks text)
    (outcome : Except Fault Provided) : e.respond text = e.shown text (e.suggested text outcome) := by
  unfold Asks at h
  unfold respond suggested
  cases hcommand : (e.process text).command with
  | none => rfl
  | some entry =>
      have hprovider : entry.provider = none := by simpa [hcommand] using h
      simp only [hprovider]

lemma respond_of_asks {e : Engine α β} {text : String} (h : e.Asks text) :
    ∃ request lines, e.respond text = .asks e request lines ∧ request.text = text ∧
      ∀ outcome, e.suggested text outcome =
        (concluded outcome).map fun provided => provided.map (underPath request.path) := by
  obtain ⟨provider, hprovider⟩ := Option.isSome_iff_exists.mp h
  obtain ⟨entry, hentry, hprovider⟩ := Option.bind_eq_some_iff.mp hprovider
  refine ⟨_, _, by simp only [respond, hentry, hprovider]; rfl, rfl, fun outcome => ?_⟩
  exact suggested_of_provider hentry (Option.isSome_of_eq_some hprovider) outcome

/-- A change that asks has only been noted. -/
lemma Live.engine_of_asks {s : Live α β} {text : String} (hlead : s.engine.hasLead text = true)
    (hasks : s.engine.Asks text) (call : ℕ) :
    (s.step (.change call text)).1.engine = s.engine.begun text := by
  obtain ⟨request, lines, hrespond, -⟩ := respond_of_asks ((s.engine.begun_sameHost text).asks hasks)
  rw [step_change_of_hasLead hlead, hrespond]
  rfl

/-! ## Changes that are answered in time -/

/-- What a change comes to that is answered in time, once it has been noted. -/
def completed (e : Engine α β) (text : String) (outcome : Except Fault Provided) :
    Answer α β (Except Fault (List Suggestion)) :=
  match e.suggested text outcome with
  | .ok suggestions => e.present text suggestions
  | .error fault =>
    if e.Asks text ∧ fault.isRejection = true then e.reject text fault
    else { engine := e, result := .error fault }

lemma completed_of_asks {e : Engine α β} {text : String} (h : e.Asks text)
    {outcome : Except Fault Provided} {path : Option String} (hsuggested : e.suggested text outcome =
      (concluded outcome).map fun provided => provided.map (underPath path)) :
    e.settled true text path (concluded outcome) = { e.completed text outcome with lines := [] } := by
  rw [completed, hsuggested]
  cases concluded outcome with
  | ok provided => rfl
  | error fault =>
      show (if fault.isRejection = true then _ else _) = _
      cases hrejection : fault.isRejection <;> simp [h, hrejection, Except.map]

lemma noted_of_not_asks {e : Engine α β} {text : String} (h : ¬ e.Asks text)
    (outcome : Except Fault Provided) (pending : ℕ → Option (Request β)) (call : ℕ) :
    Live.noted pending call (e.respond text) =
      ((⟨(e.completed text outcome).engine, pending⟩,
        [.answered call (e.completed text outcome).result]) : Live α β × List (Effect α β)) := by
  rw [respond_of_not_asks h outcome, completed]
  cases e.suggested text outcome with
  | ok suggestions =>
      rw [← Live.present_effects]
      rfl
  | error fault =>
      simp only [h, false_and, if_false]
      rfl

/-- A change that gets its provider's answer, if it asks for one, before an event supersedes it. -/
structure Timely (e : Engine α β) where
  call : ℕ
  text : String
  outcome : Except Fault Provided
  before : List (Event α)
  between : List (Event α)
  fresh : e.session = {}
  lead : e.hasLead text = true
  foreign : ∀ event ∈ before ++ between, event.concerns call = false
  newest : ∀ event ∈ between, event.supersedes e = false

namespace Timely

variable {e : Engine α β}

/-- The state before the change. -/
def start (run : Timely e) : Live α β := e.live.after run.before

/-- The change, what happens while it waits, and the answer. -/
def events (run : Timely e) : List (Event α) :=
  .change run.call run.text :: (run.between ++ [.settle run.call run.outcome])

/-- The state after the change. -/
def state (run : Timely e) : Live α β := run.start.after run.events

/-- What is seen from the change on. -/
def seen (run : Timely e) : List (Effect α β) := run.start.trace run.events

/-- The engine that has noted the change. -/
def noted (run : Timely e) : Engine α β := run.start.engine.begun run.text

lemma sameHost_start (run : Timely e) : e.SameHost run.start.engine := e.live.sameHost_after _

lemma sameHost_noted (run : Timely e) : e.SameHost run.noted :=
  run.sameHost_start.trans (begun_sameHost _ _)

lemma foreign_before (run : Timely e) : ∀ event ∈ run.before, event.concerns run.call = false :=
  fun event h => run.foreign event (List.mem_append_left _ h)

lemma foreign_between (run : Timely e) : ∀ event ∈ run.between, event.concerns run.call = false :=
  fun event h => run.foreign event (List.mem_append_right _ h)

/-- The state when the provider answers. -/
def waiting (run : Timely e) : Live α β :=
  ((run.start.step (.change run.call run.text)).1).after run.between

/-- While the change waits, the engine and the call stay as they are. -/
lemma waiting_spec (run : Timely e) :
    run.waiting.engine = (run.start.step (.change run.call run.text)).1.engine ∧
      run.waiting.pending run.call =
        (run.start.step (.change run.call run.text)).1.pending run.call := by
  have hnumbered : run.start.Numbered := Live.numbered_after e _
  refine ⟨hnumbered.engine_after_change run.sameHost_start run.lead run.newest fun outcome hmem => ?_,
    Live.pending_after run.foreign_between _⟩
  have hforeign := run.foreign_between _ hmem
  simp [Event.concerns] at hforeign

lemma state_eq (run : Timely e) :
    run.state = (run.waiting.step (.settle run.call run.outcome)).1 := by
  rw [state, events, Live.after, Live.after_append]
  rfl

/-- A call answers when it is made or when it ends. -/
lemma answered_mem_seen_iff (run : Timely e) (result : Except Fault (List Suggestion)) :
    .answered run.call result ∈ run.seen ↔
      .answered run.call result ∈ (run.start.step (.change run.call run.text)).2 ∨
        .answered run.call result ∈ (run.waiting.step (.settle run.call run.outcome)).2 := by
  have hbetween : .answered run.call result ∉
      ((run.start.step (.change run.call run.text)).1).trace run.between := by
    intro hmem
    have hforeign := Live.concerns_of_mem_trace run.foreign_between _ _ hmem
    simp [Effect.concerns] at hforeign
  rw [seen, events, Live.trace, Live.trace_append, List.mem_append, List.mem_append]
  simp [Live.trace, hbetween, waiting]

lemma step_start (run : Timely e) : run.start.step (.change run.call run.text) =
    Live.noted run.start.pending run.call (run.noted.respond run.text) :=
  Live.step_change_of_hasLead (by rw [run.sameHost_start.hasLead, run.lead]) run.call

/-- A change that asks waits, and its call is still current when the provider answers. -/
lemma steps_of_asks (run : Timely e) (hasks : run.noted.Asks run.text) :
    (∃ provider args,
        (run.start.step (.change run.call run.text)).2 = [.asked run.call provider args]) ∧
      ∃ pending, run.waiting.step (.settle run.call run.outcome) =
        (⟨(run.noted.completed run.text run.outcome).engine, pending⟩,
          (run.noted.completed run.text run.outcome).effects run.call) := by
  obtain ⟨request, lines, hrespond, htext, hsuggested⟩ := respond_of_asks hasks
  obtain ⟨-, hnumber⟩ := respond_asks hrespond
  have hstep := run.step_start
  obtain ⟨hengine, hpending⟩ := run.waiting_spec
  rw [hrespond] at hstep
  rw [hstep] at hengine hpending
  replace hengine : run.waiting.engine = run.noted := hengine
  have hcurrent : request.sequence = run.waiting.engine.session.sequence := by
    rw [hnumber, hengine]
  refine ⟨⟨request.provider, request.args, by rw [hstep]; rfl⟩,
    Function.update run.waiting.pending run.call none, ?_⟩
  rw [Live.step_settle (hpending.trans (Function.update_self _ _ _)), decide_eq_true hcurrent, hengine,
    htext, completed_of_asks hasks (hsuggested run.outcome)]
  rfl

/-- **What a change that is answered in time comes to**, whatever its answer is. -/
lemma completed_spec (run : Timely e) :
    run.state.engine = (run.noted.completed run.text run.outcome).engine ∧
      ∀ result, .answered run.call result ∈ run.seen ↔
        result = (run.noted.completed run.text run.outcome).result := by
  by_cases hasks : run.noted.Asks run.text
  · obtain ⟨⟨provider, args, hasked⟩, pending, hsettle⟩ := run.steps_of_asks hasks
    constructor
    · rw [state_eq, hsettle]
    · intro result
      rw [answered_mem_seen_iff, hasked, hsettle]
      simp [Answer.effects]
  · -- The change is answered at once, and there is no call that could end.
    have hnone : run.start.pending run.call = none := Live.pending_after run.foreign_before e.live
    have hstep := run.step_start
    obtain ⟨hengine, hpending⟩ := run.waiting_spec
    rw [noted_of_not_asks hasks run.outcome] at hstep
    rw [hstep] at hengine hpending
    have hsettle := Live.step_settle_none (hpending.trans hnone) run.outcome
    constructor
    · rw [state_eq, hsettle, hengine]
    · intro result
      rw [answered_mem_seen_iff, hstep, hsettle]
      simp

/-- **A change that is answered in time shows what its line suggests**, and answers with it. -/
lemma engine_state (run : Timely e) {suggestions : List Suggestion}
    (h : e.suggested run.text run.outcome = .ok suggestions) :
    run.state.engine = (run.noted.present run.text suggestions).engine ∧
      ∀ result, .answered run.call result ∈ run.seen ↔
        result = (run.noted.present run.text suggestions).result := by
  have hspec := run.completed_spec
  rwa [completed, run.sameHost_noted.suggested, h] at hspec

/-! ### Menus in vim mode -/

lemma coherent_noted (run : Timely e) : run.noted.Coherent ∧ run.noted.session.mode ≠ .idle :=
  ((Live.coherent_live run.fresh).after run.before).engine.begun run.text

/-- The motions of the line are read: it has some, or an earlier line had. -/
def Moves (run : Timely e) : Prop :=
  run.noted.config.vim.enabled = true ∧ (run.noted.session.vimMode || run.noted.hasMotion run.text) = true

instance (run : Timely e) : Decidable run.Moves := inferInstanceAs (Decidable (_ ∧ _))

/-- A change leads to vim mode only if motions are read. -/
lemma moves_of_mode (run : Timely e) {suggestions : List Suggestion}
    (h : e.suggested run.text run.outcome = .ok suggestions)
    (hmode : run.state.engine.session.mode = .vim) : run.Moves := by
  obtain ⟨hcoherent, hawake⟩ := run.coherent_noted
  rcases run.noted.vim_or_plain run.text with hmoves | hplain
  · exact hmoves
  · obtain ⟨hcomposing, hsession⟩ := hcoherent.present_plain hawake hplain suggestions
    rw [(run.engine_state h).1, hsession] at hmode
    cases hcomposing.symm.trans hmode

section Vim

variable (run : Timely e) (hmoves : run.Moves) {suggestions : List Suggestion}
  (h : e.suggested run.text run.outcome = .ok suggestions)

include hmoves h

/-- **In vim mode a change that is answered in time turns the menu to the row of the motions.** -/
lemma turned {menu : List Suggestion} (hanswered : .answered run.call (.ok menu) ∈ run.seen) :
    let session := run.noted.session.moved suggestions.length (e.stripLead run.text).toList
    run.state.engine.session =
        session.complete menu ((menu.head?.map Suggestion.content).getD "") ∧
      e.look.Turned (.generate suggestions.length) session.position.y suggestions menu := by
  obtain ⟨hengine, hseen⟩ := run.engine_state h
  have hmenu : (run.noted.present run.text suggestions).result = .ok menu :=
    ((hseen _).mp hanswered).symm
  have hturned := turned_of_present hmoves.1 run.coherent_noted.1.session.keyed hmoves.2 hmenu
  rw [run.sameHost_noted.stripLead, run.sameHost_noted.look] at hturned
  rw [hengine]
  exact hturned

lemma mode_of_moves {menu : List Suggestion} (hanswered : .answered run.call (.ok menu) ∈ run.seen) :
    run.state.engine.session.mode = .vim := by
  rw [(run.turned hmoves h hanswered).1]
  rfl

/-- If the template takes every jump code, there is always a menu. -/
lemma exists_answered (hformats : e.look.Formats) :
    ∃ menu, .answered run.call (.ok menu) ∈ run.seen := by
  rw [← run.sameHost_noted.look] at hformats
  obtain ⟨menu, hmenu⟩ := exists_present hmoves.1 run.coherent_noted.1.session.keyed hmoves.2
    hformats suggestions
  exact ⟨menu, ((run.engine_state h).2 _).mpr hmenu.symm⟩

end Vim

end Timely

/-- The first change of a session. -/
def shelfRun (text : String) (outcome : Except Fault Provided) : Timely shelf where
  call := 0
  text := text
  outcome := outcome
  before := []
  between := []
  fresh := rfl
  lead := by simp [hasLead, lead, shelf]
  foreign := by decide
  newest := by decide

lemma shelf_command {text : String} (h : shelf.commandLine text = "list") :
    ∃ entry, (shelf.process text).command = some entry ∧ shelf.registry.isDefault entry = false ∧
      entry.provider.isSome = true ∧ entry.name = "list" := by
  have hcommand : (shelf.registry.resolve "list").command.any (fun entry =>
      !shelf.registry.isDefault entry && (entry.provider.isSome && entry.name == "list")) = true := by
    decide +kernel
  obtain ⟨entry, hentry, hall⟩ := (Option.any_eq_true _ _).mp hcommand
  simp only [Bool.and_eq_true, Bool.not_eq_true', beq_iff_eq] at hall
  rw [process, h]
  exact ⟨entry, hentry, hall⟩

lemma shelf_suggested {text : String} (h : shelf.commandLine text = "list")
    {outcome : Except Fault Provided} {items : List Suggestion} (hitems : concluded outcome = .ok items) :
    shelf.suggested text outcome = .ok (items.map (underPath (some "list"))) := by
  obtain ⟨entry, hcommand, hdefault, hprovider, hname⟩ := shelf_command h
  rw [suggested_of_provider hcommand hprovider, hitems, pathOf, hdefault, hname]
  rfl

end Engine

end CommandPalette
