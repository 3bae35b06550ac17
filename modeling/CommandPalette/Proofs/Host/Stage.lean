import CommandPalette.Host.Stage
import CommandPalette.Proofs.Engine.Run
import Mathlib.Data.List.Nodup
import Mathlib.Tactic.Lemma

/-!
# The stage plays runs of the engine

An act of the stage may be several events: a change whose provider replies at once is followed by its
answer, and opening gates lets the changes that wait there end one after the other.  What the stage
does beside this is to keep the gates and the scripts.

* `Stage.live`: the engine of a stage, with the changes that wait as its calls in flight.
* `Stage.eventsOf`, `seen`: the events that an act is, and what the callbacks see of an effect.
* `Stage.perform_plays`: an act leads to the state to which its events lead, and the callbacks see
  what these show them.
* **`Stage.performAll_eq_run`**: so a stage that plays any list of acts plays a run.
-/

namespace CommandPalette.Host

open Engine (Live)

/-- What the host's callbacks see of an effect.  (What a call returns is no event of theirs.) -/
def seen : Engine.Effect (Scripted Action) (Scripted Provider) → Option Event
  | .asked _ provider args => some (.asked provider.place args)
  | .told fault => some (.told fault)
  | .ran action args => some (.ran action.place args)
  | .answered .. => none
  | .entered _ => none

/-- The end of a change that waits. -/
def Waiting.settled (w : Waiting) : Engine.Event (Scripted Action) := .settle w.index w.outcome

lemma filterMap_seen_effects
    (answer : Engine.Answer (Scripted Action) (Scripted Provider) (Except Fault (List Suggestion)))
    (call : ℕ) : (answer.effects call).filterMap seen = answer.reported.map .told := by
  have htold : ∀ faults : List Fault,
      (faults.map Engine.Effect.told).filterMap seen = faults.map Event.told := by
    intro faults
    rw [List.filterMap_map, ← List.filterMap_eq_map]
    rfl
  rw [Engine.Answer.effects, List.filterMap_append, htold]
  exact List.append_nil _

namespace Stage

/-- The engine of a stage, with the changes that wait as its calls in flight. -/
def live (s : Stage) : Live (Scripted Action) (Scripted Provider) where
  engine := s.engine
  pending call := (s.waiting.find? (·.index == call)).map (·.request)

/-- The changes that wait at some of these gates, gate by gate. -/
def freed (s : Stage) (gates : List String) : List Waiting :=
  gates.eraseDups.flatMap fun gate => s.waiting.filter (·.gate == gate)

/-- The events that an act is. -/
def eventsOf (s : Stage) (index : ℕ) : Act → List (Engine.Event (Scripted Action))
  | .change text => .change index text :: match s.engine.change text with
    | .answered _ => []
    | .asks _ request _ =>
      let (gate, outcome, _) := ask s.calls request.provider request.args
      if gate.all s.opened.contains then [.settle index outcome] else []
  | .release gates => (s.freed gates).map Waiting.settled
  | .enter text disposition => [.enter (fun action _ => action.script.run) text disposition]
  | .start => [.start]
  | .cancel => [.cancel]
  | .process _ => []
  | .stripLead _ => []
  | .register _ => []

/-- The changes that wait have numbers of their own, all of earlier acts. -/
structure Orderly (s : Stage) (index : ℕ) : Prop where
  nodup : (s.waiting.map Waiting.index).Nodup
  lt : ∀ w ∈ s.waiting, w.index < index

/-! ## The changes that wait -/

lemma find?_index {waiting : List Waiting} (h : (waiting.map Waiting.index).Nodup) {w : Waiting}
    (hw : w ∈ waiting) : waiting.find? (·.index == w.index) = some w := by
  cases hfind : waiting.find? (·.index == w.index) with
  | none => exact absurd (List.find?_eq_none.mp hfind w hw) (by simp)
  | some found =>
      have hmem := List.mem_of_find?_eq_some hfind
      have hindex : found.index = w.index := by simpa using List.find?_some hfind
      rw [List.inj_on_of_nodup_map h hmem hw hindex]

lemma mem_freed {s : Stage} {gates : List String} {w : Waiting} :
    w ∈ s.freed gates ↔ w ∈ s.waiting ∧ w.gate ∈ gates := by
  simp only [freed, List.mem_flatMap, List.mem_eraseDups, List.mem_filter, beq_iff_eq]
  constructor
  · rintro ⟨gate, hgate, hw, rfl⟩
    exact ⟨hw, hgate⟩
  · rintro ⟨hw, hgate⟩
    exact ⟨w.gate, hgate, hw, rfl⟩

lemma nodup_eraseDups : ∀ gates : List String, gates.eraseDups.Nodup
  | [] => by simp
  | gate :: rest => by
      rw [List.eraseDups_cons, List.nodup_cons]
      refine ⟨?_, nodup_eraseDups _⟩
      rw [List.mem_eraseDups, List.mem_filter]
      simp
termination_by gates => gates.length
decreasing_by
  have hle := List.length_filter_le (fun other => !other == gate) rest
  rw [List.length_cons]
  omega

lemma nodup_freed {s : Stage} (h : (s.waiting.map Waiting.index).Nodup) (gates : List String) :
    ((s.freed gates).map Waiting.index).Nodup := by
  rw [freed, List.map_flatMap, List.nodup_flatMap]
  constructor
  · intro gate _
    exact h.sublist (List.filter_sublist.map _)
  · refine (nodup_eraseDups gates).imp fun {gate gate'} hne => ?_
    intro index hindex hindex'
    obtain ⟨w, hw, rfl⟩ := List.mem_map.mp hindex
    obtain ⟨w', hw', heq⟩ := List.mem_map.mp hindex'
    rw [List.mem_filter, beq_iff_eq] at hw hw'
    obtain rfl : w' = w := List.inj_on_of_nodup_map h hw'.1 hw.1 heq
    exact hne (hw.2.symm.trans hw'.2)

/-! ## Acts as runs -/

/-- A change that ends is an event of the engine. -/
lemma step_settle {s : Stage} {l : Live (Scripted Action) (Scripted Provider)}
    (hengine : l.engine = s.engine) {call : ℕ} {request : Engine.Request (Scripted Provider)}
    (hpending : l.pending call = some request) (outcome : Except Fault Provided) :
    (l.step (.settle call outcome)).1 =
        ⟨(s.settle request outcome).1.engine, Function.update l.pending call none⟩ ∧
      (l.step (.settle call outcome)).2.filterMap seen = (s.settle request outcome).2.events := by
  simp only [Live.step, hpending, hengine]
  exact ⟨rfl, filterMap_seen_effects _ call⟩

/-- Changes that end one after the other. -/
lemma after_settled {s : Stage} {l : Live (Scripted Action) (Scripted Provider)}
    (hengine : l.engine = s.engine) {freed : List Waiting}
    (hpending : ∀ w ∈ freed, l.pending w.index = some w.request)
    (hnodup : (freed.map Waiting.index).Nodup) :
    (l.after (freed.map Waiting.settled)).engine = (s.settleAll freed).1.engine ∧
      (∀ call, (l.after (freed.map Waiting.settled)).pending call =
        if call ∈ freed.map Waiting.index then none else l.pending call) ∧
      (l.trace (freed.map Waiting.settled)).filterMap seen = (s.settleAll freed).2.events ∧
      (s.settleAll freed).1.waiting = s.waiting := by
  induction freed generalizing s l with
  | nil => exact ⟨hengine, fun call => by simp [Live.after], rfl, rfl⟩
  | cons w rest ih =>
      obtain ⟨hfirst, hnodup⟩ := List.nodup_cons.mp hnodup
      obtain ⟨hstep, hseen⟩ := step_settle hengine (hpending w List.mem_cons_self) w.outcome
      have hrest : ∀ w' ∈ rest,
          (l.step (.settle w.index w.outcome)).1.pending w'.index = some w'.request := by
        intro w' hw'
        have hne : w'.index ≠ w.index := fun heq => hfirst (heq ▸ List.mem_map_of_mem hw')
        rw [hstep, ← hpending w' (List.mem_cons_of_mem _ hw')]
        exact Function.update_of_ne hne _ _
      obtain ⟨hengine', hpending', hseen', hwaiting⟩ :=
        ih (s := (s.settle w.request w.outcome).1) (by rw [hstep]) hrest hnodup
      refine ⟨hengine', ?_, ?_, hwaiting⟩
      · intro call
        rw [List.map_cons, Live.after, Waiting.settled, hpending' call, hstep, List.map_cons]
        by_cases hcall : call = w.index
        · subst hcall
          simp
        · simp [hcall]
      · rw [List.map_cons, Live.trace, List.filterMap_append, Waiting.settled, hseen, hseen']
        rfl

/-- What is said of an act: its events lead to the same state, the callbacks see the same, and the
changes that wait keep their numbers apart. -/
structure Plays (s : Stage) (index : ℕ) (act : Act) : Prop where
  live : (s.perform index act).1.live = s.live.after (s.eventsOf index act)
  events : (s.perform index act).2.events =
    (s.live.trace (s.eventsOf index act)).filterMap seen
  orderly : (s.perform index act).1.Orderly (index + 1)

lemma Orderly.succ {s s' : Stage} {index : ℕ} (h : s.Orderly index)
    (hsub : s'.waiting.Sublist s.waiting) : s'.Orderly (index + 1) where
  nodup := h.nodup.sublist (hsub.map _)
  lt w hw := Nat.lt_succ_of_lt (h.lt w (hsub.subset hw))

/-- The number of an act is not yet in use. -/
lemma Orderly.pending_eq_none {s : Stage} {index : ℕ} (h : s.Orderly index) :
    s.live.pending index = none := by
  have hnone : s.waiting.find? (·.index == index) = none := by
    refine List.find?_eq_none.mpr fun w hw => ?_
    have hlt := h.lt w hw
    simp only [beq_iff_eq]
    omega
  show (s.waiting.find? (·.index == index)).map _ = none
  rw [hnone, Option.map_none]

lemma change_plays_of_answered {s : Stage} {index : ℕ} (h : s.Orderly index) {text : String}
    {answer : Engine.Answer (Scripted Action) (Scripted Provider) (Except Fault (List Suggestion))}
    (hchange : s.engine.change text = .answered answer) : s.Plays index (.change text) := by
  have hstep : s.live.step (.change index text) =
      (⟨answer.engine, s.live.pending⟩, answer.effects index) := by
    rw [Live.step, show s.live.engine = s.engine from rfl, hchange, Live.noted]
  have hperform : s.perform index (.change text) = ({ s with engine := answer.engine },
      { result := .ofAnswer answer.result
        events := answer.reported.map .told
        lines := answer.lines }) := by
    rw [perform, change, hchange]
  have hevents : s.eventsOf index (.change text) = [.change index text] := by
    rw [eventsOf, hchange]
  refine ⟨?_, ?_, ?_⟩
  · rw [hperform, hevents, Live.after, Live.after, hstep]
    rfl
  · rw [hperform, hevents, Live.trace, Live.trace, hstep, List.append_nil]
    exact (filterMap_seen_effects answer index).symm
  · rw [hperform]
    exact h.succ (.refl _)

section Asked

variable {s : Stage} {index : ℕ} {text : String}
  {engine : Engine (Scripted Action) (Scripted Provider)}
  {request : Engine.Request (Scripted Provider)} {lines : List Log.Entry}
  {gate : Option String} {outcome : Except Fault Provided} {calls : Calls}

lemma step_asks (hchange : s.engine.change text = .asks engine request lines) :
    s.live.step (.change index text) =
      (⟨engine, Function.update s.live.pending index (some request)⟩,
        [.asked index request.provider request.args]) := by
  rw [Live.step, show s.live.engine = s.engine from rfl, hchange, Live.noted]

/-- A change whose provider replies at once. -/
lemma change_plays_of_open (h : s.Orderly index)
    (hchange : s.engine.change text = .asks engine request lines)
    (hask : ask s.calls request.provider request.args = (gate, outcome, calls))
    (hopen : gate.all s.opened.contains = true) : s.Plays index (.change text) := by
  have hperform : s.perform index (.change text) =
      ((({ s with engine, calls }).settle request outcome).1,
        { (({ s with engine, calls }).settle request outcome).2 with
          events := .asked request.provider.place request.args ::
            (({ s with engine, calls }).settle request outcome).2.events
          lines := lines ++ (({ s with engine, calls }).settle request outcome).2.lines }) := by
    rw [perform, change, hchange]
    simp only [hask]
    cases gate with
    | none => rfl
    | some gate => exact if_pos hopen
  have hevents : s.eventsOf index (.change text) =
      [.change index text, .settle index outcome] := by
    rw [eventsOf, hchange]
    simp only [hask, hopen, if_true]
  have hasked : s.live.step (.change index text) = _ := step_asks hchange
  obtain ⟨hstep, hseen⟩ := step_settle (s := { s with engine, calls })
    (l := (s.live.step (.change index text)).1) (by rw [hasked])
    (by rw [hasked]; exact Function.update_self _ _ _) outcome
  refine ⟨?_, ?_, ?_⟩
  · rw [hperform, hevents, Live.after, Live.after, Live.after, hstep, hasked]
    ext1
    · rfl
    · -- The call was in flight for a moment only.
      show s.live.pending = Function.update (Function.update s.live.pending index _) index none
      rw [Function.update_idem, ← h.pending_eq_none, Function.update_eq_self]
  · rw [hperform, hevents, Live.trace, Live.trace, Live.trace, List.append_nil,
      List.filterMap_append, hseen, hasked]
    rfl
  · rw [hperform]
    exact h.succ (.refl _)

/-- A change whose provider waits at a closed gate. -/
lemma change_plays_of_closed (h : s.Orderly index)
    (hchange : s.engine.change text = .asks engine request lines)
    (hask : ask s.calls request.provider request.args = (gate, outcome, calls))
    (hclosed : gate.all s.opened.contains = false) : s.Plays index (.change text) := by
  obtain ⟨name, rfl⟩ : ∃ name, gate = some name := by
    cases gate with
    | none => cases hclosed
    | some name => exact ⟨name, rfl⟩
  have hperform : s.perform index (.change text) =
      ({ s with engine, calls, waiting := s.waiting ++ [⟨index, name, request, outcome⟩] },
        { result := .waits index, events := [.asked request.provider.place request.args], lines }) := by
    rw [perform, change, hchange]
    simp only [hask]
    exact if_neg (by simpa using hclosed)
  have hevents : s.eventsOf index (.change text) = [.change index text] := by
    rw [eventsOf, hchange]
    simp only [hask, hclosed, Bool.false_eq_true, if_false]
  refine ⟨?_, ?_, ?_⟩
  · rw [hperform, hevents, Live.after, Live.after, step_asks hchange]
    ext1
    · rfl
    · funext call
      let w : Waiting := ⟨index, name, request, outcome⟩
      show ((s.waiting ++ [w]).find? (·.index == call)).map Waiting.request =
        Function.update s.live.pending index (some request) call
      rw [List.find?_append, Option.map_or]
      by_cases hcall : call = index
      · subst hcall
        rw [Function.update_self, show (s.waiting.find? _).map _ = _ from h.pending_eq_none]
        simp [w]
      · rw [Function.update_of_ne hcall,
          List.find?_cons_of_neg (by simpa [w] using Ne.symm hcall)]
        exact Option.or_none
  · rw [hperform, hevents, Live.trace, Live.trace, step_asks hchange]
    rfl
  · rw [hperform]
    constructor
    · rw [List.map_append, List.map_singleton, List.nodup_append]
      refine ⟨h.nodup, List.nodup_singleton _, ?_⟩
      intro earlier hearlier later hlater
      obtain ⟨w, hw, rfl⟩ := List.mem_map.mp hearlier
      rw [List.mem_singleton.mp hlater]
      exact Nat.ne_of_lt (h.lt w hw)
    · intro w hw
      rcases List.mem_append.mp hw with hw | hw
      · exact Nat.lt_succ_of_lt (h.lt w hw)
      · rw [List.mem_singleton.mp hw]
        exact Nat.lt_succ_self index

end Asked

lemma change_plays {s : Stage} {index : ℕ} (h : s.Orderly index) (text : String) :
    s.Plays index (.change text) := by
  cases hchange : s.engine.change text with
  | answered answer => exact change_plays_of_answered h hchange
  | asks engine request lines =>
      rcases hask : ask s.calls request.provider request.args with ⟨gate, outcome, calls⟩
      cases hopen : gate.all s.opened.contains with
      | true => exact change_plays_of_open h hchange hask hopen
      | false => exact change_plays_of_closed h hchange hask hopen

/-- Opening gates ends the changes that wait there, and no others. -/
lemma find?_kept {s : Stage} (h : (s.waiting.map Waiting.index).Nodup) (gates : List String)
    (call : ℕ) :
    ((s.waiting.filter fun w => !gates.contains w.gate).find? (·.index == call)).map
        Waiting.request =
      if call ∈ (s.freed gates).map Waiting.index then none else s.live.pending call := by
  have hsub : (s.waiting.filter fun w => !gates.contains w.gate).Sublist s.waiting :=
    List.filter_sublist
  split
  next hfreed =>
    obtain ⟨w, hw, rfl⟩ := List.mem_map.mp hfreed
    obtain ⟨hw, hgate⟩ := mem_freed.mp hw
    have hnone : (s.waiting.filter fun w => !gates.contains w.gate).find?
        (·.index == w.index) = none := by
      refine List.find?_eq_none.mpr fun w' hw' heq => ?_
      obtain rfl : w' = w :=
        List.inj_on_of_nodup_map h (hsub.subset hw') hw (by simpa using heq)
      simp [hgate] at hw'
    rw [hnone, Option.map_none]
  next hkept =>
    show _ = (s.waiting.find? (·.index == call)).map Waiting.request
    cases hfind : s.waiting.find? (·.index == call) with
    | none =>
        rw [List.find?_eq_none.mpr fun w hw => List.find?_eq_none.mp hfind w (hsub.subset hw)]
    | some w =>
        have hw := List.mem_of_find?_eq_some hfind
        obtain rfl : w.index = call := by simpa using List.find?_some hfind
        have hgate : w.gate ∉ gates := fun hgate =>
          hkept (List.mem_map_of_mem (mem_freed.mpr ⟨hw, hgate⟩))
        rw [find?_index (h.sublist (hsub.map _)) (by simp [hw, hgate])]

lemma release_plays {s : Stage} {index : ℕ} (h : s.Orderly index) (gates : List String) :
    s.Plays index (.release gates) := by
  have hpending : ∀ w ∈ s.freed gates, s.live.pending w.index = some w.request := by
    intro w hw
    show (s.waiting.find? (·.index == w.index)).map Waiting.request = some w.request
    rw [find?_index h.nodup (mem_freed.mp hw).1, Option.map_some]
  have hperform : s.perform index (.release gates) =
      ({ s with
        opened := s.opened ++ gates
        waiting := s.waiting.filter fun w => !gates.contains w.gate }).settleAll (s.freed gates) :=
    rfl
  obtain ⟨hengine, hafter, hseen, hwaiting⟩ := after_settled (s := { s with
    opened := s.opened ++ gates
    waiting := s.waiting.filter fun w => !gates.contains w.gate }) (l := s.live) rfl hpending
    (nodup_freed h.nodup gates)
  refine ⟨?_, ?_, ?_⟩
  · rw [hperform, eventsOf]
    ext1
    · exact hengine.symm
    · funext call
      rw [hafter call, ← find?_kept h.nodup gates call]
      show (List.find? _ (settleAll _ _).1.waiting).map Waiting.request = _
      rw [hwaiting]
  · rw [hperform, eventsOf, hseen]
  · refine h.succ ?_
    rw [hperform, hwaiting]
    exact List.filter_sublist

lemma enter_plays {s : Stage} {index : ℕ} (h : s.Orderly index) (text : String)
    (disposition : Option String) : s.Plays index (.enter text disposition) := by
  refine ⟨rfl, ?_, h.succ (.refl _)⟩
  have hruns : ∀ runs : List (Scripted Action × List String),
      runs.map (fun run => Event.ran run.1.place run.2)
        = (runs.map fun run => Engine.Effect.ran run.1 run.2).filterMap seen := by
    intro runs
    rw [List.filterMap_map, ← List.filterMap_eq_map]
    rfl
  rw [eventsOf, Live.trace, Live.trace, List.append_nil, Live.step_enter, Engine.Answer.submitted,
    List.filterMap_append, ← hruns]
  exact (List.append_nil _).symm

/-- **An act of the stage is a run of the engine.** -/
theorem perform_plays {s : Stage} {index : ℕ} (h : s.Orderly index) {act : Act}
    (hact : ∀ commands, act ≠ .register commands) : s.Plays index act := by
  cases act with
  | change text => exact change_plays h text
  | release gates => exact release_plays h gates
  | enter text disposition => exact enter_plays h text disposition
  | start => exact ⟨rfl, rfl, h.succ (.refl _)⟩
  | cancel => exact ⟨rfl, rfl, h.succ (.refl _)⟩
  | process text => exact ⟨rfl, rfl, h.succ (.refl _)⟩
  | stripLead text => exact ⟨rfl, rfl, h.succ (.refl _)⟩
  | register commands => exact absurd rfl (hact commands)

/-- Acts one after the other: the stage afterwards, and what the callbacks saw. -/
def performAll (s : Stage) (index : ℕ) : List Act → Stage × List Event
  | [] => (s, [])
  | act :: rest =>
    let (next, first) := s.perform index act
    let (last, later) := next.performAll (index + 1) rest
    (last, first.events ++ later)

/-- **What a stage plays is a run of the engine**, as long as no commands are registered. -/
theorem performAll_eq_run {s : Stage} {index : ℕ} (h : s.Orderly index) {acts : List Act}
    (hacts : ∀ act ∈ acts, ∀ commands, act ≠ .register commands) :
    ∃ events, (s.performAll index acts).1.live = s.live.after events ∧
      (s.performAll index acts).2 = (s.live.trace events).filterMap seen := by
  induction acts generalizing s index with
  | nil => exact ⟨[], rfl, rfl⟩
  | cons act rest ih =>
      have hplays := perform_plays h (hacts act List.mem_cons_self)
      obtain ⟨events, hlive, hseen⟩ :=
        ih hplays.orderly fun later hlater => hacts later (List.mem_cons_of_mem _ hlater)
      refine ⟨s.eventsOf index act ++ events, ?_, ?_⟩
      · rw [Live.after_append, ← hplays.live, ← hlive]
        rfl
      · rw [Live.trace_append, List.filterMap_append, ← hplays.live, ← hplays.events, ← hseen]
        rfl

end Stage

end CommandPalette.Host
