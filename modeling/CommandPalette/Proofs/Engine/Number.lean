import CommandPalette.Proofs.Engine.Run
import Mathlib.Data.Nat.Basic
import Mathlib.Tactic.Lemma

/-!
# The number of a session

A session counts its changes and resets.  The count has one use: an answer to a change is taken in only
if the change has the current number.  Everything else an engine does is the same under any count, so
each operation commutes with `Engine.renumber`; `respond_renumber` and `settled_renumber` are the ones
for the two halves of a change.

* `Event.supersedes`: the events that move the count on.  `Live.sequence_step` says that they move it by
  one and that no other event moves it; `Live.sameHost_step`, that none changes more than the session.
* `Live.Numbered`: no call in flight has a number that is still to come.  It holds in every run,
  **`Live.numbered_after`**.
* **`Live.current_after_iff`**: a call in flight stays current exactly until an event supersedes it.
-/

namespace CommandPalette

open Command Motion

variable {α β : Type}

namespace Session

/-- A session under another number. -/
def renumber (s : Session) (n : ℕ) : Session := { s with sequence := n }

/-- A change leaves nothing of an earlier one but the number. -/
lemma beginChange_beginChange (s : Session) (first second : String) :
    (s.beginChange first).beginChange second = (s.beginChange second).renumber (s.sequence + 2) := by
  unfold beginChange renumber
  cases s.mode <;> rfl

/-- What is run on submission does not depend on a change that is still unanswered. -/
lemma submissionText_beginChange (s : Session) (text line : String) :
    (s.beginChange text).submissionText line = s.submissionText line := by
  unfold beginChange submissionText vimMode
  cases s.mode <;> rfl

lemma withKeymap_renumber (s : Session) (n : ℕ) (size : Int) :
    (s.renumber n).withKeymap size = ((s.withKeymap size).1.renumber n, (s.withKeymap size).2) := by
  have hkeymap : (s.renumber n).hasKeymap size = s.hasKeymap size := rfl
  unfold withKeymap
  rw [hkeymap]
  split <;> rfl

lemma enterVimMode_renumber (s : Session) (n : ℕ) :
    (s.renumber n).enterVimMode = (s.enterVimMode.1.renumber n, s.enterVimMode.2) := by
  have hmode : (s.renumber n).vimMode = s.vimMode := rfl
  unfold enterVimMode
  rw [hmode]
  split <;> rfl

lemma applyMotion_renumber (s : Session) (n : ℕ) (motion : Reading) :
    (s.renumber n).applyMotion motion =
      ((s.applyMotion motion).1.renumber n, (s.applyMotion motion).2) := by
  unfold applyMotion
  cases motion.isVimMode with
  | true => exact enterVimMode_renumber { s with chains := motion.chains, position := motion.position } n
  | false => rfl

end Session

namespace Engine

/-! ## An engine under another number -/

/-- An engine whose session has another number. -/
def renumber (e : Engine α β) (n : ℕ) : Engine α β := { e with session := e.session.renumber n }

/-- An answer whose engine has another number. -/
def Answer.renumber {ρ : Type} (answer : Answer α β ρ) (n : ℕ) : Answer α β ρ :=
  { answer with engine := answer.engine.renumber n }

/-- The first half of a change under another number. -/
def Change.renumber (n : ℕ) : Change α β → Change α β
  | .answered answer => .answered (answer.renumber n)
  | .asks e request lines => .asks (e.renumber n) { request with sequence := n } lines

lemma renumber_self (e : Engine α β) : e.renumber e.session.sequence = e := rfl

lemma Change.renumber_renumber (change : Change α β) (m n : ℕ) :
    (change.renumber m).renumber n = change.renumber n := by
  cases change <;> rfl

lemma begun_renumber (e : Engine α β) (n : ℕ) (text : String) :
    (e.renumber n).begun text = (e.begun text).renumber (n + 1) := rfl

lemma begun_begun (e : Engine α β) (first second : String) :
    (e.begun first).begun second = (e.begun second).renumber (e.session.sequence + 2) := by
  unfold begun renumber
  rw [Session.beginChange_beginChange]

lemma move_renumber (e : Engine α β) (n : ℕ) (text : String) (size : ℕ) :
    (e.renumber n).move text size = ((e.move text size).1.renumber n, (e.move text size).2) := by
  have hstrip : (e.renumber n).stripLead text = e.stripLead text := rfl
  have hmotion : (e.renumber n).hasMotion text = e.hasMotion text := rfl
  have hmode : (e.renumber n).session.vimMode = e.session.vimMode := rfl
  have hkeymap := e.session.withKeymap_renumber n size
  cases hvim : e.config.vim.enabled with
  | false =>
      have hvim' : (e.renumber n).config.vim.enabled = false := hvim
      simp only [move, hvim, hvim', Bool.not_false, if_true]
      rfl
  | true =>
      have hvim' : (e.renumber n).config.vim.enabled = true := hvim
      simp only [move, hvim, hvim', hstrip, hmotion, hmode, Bool.not_true, Bool.false_eq_true, if_false]
      cases e.session.vimMode || e.hasMotion text with
      | false =>
          simp only [Bool.false_eq_true, if_false]
          exact congrArg (fun p : Session × List Log.Entry => (p.1, [] ++ _ ++ p.2))
            (e.session.applyMotion_renumber n _)
      | true =>
          simp only [if_true]
          rw [show (e.renumber n).session.withKeymap size = _ from hkeymap]
          exact congrArg (fun p : Session × List Log.Entry =>
            (p.1, (e.session.withKeymap size).2 ++ _ ++ p.2))
            ((e.session.withKeymap size).1.applyMotion_renumber n _)

lemma present_renumber (e : Engine α β) (n : ℕ) (text : String) (suggestions : List Suggestion) :
    (e.renumber n).present text suggestions = (e.present text suggestions).renumber n := by
  have hlook : (e.renumber n).look = e.look := rfl
  unfold present
  rw [move_renumber, hlook]
  rcases e.move text suggestions.length with ⟨session, lines⟩
  have hrotate : arrange e.look (session.renumber n).vimMode (session.renumber n).keymap
      (session.renumber n).position.y suggestions =
        arrange e.look session.vimMode session.keymap session.position.y suggestions := rfl
  simp only [hrotate]
  cases arrange e.look session.vimMode session.keymap session.position.y suggestions <;> rfl

lemma report_renumber (e : Engine α β) (n : ℕ) (fault : Fault) :
    (e.renumber n).report fault = (e.report fault).renumber n := by
  have hcallback : (e.renumber n).onError = e.onError := rfl
  simp only [report, hcallback]
  cases e.onError with
  | none => rfl
  | some callback =>
      cases hraised : callback fault with
      | none => simp only [hraised]; rfl
      | some raised => cases hfailure : raised.isFailure <;> simp only [hraised, hfailure] <;> rfl

lemma reject_renumber (e : Engine α β) (n : ℕ) (text : String) (fault : Fault) :
    (e.renumber n).reject text fault = (e.reject text fault).renumber n := by
  have hmotion : (e.renumber n).hasMotion text = e.hasMotion text := rfl
  have hreport : ∀ session : Session,
      ({ e.renumber n with session := (session.renumber n).complete [] "" } : Engine α β).report fault =
        (({ e with session := session.complete [] "" } : Engine α β).report fault).renumber n :=
    fun session => report_renumber { e with session := session.complete [] "" } n fault
  unfold reject
  rw [hmotion]
  cases e.hasMotion text with
  | false =>
      simp only [Bool.false_eq_true, if_false]
      rw [show (e.renumber n).session = e.session.renumber n from rfl, hreport]
      rfl
  | true =>
      simp only [if_true]
      rw [show (e.renumber n).session = e.session.renumber n from rfl,
        Session.enterVimMode_renumber, hreport]
      rfl

/-- **The number of a session has no part in the second half of a change**, once it is known whether
the call is current. -/
lemma settled_renumber (e : Engine α β) (n : ℕ) (current : Bool) (text : String)
    (path : Option String) (outcome : Except Fault (List Suggestion)) :
    (e.renumber n).settled current text path outcome =
      (e.settled current text path outcome).renumber n := by
  cases outcome with
  | ok suggestions =>
      simp only [settled, present_renumber]
      cases current <;> rfl
  | error fault =>
      simp only [settled, reject_renumber]
      cases fault.isRejection <;> cases current <;> rfl

lemma shown_renumber (e : Engine α β) (n : ℕ) (text : String)
    (suggestions : Except Fault (List Suggestion)) :
    (e.renumber n).shown text suggestions = (e.shown text suggestions).renumber n := by
  cases suggestions with
  | error fault => rfl
  | ok suggestions =>
      simp only [shown, present_renumber]
      rfl

/-- **Nor in the first half**, where it is only handed on to the request. -/
lemma respond_renumber (e : Engine α β) (n : ℕ) (text : String) :
    (e.renumber n).respond text = (e.respond text).renumber n := by
  have hprocess : (e.renumber n).process text = e.process text := rfl
  simp only [respond, hprocess]
  cases (e.process text).command with
  | none => exact e.shown_renumber n text e.listing
  | some entry =>
      cases hprovider : entry.provider with
      | some provider => simp only [hprovider]; rfl
      | none =>
          simp only [hprovider]
          exact e.shown_renumber n text _

lemma submission_renumber (e : Engine α β) (n : ℕ) (text : String) (disposition : Option String) :
    (e.renumber n).submission text disposition = e.submission text disposition := rfl

/-- What is submitted does not depend on a change that is still unanswered. -/
lemma submission_begun (e : Engine α β) (first text : String) (disposition : Option String) :
    (e.begun first).submission text disposition = e.submission text disposition := by
  have hlead : (e.begun first).hasLead text = e.hasLead text := rfl
  have hsource : (e.begun first).session.submissionText text = e.session.submissionText text :=
    e.session.submissionText_beginChange first text
  unfold submission
  rw [hlead, hsource]
  rfl

/-! ## What an operation leaves alone -/

/-- The engine after the first half of a change. -/
def Change.engine : Change α β → Engine α β
  | .answered answer => answer.engine
  | .asks engine _ _ => engine

lemma Change.renumber_sequence (change : Change α β) (n : ℕ) :
    (change.renumber n).engine.session.sequence = n := by
  cases change <;> rfl

/-- What commutes with another number keeps its own. -/
lemma respond_sequence (e : Engine α β) (text : String) :
    (e.respond text).engine.session.sequence = e.session.sequence := by
  have h := e.respond_renumber e.session.sequence text
  rw [renumber_self] at h
  rw [h, Change.renumber_sequence]

lemma settled_sequence (e : Engine α β) (current : Bool) (text : String) (path : Option String)
    (outcome : Except Fault (List Suggestion)) :
    (e.settled current text path outcome).engine.session.sequence = e.session.sequence :=
  congrArg (fun answer => answer.engine.session.sequence)
    (e.settled_renumber e.session.sequence current text path outcome)

/-- Two engines that differ at most in their sessions. -/
structure SameHost (e e' : Engine α β) : Prop where
  config : e'.config = e.config
  registry : e'.registry = e.registry
  onError : e'.onError = e.onError

lemma SameHost.refl (e : Engine α β) : e.SameHost e := ⟨rfl, rfl, rfl⟩

lemma SameHost.eq {e e' : Engine α β} (h : e.SameHost e') : e' = { e with session := e'.session } := by
  cases e
  cases e'
  obtain ⟨rfl, rfl, rfl⟩ := h
  rfl

lemma SameHost.hasLead {e e' : Engine α β} (h : e.SameHost e') (text : String) :
    e'.hasLead text = e.hasLead text := by
  rw [h.eq]
  rfl

lemma SameHost.stripLead {e e' : Engine α β} (h : e.SameHost e') (text : String) :
    e'.stripLead text = e.stripLead text := by
  rw [h.eq]
  rfl

lemma SameHost.look {e e' : Engine α β} (h : e.SameHost e') : e'.look = e.look := by
  rw [h.eq]
  rfl

lemma SameHost.process {e e' : Engine α β} (h : e.SameHost e') (text : String) :
    e'.process text = e.process text := by
  rw [h.eq]
  rfl

lemma SameHost.trans {e e' e'' : Engine α β} (h : e.SameHost e') (h' : e'.SameHost e'') :
    e.SameHost e'' :=
  ⟨h'.config.trans h.config, h'.registry.trans h.registry, h'.onError.trans h.onError⟩

lemma present_sameHost (e : Engine α β) (text : String) (suggestions : List Suggestion) :
    e.SameHost (e.present text suggestions).engine := by
  unfold present
  split
  split <;> exact ⟨rfl, rfl, rfl⟩

lemma report_sameHost (e : Engine α β) (fault : Fault) : e.SameHost (e.report fault).engine := by
  simp only [report]
  split
  · exact ⟨rfl, rfl, rfl⟩
  · split
    · exact ⟨rfl, rfl, rfl⟩
    · split <;> exact ⟨rfl, rfl, rfl⟩

lemma reject_sameHost (e : Engine α β) (text : String) (fault : Fault) :
    e.SameHost (e.reject text fault).engine := by
  have hreport := report_sameHost { e with session := ((if e.hasMotion text then
    e.session.enterVimMode else (e.session, [])).1).complete [] "" } fault
  exact ⟨hreport.config, hreport.registry, hreport.onError⟩

lemma settled_sameHost (e : Engine α β) (current : Bool) (text : String) (path : Option String)
    (outcome : Except Fault (List Suggestion)) :
    e.SameHost (e.settled current text path outcome).engine := by
  cases outcome with
  | ok suggestions =>
      cases current with
      | true => exact e.present_sameHost text _
      | false => exact .refl e
  | error fault =>
      simp only [settled]
      cases fault.isRejection with
      | false => exact .refl e
      | true => cases current with
        | true => exact e.reject_sameHost text fault
        | false => exact .refl e

lemma shown_sameHost (e : Engine α β) (text : String)
    (suggestions : Except Fault (List Suggestion)) :
    e.SameHost (e.shown text suggestions).engine := by
  cases suggestions with
  | error fault => exact .refl e
  | ok suggestions => exact e.present_sameHost text suggestions

lemma respond_sameHost (e : Engine α β) (text : String) : e.SameHost (e.respond text).engine := by
  unfold respond
  split
  · exact e.shown_sameHost text _
  · split
    · exact ⟨rfl, rfl, rfl⟩
    · exact e.shown_sameHost text _

lemma shown_ne_asks {e engine : Engine α β} {text : String} {request : Request β} {lines : List Log.Entry}
    (suggestions : Except Fault (List Suggestion)) :
    e.shown text suggestions ≠ .asks engine request lines := by
  intro hshown
  cases suggestions <;> cases hshown

/-- A change that asks carries the number of the session. -/
lemma respond_asks {e engine : Engine α β} {text : String} {request : Request β}
    {lines : List Log.Entry} (h : e.respond text = .asks engine request lines) :
    engine = e ∧ request.sequence = e.session.sequence := by
  unfold respond at h
  split at h
  · exact absurd h (shown_ne_asks _)
  · split at h
    · cases h
      exact ⟨rfl, rfl⟩
    · exact absurd h (shown_ne_asks _)

/-! ## The number in a run -/

/-- Whether an event makes all earlier calls out of date. -/
def Event.supersedes (e : Engine α β) : Event α → Bool
  | change _ text => e.hasLead text
  | settle .. => false
  | enter .. => true
  | start => true
  | cancel => true

/-- The events that do not: lines that are no command lines, and the ends of calls. -/
lemma Event.eq_of_not_supersedes {e : Engine α β} {event : Event α}
    (h : event.supersedes e = false) :
    (∃ call text, event = .change call text ∧ e.hasLead text = false) ∨
      ∃ call outcome, event = .settle call outcome := by
  cases event with
  | change call text => exact .inl ⟨call, text, rfl, h⟩
  | settle call outcome => exact .inr ⟨call, outcome, rfl⟩
  | enter act text disposition => cases h
  | start => cases h
  | cancel => cases h

lemma Event.supersedes_congr {e e' : Engine α β} (h : e'.config = e.config) (event : Event α) :
    event.supersedes e' = event.supersedes e := by
  cases event with
  | change call text =>
      unfold supersedes hasLead lead
      rw [h]
  | _ => rfl

namespace Live

lemma step_change_engine (s : Live α β) (call : ℕ) (text : String) :
    (s.step (.change call text)).1.engine = (s.engine.change text).engine := by
  rw [step]
  cases s.engine.change text <;> rfl

/-- **No event changes more of an engine than its session.** -/
lemma sameHost_step (s : Live α β) (event : Event α) :
    s.engine.SameHost (s.step event).1.engine := by
  cases event with
  | change call text =>
      rw [step_change_engine]
      cases hlead : s.engine.hasLead text with
      | true =>
          rw [change_of_hasLead hlead]
          have hrespond := (s.engine.begun text).respond_sameHost text
          exact ⟨hrespond.config, hrespond.registry, hrespond.onError⟩
      | false =>
          rw [change_of_not_hasLead hlead]
          exact .refl _
  | settle call outcome =>
      cases hpending : s.pending call with
      | none =>
          rw [step_settle_none hpending]
          exact .refl _
      | some request =>
          rw [step_settle hpending]
          exact settled_sameHost _ _ _ _ _
  | enter act text disposition =>
      rw [step_enter]
      exact ⟨rfl, rfl, rfl⟩
  | start => exact ⟨rfl, rfl, rfl⟩
  | cancel => exact ⟨rfl, rfl, rfl⟩

/-- **An event moves the number on by one if it supersedes what came before, and else not at all.** -/
lemma sequence_step (s : Live α β) (event : Event α) :
    (s.step event).1.engine.session.sequence =
      s.engine.session.sequence + if event.supersedes s.engine = true then 1 else 0 := by
  cases event with
  | change call text =>
      rw [step_change_engine]
      cases hlead : s.engine.hasLead text with
      | true =>
          rw [change_of_hasLead hlead, respond_sequence, Event.supersedes, if_pos hlead]
          rfl
      | false =>
          rw [change_of_not_hasLead hlead, Event.supersedes, if_neg (by simp [hlead])]
          rfl
  | settle call outcome =>
      cases hpending : s.pending call with
      | none => rw [step_settle_none hpending]; rfl
      | some request =>
          rw [step_settle hpending]
          exact settled_sequence _ _ _ _ _
  | enter act text disposition => rw [step_enter]; rfl
  | start => rfl
  | cancel => rfl

lemma sameHost_after (s : Live α β) (events : List (Event α)) :
    s.engine.SameHost (s.after events).engine := by
  induction events generalizing s with
  | nil => exact .refl _
  | cons event rest ih => exact (s.sameHost_step event).trans (ih _)

lemma sequence_after (s : Live α β) (events : List (Event α)) :
    (s.after events).engine.session.sequence =
      s.engine.session.sequence + events.countP (·.supersedes s.engine) := by
  induction events generalizing s with
  | nil => rfl
  | cons event rest ih =>
      have hsame : rest.countP (·.supersedes (s.step event).1.engine) =
          rest.countP (·.supersedes s.engine) :=
        List.countP_congr fun later _ => by
          rw [Event.supersedes_congr (s.sameHost_step event).config]
      rw [after, ih, sequence_step, hsame, List.countP_cons]
      omega

lemma pending_after {events : List (Event α)} {call : ℕ}
    (h : ∀ event ∈ events, event.concerns call = false) (s : Live α β) :
    (s.after events).pending call = s.pending call := by
  induction events generalizing s with
  | nil => rfl
  | cons event rest ih =>
      rw [after, ih fun later hlater => h later (List.mem_cons_of_mem _ hlater),
        pending_step (h event List.mem_cons_self)]

/-- **A call in flight stays current exactly until an event supersedes it.** -/
theorem current_after_iff {s : Live α β} {call : ℕ} (hcurrent : s.Current call)
    {events : List (Event α)} (h : ∀ event ∈ events, event.concerns call = false) :
    (s.after events).Current call ↔ ∀ event ∈ events, event.supersedes s.engine = false := by
  obtain ⟨request, hrequest, hnumber⟩ := hcurrent
  have hcount : (s.after events).Current call ↔ events.countP (·.supersedes s.engine) = 0 := by
    unfold Current
    rw [pending_after h, hrequest, sequence_after, ← hnumber]
    constructor
    · rintro ⟨request', hrequest', hnumber'⟩
      cases hrequest'
      omega
    · intro hzero
      exact ⟨request, rfl, by omega⟩
  rw [hcount, List.countP_eq_zero]
  simp

/-- No call in flight has a number that is still to come. -/
def Numbered (s : Live α β) : Prop :=
  ∀ call request, s.pending call = some request → request.sequence ≤ s.engine.session.sequence

lemma numbered_live (e : Engine α β) : e.live.Numbered := by
  intro call request h
  cases h

lemma Numbered.step {s : Live α β} (h : s.Numbered) (event : Event α) :
    (s.step event).1.Numbered := by
  have hle : s.engine.session.sequence ≤ (s.step event).1.engine.session.sequence := by
    rw [sequence_step]
    exact Nat.le_add_right _ _
  intro call request hrequest
  by_cases hforeign : event.concerns call = false
  · rw [pending_step hforeign] at hrequest
    exact le_trans (h call request hrequest) hle
  · -- The event makes or ends the call itself.
    cases event with
    | change c text =>
        obtain rfl : c = call := by simpa [Event.concerns] using hforeign
        cases hlead : s.engine.hasLead text with
        | false =>
            rw [step_change_of_not_hasLead hlead] at hrequest ⊢
            exact h c request hrequest
        | true =>
            rw [step_change_of_hasLead hlead] at hrequest hle ⊢
            cases hrespond : (s.engine.begun text).respond text with
            | answered answer =>
                rw [hrespond] at hrequest hle
                exact le_trans (h c request hrequest) hle
            | asks engine asked lines =>
                rw [hrespond] at hrequest
                obtain ⟨hengine, hnumber⟩ := respond_asks hrespond
                obtain rfl : asked = request := by simpa [noted] using hrequest
                rw [noted, hengine, hnumber]
    | settle c outcome =>
        obtain rfl : c = call := by simpa [Event.concerns] using hforeign
        cases hpending : s.pending c with
        | none =>
            rw [step_settle_none hpending, hpending] at hrequest
            cases hrequest
        | some asked =>
            rw [step_settle hpending] at hrequest
            simp at hrequest
    | enter act text disposition => simp [Event.concerns] at hforeign
    | start => simp [Event.concerns] at hforeign
    | cancel => simp [Event.concerns] at hforeign

lemma Numbered.after {s : Live α β} (h : s.Numbered) (events : List (Event α)) :
    (s.after events).Numbered := by
  induction events generalizing s with
  | nil => exact h
  | cons event rest ih => exact ih (h.step event)

/-- **In a run, no call in flight has a number that is still to come.** -/
theorem numbered_after (e : Engine α β) (events : List (Event α)) :
    (e.live.after events).Numbered :=
  (numbered_live e).after events

/-- What supersedes leaves no other call current. -/
lemma not_current_of_supersedes {s : Live α β} (hs : s.Numbered) {event : Event α}
    (h : event.supersedes s.engine = true) {call : ℕ} (hforeign : event.concerns call = false) :
    ¬ (s.step event).1.Current call := by
  rintro ⟨request, hrequest, hnumber⟩
  rw [pending_step hforeign] at hrequest
  have hle := hs call request hrequest
  rw [sequence_step, if_pos h] at hnumber
  omega

/-- A call that ends makes no other one current. -/
lemma current_of_step_settle {s : Live α β} {c call : ℕ} {outcome : Except Fault Provided}
    (hcurrent : (s.step (.settle c outcome)).1.Current call) : s.Current call := by
  cases hpending : s.pending c with
  | none => rwa [step_settle_none hpending] at hcurrent
  | some asked =>
      obtain ⟨request, hrequest, hnumber⟩ := hcurrent
      rw [sequence_step] at hnumber
      rw [step_settle hpending] at hrequest
      by_cases hcall : call = c
      · rw [hcall] at hrequest
        cases (Function.update_self c none s.pending).symm.trans hrequest
      · exact ⟨request, (Function.update_of_ne hcall _ _).symm.trans hrequest, hnumber⟩

/-- A call that is out of date stays so, as long as it is not made again. -/
lemma not_current_step {s : Live α β} (hs : s.Numbered) {call : ℕ} (h : ¬ s.Current call)
    {event : Event α} (hforeign : event.concerns call = false) :
    ¬ (s.step event).1.Current call := by
  rintro ⟨request, hrequest, hnumber⟩
  rw [pending_step hforeign] at hrequest
  have hle := hs call request hrequest
  have hne : request.sequence ≠ s.engine.session.sequence := fun heq => h ⟨request, hrequest, heq⟩
  -- The number of the session never comes back to one below it.
  rw [sequence_step] at hnumber
  split at hnumber <;> omega

end Live

end Engine

end CommandPalette
