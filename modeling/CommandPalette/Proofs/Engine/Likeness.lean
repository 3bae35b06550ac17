import CommandPalette.Proofs.Engine.Number
import Mathlib.Data.Nat.Basic
import Mathlib.Tactic.Lemma
import Mathlib.Tactic.Set

/-!
# Runs that are alike

Two runs may be in states that differ in no more than numbers, while the first of them still has calls
in flight of which the second knows nothing.  As long as these calls are out of date, nobody can tell
the runs apart by anything else.

**An event that supersedes what came before** forgets the number of the session: `superseding` is such
an event as the change or reset with a given number.

**`Like`**: the relation between the two states.  What is current in one of them is current in the other
(`Twins`), so both take in, discard and pass on the same answers.

* `Like.step`: one event that belongs to none of the calls that are gone.
* `Like.settle_gone`: the end of one that is gone, in the first run alone.
* **`Like.run`**: whole runs, where the second run is the first one without the calls that are gone.
-/

namespace CommandPalette

open Command Motion

variable {α β : Type}

namespace Engine

/-! ## What supersedes -/

/-- An event that supersedes what came before, as the change or reset with the given number.  (The end
of a call is no such event.) -/
def superseding (e : Engine α β) (pending : ℕ → Option (Request β)) (n : ℕ) :
    Event α → Live α β × List (Effect α β)
  | .change call text => Live.noted pending call (((e.begun text).respond text).renumber n)
  | .enter act text disposition =>
    (⟨e.ended.renumber n, pending⟩, (e.enter act text disposition).submitted)
  | _ => (⟨e.ended.renumber n, pending⟩, [])

lemma step_of_supersedes {s : Live α β} {event : Event α}
    (h : event.supersedes s.engine = true) :
    s.step event = s.engine.superseding s.pending (s.engine.session.sequence + 1) event := by
  cases event with
  | change call text =>
      rw [Live.step_change_of_hasLead h, superseding]
      exact congrArg _ ((s.engine.begun text).respond_renumber _ text)
  | settle call outcome => cases h
  | enter act text disposition => exact s.step_enter act text disposition
  | start => rfl
  | cancel => rfl

lemma superseding_renumber (e : Engine α β) (k : ℕ) (pending : ℕ → Option (Request β)) (n : ℕ)
    (event : Event α) : (e.renumber k).superseding pending n event = e.superseding pending n event := by
  cases event with
  | change call text =>
      rw [superseding, superseding, begun_renumber, respond_renumber, Change.renumber_renumber]
  | enter act text disposition =>
      have hseen := enter_submitted_congr (congrArg Prod.fst (e.submission_renumber k text disposition)) act
      rw [superseding, superseding, hseen]
      rfl
  | settle call outcome => rfl
  | start => rfl
  | cancel => rfl

/-! ## States that are alike -/

/-- The same request or none, but for its number; under `m` and `n` it is current in both places or
in neither. -/
def Twins (m n : ℕ) (r r' : Option (Request β)) : Prop :=
  (r = none ∧ r' = none) ∨ ∃ request k, r = some request ∧
    r' = some { request with sequence := k } ∧ (request.sequence = m ↔ k = n)

/-- Two states that differ only in numbers, and in calls that are out of date in the first one and
unknown in the second. -/
structure Like (gone : ℕ → Prop) (full less : Live α β) : Prop where
  engine : less.engine = full.engine.renumber less.engine.session.sequence
  pending : ∀ call, ¬ gone call →
    Twins full.engine.session.sequence less.engine.session.sequence
      (full.pending call) (less.pending call)
  unknown : ∀ call, gone call → less.pending call = none
  stale : ∀ call, gone call → ¬ full.Current call

lemma twins_of_stale {m n k : ℕ} {request : Request β} (hm : request.sequence < m) (hn : k < n) :
    Twins m n (some request) (some { request with sequence := k }) :=
  .inr ⟨request, k, rfl, rfl,
    ⟨fun h => absurd h (Nat.ne_of_lt hm), fun h => absurd h (Nat.ne_of_lt hn)⟩⟩

section Superseded

variable {gone : ℕ → Prop} {m n : ℕ} {pending pending' : ℕ → Option (Request β)}

lemma twins_update (hpending : ∀ call, ¬ gone call → Twins m n (pending call) (pending' call))
    {c : ℕ} {r r' : Option (Request β)} (h : Twins m n r r') :
    ∀ call, ¬ gone call →
      Twins m n (Function.update pending c r call) (Function.update pending' c r' call) := by
  intro call hcall
  by_cases hc : call = c
  · subst hc
    rw [Function.update_self, Function.update_self]
    exact h
  · rw [Function.update_of_ne hc, Function.update_of_ne hc]
    exact hpending call hcall

/-- One engine under two numbers, with requests that are alike. -/
lemma like_renumber (e : Engine α β)
    (hpending : ∀ call, ¬ gone call → Twins m n (pending call) (pending' call))
    (hunknown : ∀ call, gone call → pending' call = none)
    (hstale : ∀ call, gone call → ∀ r, pending call = some r → r.sequence ≠ m) :
    Like gone ⟨e.renumber m, pending⟩ ⟨e.renumber n, pending'⟩ where
  engine := rfl
  pending := hpending
  unknown := hunknown
  stale := by
    rintro call hcall ⟨request, hrequest, hnumber⟩
    exact hstale call hcall request hrequest hnumber

/-- After a superseding event two runs are alike, and they saw the same of it. -/
lemma like_superseding (e : Engine α β)
    (hpending : ∀ call, ¬ gone call → Twins m n (pending call) (pending' call))
    (hunknown : ∀ call, gone call → pending' call = none)
    (hstale : ∀ call, gone call → ∀ r, pending call = some r → r.sequence ≠ m)
    {event : Event α} (hforeign : ∀ call, gone call → event.concerns call = false) :
    (e.superseding pending m event).2 = (e.superseding pending' n event).2 ∧
      Like gone (e.superseding pending m event).1 (e.superseding pending' n event).1 := by
  cases event with
  | change c text =>
      have hne : ∀ call, gone call → call ≠ c := by
        rintro call hcall rfl
        simpa [Event.concerns] using hforeign call hcall
      rw [superseding, superseding]
      cases (e.begun text).respond text with
      | answered answer => exact ⟨rfl, like_renumber answer.engine hpending hunknown hstale⟩
      | asks engine request lines =>
          refine ⟨rfl, like_renumber engine ?_ ?_ ?_⟩
          · exact twins_update hpending (.inr ⟨_, n, rfl, rfl, ⟨fun _ => rfl, fun _ => rfl⟩⟩)
          · intro call hcall
            rw [Function.update_of_ne (hne call hcall), hunknown call hcall]
          · intro call hcall
            rw [Function.update_of_ne (hne call hcall)]
            exact hstale call hcall
  | enter act text disposition => exact ⟨rfl, like_renumber e.ended hpending hunknown hstale⟩
  | settle c outcome => exact ⟨rfl, like_renumber e.ended hpending hunknown hstale⟩
  | start => exact ⟨rfl, like_renumber e.ended hpending hunknown hstale⟩
  | cancel => exact ⟨rfl, like_renumber e.ended hpending hunknown hstale⟩

end Superseded

/-! ## One event -/

section Step

variable {gone : ℕ → Prop} {full less : Live α β}

/-- Two runs that are alike take in, discard and pass on the same answers. -/
lemma Like.step_settle (h : Like gone full less) (hfull : full.Numbered) {c : ℕ} (hc : ¬ gone c)
    (outcome : Except Fault Provided) :
    (full.step (.settle c outcome)).2 = (less.step (.settle c outcome)).2 ∧
      Like gone (full.step (.settle c outcome)).1 (less.step (.settle c outcome)).1 := by
  have hne : ∀ call, gone call → call ≠ c := fun call hcall heq => hc (heq ▸ hcall)
  have hstale : ∀ call, gone call → ¬ (full.step (.settle c outcome)).1.Current call :=
    fun call hcall => Live.not_current_step hfull (h.stale call hcall)
      (by simpa [Event.concerns] using (hne call hcall).symm)
  rcases h.pending c hc with ⟨hr, hr'⟩ | ⟨request, k, hr, hr', hiff⟩
  · rw [Live.step_settle_none hr, Live.step_settle_none hr']
    exact ⟨rfl, h⟩
  · -- Current in one run means current in the other, so the same half of `settled` is taken.
    have hcurrent : decide (k = less.engine.session.sequence) =
        decide (request.sequence = full.engine.session.sequence) :=
      decide_eq_decide.mpr hiff.symm
    rw [Live.step_settle hr] at hstale ⊢
    rw [Live.step_settle hr']
    dsimp only at hstale ⊢
    rw [hcurrent]
    set answer := full.engine.settled (decide (request.sequence = full.engine.session.sequence))
      request.text request.path (concluded outcome) with hanswer
    have hanswer' : less.engine.settled (decide (request.sequence = full.engine.session.sequence))
        request.text request.path (concluded outcome) =
          answer.renumber less.engine.session.sequence := by
      rw [hanswer, ← settled_renumber, ← h.engine]
    have hnumber : answer.engine.session.sequence = full.engine.session.sequence :=
      full.engine.settled_sequence _ _ _ _
    rw [hanswer']
    refine ⟨rfl, rfl, ?_, ?_, hstale⟩
    · show ∀ call, ¬ gone call → Twins answer.engine.session.sequence
        less.engine.session.sequence _ _
      rw [hnumber]
      exact twins_update h.pending (.inl ⟨rfl, rfl⟩)
    · intro call hcall
      show Function.update less.pending c none call = none
      rw [Function.update_of_ne (hne call hcall), h.unknown call hcall]

/-- **Runs that are alike stay so**, and nobody sees a difference. -/
lemma Like.step (h : Like gone full less) (hfull : full.Numbered) (hless : less.Numbered)
    {event : Event α} (hforeign : ∀ call, gone call → event.concerns call = false) :
    (full.step event).2 = (less.step event).2 ∧ Like gone (full.step event).1 (less.step event).1 := by
  have hconfig : less.engine.config = full.engine.config := by rw [h.engine]; rfl
  cases hsupersedes : event.supersedes full.engine with
  | true =>
      have hsupersedes' : event.supersedes less.engine = true := by
        rw [Event.supersedes_congr hconfig, hsupersedes]
      have hstep : less.step event =
          full.engine.superseding less.pending (less.engine.session.sequence + 1) event := by
        rw [step_of_supersedes hsupersedes',
          ← full.engine.superseding_renumber less.engine.session.sequence, ← h.engine]
      rw [step_of_supersedes hsupersedes, hstep]
      refine like_superseding full.engine ?_ h.unknown ?_ hforeign
      · -- What was in flight is out of date in both runs now.
        intro call hcall
        rcases h.pending call hcall with ⟨hr, hr'⟩ | ⟨request, k, hr, hr', -⟩
        · exact .inl ⟨hr, hr'⟩
        · rw [hr, hr']
          have hle := hfull call _ hr
          have hle' : k ≤ less.engine.session.sequence := hless call _ hr'
          exact twins_of_stale (by omega) (by omega)
      · intro call _ r hr
        have hle := hfull call r hr
        omega
  | false =>
      rcases Event.eq_of_not_supersedes hsupersedes with ⟨c, text, rfl, hlead⟩ | ⟨c, outcome, rfl⟩
      · have hlead' : less.engine.hasLead text = false := by
          rw [h.engine]
          exact hlead
        rw [Live.step_change_of_not_hasLead hlead, Live.step_change_of_not_hasLead hlead']
        exact ⟨rfl, h⟩
      · refine h.step_settle hfull (fun hc => ?_) outcome
        simpa [Event.concerns] using hforeign c hc

/-- The end of a call that is gone. -/
lemma Like.settle_gone (h : Like gone full less) {c : ℕ} (hc : gone c)
    (outcome : Except Fault Provided) :
    (full.step (.settle c outcome)).2 =
        (if full.InFlight c then [.answered c (discarded outcome)] else []) ∧
      Like gone (full.step (.settle c outcome)).1 less := by
  cases hrequest : full.pending c with
  | none =>
      rw [Live.step_settle_none hrequest, if_neg (by simp [Live.InFlight, hrequest])]
      exact ⟨rfl, h⟩
  | some request =>
      have hstale : request.sequence ≠ full.engine.session.sequence := fun heq =>
        h.stale c hc ⟨request, hrequest, heq⟩
      rw [Live.step_settle_stale hrequest hstale, if_pos (by simp [Live.InFlight, hrequest])]
      refine ⟨rfl, h.engine, fun call hcall => ?_, h.unknown, fun call hcall => ?_⟩
      · show Twins _ _ (Function.update full.pending c none call) _
        have hne : call ≠ c := fun heq => hcall (heq ▸ hc)
        rw [Function.update_of_ne hne]
        exact h.pending call hcall
      · rintro ⟨asked, hasked, hnumber⟩
        refine h.stale call hcall ⟨asked, ?_, hnumber⟩
        by_cases heq : call = c
        · rw [heq] at hasked
          cases (Function.update_self c none full.pending).symm.trans hasked
        · exact (Function.update_of_ne heq _ _).symm.trans hasked

end Step

/-! ## Whole runs -/

/-- An event belongs to one of some calls. -/
def Event.Among (calls : ℕ → Prop) : Event α → Prop
  | .change c _ => calls c
  | .settle c _ => calls c
  | _ => False

/-- An effect belongs to one of some calls. -/
def Effect.Among (calls : ℕ → Prop) : Effect α β → Prop
  | .asked c .. => calls c
  | .answered c _ => calls c
  | _ => False

section Among

variable {calls : ℕ → Prop}

instance [DecidablePred calls] : ∀ event : Event α, Decidable (event.Among calls)
  | .change c _ => inferInstanceAs (Decidable (calls c))
  | .settle c _ => inferInstanceAs (Decidable (calls c))
  | .enter .. | .start | .cancel => inferInstanceAs (Decidable False)

instance [DecidablePred calls] : ∀ effect : Effect α β, Decidable (effect.Among calls)
  | .asked c .. => inferInstanceAs (Decidable (calls c))
  | .answered c _ => inferInstanceAs (Decidable (calls c))
  | .told _ | .ran .. | .entered _ => inferInstanceAs (Decidable False)

lemma Event.concerns_of_not_among {event : Event α} (h : ¬ event.Among calls) :
    ∀ call, calls call → event.concerns call = false := by
  intro call hcall
  cases event with
  | change c text => exact beq_eq_false_iff_ne.mpr fun heq => h (heq ▸ hcall)
  | settle c outcome => exact beq_eq_false_iff_ne.mpr fun heq => h (heq ▸ hcall)
  | enter act text disposition => rfl
  | start => rfl
  | cancel => rfl

lemma Effect.not_among_of_concerns {effect : Effect α β}
    (h : ∀ call, calls call → effect.concerns call = false) : ¬ effect.Among calls := by
  intro hamong
  cases effect with
  | asked c provider args => simpa [concerns] using h c hamong
  | answered c result => simpa [concerns] using h c hamong
  | told fault => exact hamong
  | ran action args => exact hamong
  | entered result => exact hamong

end Among

/-- **Runs that start alike are alike**, the second one without the calls that are gone. -/
lemma Like.run {gone : ℕ → Prop} [DecidablePred gone] {full less : Live α β}
    (h : Like gone full less) (hfull : full.Numbered) (hless : less.Numbered) {events : List (Event α)}
    (hnew : ∀ call text, .change call text ∈ events → ¬ gone call) :
    (full.trace events).filter (fun effect => ¬ effect.Among gone) =
        less.trace (events.filter fun event => ¬ event.Among gone) ∧
      Like gone (full.after events) (less.after (events.filter fun event => ¬ event.Among gone)) := by
  induction events generalizing full less with
  | nil => exact ⟨rfl, h⟩
  | cons event rest ih =>
      have hrest : ∀ call text, .change call text ∈ rest → ¬ gone call := fun call text hmem =>
        hnew call text (List.mem_cons_of_mem _ hmem)
      rw [Live.trace, Live.after, List.filter_append]
      by_cases hamong : event.Among gone
      · -- A call that is gone ends in the first run, and is no event of the second.
        rw [List.filter_cons_of_neg (by simpa using hamong)]
        cases event with
        | change c text => exact absurd hamong (hnew c text List.mem_cons_self)
        | settle c outcome =>
            obtain ⟨heffects, hlike⟩ := h.settle_gone hamong outcome
            obtain ⟨htrace, hend⟩ := ih hlike (hfull.step _) hless hrest
            have hnone : (full.step (.settle c outcome)).2.filter
                (fun effect => ¬ effect.Among gone) = [] := by
              refine List.filter_eq_nil_iff.mpr fun effect heffect => ?_
              rw [heffects] at heffect
              obtain ⟨-, hmem⟩ := List.mem_ite_nil_right.mp heffect
              obtain rfl := List.mem_singleton.mp hmem
              have hgone : (Effect.answered c (discarded outcome) : Effect α β).Among gone := hamong
              simpa using hgone
            exact ⟨by rw [htrace, hnone, List.nil_append], hend⟩
        | enter act text disposition => cases hamong
        | start => cases hamong
        | cancel => cases hamong
      · rw [List.filter_cons_of_pos (by simpa using hamong), Live.trace, Live.after]
        obtain ⟨hsame, hlike⟩ := h.step hfull hless (Event.concerns_of_not_among hamong)
        obtain ⟨htrace, hend⟩ := ih hlike (hfull.step event) (hless.step event) hrest
        refine ⟨?_, hend⟩
        have hkept : (full.step event).2.filter (fun effect => ¬ effect.Among gone) =
            (full.step event).2 := by
          refine List.filter_eq_self.mpr fun effect heffect => decide_eq_true ?_
          exact Effect.not_among_of_concerns fun call hcall =>
            Live.concerns_of_mem_step (Event.concerns_of_not_among hamong call hcall) full effect heffect
        rw [htrace, hkept, hsame]

end Engine

end CommandPalette
