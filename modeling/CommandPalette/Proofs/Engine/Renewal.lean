import CommandPalette.Proofs.Engine.History
import CommandPalette.Proofs.Engine.Likeness
import CommandPalette.Proofs.Engine.Provided
import CommandPalette.Proofs.Engine.Supersession

/-!
# A reset makes an engine as good as new

Calls may still be in flight when an episode ends, and their providers answer in the next one.  So the
engine of the next episode is compared with an engine that was just made, which knows none of these
calls; the two are alike from the reset on (`Renewed.like_start`).

* `Renewed`: a run with a reset in it.
* **`Renewed.as_fresh`**: at every point after the reset the host has seen what it would have seen of a
  new engine, whose session is the same but for its number; and the calls left in flight come to nothing.
-/

namespace CommandPalette

open Command Motion

variable {α β : Type}

namespace Engine

lemma Event.supersedes_of_resets {event : Event α} (h : event.resets = true) (e : Engine α β) :
    event.supersedes e = true ∧ ∀ call, event.concerns call = false := by
  cases event with
  | change call text => cases h
  | settle call outcome => cases h
  | _ => exact ⟨rfl, fun _ => rfl⟩

/-- A run of a new engine in which an episode ends, and what happens from then on.  No later change has
the number of a call that was left in flight. -/
structure Renewed (e : Engine α β) where
  earlier : List (Event α)
  reset : Event α
  later : List (Event α)
  fresh : e.session = {}
  resets : reset.resets = true
  named : ∀ call text, .change call text ∈ later → ¬ (e.live.after earlier).InFlight call

namespace Renewed

variable {e : Engine α β}

/-- The call was in flight when the episode ended. -/
def Left (run : Renewed e) (call : ℕ) : Prop := (e.live.after run.earlier).InFlight call

instance (run : Renewed e) : DecidablePred run.Left :=
  fun call => inferInstanceAs (Decidable ((e.live.after run.earlier).InFlight call))

/-- The state after the reset. -/
def start (run : Renewed e) : Live α β := e.live.after (run.earlier ++ [run.reset])

/-- The events that belong to none of the calls left in flight. -/
def own (run : Renewed e) (events : List (Event α)) : List (Event α) :=
  events.filter fun event => ¬ event.Among run.Left

lemma start_eq (run : Renewed e) :
    run.start = ((e.live.after run.earlier).step run.reset).1 := by
  rw [start, Live.after_append]
  rfl

/-- After a reset an engine is like one that was just made. -/
lemma like_start (run : Renewed e) : Like run.Left run.start e.live where
  engine := by
    have hhost : e.SameHost (e.live.after run.earlier).engine := e.live.sameHost_after _
    rw [start_eq, Live.step_of_resets run.resets, ended, hhost.eq]
    show e = { e with session := Session.renumber _ e.session.sequence }
    rw [run.fresh]
    show e = { e with session := {} }
    rw [← run.fresh]
  pending call hcall := by
    refine .inl ⟨?_, rfl⟩
    rw [start_eq, Live.step_of_resets run.resets]
    exact Option.not_isSome_iff_eq_none.mp hcall
  unknown _ _ := rfl
  stale call _ := by
    obtain ⟨hsupersedes, hforeign⟩ :=
      Event.supersedes_of_resets run.resets (e.live.after run.earlier).engine
    rw [start_eq]
    exact Live.not_current_of_supersedes (Live.numbered_after e run.earlier) hsupersedes (hforeign call)

/-- **A reset makes an engine as good as new.**  At every point after it, what was seen is what is seen
of a new engine with the same events, and the session is that of the new engine but for its number.  A
call that was left in flight returns nothing, or what interrupted its provider; it reports nothing and
leaves the engine as it is. -/
theorem as_fresh (run : Renewed e) {events : List (Event α)} (h : events <+: run.later) :
    (run.start.trace events).filter (fun effect => ¬ effect.Among run.Left) =
        e.live.trace (run.own events) ∧
      (∃ n, (run.start.after events).engine =
        (e.live.after (run.own events)).engine.renumber n) ∧
      ∀ call, run.Left call → (run.start.after events).InFlight call → ∀ outcome,
        ((run.start.after events).step (.settle call outcome)).1.engine =
            (run.start.after events).engine ∧
          ∃ result, ((run.start.after events).step (.settle call outcome)).2 =
              [.answered call result] ∧
            (result = .ok [] ∨
              ∃ fault, outcome = .error fault ∧ fault.isFailure = false ∧ result = .error fault) := by
  obtain ⟨htrace, hlike⟩ := run.like_start.run (Live.numbered_after e _) (Live.numbered_live e)
    fun call text hmem => run.named call text (h.subset hmem)
  refine ⟨htrace, ⟨(run.start.after events).engine.session.sequence, ?_⟩, fun call hleft hflight outcome => ?_⟩
  · rw [own, hlike.engine]
    rfl
  · obtain ⟨hengine, heffects⟩ := (Live.discards_iff hflight).mpr (hlike.stale call hleft) outcome
    refine ⟨hengine, _, heffects, ?_⟩
    rcases discarded_cases outcome with hnothing | ⟨fault, hinterrupts, hraised⟩
    · exact .inl hnothing
    · obtain ⟨houtcome, hfailure⟩ := interrupts_iff.mp hinterrupts
      exact .inr ⟨fault, houtcome, hfailure, hraised⟩

/-- A call is left in flight by a cancelled episode in vim mode, and its provider fails in the next one. -/
def resumed : Renewed shelf where
  earlier := [.change 0 "list [j]", .settle 0 single, .change 1 "list [k]"]
  reset := .cancel
  later := [.change 2 "list", .settle 1 (.error (.foreign "ValueError" "")), .settle 2 single]
  fresh := shelf_session
  resets := rfl
  named := by
    intro call text hmem
    rcases hmem with _ | ⟨_, _ | ⟨_, _ | ⟨_, hmem⟩⟩⟩
    · decide +kernel
    · cases hmem

theorem resumed_as_fresh :
    resumed.Left 1 ∧ resumed.start.engine.session.sequence = 3 ∧
      (resumed.start.trace resumed.later).filter (fun effect => ¬ effect.Among resumed.Left) =
        shelf.live.trace [.change 2 "list", .settle 2 single] ∧
      ∃ n, (resumed.start.after resumed.later).engine =
        (shelf.live.after [.change 2 "list", .settle 2 single]).engine.renumber n := by
  have hleft : resumed.Left 1 := by decide +kernel
  have hnew : ¬ resumed.Left 2 := by decide +kernel
  have hown : resumed.own resumed.later = [.change 2 "list", .settle 2 single] := by
    rw [own, show resumed.later = [.change 2 "list", .settle 1 _, .settle 2 single] from rfl]
    simp [Event.Among, hleft, hnew]
  obtain ⟨htrace, hengine, -⟩ := resumed.as_fresh (List.prefix_rfl (l := resumed.later))
  rw [hown] at htrace hengine
  exact ⟨hleft, by decide +kernel, htrace, hengine⟩

end Renewed

end Engine

end CommandPalette
