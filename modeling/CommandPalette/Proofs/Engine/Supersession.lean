import CommandPalette.Proofs.Arrangement
import CommandPalette.Proofs.Engine.Number
import Mathlib.Tactic.ByContra
import Mathlib.Tactic.Lemma
import Mathlib.Tactic.Set

/-!
# What makes a call out of date

The answer to a call that is out of date is discarded, whatever it is; that of a current call is not.
A line that is no command line is answered at once, before the change is noted.  So such a line does
not make the calls in flight out of date, as another change does.

* `Live.Discards`: whatever the provider of a call answers, the engine stays as it is and the host
  gets no suggestion.
* `discards_iff`: the calls in flight of which this is true are those that are out of date.
* **`discards_after_stray_iff`**: a line that is no command line has no part in it.
-/

namespace CommandPalette

open Command Motion

variable {α β : Type}

namespace Engine

/-- A menu for one suggestion is not empty. -/
lemma present_singleton_ne_nil (e : Engine α β) (text : String) (s : Suggestion) :
    (e.present text [s]).result ≠ .ok [] := by
  unfold present
  split
  next session lines _ =>
    cases harrange : arrange e.look session.vimMode session.keymap session.position.y [s] with
    | error fault =>
        intro h
        cases h
    | ok menu =>
        intro h
        have hlength := length_arrange harrange
        rw [Except.ok.inj h] at hlength
        cases hlength

namespace Live

/-- Whatever the provider of a call answers, the engine stays as it is, nothing is reported, and the
call returns nothing or what interrupted it. -/
def Discards (s : Live α β) (call : ℕ) : Prop :=
  ∀ outcome, (s.step (.settle call outcome)).1.engine = s.engine ∧
    (s.step (.settle call outcome)).2 = [.answered call (discarded outcome)]

/-- **The answers to the calls in flight are discarded exactly if the calls are out of date.** -/
lemma discards_iff {s : Live α β} {call : ℕ} (h : s.InFlight call) :
    s.Discards call ↔ ¬ s.Current call := by
  obtain ⟨request, hrequest⟩ := Option.isSome_iff_exists.mp h
  constructor
  · rintro hdiscards ⟨request', hrequest', hnumber⟩
    obtain rfl : request' = request := Option.some.inj (hrequest'.symm.trans hrequest)
    -- A current call shows a suggestion, if its provider has one.
    let one : Suggestion := { content := "", description := "" }
    have hone := (hdiscards (.ok (.items [.suggestion one]))).2
    rw [step_settle hrequest, decide_eq_true hnumber] at hone
    have hlast := congrArg List.getLast? hone
    rw [Answer.effects, List.getLast?_concat, List.getLast?_singleton] at hlast
    have hresult := (Effect.answered.inj (Option.some.inj hlast)).2
    exact present_singleton_ne_nil _ _ _ hresult
  · intro hstale outcome
    have hne : request.sequence ≠ s.engine.session.sequence := fun hnumber =>
      hstale ⟨request, hrequest, hnumber⟩
    rw [step_settle_stale hrequest hne]
    exact ⟨rfl, rfl⟩

end Live

/-- A line that is no command line leaves no trace in a run. -/
lemma after_stray {s : Live α β} {stray : String} (h : s.engine.hasLead stray = false) (other : ℕ)
    (between later : List (Event α)) :
    s.after (between ++ .change other stray :: later) = s.after (between ++ later) := by
  have hstray : (s.after between).engine.hasLead stray = false := by
    unfold hasLead lead at h ⊢
    rw [(s.sameHost_after between).config, h]
  rw [Live.after_append, Live.after, Live.step_change_of_not_hasLead hstray, Live.after_append]

/-- **A line that is no command line does not make the calls in flight out of date.**  The run goes on
as if there had been no such line; the call is discarded exactly if another event supersedes it. -/
theorem discards_after_stray_iff (e : Engine α β) (before between later : List (Event α)) {call : ℕ}
    (other : ℕ) {text stray : String}
    (hcurrent : (e.live.after (before ++ [.change call text])).Current call)
    (hforeign : ∀ event ∈ between ++ later, event.concerns call = false)
    (hstray : e.hasLead stray = false) :
    let s := e.live.after (before ++ .change call text :: (between ++ .change other stray :: later))
    s = e.live.after (before ++ .change call text :: (between ++ later)) ∧ s.InFlight call ∧
      (s.Discards call ↔ ∃ event ∈ between ++ later, event.supersedes e = true) := by
  intro s
  set asked := e.live.after (before ++ [.change call text])
  have hconfig : asked.engine.config = e.config := (e.live.sameHost_after _).config
  have hasked : ∀ events, e.live.after (before ++ .change call text :: events) = asked.after events := by
    intro events
    rw [List.append_cons, Live.after_append]
  have hsame : s = asked.after (between ++ later) := by
    have hlead : asked.engine.hasLead stray = false := by
      unfold hasLead lead at hstray ⊢
      rw [hconfig, hstray]
    rw [show s = _ from hasked _, after_stray hlead]
  have hflight : s.InFlight call := by
    obtain ⟨request, hrequest, -⟩ := hcurrent
    rw [hsame, Live.InFlight, Live.pending_after hforeign, hrequest]
    rfl
  refine ⟨by rw [hsame, hasked], hflight, ?_⟩
  rw [Live.discards_iff hflight, hsame, Live.current_after_iff hcurrent hforeign]
  simp only [Event.supersedes_congr hconfig]
  constructor
  · intro h
    by_contra hnone
    refine h fun event hevent => ?_
    cases hsupersedes : event.supersedes e with
    | false => rfl
    | true => exact absurd ⟨event, hevent, hsupersedes⟩ hnone
  · rintro ⟨event, hevent, hsupersedes⟩ h
    rw [h event hevent] at hsupersedes
    cases hsupersedes

/-- A command that leaves its suggestions to a provider, on lines that start with a colon. -/
def colonMenu : Engine Unit Unit where
  config := { input := { lead := ":" } }
  registry := (({} : Registry Unit Unit).register
    [.command (.text "slow") [] .null .absent [] (.callable ())]).1

/-- The colon was taken away, and the answer for the line with it is still taken in. -/
theorem colonMenu_not_discards :
    colonMenu.hasLead "slow" = false ∧
      ¬ (colonMenu.live.after [.change 0 ":slow", .change 1 "slow"]).Discards 0 := by
  have hstray : colonMenu.hasLead "slow" = false := by decide +kernel
  have hcurrent : (colonMenu.live.after ([] ++ [.change 0 ":slow"])).Current 0 := by decide +kernel
  refine ⟨hstray, fun hdiscards => ?_⟩
  obtain ⟨event, hevent, -⟩ :=
    (discards_after_stray_iff colonMenu [] [] [] 1 hcurrent (by simp) hstray).2.2.mp hdiscards
  cases hevent

end Engine

end CommandPalette
