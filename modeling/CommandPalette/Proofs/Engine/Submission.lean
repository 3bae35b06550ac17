import CommandPalette.Proofs.Command.LongestPath
import CommandPalette.Proofs.Engine.Coherence
import CommandPalette.Proofs.Guard
import Mathlib.Tactic.ByContra

/-!
# What a submission runs and returns

A submission may end before anything is run, where the line is no command line or has no command.  Else
the action of one command is run, and what it returns or raises is turned into an answer for the host.

* `Registry.Leads`: the tokens of a line that lead to a command, so that the others are its arguments.
* `Verdict`: what the outcome of an action comes to.
* **`Live.step_enter_contract`**: the ways in which a submission may go; in each of them the session is
  over afterwards.
-/

namespace CommandPalette

open Command Text

variable {α β : Type}

namespace Command

namespace Registry

/-- The first `n` tokens of a line lead to a command: they spell its path; or the first of all names no
root, and the line goes to the catch-all as a whole. -/
inductive Leads (r : Registry α β) (tokens : List String) : ℕ → Entry α β → Prop
  | path {n : ℕ} {entry : Entry α β} (pos : 1 ≤ n) (le : n ≤ tokens.length)
      (spells : joinPath (tokens.take n) = entry.name) (found : r.get? entry.name = some entry) :
      Leads r tokens n entry
  | catchAll {entry : Entry α β} (unknown : ∀ root ∈ tokens.head?, r.get? root = none)
      (found : r.default? = some entry) : Leads r tokens 0 entry

lemma leads_of_resolve {r : Registry α β} (h : r.Sound) {text : String} {entry : Entry α β}
    (hcommand : (r.resolve text).command = some entry) :
    ∃ n, r.Leads (tokens text) n entry ∧ (r.resolve text).args = (tokens text).drop n := by
  rcases resolve_cases h text with ⟨hresolve, hroot⟩ | ⟨n, found, hpos, hle, hget, hresolve⟩
  · rw [hresolve] at hcommand ⊢
    exact ⟨0, .catchAll hroot hcommand, rfl⟩
  · rw [hresolve] at hcommand ⊢
    obtain rfl : found = entry := Option.some.inj hcommand
    have hname := h.name_eq _ _ hget
    exact ⟨n, .path hpos hle hname.symm (hname ▸ hget), rfl⟩

lemma args_of_unmatched {r : Registry α β} (h : r.Sound) {text : String}
    (hcommand : (r.resolve text).command = none) : (r.resolve text).args = tokens text := by
  rcases resolve_cases h text with ⟨hresolve, -⟩ | ⟨n, found, -, -, -, hresolve⟩
  · rw [hresolve]
    rfl
  · rw [hresolve] at hcommand
    cases hcommand

end Registry

/-- What running a command comes to; without an action there is nothing to do. -/
def Entry.run (entry : Entry α β) (act : α → List String → Except Fault Returned)
    (args : List String) : Except Fault Returned :=
  match entry.action with
  | some action => act action args
  | none => .ok (.value .null)

end Command

/-! ## Verdicts -/

/-- Whether an action has handed back a failure. -/
def Returned.isFailure : Returned → Bool
  | value _ => false
  | fault f => f.isFailure

namespace Engine

/-- What the outcome of a command's action comes to. -/
inductive Verdict (name : String) : Except Fault Returned → Except Fault (Option Fault) → Prop
  | done {returned : Returned} (success : returned.isFailure = false) :
      Verdict name (.ok returned) (.ok none)
  | handedBack {fault : Fault} (failure : fault.isFailure = true) :
      Verdict name (.ok (.fault fault)) (.ok (some fault))
  | own {fault : Fault} (own : fault.isOwn = true) : Verdict name (.error fault) (.ok (some fault))
  | wrapped {fault wrapper : Fault} (failure : fault.isFailure = true) (foreign : fault.isOwn = false)
      (className : wrapper.className = "CommandActionError")
      (message : wrapper.message = s!"{name} failed: {fault.message}")
      (details : wrapper.details =
        [("error_type", .text fault.className), ("original_error", .text fault.message)]) :
      Verdict name (.error fault) (.ok (some wrapper))
  | passed {fault : Fault} (stop : fault.isFailure = false) : Verdict name (.error fault) (.error fault)

lemma verdict_runAction (s : Submission α) (outcome : Except Fault Returned) :
    Verdict s.name outcome (runAction s outcome).outcome := by
  cases outcome with
  | ok returned => cases returned with
    | value v => exact .done rfl
    | fault fault =>
        show Verdict s.name _ (.ok (if fault.isFailure then some fault else none))
        cases hfailure : fault.isFailure with
        | true => exact .handedBack hfailure
        | false => exact .done hfailure
  | error fault =>
      have hfinish := Guard.finish_action (ρ := Returned) s.name channel fault
      simp only [runAction, Guard.around, hfinish]
      cases hown : fault.isOwn with
      | true =>
          simp only [Bool.not_true, Bool.and_false, Bool.false_eq_true, if_false, hown, if_true]
          exact .own hown
      | false => cases hfailure : fault.isFailure with
        | true =>
            simp only [Bool.not_false, Bool.and_true, if_true]
            exact .wrapped hfailure hown rfl rfl rfl
        | false =>
            simp only [Bool.false_and, Bool.false_eq_true, if_false, hown]
            exact .passed hfailure

/-- The host is told of nothing exactly if the action has returned, and not a failure. -/
lemma Verdict.eq_none_iff {name : String} {outcome : Except Fault Returned}
    {result : Except Fault (Option Fault)} (h : Verdict name outcome result) :
    result = .ok none ↔ ∃ returned, outcome = .ok returned ∧ returned.isFailure = false := by
  cases h with
  | done success => simp [success]
  | handedBack failure => simp [Returned.isFailure, failure]
  | own | wrapped | passed => simp

/-! ## Submissions -/

lemma submissionText_eq (session : Session) (text : String) :
    session.submissionText text =
      if session.mode = .vim ∧ session.selected ≠ "" then session.selected else text := by
  simp [Session.submissionText, Session.vimMode]

section Submission

variable {e : Engine α β} {text line : String} (hlead : e.hasLead text = true)
  (hline : e.session.submissionText text = line)

include hlead hline

lemma submission_of_unmatched (hcommand : (e.process line).command = none)
    (disposition : Option String) : (e.submission text disposition).1 =
      .error (.noCommandMatched line (e.process line).args) := by
  simp only [submission, hlead, hline, hcommand, Bool.not_true, Bool.false_eq_true, if_false]

lemma submission_of_matched {entry : Entry α β} (hcommand : (e.process line).command = some entry)
    (disposition : Option String) : (e.submission text disposition).1 =
      .ok ⟨entry.name, entry.action, (e.process line).args⟩ := by
  simp only [submission, hlead, hline, hcommand, Bool.not_true, Bool.false_eq_true, if_false]

end Submission

lemma enter_of_refused {e : Engine α β} {text : String} {disposition : Option String} {fault : Fault}
    (h : (e.submission text disposition).1 = .error fault)
    (act : α → List String → Except Fault Returned) :
    (e.enter act text disposition).ran = [] ∧
      (e.enter act text disposition).result = .ok (some fault) := by
  unfold enter
  rcases hsubmission : e.submission text disposition with ⟨result, lines⟩
  rw [hsubmission] at h
  obtain rfl : result = .error fault := h
  exact ⟨rfl, rfl⟩

lemma run_submission (entry : Entry α β) (act : α → List String → Except Fault Returned) (args : List String) :
    Submission.run ⟨entry.name, entry.action, args⟩ act =
      (entry.run act args, entry.action.toList.map fun action => (action, args)) := by
  unfold Submission.run Entry.run
  cases entry.action <;> rfl

lemma enter_of_accepted {e : Engine α β} {text : String} {disposition : Option String}
    {entry : Entry α β} {args : List String}
    (h : (e.submission text disposition).1 = .ok ⟨entry.name, entry.action, args⟩)
    (act : α → List String → Except Fault Returned) :
    (e.enter act text disposition).ran = entry.action.toList.map (fun action => (action, args)) ∧
      Verdict entry.name (entry.run act args) (e.enter act text disposition).result := by
  unfold enter
  rcases hsubmission : e.submission text disposition with ⟨result, lines⟩
  rw [hsubmission] at h
  obtain rfl : result = .ok ⟨entry.name, entry.action, args⟩ := h
  dsimp only
  rw [run_submission]
  exact ⟨rfl, verdict_runAction ⟨entry.name, entry.action, args⟩ (entry.run act args)⟩

/-- **What a submission runs and returns.**  The line is the highlighted entry in vim mode, if there is
one, and else the text itself.  Nothing is run where the text is no command line, whatever is highlighted,
or where the line has no command; else one command is, with the tokens that do not lead to it.  Whatever
its action does, the session is as new afterwards but for its number. -/
theorem Live.step_enter_contract {s : Live α β} (hreached : s.engine.registry.Reached)
    (act : α → List String → Except Fault Returned) (text : String) (disposition : Option String) :
    let session := s.engine.session
    let line := if session.mode = .vim ∧ session.selected ≠ "" then session.selected else text
    let words := tokens (s.engine.commandLine line)
    ∃ ran result, s.step (.enter act text disposition) =
        (⟨{ s.engine with session := { sequence := session.sequence + 1 } }, s.pending⟩,
          ran ++ [.entered result]) ∧
      (s.engine.hasLead text = false →
        ran = [] ∧ result = .ok (some (.prefixMismatch s.engine.lead text))) ∧
      (s.engine.hasLead text = true → (s.engine.process line).command = none →
        ran = [] ∧ result = .ok (some (.noCommandMatched line words))) ∧
      (s.engine.hasLead text = true → ∀ entry, (s.engine.process line).command = some entry →
        ∃ n, s.engine.registry.Leads words n entry ∧
          ran = entry.action.toList.map (fun action => .ran action (words.drop n)) ∧
          Verdict entry.name (entry.run act (words.drop n)) result ∧
          (result = .ok none ↔
            ∃ returned, entry.run act (words.drop n) = .ok returned ∧ returned.isFailure = false)) := by
  intro session line words
  have hline : s.engine.session.submissionText text = line := submissionText_eq session text
  have hsound := hreached.sound
  have hnothing {fault : Fault} (h : (s.engine.submission text disposition).1 = .error fault) :
      (s.engine.enter act text disposition).ran.map (fun run => Effect.ran (β := β) run.1 run.2) = [] ∧
        (s.engine.enter act text disposition).result = .ok (some fault) := by
    obtain ⟨hran, hresult⟩ := enter_of_refused h act
    exact ⟨by rw [hran]; rfl, hresult⟩
  refine ⟨_, (s.engine.enter act text disposition).result, s.step_enter act text disposition, fun hlead => ?_,
    fun hlead hnone => ?_, fun hlead entry hentry => ?_⟩
  · refine hnothing ?_
    simp only [submission, hlead]
    rfl
  · have hargs : (s.engine.process line).args = words := Registry.args_of_unmatched hsound hnone
    rw [← hargs]
    exact hnothing (submission_of_unmatched hlead hline hnone disposition)
  · obtain ⟨n, hleads, hargs⟩ := Registry.leads_of_resolve hsound hentry
    have haccepted := submission_of_matched hlead hline hentry disposition
    rw [show (s.engine.process line).args = words.drop n from hargs] at haccepted
    obtain ⟨hran, hverdict⟩ := enter_of_accepted haccepted act
    refine ⟨n, hleads, ?_, hverdict, hverdict.eq_none_iff⟩
    rw [hran, List.map_map]
    rfl

/-- A command with an action, that leaves its suggestions to a provider. -/
def desk : Engine Unit Unit where
  registry := (({} : Registry Unit Unit).register
    [.command (.text "open") [] .null (.callable ()) [] (.callable ())]).1

/-- The highlighted entry is run in place of the text, and its action fails. -/
theorem desk_enter_contract :
    let s := desk.live.after [.change 0 "open [j]", .settle 0 single]
    let act : Unit → List String → Except Fault Returned := fun _ _ => .error (.foreign "ValueError" "")
    s.engine.registry.Reached ∧ ∃ wrapper, wrapper.className = "CommandActionError" ∧
      s.step (.enter act "stray" none) =
        (⟨{ s.engine with session := { sequence := 2 } }, s.pending⟩,
          [.ran () ["a"], .entered (.ok (some wrapper))]) := by
  intro s act
  have hreached : s.engine.registry.Reached := by
    rw [(desk.live.sameHost_after _).registry]
    exact .register (.fresh "*") [.command (.text "open") [] .null (.callable ()) [] (.callable ())]
  obtain ⟨ran, result, hstep, -, -, hruns⟩ := Live.step_enter_contract hreached act "stray" none
  have hselected : s.engine.session.mode = .vim ∧ s.engine.session.selected = "open a" := by
    decide +kernel
  have hnumber : s.engine.session.sequence + 1 = 2 := by decide +kernel
  have hwords : tokens (s.engine.commandLine "open a") = ["open", "a"] := by decide +kernel
  have hcommand : (s.engine.process "open a").command.any (fun entry =>
      entry.name == "open" && entry.action.isSome) = true := by decide +kernel
  obtain ⟨entry, hentry, hopen⟩ := (Option.any_eq_true _ _).mp hcommand
  obtain ⟨hname, haction⟩ := Bool.and_eq_true_iff.mp hopen
  obtain ⟨action, haction⟩ := Option.isSome_iff_exists.mp haction
  rw [if_pos ⟨hselected.1, by rw [hselected.2]; decide⟩, hselected.2, hwords] at hruns
  obtain ⟨n, hleads, hran, hverdict, -⟩ := hruns (by decide +kernel) entry hentry
  -- One token leads to the command: none would lead to the catch-all, and two spell another path.
  obtain rfl : n = 1 := by
    cases hleads with
    | path pos le spells found =>
        by_contra hne
        obtain rfl : n = 2 := by
          have hle : n ≤ 2 := le
          omega
        rw [eq_of_beq hname] at spells
        exact absurd spells (by decide +kernel)
    | catchAll unknown found =>
        have hroot : (s.engine.registry.get? "open").isSome = true := by decide +kernel
        rw [unknown "open" rfl] at hroot
        cases hroot
  rw [haction] at hran
  rw [Entry.run, haction] at hverdict
  rw [hstep, hran, hnumber]
  cases hverdict with
  | own own => cases own
  | wrapped failure foreign className message details => exact ⟨hreached, _, className, rfl⟩
  | passed stop => exact absurd stop (by decide)

end Engine

end CommandPalette
