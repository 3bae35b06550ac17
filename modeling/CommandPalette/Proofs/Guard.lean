import CommandPalette.Guard
import Mathlib.Tactic.Lemma

/-!
# What guards let through

All guards of callbacks are made alike: some faults pass, any other failure is wrapped, and what is no
failure passes as well, since no clause fits it.

* **`Guard.finish_error`**: so a guard turns every fault into itself or into its wrapping.
* `Fault.isFailure_of_isOwn`, `Fault.isOwn_of_isRejection`: the kinds of our own are failures.
* `Guard.finish_awaitedProvider`, `Guard.finish_action`: the guards of the callbacks.
* `Guard.awaited_awaited`, `Guard.awaited_bind`: an exhausted iterator is caught once, where it is raised.
-/

namespace CommandPalette

namespace Fault

lemma isFailure_of_isOwn {fault : Fault} (h : fault.isOwn = true) : fault.isFailure = true := by
  have hkind : ∀ kind : Kind, stopClasses.contains kind.name = false := by
    intro kind
    cases kind <;> decide
  induction fault using isOwn.induct with
  | case1 | case2 | case3 | case4 | case5 | case6 | case7 | case8 | case9 =>
      rw [isFailure, rootName, className, hkind]
      · rfl
      · exact nofun
  | case10 _ parent ih => exact ih h
  | case11 => simp_all [isOwn]

lemma isOwn_of_isRejection {fault : Fault} (h : fault.isRejection = true) : fault.isOwn = true := by
  induction fault using isRejection.induct with
  | case1 | case2 => rfl
  | case3 _ parent ih => exact ih h
  | case4 => simp_all [isRejection]

lemma rootName_of_isRejection {fault : Fault} (h : fault.isRejection = true) :
    fault.rootName = Kind.providerRejected.name := by
  induction fault using isRejection.induct with
  | case1 | case2 => rfl
  | case3 _ parent ih => exact ih h
  | case4 => simp_all [isRejection]

lemma isFailure_of_isRejection {fault : Fault} (h : fault.isRejection = true) :
    fault.isFailure = true :=
  isFailure_of_isOwn (isOwn_of_isRejection h)

/-- A call that was cancelled has not failed. -/
lemma isFailure_of_isCancellation {fault : Fault} (h : fault.isCancellation = true) :
    fault.isFailure = false := by
  have hclass : fault.rootName = "CancelledError" := eq_of_beq h
  rw [isFailure, hclass]
  decide

end Fault

namespace Guard

variable {ρ σ : Type _}

/-- The first clause that fits a fault wraps it just if the fault is a failure and none of the clauses
before lets it pass. -/
lemma wrapper?_passes (passes : List (Fault → Bool)) (wrap : Fault → Fault) (fault : Fault) :
    wrapper? (passes.map Clause.pass ++ [.wrapFailures wrap]) fault =
      if fault.isFailure && !passes.any (· fault) then some wrap else none := by
  rw [wrapper?]
  induction passes with
  | nil => cases hf : fault.isFailure <;> simp [Clause.wrapFailures, hf]
  | cons fits rest ih =>
      rw [List.map_cons, List.cons_append, List.find?_cons, List.any_cons]
      cases hfits : fits fault with
      | true => simp [Clause.pass, hfits]
      | false => simpa [Clause.pass, hfits] using ih

/-- **What a guard makes of a fault.**  Only a failure that none of its first clauses lets pass is
wrapped. -/
lemma finish_error {g : Guard} {passes : List (Fault → Bool)} {wrap : Fault → Fault}
    (h : g.clauses = passes.map Clause.pass ++ [.wrapFailures wrap]) (fault : Fault) :
    ((g.finish (.error fault) : Call ρ)).outcome =
      .error (if fault.isFailure && !passes.any (· fault) then wrap fault else fault) := by
  rw [finish, h, wrapper?_passes]
  cases fault.isFailure && !passes.any (· fault) <;> rfl

/-- The clause about calls that were cancelled makes no difference: they have not failed. -/
lemma finish_awaitedProvider_eq (operation : String) (outcome : Except Fault ρ) :
    (awaitedProvider operation).finish outcome = (provider operation).finish outcome := by
  cases outcome with
  | ok value => rfl
  | error fault =>
      have hwrapper : wrapper? (awaitedProvider operation).clauses fault =
          wrapper? (provider operation).clauses fault := by
        have hplain := wrapper?_passes [Fault.isRejection] (.providerRejected operation) fault
        have hawaited := wrapper?_passes [Fault.isRejection, Fault.isCancellation]
          (.providerRejected operation) fault
        refine hawaited.trans (Eq.trans ?_ hplain.symm)
        cases hcancelled : fault.isCancellation with
        | true => simp [Fault.isFailure_of_isCancellation hcancelled]
        | false => simp [hcancelled]
      rw [finish, finish, hwrapper]
      rfl

/-- A provider's failures are rejections, and what is no failure is not held back. -/
lemma finish_awaitedProvider (operation : String) (fault : Fault) :
    ((awaitedProvider operation).finish (.error fault) : Call ρ).outcome =
      .error (if fault.isFailure && !fault.isRejection then .providerRejected operation fault
        else fault) := by
  have hclauses : (provider operation).clauses =
      [Fault.isRejection].map Clause.pass ++ [.wrapFailures (.providerRejected operation)] := rfl
  rw [finish_awaitedProvider_eq, finish_error hclauses]
  simp

lemma finish_action (operation channel : String) (fault : Fault) :
    ((action operation channel).finish (.error fault) : Call ρ).outcome =
      .error (if fault.isFailure && !fault.isOwn then .actionFailed operation fault else fault) := by
  have hclauses : (action operation channel).clauses =
      [Fault.isOwn].map Clause.pass ++ [.wrapFailures (.actionFailed operation)] := rfl
  rw [finish_error hclauses]
  simp

/-! ## Calls that are awaited -/

/-- What stands in for an exhausted iterator is none, and passes where it is awaited once more. -/
@[simp] lemma awaited_awaited (outcome : Except Fault ρ) : awaited (awaited outcome) = awaited outcome := by
  cases outcome with
  | ok value => rfl
  | error fault =>
      have hstandIn : (Fault.foreign "RuntimeError" "coroutine raised StopIteration").isExhausted = false := by
        decide
      cases hstop : fault.isExhausted <;> simp [awaited, hstop, hstandIn]

lemma awaited_map (f : ρ → σ) (outcome : Except Fault ρ) :
    awaited (outcome.map f) = (awaited outcome).map f := by
  cases outcome with
  | ok value => rfl
  | error fault =>
      simp only [awaited, Except.map]
      split <;> rfl

/-- What goes on after a call and raises no exhausted iterator of its own. -/
lemma awaited_bind {next : ρ → Except Fault σ} (h : ∀ value, awaited (next value) = next value)
    (outcome : Except Fault ρ) : awaited (outcome >>= next) = awaited outcome >>= next := by
  cases outcome with
  | ok value => exact h value
  | error fault =>
      show awaited (.error fault) = awaited (.error fault) >>= next
      simp only [awaited]
      split <;> rfl

end Guard

end CommandPalette
