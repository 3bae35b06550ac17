import CommandPalette.Proofs.Guard

/-!
# Providers and actions under their guards

A provider is guarded as it is, or as a coroutine.  The two guards are made of different clauses, but the
one that only coroutines have lets pass what is no failure anyhow, so both do the same
(`Guard.around_awaitedProvider`).  What is left of the difference is the awaiting: no coroutine ends by an
exhausted iterator.

* `Fault.rejection`, `Fault.containment`: what the guards make of a fault.  Whatever leaves a guard passes
  the next one, so a second guard changes nothing (`Fault.wrapUnless_wrapUnless`).
* `Callback.outcome_asProvider`, `Guard.outcome_guardAction`: what calls under a guard come to.
* **`Callback.guards_agree`**: both guards of a provider agree, except about an exhausted iterator; only
  faults of our own leave a guard, save what is no failure; and one guard is enough.
-/

namespace CommandPalette

variable {α ρ : Type _}

/-! ## Faults that leave a guard -/

namespace Fault

/-- A fault, or its wrapping if it is a failure that is not let pass. -/
def wrapUnless (passes : Fault → Bool) (wrap : Fault → Fault) (fault : Fault) : Fault :=
  if fault.isFailure && !passes fault then wrap fault else fault

section Wrapping

variable {passes : Fault → Bool} {wrap : Fault → Fault}

/-- A failure that was not let pass has been wrapped by something that is. -/
lemma passes_wrapUnless (hwrap : ∀ fault, passes (wrap fault) = true) {fault : Fault}
    (h : (wrapUnless passes wrap fault).isFailure = true) : passes (wrapUnless passes wrap fault) = true := by
  rw [wrapUnless] at h ⊢
  split
  · exact hwrap fault
  · rename_i hpasses
    rw [if_neg hpasses] at h
    simpa [h] using hpasses

/-- So it is not wrapped once more. -/
lemma wrapUnless_wrapUnless (hwrap : ∀ fault, passes (wrap fault) = true) (other : Fault → Fault)
    (fault : Fault) :
    wrapUnless passes other (wrapUnless passes wrap fault) = wrapUnless passes wrap fault := by
  rw [wrapUnless.eq_1 passes other]
  cases hfailure : (wrapUnless passes wrap fault).isFailure with
  | false => rfl
  | true => simp [passes_wrapUnless hwrap hfailure]

end Wrapping

/-- What the guard of a provider makes of a fault. -/
def rejection (operation : String) : Fault → Fault := wrapUnless isRejection (.providerRejected operation)

/-- What the guard of an action makes of a fault. -/
def containment (operation : String) : Fault → Fault := wrapUnless isOwn (.actionFailed operation)

/-- An exhausted iterator is a failure like any other to the guard of a provider. -/
lemma rejection_of_exhausted {fault : Fault} (h : fault.isExhausted = true) (operation : String) :
    fault.rejection operation = .providerRejected operation fault := by
  have hroot : fault.rootName = "StopIteration" := eq_of_beq h
  have hfailure : fault.isFailure = true := by
    rw [isFailure, hroot]
    decide
  have hforeign : fault.isRejection = false := by
    rw [← Bool.not_eq_true]
    intro hrejection
    rw [rootName_of_isRejection hrejection] at hroot
    exact absurd hroot (by decide)
  simp [rejection, wrapUnless, hfailure, hforeign]

end Fault

section Outcomes

variable {outcome : Except Fault ρ} {wrap : Fault → Fault}

lemma exists_of_mapError_eq_error {fault : Fault} (h : outcome.mapError wrap = .error fault) :
    ∃ raised, wrap raised = fault := by
  cases outcome with
  | ok value => cases h
  | error raised => exact ⟨raised, Except.error.inj h⟩

lemma mapError_mapError_of_forall {other : Fault → Fault} (h : ∀ fault, other (wrap fault) = wrap fault) :
    (outcome.mapError wrap).mapError other = outcome.mapError wrap := by
  cases outcome with
  | ok value => rfl
  | error fault => exact congrArg Except.error (h fault)

end Outcomes

namespace Guard

/-! ## Exhausted iterators -/

/-- Awaiting changes nothing about a call, unless it ends by an exhausted iterator. -/
lemma awaited_eq_self_iff {outcome : Except Fault ρ} :
    awaited outcome = outcome ↔ ∀ fault, outcome = .error fault → fault.isExhausted = false := by
  cases outcome with
  | ok value => simp [awaited]
  | error fault =>
      cases hstop : fault.isExhausted with
      | true =>
          simp only [awaited, hstop, if_true]
          refine iff_of_false ?_ fun h => Bool.noConfusion (hstop.symm.trans (h fault rfl))
          rintro ⟨rfl⟩
          exact absurd hstop (by decide)
      | false => simp [awaited, hstop]

/-- No guard of a provider brings an exhausted iterator about. -/
lemma awaited_mapError_rejection {outcome : Except Fault ρ} (h : awaited outcome = outcome)
    (operation : String) :
    awaited (outcome.mapError (Fault.rejection operation)) =
      outcome.mapError (Fault.rejection operation) := by
  rw [awaited_eq_self_iff] at h ⊢
  cases outcome with
  | ok value => rintro _ ⟨⟩
  | error fault =>
      rintro _ ⟨rfl⟩
      rw [Fault.rejection, Fault.wrapUnless]
      split
      · show (Fault.Kind.providerRejected.name == "StopIteration") = false
        decide
      · exact h fault rfl

/-! ## Calls under a guard -/

/-- **The two guards of a provider are one.** -/
lemma around_awaitedProvider (operation : String) (call : Call ρ) :
    (awaitedProvider operation).around call = (provider operation).around call := by
  rw [around, around, finish_awaitedProvider_eq]
  rfl

lemma outcome_around_provider (operation : String) (call : Call ρ) :
    ((provider operation).around call).outcome = call.outcome.mapError (Fault.rejection operation) := by
  rw [← around_awaitedProvider, around]
  cases call.outcome with
  | ok value => rfl
  | error fault => exact finish_awaitedProvider operation fault

lemma outcome_guardAction (operation : String) (act : α → Call ρ) (args : α) :
    (guardAction operation act args).outcome =
      (act args).outcome.mapError (Fault.containment operation) := by
  rw [guardAction, around]
  cases (act args).outcome with
  | ok value => rfl
  | error fault => exact finish_action operation _ fault

end Guard

namespace Callback

lemma awaited_outcome_call {f : Callback α ρ} (h : f.isCoroutine = true) (args : α) :
    Guard.awaited (f.call args).outcome = (f.call args).outcome := by
  rw [call, if_pos h]
  exact Guard.awaited_awaited _

/-- What a guarded provider comes to: its guard around a call of the provider.  There is nothing left to
await. -/
lemma call_asProvider (f : Callback α ρ) (operation : String) (args : α) :
    (f.asProvider operation).call args = (Guard.provider operation).around (f.call args) := by
  rw [call, asProvider]
  cases hcoroutine : f.isCoroutine with
  | false => rfl
  | true =>
      show Guard.awaitCall ((Guard.awaitedProvider operation).around (f.call args)) = _
      rw [Guard.around_awaitedProvider, Guard.awaitCall, Guard.outcome_around_provider,
        Guard.awaited_mapError_rejection (awaited_outcome_call hcoroutine args),
        ← Guard.outcome_around_provider]

lemma outcome_asProvider (f : Callback α ρ) (operation : String) (args : α) :
    ((f.asProvider operation).call args).outcome =
      (f.call args).outcome.mapError (Fault.rejection operation) := by
  rw [call_asProvider, Guard.outcome_around_provider]

/-- A function that answers at once. -/
def plain (body : α → Call ρ) : Callback α ρ := ⟨false, body⟩

/-- A function that is awaited. -/
def coroutine (body : α → Call ρ) : Callback α ρ := ⟨true, body⟩

lemma call_asProvider_coroutine (body : α → Call ρ) (operation : String) (args : α) :
    ((coroutine body).asProvider operation).call args =
      ((plain fun args => Guard.awaitCall (body args)).asProvider operation).call args := by
  rw [call_asProvider, call_asProvider]
  rfl

/-- The guards agree about a provider just if awaiting it changes nothing. -/
lemma coroutine_agrees_iff (body : α → Call ρ) (operation : String) (args : α) :
    ((coroutine body).asProvider operation).call args = ((plain body).asProvider operation).call args ↔
      ∀ fault, (body args).outcome = .error fault → fault.isExhausted = false := by
  rw [← Guard.awaited_eq_self_iff, call_asProvider_coroutine]
  constructor
  · intro hagree
    have houtcome := congrArg Call.outcome hagree
    rw [outcome_asProvider, outcome_asProvider] at houtcome
    change (Guard.awaited (body args).outcome).mapError _ = (body args).outcome.mapError _ at houtcome
    rw [Guard.awaited_eq_self_iff]
    intro fault hfault
    refine Bool.eq_false_iff.mpr fun hstop => ?_
    have hawaited : (Guard.awaited (.error fault) : Except Fault ρ) =
        .error (.foreign "RuntimeError" "coroutine raised StopIteration") := by
      rw [Guard.awaited, hstop]
      rfl
    rw [hfault, hawaited] at houtcome
    have hreasons := Except.error.inj houtcome
    rw [Fault.rejection_of_exhausted hstop] at hreasons
    -- Both are rejections, but not for one reason.
    obtain rfl : Fault.foreign "RuntimeError" "coroutine raised StopIteration" = fault :=
      (Fault.providerRejected.inj hreasons).2
    exact absurd hstop (by decide)
  · intro hsame
    rw [call_asProvider, call_asProvider]
    show (Guard.provider operation).around ⟨Guard.awaited (body args).outcome, (body args).lines⟩ = _
    rw [hsame]
    rfl

/-- **The guards agree and are stable.**  The guard of a coroutine does what the guard of a function that
answers at once does with what awaiting makes of the call.  Only an exhausted iterator is another failure
then; the outcome and the lines are the same for all else that a function can do.  Values pass the guards.
So does what is no failure; any failure that leaves a guard is a rejection or, from an action, at least a
fault of our own.  Hence a second guard, under whatever name, changes nothing. -/
theorem guards_agree (operation other : String) (body : α → Call ρ) (f : Callback α ρ) (args : α) :
    ((coroutine body).asProvider operation).call args =
        ((plain fun args => Guard.awaitCall (body args)).asProvider operation).call args ∧
      (((coroutine body).asProvider operation).call args = ((plain body).asProvider operation).call args ↔
        ∀ fault, (body args).outcome = .error fault → fault.isExhausted = false) ∧
      ((f.asProvider operation).call args).outcome =
        (f.call args).outcome.mapError (Fault.rejection operation) ∧
      (∀ fault, ((f.asProvider operation).call args).outcome = .error fault →
        fault.isFailure = true → fault.isRejection = true) ∧
      (((f.asProvider operation).asProvider other).call args).outcome =
        ((f.asProvider operation).call args).outcome ∧
      (Guard.guardAction operation body args).outcome =
        (body args).outcome.mapError (Fault.containment operation) ∧
      (∀ fault, (Guard.guardAction operation body args).outcome = .error fault →
        fault.isFailure = true → fault.isOwn = true) ∧
      (Guard.guardAction other (Guard.guardAction operation body) args).outcome =
        (Guard.guardAction operation body args).outcome := by
  refine ⟨call_asProvider_coroutine body operation args, coroutine_agrees_iff body operation args,
    outcome_asProvider f operation args, ?_, ?_, Guard.outcome_guardAction operation body args, ?_, ?_⟩
  · rw [outcome_asProvider]
    intro fault hfault hfailure
    obtain ⟨raised, rfl⟩ := exists_of_mapError_eq_error hfault
    exact Fault.passes_wrapUnless (fun _ => rfl) hfailure
  · rw [outcome_asProvider, outcome_asProvider]
    exact mapError_mapError_of_forall (Fault.wrapUnless_wrapUnless (fun _ => rfl) _)
  · rw [Guard.outcome_guardAction]
    intro fault hfault hfailure
    obtain ⟨raised, rfl⟩ := exists_of_mapError_eq_error hfault
    exact Fault.passes_wrapUnless (fun _ => rfl) hfailure
  · rw [Guard.outcome_guardAction, Guard.outcome_guardAction]
    exact mapError_mapError_of_forall (Fault.wrapUnless_wrapUnless (fun _ => rfl) _)

/-- A function that misses a key. -/
def missing (_ : Unit) : Call String := ⟨.error (.missingKey "a"), []⟩

theorem missing_agrees : ((coroutine missing).asProvider "read").call () =
    ((plain missing).asProvider "read").call () := by
  refine (guards_agree "read" "read" missing (plain missing) ()).2.1.mpr ?_
  rintro _ ⟨rfl⟩
  decide

/-- A function that ends by an exhausted iterator. -/
def exhausted (_ : Unit) : Call String := ⟨.error (.foreign "StopIteration" "x"), []⟩

theorem exhausted_disagrees : ((coroutine exhausted).asProvider "op").call () ≠
    ((plain exhausted).asProvider "op").call () := by
  rw [Ne, coroutine_agrees_iff]
  intro h
  cases h _ rfl

end Callback

end CommandPalette
