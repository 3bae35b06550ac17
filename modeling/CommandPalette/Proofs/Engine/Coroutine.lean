import CommandPalette.Engine
import CommandPalette.Proofs.Guard

/-!
# Providers that are awaited

A provider may answer at once, or hand back a coroutine, which may be suspended any number of times
before it ends.  The engine puts a coroutine of its own around every provider: it calls the provider,
awaits what it got if that can be awaited, and makes a list of what was provided.  While it waits, the
event loop resumes it again and again.

* `Coroutine`: what is left of a coroutine, `Coroutine.andThen` awaits one and goes on, and
  `Coroutine.enclosed` is one with a given body.
* `Reaction`: what calling a provider comes to at once, and `Reaction.wrapped`, the coroutine around it.
* `Engine.await`: the second half of a change, from the moment on at which the wrapper is awaited.
* **`Engine.await_wrapped`**: however often the wrapper is suspended, this is the second half of a
  change whose provider had the same outcome at once.
-/

namespace CommandPalette

variable {ρ σ : Type}

/-! ## Coroutines -/

/-- What is left of a coroutine. -/
inductive Coroutine (ρ : Type) where
  | ended (outcome : Except Fault ρ)
  | suspended (rest : Coroutine ρ)

namespace Coroutine

/-- What a coroutine comes to if it is resumed until it ends. -/
def outcome : Coroutine ρ → Except Fault ρ
  | ended outcome => outcome
  | suspended rest => rest.outcome

/-- Awaits a coroutine and goes on with what it returned. -/
def andThen (c : Coroutine ρ) (next : ρ → Coroutine σ) : Coroutine σ :=
  match c with
  | ended (.ok value) => next value
  | ended (.error fault) => ended (.error fault)
  | suspended rest => suspended (rest.andThen next)

/-- A coroutine with the given body, out of which no exhausted iterator gets. -/
def enclosed : Coroutine ρ → Coroutine ρ
  | ended outcome => ended (Guard.awaited outcome)
  | suspended rest => suspended rest.enclosed

@[simp] lemma outcome_andThen (c : Coroutine ρ) (next : ρ → Coroutine σ) :
    (c.andThen next).outcome = c.outcome >>= fun value => (next value).outcome := by
  induction c with
  | ended outcome => cases outcome <;> rfl
  | suspended rest ih => exact ih

@[simp] lemma outcome_enclosed (c : Coroutine ρ) : c.enclosed.outcome = Guard.awaited c.outcome := by
  induction c with
  | ended outcome => rfl
  | suspended rest ih => exact ih

end Coroutine

/-! ## Reactions -/

/-- What calling a provider comes to at once. -/
inductive Reaction where
  | returns (provided : Provided)
  | raises (fault : Fault)
  /-- A coroutine is handed back. -/
  | awaits (c : Coroutine Provided)

namespace Reaction

/-- What the wrapper has before it makes a list of it. -/
def provided : Reaction → Coroutine Provided
  | returns provided => .ended (.ok provided)
  | raises fault => .ended (.error fault)
  | awaits c => c

/-- The coroutine that is put around every provider. -/
def wrapped (r : Reaction) : Coroutine (List Item) :=
  (r.provided.andThen fun provided => .ended provided.items?).enclosed

end Reaction

/-! ## What the wrapper comes to -/

lemma Provided.awaited_items? (provided : Provided) :
    Guard.awaited provided.items? = provided.items? := by
  cases provided with
  | items list => rfl
  | value v =>
      simp only [items?]
      split
      · rfl
      · split <;> rfl

lemma Reaction.outcome_wrapped (r : Reaction) :
    r.wrapped.outcome = Guard.awaited r.provided.outcome >>= Provided.items? := by
  simp only [wrapped, Coroutine.outcome_enclosed, Coroutine.outcome_andThen]
  exact Guard.awaited_bind Provided.awaited_items? _

/-! ## Changes that wait -/

namespace Engine

variable {α β : Type}

/-- The second half of a change, from the moment on at which the wrapper is awaited. -/
def await (e : Engine α β) (request : Request β) :
    Coroutine (List Item) → Answer α β (Except Fault (List Suggestion))
  | .ended outcome => e.settle request (outcome.map .items)
  | .suspended rest => e.await request rest

lemma await_eq (e : Engine α β) (request : Request β) (c : Coroutine (List Item)) :
    e.await request c = e.settle request (c.outcome.map .items) := by
  induction c with
  | ended outcome => rfl
  | suspended rest ih => exact ih

/-- The second half of a change depends only on the suggestions that are awaited. -/
lemma settle_congr {outcome outcome' : Except Fault Provided}
    (h : Guard.awaited outcome >>= Provided.suggestions? =
      Guard.awaited outcome' >>= Provided.suggestions?) (e : Engine α β) (request : Request β) :
    e.settle request outcome = e.settle request outcome' := by
  rw [settle, settle, h]

lemma settle_awaited (e : Engine α β) (request : Request β) (outcome : Except Fault Provided) :
    e.settle request (Guard.awaited outcome) = e.settle request outcome :=
  settle_congr (by simp) e request

/-- **A wrapper that is awaited**, however often it is suspended, comes to what the provider's own
outcome comes to. -/
lemma await_wrapped (e : Engine α β) (request : Request β) (r : Reaction) :
    e.await request r.wrapped = e.settle request r.provided.outcome := by
  rw [await_eq, r.outcome_wrapped, ← settle_awaited e request r.provided.outcome]
  refine settle_congr ?_ e request
  rw [Guard.awaited_map, Guard.awaited_bind Provided.awaited_items?, Guard.awaited_awaited]
  cases Guard.awaited r.provided.outcome with
  | error fault => rfl
  | ok provided =>
      show provided.items?.map .items >>= Provided.suggestions? = provided.suggestions?
      rw [Provided.suggestions?.eq_def provided]
      cases provided.items? <;> rfl

end Engine

end CommandPalette
