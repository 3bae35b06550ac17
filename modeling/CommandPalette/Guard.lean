import CommandPalette.Fault
import CommandPalette.Log.Entry

/-!
# Guarded calls

Callbacks of the host may fail in any way.  A guard stands around such a call: it writes what happens
to the log and turns failures into faults of our own, so that the engine has one kind of failure to
deal with.  A guard is a list of clauses, of which the first that fits a fault decides; a fault that
no clause fits passes.

* `Call`: what a call came to, and the lines written meanwhile.
* `Guard`: the guards; `Guard.around` puts one around a call.
* `Guard.provider`, `Guard.awaitedProvider`, `Guard.action`: the guards of the callbacks.
* `Callback`: a function of the host; `Callback.asProvider` and `Guard.guardAction` put it under a guard.
-/

namespace CommandPalette

/-- What a call came to, and the lines written meanwhile. -/
structure Call (ρ : Type _) where
  /-- The value that was returned, or the fault that was raised. -/
  outcome : Except Fault ρ
  /-- The lines written to the log. -/
  lines : List Log.Entry := []

/-- A clause of a guard. -/
structure Guard.Clause where
  /-- The faults that the clause is about. -/
  fits : Fault → Bool
  /-- What becomes of them; `none` leaves them as they are. -/
  wraps : Option (Fault → Fault)

/-- A guard of an operation. -/
structure Guard where
  /-- The operation in words. -/
  operation : String
  /-- The channel of the lines. -/
  channel : String
  /-- The line before the call. -/
  opening : String
  /-- The line after a call that returned, if there is one. -/
  closing : Option String
  /-- What is done about faults. -/
  clauses : List Guard.Clause

namespace Guard

variable {ρ : Type _}

/-! ## The guards of the callbacks -/

/-- Faults of this class are left as they are. -/
def Clause.pass (fits : Fault → Bool) : Clause := ⟨fits, none⟩

/-- Failures are reported as a fault of our own, with the failure as its reason. -/
def Clause.wrapFailures (wrap : Fault → Fault) : Clause := ⟨Fault.isFailure, some wrap⟩

/-- The channel of the lines about a suggestion provider. -/
def providerChannel (operation : String) : String := "omnicli.providers." ++ operation

/-- The channel of the lines about an action. -/
def actionChannel (operation : String) : String := "omnicli.actions." ++ operation

/-- The guard of a suggestion provider that answers at once.  A rejection that the provider itself
reports is left as it is. -/
def provider (operation : String) : Guard where
  operation
  channel := providerChannel operation
  opening := s!"Starting {operation}"
  closing := some s!"{operation} completed successfully"
  clauses := [.pass Fault.isRejection, .wrapFailures (.providerRejected operation)]

/-- The guard of a suggestion provider that is awaited.  Being cancelled is no failure. -/
def awaitedProvider (operation : String) : Guard where
  operation
  channel := providerChannel operation
  opening := s!"Starting {operation}"
  closing := some s!"{operation} completed successfully"
  clauses := [.pass Fault.isRejection, .pass Fault.isCancellation,
    .wrapFailures (.providerRejected operation)]

/-- The guard of an action.  Faults of our own kinds are left as they are. -/
def action (operation channel : String) : Guard where
  operation
  channel
  opening := s!"Running {operation}"
  closing := none
  clauses := [.pass Fault.isOwn, .wrapFailures (.actionFailed operation)]

/-! ## Guarding a call -/

/-- The line before the call. -/
def started (g : Guard) : Log.Entry := .debug g.channel g.opening

/-- What the first clause that fits a fault does to it. -/
def wrapper? (clauses : List Clause) (fault : Fault) : Option (Fault → Fault) :=
  (clauses.find? (·.fits fault)).bind Clause.wraps

/-- What a call comes to under a guard, and the lines after it. -/
def finish (g : Guard) : Except Fault ρ → Call ρ
  | .ok value =>
    ⟨.ok value, g.closing.toList.map (.debug g.channel)⟩
  | .error fault => match wrapper? g.clauses fault with
    | none => ⟨.error fault, []⟩
    | some wrap =>
      ⟨.error (wrap fault), [.error g.channel s!"{g.operation} failed: {fault.message}"]⟩

/-- A call under a guard. -/
def around (g : Guard) (call : Call ρ) : Call ρ :=
  let finished := g.finish call.outcome
  ⟨finished.outcome, g.started :: call.lines ++ finished.lines⟩

/-- The outcome of a call that is awaited: one that ends by an exhausted iterator has no way to say
so, and fails instead. -/
def awaited : Except Fault ρ → Except Fault ρ
  | .error fault =>
    if fault.isExhausted then
      .error (.foreign "RuntimeError" "coroutine raised StopIteration")
    else .error fault
  | outcome => outcome

/-- A call that is awaited. -/
def awaitCall (call : Call ρ) : Call ρ := { call with outcome := awaited call.outcome }

/-- An action under its guard. -/
def guardAction {α : Type _} (operation : String) (act : α → Call ρ) (args : α) : Call ρ :=
  (action operation (actionChannel operation)).around (act args)

end Guard

/-- A function of the host, which may be a coroutine. -/
structure Callback (α ρ : Type _) where
  /-- Whether a call has to be awaited. -/
  isCoroutine : Bool
  /-- What the function does with its arguments. -/
  body : α → Call ρ

namespace Callback

variable {α ρ : Type _}

/-- What calling the function comes to, and awaiting it if it is a coroutine. -/
def call (f : Callback α ρ) (args : α) : Call ρ :=
  if f.isCoroutine then Guard.awaitCall (f.body args) else f.body args

/-- A suggestion provider under its guard, which is a coroutine just if the provider is one. -/
def asProvider (f : Callback α ρ) (operation : String) : Callback α ρ where
  isCoroutine := f.isCoroutine
  body args :=
    let guard := if f.isCoroutine then Guard.awaitedProvider operation else Guard.provider operation
    guard.around (f.call args)

end Callback

end CommandPalette
