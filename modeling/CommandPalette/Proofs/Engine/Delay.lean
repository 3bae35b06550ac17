import CommandPalette.Proofs.Engine.Coroutine
import CommandPalette.Proofs.Engine.Run
import Mathlib.Data.List.Forall2

/-!
# Providers that take their time

A host that waits for the answer to every change before it does anything else cannot tell a provider
that answers at once from one that takes its time and then answers the same.

* `Reaction.Delayed`: a provider that answers at once, and the same provider as a coroutine.
* `Engine.Act`, `Engine.perform`, `Engine.run`: what such a host does, one act after the other, and
  all that comes of it.
* `Engine.perform_delayed`, **`Engine.run_delayed`**: nothing of this depends on whether providers are
  delayed.
* `Engine.changed_plays`: a change that nothing comes between is two events of a run.
-/

namespace CommandPalette

/-! ## Delays -/

/-- What a provider answers at once, another one answers as a coroutine: its body is suspended as often
as it likes, and then returns or raises the same. -/
inductive Reaction.Delayed : Reaction → Reaction → Prop
  | same (r : Reaction) : Delayed r r
  | returns {provided : Provided} (body : Coroutine Provided) (h : body.outcome = .ok provided) :
      Delayed (.returns provided) (.awaits body.enclosed)
  | raises {fault : Fault} (body : Coroutine Provided) (h : body.outcome = .error fault) :
      Delayed (.raises fault) (.awaits body.enclosed)

/-- What is awaited of a delayed provider differs at most by what the end of its body does, and that is
done once more where it is awaited. -/
lemma Reaction.Delayed.awaited_outcome {r r' : Reaction} (h : r.Delayed r') :
    Guard.awaited r'.provided.outcome = Guard.awaited r.provided.outcome := by
  cases h with
  | same => rfl
  | returns body hbody | raises body hbody => simp [provided, Coroutine.outcome, hbody]

namespace Engine

variable {α β : Type}

/-! ## A host that waits -/

/-- What a host does that lets each change finish before the next act.  The providers need not react to
each change alike. -/
inductive Act (α β : Type) where
  | change (text : String) (react : β → List String → Reaction)
  | enter (act : α → List String → Except Fault Returned) (text : String)
      (disposition : Option String)
  | start
  | cancel
  | register (commands : List (Command.Declaration α β))

/-- What an act returns or raises. -/
inductive Result where
  | suggestions (result : Except Fault (List Suggestion))
  | submission (result : Except Fault (Option Fault))
  | registration (result : Except Fault Unit)
  | done

/-- An answer with another result. -/
def Answer.map {ρ σ : Type} (f : ρ → σ) (answer : Answer α β ρ) : Answer α β σ where
  engine := answer.engine
  result := f answer.result
  lines := answer.lines
  reported := answer.reported

/-- A change from its beginning to its end. -/
def changed (e : Engine α β) (text : String) (react : β → List String → Reaction) :
    Answer α β (Except Fault (List Suggestion)) :=
  match e.change text with
  | .answered answer => answer
  | .asks engine request lines =>
    let answer := engine.await request (react request.provider request.args).wrapped
    { answer with lines := lines ++ answer.lines }

/-- An act: the engine afterwards, what the host is returned and told, and the lines written to the
log. -/
def perform (e : Engine α β) : Act α β → Answer α β Result
  | .change text react => (e.changed text react).map .suggestions
  | .enter act text disposition => (e.enter act text disposition).map .submission
  | .start => e.start.map fun _ => .done
  | .cancel => e.cancel.map fun _ => .done
  | .register commands => (e.register commands).map .registration

/-- One act after the other. -/
def run (e : Engine α β) : List (Act α β) → List (Answer α β Result)
  | [] => []
  | act :: rest => e.perform act :: (e.perform act).engine.run rest

/-- A change that nothing comes between is two events of a run: the change and, where a provider was
asked, its answer. -/
lemma changed_plays {e : Engine α β} {text : String} {react : β → List String → Reaction}
    {outcome : Except Fault Provided} (h : ∀ engine request lines,
      e.change text = .asks engine request lines →
        outcome = (react request.provider request.args).provided.outcome) (call : ℕ) :
    let events := [.change call text, .settle call outcome]
    e.live.after events = (e.changed text react).engine.live ∧
      (e.changed text react).effects call <:+ e.live.trace events := by
  intro events
  unfold changed
  cases hchange : e.change text with
  | answered answer => simp [events, Live.after, Live.trace, Live.step, Live.noted, live, hchange]
  | asks engine request lines =>
      have hanswer := engine.await_wrapped request (react request.provider request.args)
      rw [← h engine request lines hchange] at hanswer
      have htrace : e.live.trace events =
          .asked call request.provider request.args :: (engine.settle request outcome).effects call := by
        simp [events, Live.trace, Live.step, Live.noted, live, hchange]
      simp only [hanswer, htrace]
      refine ⟨?_, List.suffix_cons _ _⟩
      simp [events, Live.after, Live.step, Live.noted, live, hchange]

/-! ## What the host can tell -/

/-- Two acts that differ at most in the delay of providers. -/
inductive Act.Delayed : Act α β → Act α β → Prop
  | same (act : Act α β) : Delayed act act
  | change (text : String) {react react' : β → List String → Reaction}
      (h : ∀ provider args, (react provider args).Delayed (react' provider args)) :
      Delayed (.change text react) (.change text react')

lemma await_delayed {r r' : Reaction} (h : r.Delayed r') (e : Engine α β) (request : Request β) :
    e.await request r'.wrapped = e.await request r.wrapped := by
  rw [await_wrapped, await_wrapped]
  exact settle_congr (by rw [h.awaited_outcome]) e request

lemma changed_delayed {react react' : β → List String → Reaction}
    (h : ∀ provider args, (react provider args).Delayed (react' provider args)) (e : Engine α β)
    (text : String) : e.changed text react' = e.changed text react := by
  unfold changed
  cases e.change text with
  | answered answer => rfl
  | asks engine request lines => simp only [await_delayed (h request.provider request.args)]

/-- **One act**: the host cannot tell whether the providers take their time. -/
lemma perform_delayed {act act' : Act α β} (h : act.Delayed act') (e : Engine α β) :
    e.perform act' = e.perform act := by
  cases h with
  | same => rfl
  | change text hreact => rw [perform, perform, changed_delayed hreact]

/-- **Providers that answer at once and coroutines are interchangeable** for a host that lets each
change finish before its next act: whatever engine it starts with and whatever it does, each act
returns or raises the same, the same failures are reported to its callback, and the engine with its
session is the same afterwards. -/
theorem run_delayed {acts acts' : List (Act α β)} (h : List.Forall₂ Act.Delayed acts acts')
    (e : Engine α β) : e.run acts' = e.run acts := by
  induction h generalizing e with
  | nil => rfl
  | cons hact _ ih => rw [run, run, perform_delayed hact, ih]

/-- A command that leaves its suggestions to a provider, for a host that hears of failures. -/
def counter : Engine Unit Unit where
  registry := (({} : Command.Registry Unit Unit).register
    [.command (.text "list") [] .null .absent [] (.callable ())]).1
  onError := some fun _ => none

/-- A provider that returns a mapping in a list, and then runs out of an iterator: at once, and after
one suspension or two. -/
theorem counter_run_delayed :
    let acts (first second : Reaction) : List (Act Unit Unit) :=
      [.change "list" fun _ _ => first, .change "list x" fun _ _ => second, .cancel]
    let provided : Provided := .items [.value (.table [(.text "content", .text "a")])]
    let stop : Fault := .foreign "StopIteration" ""
    let prompt := acts (.returns provided) (.raises stop)
    let late := acts (.awaits (Coroutine.suspended (.ended (.ok provided))).enclosed)
      (.awaits (Coroutine.suspended (.suspended (.ended (.error stop)))).enclosed)
    List.Forall₂ Act.Delayed prompt late ∧ counter.run late = counter.run prompt ∧
      (counter.run late).map (fun answer => answer.engine.session.suggestions.map Suggestion.content) =
        [["list a"], [], []] ∧
      (counter.run late).map (fun answer => answer.reported.map Fault.message) =
        [[], ["suggestion_provider failed: coroutine raised StopIteration"], []] := by
  intro acts provided stop prompt late
  have hdelayed : List.Forall₂ Act.Delayed prompt late :=
    .cons (.change "list" fun _ _ => .returns _ rfl)
      (.cons (.change "list x" fun _ _ => .raises _ rfl) (.cons (.same .cancel) .nil))
  exact ⟨hdelayed, run_delayed hdelayed counter, by decide +kernel, by decide +kernel⟩

end Engine

end CommandPalette
