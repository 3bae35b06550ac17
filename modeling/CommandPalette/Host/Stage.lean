import CommandPalette.Host.Script

/-!
# A scripted host on stage

The stage runs an engine through a list of acts.  A provider that waits at a closed gate leaves its
change open; when the gate is opened, the changes that wait there are completed in the order in which
they came.

* `Act`: what the host does.
* `Stage`: the engine, the gates, and the changes that wait.
* `Stage.perform`: one act, with all that it brought about.
-/

namespace CommandPalette.Host

/-- What the host does. -/
inductive Act where
  | change (text : String)
  | release (gates : List String)
  | enter (text : String) (disposition : Option String)
  | start
  | cancel
  | process (text : String)
  | stripLead (text : String)
  | register (commands : Except Fault (List Declaration))

/-- What an act comes to. -/
inductive Result where
  | suggestions (list : List Suggestion)
  | fault (fault : Fault)
  /-- The change with this number waits. -/
  | waits (index : Nat)
  | done
  | resolution (r : Command.Resolution (Scripted Action) (Scripted Provider))
  | lead (present : Bool) (rest : String)

/-- A change whose provider waits at a gate. -/
structure Waiting where
  /-- The number of the act. -/
  index : Nat
  gate : String
  request : Engine.Request (Scripted Provider)
  /-- What the provider will reply. -/
  outcome : Except Fault Provided

/-- An engine with a scripted host. -/
structure Stage where
  engine : Engine (Scripted Action) (Scripted Provider)
  /-- The gates that are open. -/
  opened : List String := []
  /-- The changes that wait, the oldest first. -/
  waiting : List Waiting := []
  calls : Calls := {}

/-- All that an act brought about. -/
structure Performance where
  result : Result
  events : List Event := []
  /-- The changes that were completed. -/
  completed : List (Nat × Result) := []
  lines : List Log.Entry := []

/-- The answer to a change as the host sees it: a cancelled change says no more than that. -/
def Result.ofAnswer : Except Fault (List Suggestion) → Result
  | .ok list => .suggestions list
  | .error raised =>
    .fault (if raised.isCancellation then .foreign raised.className "" else raised)

namespace Stage

/-- A change whose provider replies. -/
def settle (s : Stage) (request : Engine.Request (Scripted Provider))
    (outcome : Except Fault Provided) : Stage × Performance :=
  let answer := s.engine.settle request outcome
  ({ s with engine := answer.engine },
    { result := .ofAnswer answer.result
      events := answer.reported.map .told
      lines := answer.lines })

/-- Completes changes, one after the other. -/
def settleAll (s : Stage) : List Waiting → Stage × Performance
  | [] => (s, { result := .done })
  | w :: rest =>
    let (s, first) := s.settle w.request w.outcome
    let (s, later) := settleAll s rest
    (s, { result := .done
          events := first.events ++ later.events
          completed := (w.index, first.result) :: later.completed
          lines := first.lines ++ later.lines })

/-- Changes the line. -/
def change (s : Stage) (index : Nat) (text : String) : Stage × Performance :=
  match s.engine.change text with
  | .answered answer =>
    ({ s with engine := answer.engine },
      { result := .ofAnswer answer.result
        events := answer.reported.map .told
        lines := answer.lines })
  | .asks engine request lines =>
    let (gate, outcome, calls) := ask s.calls request.provider request.args
    let s := { s with engine, calls }
    let asked := Event.asked request.provider.place request.args
    match gate with
    | some gate =>
      if s.opened.contains gate then
        let (s, p) := s.settle request outcome
        (s, { p with events := asked :: p.events, lines := lines ++ p.lines })
      else
        ({ s with waiting := s.waiting ++ [⟨index, gate, request, outcome⟩] },
          { result := .waits index, events := [asked], lines })
    | none =>
      let (s, p) := s.settle request outcome
      (s, { p with events := asked :: p.events, lines := lines ++ p.lines })

/-- Opens gates, in order. -/
def release (s : Stage) (gates : List String) : Stage × Performance :=
  let freed := gates.eraseDups.flatMap fun gate => s.waiting.filter (·.gate == gate)
  let s := { s with
    opened := s.opened ++ gates
    waiting := s.waiting.filter fun w => !gates.contains w.gate }
  s.settleAll freed

/-- Submits the line. -/
def enter (s : Stage) (text : String) (disposition : Option String) : Stage × Performance :=
  let answer := s.engine.enter (fun action _ => action.script.run) text disposition
  ({ s with engine := answer.engine },
    { result := match answer.result with
        | .ok none => .done
        | .ok (some fault) => .fault fault
        | .error fault => .fault fault
      events := answer.ran.map fun (action, args) => .ran action.place args
      lines := answer.lines })

/-- Registers commands. -/
def register (s : Stage) : Except Fault (List Declaration) → Stage × Performance
  | .error fault => (s, { result := .fault fault })
  | .ok commands =>
    let answer := s.engine.register commands
    ({ s with engine := answer.engine },
      { result := match answer.result with
          | .ok () => .done
          | .error fault => .fault fault
        lines := answer.lines })

/-- An act with the given number. -/
def perform (s : Stage) (index : Nat) : Act → Stage × Performance
  | .change text => s.change index text
  | .release gates => s.release gates
  | .enter text disposition => s.enter text disposition
  | .start =>
    let answer := s.engine.start
    ({ s with engine := answer.engine }, { result := .done, lines := answer.lines })
  | .cancel =>
    let answer := s.engine.cancel
    ({ s with engine := answer.engine }, { result := .done, lines := answer.lines })
  | .process text =>
    (s, { result := .resolution (s.engine.process text), lines := s.engine.processRemarks text })
  | .stripLead text => (s, { result := .lead (s.engine.hasLead text) (s.engine.stripLead text) })
  | .register commands => s.register commands

end Stage

end CommandPalette.Host
