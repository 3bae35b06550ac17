import CommandPalette.Arrangement
import CommandPalette.Command.Resolution
import CommandPalette.Guard
import CommandPalette.Session
import CommandPalette.Settings.Config

/-!
# The engine

The engine answers the events of one input line.  A change of the line is answered in two halves:
`change` notes it and finds out what to suggest, and where a provider has to be asked, `settle` takes
the provider's answer, whenever it comes.  Between the halves other events may have moved the session
on; an answer to an earlier line then changes nothing.

* `Engine`: the settings, the commands and the session.
* `Engine.change`, `Engine.settle`: the two halves of a change.
* `Engine.enter`: a submission.
* `Engine.start`, `Engine.cancel`: the limits of a session.
-/

namespace CommandPalette

open Command Motion

variable {α β : Type}

/-! ## What callbacks answer -/

/-- What a provider returned: a list of items, or another value. -/
inductive Provided where
  | items (items : List Item)
  | value (v : Value)
  deriving Inhabited

/-- The items that a provider returned.  An empty value of any type stands for none. -/
def Provided.items? : Provided → Except Fault (List Item)
  | items list => .ok list
  | value v =>
    if !v.truthy then .ok []
    else match v.items? with
      | some parts => .ok (parts.map .value)
      | none => .error (.notIterable v.typeName)

/-- The suggestions that a provider returned. -/
def Provided.suggestions? (provided : Provided) : Except Fault (List Suggestion) := do
  (← provided.items?).mapM Item.suggestion?

/-- What an action returned. -/
inductive Returned where
  | value (v : Value)
  /-- A fault that was not raised but handed back. -/
  | fault (fault : Fault)
  deriving Inhabited

/-! ## The engine -/

/-- The engine of one input line, with actions in `α` and suggestion providers in `β`. -/
structure Engine (α β : Type) where
  /-- The settings. -/
  config : Settings.Config := {}
  /-- The commands. -/
  registry : Registry α β := {}
  /-- The state of the typing episode. -/
  session : Session := {}
  /-- The host's callback for failures of providers, by what it raises itself. -/
  onError : Option (Fault → Option Fault) := none

/-- What an event comes to: the engine afterwards and the answer to the host. -/
structure Engine.Answer (α β ρ : Type) where
  /-- The engine after the event. -/
  engine : Engine α β
  /-- The answer, or the fault that the host has to deal with. -/
  result : ρ
  /-- The lines written to the log. -/
  lines : List Log.Entry := []
  /-- The faults that were reported to the host's callback. -/
  reported : List Fault := []
  /-- The actions that were run, with what they were run for. -/
  ran : List (α × List String) := []

/-- A provider that has to be asked, with all that its answer will need. -/
structure Engine.Request (β : Type) where
  /-- The line that was changed to. -/
  text : String
  /-- The number of the change. -/
  sequence : Nat
  /-- The provider. -/
  provider : β
  /-- What the provider is asked about. -/
  args : List String
  /-- The path of the command, where it has to stand before each suggestion. -/
  path : Option String

/-- The first half of a change. -/
inductive Engine.Change (α β : Type) where
  /-- The change is answered. -/
  | answered (answer : Engine.Answer α β (Except Fault (List Suggestion)))
  /-- A provider has to be asked first. -/
  | asks (engine : Engine α β) (request : Engine.Request β) (lines : List Log.Entry)

/-- What a submission runs. -/
structure Engine.Submission (α : Type) where
  /-- The path of the command. -/
  name : String
  /-- Its action; nothing is done if there is none. -/
  action : Option α
  /-- The arguments. -/
  args : List String

namespace Engine

/-- The channel of the engine's lines. -/
def channel : String := "omnicli.engine"

/-- An engine for a list of command trees, or the refusal of a tree; and the lines written to the
log. -/
def make (config : Settings.Config) (onError : Option (Fault → Option Fault))
    (commands : List (Declaration α β)) : Except Fault (Engine α β) × List Log.Entry :=
  let registry : Registry α β := { defaultName := config.input.defaultCommand }
  let (registry, fault, lines) := registry.register commands
  match fault with
  | some fault => (.error fault, lines)
  | none => (.ok { config, registry, onError }, lines)

/-- What every command line starts with. -/
def lead (e : Engine α β) : String := e.config.input.lead

/-- The text that names all roots. -/
def defaultText (e : Engine α β) : String :=
  ", ".intercalate <| e.registry.topLevelNames.map fun name => e.lead ++ name.plain

/-- Whether a line is a command line. -/
def hasLead (e : Engine α β) (text : String) : Bool := e.lead.toList.isPrefixOf text.toList

/-- The line after what every command line starts with. -/
def stripLead (e : Engine α β) (text : String) : String :=
  if e.hasLead text then String.ofList (text.toList.drop e.lead.length) else text

/-- The command line that a line holds. -/
def commandLine (e : Engine α β) (text : String) : String :=
  let line := e.stripLead text
  if e.config.vim.enabled then String.ofList (stripSegments line.toList) else line

/-- What a line means. -/
def process (e : Engine α β) (text : String) : Resolution α β :=
  e.registry.resolve (e.commandLine text)

/-- The lines that finding this out writes to the log. -/
def processRemarks (e : Engine α β) (text : String) : List Log.Entry :=
  e.registry.resolveRemarks (e.commandLine text)

/-- Whether the motions of a line are read and there are any. -/
def hasMotion (e : Engine α β) (text : String) : Bool :=
  e.config.vim.enabled && !(segments (e.stripLead text).toList).isEmpty

/-! ## What is suggested without asking

A description may be of any type, and one that has no text spoils the whole list.
-/

/-- The suggestion of a command. -/
def commandSuggestion (e : Engine α β) (name : String) (description : Value) :
    Except Fault Suggestion := do
  let content := e.lead ++ name
  if description.truthy then
    return { content, description := name ++ " - " ++ (← description.write) }
  else return { content, description := name }

/-- What is suggested where nothing matches: a placeholder and all commands. -/
def listing (e : Engine α β) : Except Fault (List Suggestion) := do
  let placeholder : Suggestion := { content := "", description := e.config.input.emptyHint }
  if e.config.input.listAllCommands then
    let commands ← e.registry.entries.mapM fun entry =>
      e.commandSuggestion entry.name entry.description
    return placeholder :: commands
  else return [placeholder]

/-- The suggestion of a command below another one. -/
def childSuggestion? (e : Engine α β) (path : String) :
    Declaration α β → Option (Except Fault Suggestion)
  | .command name _ description .. => some do
    e.commandSuggestion (path ++ " " ++ (← name.write)) description
  | .other _ => none

/-- What is suggested for a command without a provider: itself and the commands below it. -/
def entrySuggestions (e : Engine α β) (entry : Entry α β) : Except Fault (List Suggestion) := do
  let own ← e.commandSuggestion entry.name entry.description
  let below ← (entry.subcommands.filterMap (e.childSuggestion? entry.name)).mapM id
  return own :: below

/-! ## Changes -/

/-- How annotated entries look. -/
def look (e : Engine α β) : Annotation where
  hint := e.config.vim.highlightHint
  keyFormat := e.config.vim.keyFormat

/-- The session after the motions of a line were read, given how many entries the menu has; and the
lines written to the log.  Jump codes are made only once motions are in use. -/
def move (e : Engine α β) (text : String) (size : Nat) : Session × List Log.Entry :=
  if !e.config.vim.enabled then (e.session, [])
  else
    let line := (e.stripLead text).toList
    let (session, made) :=
      if e.session.vimMode || e.hasMotion text then e.session.withKeymap size else (e.session, [])
    let keymap :=
      if e.session.vimMode || e.hasMotion text then session.keymap.getD {} else {}
    let (session, entered) := session.applyMotion (read keymap line)
    (session, made ++ readRemarks keymap line ++ entered)

/-- Shows a menu for a line. -/
def present (e : Engine α β) (text : String) (suggestions : List Suggestion) :
    Answer α β (Except Fault (List Suggestion)) :=
  let (session, lines) := e.move text suggestions.length
  match arrange e.look session.vimMode session.keymap session.position.y suggestions with
  | .error fault => { engine := { e with session }, result := .error fault, lines }
  | .ok menu =>
    { engine := { e with session := session.complete menu.suggestions menu.selected }
      result := .ok menu.suggestions
      lines }

/-- The guard of the providers. -/
def providerGuard : Guard := .awaitedProvider "suggestion_provider"

/-- The first half of a change.  A line that is no command line has no suggestions, and leaves the
session as it is.  Where a suggestion cannot be worded, nothing is shown. -/
def change (e : Engine α β) (text : String) : Change α β :=
  if !e.hasLead text then .answered { engine := e, result := .ok [] }
  else
    let e := { e with session := e.session.beginChange text }
    let resolution := e.process text
    let remarks := e.processRemarks text
    let shown (suggestions : Except Fault (List Suggestion)) : Change α β :=
      match suggestions with
      | .error fault => .answered { engine := e, result := .error fault, lines := remarks }
      | .ok suggestions =>
        let answer := e.present text suggestions
        .answered { answer with lines := remarks ++ answer.lines }
    match resolution.command with
    | none => shown e.listing
    | some entry =>
      let isDefault := e.registry.isDefault entry
      match entry.provider with
      | some provider =>
        .asks e
          { text, sequence := e.session.sequence, provider, args := resolution.args
            path := if isDefault then none else some entry.name }
          (remarks ++ [providerGuard.started])
      | none => shown (if isDefault then e.listing else e.entrySuggestions entry)

/-- A suggestion of a provider, with the path of its command before the content. -/
def underPath (path : Option String) (s : Suggestion) : Suggestion :=
  match path with
  | none => s
  | some path => { content := path ++ " " ++ s.content, description := s.description }

/-- Reports a failure to the host.  The host's callback is outside the engine's control: what fails
there is noted in the log and goes no further. -/
def report (e : Engine α β) (fault : Fault) : Answer α β (Except Fault Unit) :=
  let e := { e with session := { e.session with lastError := some fault } }
  match e.onError with
  | none => { engine := e, result := .ok () }
  | some callback => match callback fault with
    | none => { engine := e, result := .ok (), reported := [fault] }
    | some raised =>
      if raised.isFailure then
        { engine := e, result := .ok (), reported := [fault]
          lines := [.error channel "on_error callback failed"] }
      else { engine := e, result := .error raised, reported := [fault] }

/-- The answer to a change whose provider failed: an empty menu, and a report. -/
def reject (e : Engine α β) (text : String) (fault : Fault) :
    Answer α β (Except Fault (List Suggestion)) :=
  let (session, entered) := if e.hasMotion text then e.session.enterVimMode else (e.session, [])
  let answer := { e with session := session.complete [] "" }.report fault
  { engine := answer.engine
    result := answer.result.map fun _ => []
    lines := entered ++ answer.lines
    reported := answer.reported }

/-- The second half of a change, once the provider has answered or failed. -/
def settle (e : Engine α β) (request : Request β) (outcome : Except Fault Provided) :
    Answer α β (Except Fault (List Suggestion)) :=
  let call := providerGuard.finish (Guard.awaited outcome >>= Provided.suggestions?)
  let current := e.session.isCurrent request.sequence
  match call.outcome with
  | .error fault =>
    if !fault.isRejection then { engine := e, result := .error fault, lines := call.lines }
    else if !current then { engine := e, result := .ok [], lines := call.lines }
    else
      let answer := e.reject request.text fault
      { answer with lines := call.lines ++ answer.lines }
  | .ok suggestions =>
    if !current then
      let remark := .debug channel
        s!"Discarding stale suggestions for '{request.text}' (#{request.sequence})"
      { engine := e, result := .ok [], lines := call.lines ++ [remark] }
    else
      let answer := e.present request.text (suggestions.map (underPath request.path))
      { answer with lines := call.lines ++ answer.lines }

/-! ## Submissions -/

/-- What a submitted line runs, or the fault that nothing is run for; and the lines written to the
log. -/
def submission (e : Engine α β) (text : String) (disposition : Option String) :
    Except Fault (Submission α) × List Log.Entry :=
  if !e.hasLead text then (.error (.prefixMismatch e.lead text), [])
  else
    let source := e.session.submissionText text
    let resolution := e.process source
    let remarks := e.processRemarks source
    match resolution.command with
    | none => (.error (.noCommandMatched source resolution.args), remarks)
    | some entry =>
      let suffix := match disposition with
        | some d => if d.isEmpty then "" else s!" ({d})"
        | none => ""
      let note := s!"Running '{entry.name}' with {Value.quotedTexts resolution.args}{suffix}"
      (.ok ⟨entry.name, entry.action, resolution.args⟩, remarks ++ [.debug channel note])

/-- Runs the action of a submission, if there is one: what comes of it, and the calls that are made. -/
def Submission.run (s : Submission α) (act : α → List String → Except Fault Returned) :
    Except Fault Returned × List (α × List String) :=
  match s.action with
  | some action => (act action s.args, [(action, s.args)])
  | none => (.ok (.value .null), [])

/-- What a submission comes to once the action was run.  The result is the fault that the host is
told about, or the one that passes the engine by. -/
def runAction (s : Submission α) (outcome : Except Fault Returned) : Call (Option Fault) :=
  let call := (Guard.action s.name channel).around ⟨outcome, []⟩
  match call.outcome with
  | .ok (.value _) => { call with outcome := .ok none }
  | .ok (.fault fault) => { call with outcome := .ok (if fault.isFailure then some fault else none) }
  | .error fault => { call with outcome := if fault.isOwn then .ok (some fault) else .error fault }

/-- A submission; `act` runs an action.  Whatever comes of it, the session is over. -/
def enter (e : Engine α β) (act : α → List String → Except Fault Returned) (text : String)
    (disposition : Option String) : Answer α β (Except Fault (Option Fault)) :=
  let engine := { e with session := e.session.reset }
  match e.submission text disposition with
  | (.error fault, lines) => { engine, result := .ok (some fault), lines }
  | (.ok s, lines) =>
    let (outcome, ran) := s.run act
    let call := runAction s outcome
    { engine, result := call.outcome, lines := lines ++ call.lines, ran }

/-! ## The limits of a session -/

/-- A session starts. -/
def start (e : Engine α β) : Answer α β Unit where
  engine := { e with session := e.session.reset }
  result := ()
  lines := [.debug channel "Input session started"]

/-- A session is cancelled. -/
def cancel (e : Engine α β) : Answer α β Unit where
  engine := { e with session := e.session.reset }
  result := ()
  lines := [.debug channel "Input session cancelled"]

/-- Registers more commands. -/
def register (e : Engine α β) (commands : List (Declaration α β)) :
    Answer α β (Except Fault Unit) :=
  let (registry, fault, lines) := e.registry.register commands
  { engine := { e with registry }
    result := match fault with
      | some fault => .error fault
      | none => .ok ()
    lines }

end Engine

end CommandPalette
