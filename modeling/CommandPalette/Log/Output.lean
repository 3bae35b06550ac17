import CommandPalette.FileTree
import CommandPalette.Log.Layout
import CommandPalette.Settings.Config

/-!
# Where lines go

The library writes its lines on one family of channels.  Until an output is set up they go nowhere;
afterwards they go to the console, and to a file if the settings name one.  That a file grows too large and
a new one is begun is left out.

* `Handler`: a place that lines go to; `Output`: all of them.
* `Output.setUp`: sets an output up as the settings ask.
* `Output.write`: writes a record to every handler.
-/

namespace CommandPalette.Log

open CommandPalette.Text

/-! ## Handlers -/

/-- A file that lines go to. -/
structure LogFile where
  /-- Its path from the root on. -/
  path : Path
  /-- The size at which a new file is begun. -/
  maxBytes : Int
  /-- How many old files are kept. -/
  backupCount : Int
  deriving DecidableEq, Repr, Inhabited

/-- What a handler writes to. -/
inductive Target where
  | console (colored : Bool)
  | file (f : LogFile)
  deriving DecidableEq, Repr, Inhabited

/-- A place that lines go to. -/
structure Handler where
  /-- Lines below this level are left out. -/
  level : Level
  target : Target
  deriving DecidableEq, Repr, Inhabited

/-- What writing comes to: the texts that the console shows, and the files. -/
structure Written where
  shown : List String := []
  files : FileSystem

/-- Writes a record to a handler.  The console notes on the record the time that it shows.  A record
that cannot be laid out is left out. -/
def Target.write (files : FileSystem) (r : Record) : Target → Written × Record
  | console colored => match r.consoleText colored with
    | .ok text => ({ shown := [text], files }, r.afterConsole)
    | .error _ => ({ files }, r)
  | file f => match r.jsonText with
    | .ok text => match files.append f.path (Utf8.encode (text ++ "\n")) with
      | .ok files => ({ files }, r)
      | .error _ => ({ files }, r)
    | .error _ => ({ files }, r)

/-! ## Outputs -/

/-- The channel above all channels of the library. -/
def packageChannel : String := "omnicli"

/-- Whether a channel is one of the library's. -/
def isOwnChannel (channel : String) : Bool :=
  channel == packageChannel || (packageChannel ++ ".").isPrefixOf channel

/-- The state of the library's log. -/
structure Output where
  /-- Whether an output has been set up. -/
  initialized : Bool := false
  /-- Lines below this level are not written. -/
  level : Level := .warning
  /-- Whether lines go to the log of the host as well. -/
  propagates : Bool := true
  /-- Where lines go. -/
  handlers : List Handler := []
  /-- The last log file that could be opened. -/
  file? : Option Path := none
  deriving DecidableEq, Repr, Inhabited

namespace Output

/-- Whether a line is written at all.  Channels of the host keep to the usual level. -/
def admits (out : Output) (level : Level) (channel : String) : Bool :=
  let least := if isOwnChannel channel then out.level else .warning
  least.weight ≤ level.weight

/-- Writes a record to handlers, one after the other. -/
def writeAll (level : Level) (r : Record) (files : FileSystem) : List Handler → Written
  | [] => { files }
  | handler :: rest =>
    if handler.level.weight ≤ level.weight then
      let (first, r) := handler.target.write files r
      let later := writeAll level r first.files rest
      { later with shown := first.shown ++ later.shown }
    else writeAll level r files rest

/-- Writes a record of the given level. -/
def write (out : Output) (files : FileSystem) (level : Level) (channel : String) (r : Record) :
    Written :=
  if out.admits level channel && isOwnChannel channel then writeAll level r files out.handlers
  else { files }

/-- Writes lines, one after the other. -/
def writeEntries (out : Output) (files : FileSystem) : List Entry → Written
  | [] => { files }
  | e :: rest =>
    let first := out.write files e.level e.channel (.ofEntry e)
    let later := writeEntries out first.files rest
    { later with shown := first.shown ++ later.shown }

/-! ## Setting up -/

/-- Where the library runs. -/
structure Place where
  /-- The console. -/
  terminal : Terminal := { isTerminal := false }

/-- Why a log file could not be opened. -/
inductive Failure where
  /-- The file system refused an operation on a path. -/
  | refused (r : FileTree.Refusal) (path : String)
  /-- The path has a character that no path can have. -/
  | badPath
  deriving DecidableEq, Repr, Inhabited

/-- What opening a log file comes to. -/
structure Opening where
  /-- The files afterwards. -/
  files : FileSystem
  failure? : Option Failure := none

/-- Whether a path has a character that no path can have. -/
def isBad (path : Path) : Bool := path.text.toList.contains '\x00'

/-- Opens a log file: the directories above it are made, and so is the file.  The directories stay even if
the file cannot be opened. -/
def openFile (files : FileSystem) (path : Path) : Opening :=
  if isBad path.parent then { files, failure? := some .badPath }
  else
    let above := files.makeDirectories path.parent
    match above.refused? with
    | some (refusal, p) => { files := above.files, failure? := some (.refused refusal p.text) }
    | none =>
      let target := path.absolute files.working
      if isBad path then { files := above.files, failure? := some .badPath }
      else match above.files.append target [] with
        | .ok files => { files }
        | .error refusal => { files := above.files, failure? := some (.refused refusal target.text) }

/-- The level that the settings ask for. -/
def wantedLevel (app : Settings.App) (verbose : Bool) : Level :=
  if verbose || app.verboseLogging then .debug else app.logLevel

/-- The channel of the lines about the log itself. -/
def channel : String := "omnicli.logging"

/-- The lines that say what has been set up. -/
def setUpLines (out : Output) : List Entry :=
  [.debug channel "Logging system initialized", .debug channel s!"Log level: {out.level.name}"] ++
    (out.file?.map fun path => Entry.debug channel s!"Log file: {path.text}").toList

/-- What setting up comes to. -/
structure SetUp where
  output : Output
  /-- The lines that say what has been set up. -/
  lines : List Entry := []
  written : Written
  /-- The fault that stopped it. -/
  fault? : Option Fault := none

/-- An output with a console only, in place of whatever was there. -/
def onConsole (out : Output) (place : Place) (level : Level) : Output :=
  { out with
    level
    propagates := false
    handlers := [⟨level, .console place.terminal.showsColors⟩] }

/-- An output with one more handler, for a log file; `working` are the names of the working directory. -/
def withFile (out : Output) (working : List String) (app : Settings.App) (path : Path) : Output :=
  let f : LogFile :=
    { path := path.absolute working
      maxBytes := app.maxLogSizeMb * 1024 * 1024
      backupCount := app.backupCount }
  { out with handlers := out.handlers ++ [⟨out.level, .file f⟩], file? := some path }

/-- An output that is ready; it says so itself. -/
def finish (out : Output) (files : FileSystem) (warnings : List String) : SetUp :=
  let out := { out with initialized := true }
  let written := out.writeEntries files out.setUpLines
  { output := out
    lines := out.setUpLines
    written := { written with shown := warnings ++ written.shown } }

/-- Sets an output up as the settings ask, in place of whatever was there.  An output that has been
set up stays as it is unless `force` says otherwise.  A log file that the file system refuses is
reported on the console, and the rest goes on without it. -/
def setUp (out : Output) (place : Place) (files : FileSystem) (app : Settings.App)
    (verbose force : Bool) : SetUp :=
  if out.initialized && !force then { output := out, written := { files } }
  else
    let out := out.onConsole place (wantedLevel app verbose)
    match app.logName? with
    | none => out.finish files []
    | some name =>
      let path := Path.ofText name
      let opening := openFile files path
      match opening.failure? with
      | none => (out.withFile files.working app path).finish opening.files []
      | some .badPath =>
        { output := out
          written := { files := opening.files }
          fault? := some (.foreign "ValueError" "embedded null byte") }
      | some (.refused r refusedPath) =>
        let warning := "Warning: Could not setup file logging: " ++ (r.fault refusedPath).message
        out.finish opening.files [warning]

end Output

end CommandPalette.Log
