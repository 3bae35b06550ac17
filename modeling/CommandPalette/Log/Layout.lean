import CommandPalette.Log.Record
import CommandPalette.Text.Case
import CommandPalette.Text.Run
import CommandPalette.Value.Json

/-!
# Layouts

A record is laid out for readers at a console, or as JSON for programs that read log files.

* `Terminal`, `Terminal.showsColors`: whether a console shows colours.
* `Record.consoleText`: the layout for the console.
* `Record.jsonText`: the layout for files.
-/

namespace CommandPalette.Log

open CommandPalette.Text

/-! ## Colours -/

/-- What is known about a console. -/
structure Terminal where
  /-- Whether it is a terminal at all. -/
  isTerminal : Bool
  /-- The variables of the environment. -/
  environment : List (String × String) := []

/-- The value of a variable; one that is missing is empty. -/
def Terminal.valueOf (t : Terminal) (name : String) : String :=
  (t.environment.lookup name).getD ""

/-- Whether a console shows colours: it has to be a terminal, and the environment may ask for colours
or against them. -/
def Terminal.showsColors (t : Terminal) : Bool :=
  if !t.isTerminal then false
  else if t.valueOf "NO_COLOR" != "" then false
  else if t.valueOf "FORCE_COLOR" != "" then true
  else
    let kind := Case.lower (t.valueOf "TERM")
    holds "color".toList kind.toList || ["xterm", "xterm-256color", "screen", "linux"].contains kind

/-- The code that switches a colour on. -/
def colorCode (n : Nat) : String := s!"\x1b[{n}m"

/-- The colour of a level. -/
def levelColor : String → String
  | "DEBUG" => colorCode 90
  | "INFO" => colorCode 94
  | "WARNING" => colorCode 93
  | "ERROR" => colorCode 91
  | "CRITICAL" => colorCode 95 ++ colorCode 1
  | _ => ""

/-! ## Layouts -/

namespace Record

/-- A text with blanks after it. -/
def padRight (width : Nat) (s : String) : String := s ++ "".pushn ' ' (width - s.length)

/-- A text with another one below it, which has to be a text. -/
def below (text : String) (v : Value) : Except Fault String :=
  match v with
  | .text s => .ok (text ++ (if text.endsWith "\n" then "" else "\n") ++ s)
  | v =>
    .error (.foreign "TypeError" s!"can only concatenate str (not \"{v.typeName}\") to str")

/-- The layout for the console: time, level, channel and text, and the fault below, whose report may
have been written before. -/
def consoleText (r : Record) (colored : Bool) : Except Fault String := do
  let message ← r.message
  let time ← Instant.time (r.value "created")
  let level ← (r.value "levelname").write
  let channel ← (r.value "name").write
  let line := s!"{time.compact} | {padRight 8 level} | {channel} | {message}"
  let written := r.value "exc_text"
  let report ← if written.truthy then pure (some written) else do
    pure ((← r.report?).map Value.text)
  let text ← match report with
    | some v => below line v
    | none => pure line
  let stack := r.value "stack_info"
  let text ← if stack.truthy then below text stack else pure text
  if colored then
    (r.value "levelname").checkKey
    let color := levelColor level
    return if color.isEmpty then text else color ++ text ++ colorCode 0
  else return text

/-- A record as the console leaves it: the time that was shown and the report of the fault are noted
on it. -/
def afterConsole (r : Record) : Record :=
  match Instant.time (r.value "created") with
  | .ok time => r.set "asctime" (.text time.compact)
  | .error _ => r

/-- Why JSON was refused. -/
def jsonFault : Json.Refusal → Fault
  | .key type => .foreign "TypeError" s!"keys must be str, int, float, bool or None, not {type}"
  | .longInteger => .longInteger

/-- The layout for files. -/
def jsonText (r : Record) : Except Fault String := do
  let time ← Instant.stamp (r.value "created")
  let message ← r.message
  let report ← r.report?
  let origin := ["filename", "lineno", "funcName"].map fun name => (name, r.value name)
  let entry := [("timestamp", Value.text time.iso), ("level", r.value "levelname"),
      ("module", r.value "name"), ("message", .text message),
      ("extra", .table ((origin ++ r.extras).map fun (name, value) => (.text name, value)))] ++
    (report.toList.map fun report => ("exception", .text report))
  (Value.table (entry.map fun (name, value) => (.text name, value))).json.mapError jsonFault

end Record

end CommandPalette.Log
