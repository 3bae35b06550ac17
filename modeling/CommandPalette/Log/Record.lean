import CommandPalette.Log.Entry
import CommandPalette.Log.Instant
import CommandPalette.Table

/-!
# Records

A record is all that is known about a line of the log: a table of attributes, some of which every
record has, and others that the writer of the line has added.  The writer may replace any of them.

* `Record`: the records; `Record.make` and `Record.ofEntry` make them.
* `Record.message`: the text of the line, with its arguments filled in.
* `Record.report?`: the fault that the line reports.
* `Record.extras`: what the writer has added.
-/

namespace CommandPalette.Log

open CommandPalette.Text

/-- All that is known about a line. -/
structure Record where
  /-- The attributes by their names. -/
  attributes : Table Value := {}
  /-- What is filled into the text of the line, unless an attribute replaces it. -/
  arguments : List Value := []
  /-- The fault that the line reports, unless an attribute replaces it. -/
  fault : Option Fault := none
  deriving Inhabited

namespace Record

/-- The last part of the path of a file. -/
def baseName (path : String) : String :=
  String.ofList (path.toList.reverse.takeWhile (· != '/')).reverse

/-- A record of a line: its channel, its level, its text with arguments, and the place in the
program that wrote it. -/
def make (channel level : String) (template : Value) (arguments : List Value) (file : String)
    (line function : Value) : Record where
  arguments
  attributes := { entries :=
    [("name", .text channel), ("msg", template), ("levelname", .text level),
      ("filename", .text (baseName file)), ("lineno", line), ("funcName", function),
      ("created", .float (.ofInt 0))] }

/-- The record of a line without arguments. -/
def ofEntry (e : Entry) : Record :=
  make e.channel e.level.name (.text e.text) [] "" (.int 0) .null

/-- Names that an addition to a line must not have. -/
def reservedNames : List String :=
  ["name", "msg", "args", "levelname", "levelno", "pathname", "filename", "module", "exc_info",
    "exc_text", "stack_info", "lineno", "funcName", "created", "msecs", "relativeCreated", "thread",
    "threadName", "processName", "process", "message"]

/-- Names that are not listed among the additions of a line. -/
def unlistedNames : List String := "taskName" :: reservedNames

/-- An attribute; one that is missing is null. -/
def value (r : Record) (name : String) : Value := (r.attributes.get? name).getD .null

/-- The value of an attribute is set. -/
def set (r : Record) (name : String) (value : Value) : Record :=
  { r with attributes := r.attributes.insert name value }

/-- Adds to a line; an addition under a name of the line's own is refused. -/
def add (r : Record) (additions : List (String × Value)) : Except Fault Record :=
  match additions.find? fun (name, _) => reservedNames.contains name || name == "asctime" with
  | some (name, _) => .error (.missingKey s!"Attempt to overwrite {quote name} in LogRecord")
  | none => .ok { r with attributes := r.attributes.insertAll additions }

/-- The text of a line, with its arguments filled in; a line without arguments is no template.  An
attribute in place of the arguments is a single one. -/
def message (r : Record) : Except Fault String := do
  let text ← (r.value "msg").write
  let given : Option Percent.Arguments := match r.attributes.get? "args" with
    | some v => if v.truthy then some (.ofValue v) else none
    | none => if r.arguments.isEmpty then none else some (.ofList r.arguments)
  match given with
  | none => return text
  | some arguments => (Percent.render text arguments).mapError .percent

/-! ## The fault of a record -/

/-- The class of a fault with the module it belongs to.  Classes that a host declares belong to its main
module, which is not named. -/
def qualifiedName : Fault → String
  | .derived name _ => name
  | fault =>
    if fault.isOwn then "omnicli.utils.error_handling." ++ fault.className
    else if fault.isCancellation then "asyncio.exceptions." ++ fault.className
    else fault.className

/-- What comes of a value in place of a fault: it is asked for three parts, a class, a fault and the
calls that led there.  No value has a fault for its second part, but nothing at all may be reported. -/
def reportOf (v : Value) : Except Fault String := do
  let missing (index : Nat) : Fault := match v with
    | .list _ => .foreign "IndexError" "list index out of range"
    | .text _ => .foreign "IndexError" "string index out of range"
    | .table _ => .foreign "KeyError" (toString index)
    | v => .foreign "TypeError" s!"'{v.typeName}' object is not subscriptable"
  let part (index : Nat) : Except Fault Value :=
    let found := match v with
      | .table entries => Value.lookup? (.int index) entries
      | .list items => items[index]?
      | .text s => (s.toList[index]?).map fun c => .text (String.ofList [c])
      | _ => none
    match found with
    | some v => .ok v
    | none => .error (missing index)
  let calls ← part 2
  let _ ← part 0
  let fault ← part 1
  match calls, fault with
  | .null, .null => return "NoneType: None"
  | .null, fault => .error (.noField fault.typeName "__suppress_context__")
  | calls, _ => .error (.noField calls.typeName "tb_frame")

/-- The report of the fault of a line, in lines of its own. -/
def report? (r : Record) : Except Fault (Option String) :=
  match r.attributes.get? "exc_info" with
  | some v => if v.truthy then (reportOf v).map some else .ok none
  | none => .ok (r.fault.map fun fault => fault.report (qualifiedName fault))

/-- What the writer of a line has added to it. -/
def extras (r : Record) : List (String × Value) :=
  r.attributes.entries.filter fun (name, _) => !unlistedNames.contains name

end Record

end CommandPalette.Log
