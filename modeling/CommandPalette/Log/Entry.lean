/-!
# Log lines

* `Log.Level`: how weighty a line is.
* `Log.Entry`: a line on a channel.  Channels form a hierarchy by the dots in their names.
-/

namespace CommandPalette.Log

/-- The levels, from the least to the most weighty. -/
inductive Level where
  | debug
  | info
  | warning
  | error
  | critical
  deriving DecidableEq, Repr, Inhabited

namespace Level

/-- All levels, in ascending order. -/
def all : List Level := [debug, info, warning, error, critical]

/-- The name of a level. -/
def name : Level → String
  | debug => "DEBUG"
  | info => "INFO"
  | warning => "WARNING"
  | error => "ERROR"
  | critical => "CRITICAL"

/-- The level of a name. -/
def ofName? (s : String) : Option Level := all.find? (·.name == s)

/-- The level of a word: its name, or a shorter or older one. -/
def ofWord? : String → Option Level
  | "WARN" => some warning
  | "FATAL" => some critical
  | s => ofName? s

/-- The weight of a level. -/
def weight : Level → Nat
  | debug => 10
  | info => 20
  | warning => 30
  | error => 40
  | critical => 50

end Level

/-- A line on a channel. -/
structure Entry where
  /-- How weighty the line is. -/
  level : Level
  /-- Where it was written. -/
  channel : String
  /-- What it says. -/
  text : String
  deriving DecidableEq, Repr, Inhabited

namespace Entry

/-- A line for those who look for a defect. -/
def debug (channel text : String) : Entry := ⟨.debug, channel, text⟩

/-- A line about a failure. -/
def error (channel text : String) : Entry := ⟨.error, channel, text⟩

end Entry

end CommandPalette.Log
