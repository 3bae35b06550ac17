import CommandPalette.Log.Entry
import CommandPalette.Number.Fixed

/-!
# Timers

A timed operation writes one line when it starts and one when it ends, with the seconds in between.

* `Timer`: what is timed and where its lines go.
* `Timer.lines`: the two lines.
* `Timer.elapsed`: the seconds between two readings of a clock.
* `Timer.instant`: the lines of an operation that takes no time on the clock of its session.
-/

namespace CommandPalette.Log

open CommandPalette.Number

/-- What is timed and where its lines go. -/
structure Timer where
  /-- The channel of the lines. -/
  channel : String
  /-- The operation in words. -/
  operation : String
  /-- The level of the lines. -/
  level : Level := .debug
  deriving DecidableEq, Repr, Inhabited

namespace Timer

/-- The channel of the timers that have no other. -/
def performanceChannel : String := "omnicli.performance"

/-- The timer of a function, named after it where the operation has no words of its own. -/
def ofFunction (channel function operation : String) (level : Level) : Timer :=
  ⟨channel, if operation.isEmpty then function ++ "()" else operation, level⟩

/-- The line at the start. -/
def started (t : Timer) : Entry := ⟨t.level, t.channel, s!"Starting {t.operation}"⟩

/-- The line at the end, which tells a failure from a completion. -/
def ended (t : Timer) (seconds : Binary64) (completed : Bool) : Entry :=
  let duration := showFixed 3 seconds
  ⟨t.level, t.channel,
    if completed then s!"Completed {t.operation} in {duration}s"
    else s!"Failed {t.operation} after {duration}s"⟩

/-- The two lines of a timed operation. -/
def lines (t : Timer) (seconds : Binary64) (completed : Bool) : List Entry :=
  [t.started, t.ended seconds completed]

/-- The seconds between two readings of a clock that counts `perSecond` ticks a second. -/
def elapsed (perSecond : Nat) (start stop : Int) : Binary64 :=
  let ticks := stop - start
  .ofRatio (ticks < 0) ticks.natAbs perSecond

/-- The lines of an operation that takes no time on the clock of its session. -/
def instant (channel operation : String) (completed : Bool) : List Entry :=
  lines ⟨channel, operation, .debug⟩ (.ofInt 0) completed

end Timer

end CommandPalette.Log
