import CommandPalette.Motion.Segment
import CommandPalette.Suggestion

/-!
# Sessions

A session is the state of one typing episode: from the first change of the input line to its
submission or its cancellation.  Every change and every reset gets a new number, so that an answer
that comes late can be told from the current one.

* `Session`: the state.
* `Session.reset`, `Session.beginChange`, `Session.complete`: what events do to it.
* `Session.keymapFor`: the jump codes for a menu, kept as long as its size stays.
-/

namespace CommandPalette

open Motion

namespace Session

/-- What a session is about. -/
inductive Mode where
  /-- Nothing was typed yet. -/
  | idle
  /-- A line is being typed. -/
  | composing
  /-- A line with motions is being typed. -/
  | vim
  deriving DecidableEq, Repr, Inhabited

/-- The name of a mode. -/
def Mode.name : Mode → String
  | idle => "idle"
  | composing => "composing"
  | vim => "vim_mode_active"

/-- The channel of the lines about sessions. -/
def channel : String := "omnicli.session"

end Session

/-- The state of a typing episode. -/
structure Session where
  /-- What the session is about. -/
  mode : Session.Mode := .idle
  /-- The input line. -/
  rawText : String := ""
  /-- Where the motions of the line lead. -/
  position : Position := {}
  /-- The chains of the motions of the line. -/
  chains : List (List Node) := []
  /-- The jump codes of the menu, once a motion needed them. -/
  keymap : Option Keymap := none
  /-- The content of the selected entry. -/
  selected : String := ""
  /-- The menu. -/
  suggestions : List Suggestion := []
  /-- The last failure of a provider. -/
  lastError : Option Fault := none
  /-- The number of the last change or reset.  A reset does not set it back, so what was asked for
  before it stays out of date. -/
  sequence : Nat := 0
  deriving Inhabited

namespace Session

/-- Whether the line has had motions. -/
def vimMode (s : Session) : Bool := s.mode == .vim

/-- Back to the idle state. -/
def reset (s : Session) : Session := { sequence := s.sequence + 1 }

/-- Notes a change of the line.  Its number is that of the session afterwards. -/
def beginChange (s : Session) (rawText : String) : Session :=
  { s with
    mode := if s.mode = .idle then .composing else s.mode
    rawText
    sequence := s.sequence + 1 }

/-- Whether a number is that of the last event. -/
def isCurrent (s : Session) (sequence : Int) : Bool := sequence == s.sequence

/-- Whether the session has the jump codes of a menu of this size. -/
def hasKeymap (s : Session) (size : Int) : Bool :=
  s.keymap.any fun keymap => Int.ofNat keymap.size == size

/-- A session with the jump codes of a menu of this size, and the lines written to the log. -/
def withKeymap (s : Session) (size : Int) : Session × List Log.Entry :=
  if s.hasKeymap size then (s, [])
  else
    ({ s with keymap := some (.generate size) },
      .debug channel s!"Generating keymap for {size} suggestion(s)" :: Keymap.remarks)

/-- Enters vim mode, which a session leaves only by a reset. -/
def enterVimMode (s : Session) : Session × List Log.Entry :=
  if s.vimMode then (s, []) else ({ s with mode := .vim }, [.debug channel "Entering vim mode"])

/-- Takes over the motions of the line. -/
def applyMotion (s : Session) (motion : Reading) : Session × List Log.Entry :=
  let moved := { s with chains := motion.chains, position := motion.position }
  if motion.isVimMode then moved.enterVimMode else (moved, [])

/-- Takes over a menu. -/
def complete (s : Session) (suggestions : List Suggestion) (selected : String) : Session :=
  { s with suggestions, selected }

/-- The line that is run on submission: in vim mode the selected entry, if there is one. -/
def submissionText (s : Session) (text : String) : String :=
  if s.vimMode && !s.selected.isEmpty then s.selected else text

end Session

end CommandPalette
