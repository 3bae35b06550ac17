import CommandPalette.Motion.Node
import CommandPalette.Text.Blank

/-!
# Motions in an input line

A motion stands in brackets anywhere in the input line, as in `list [2j]`.  It opens with a bracket,
goes on with the longest run of ASCII letters and digits, and takes the closing bracket if one
follows at once; so a motion is live while it is typed.

* `scan`: a line as characters and motions.
* `segments`: the inner texts of the motions of a line.
* `stripSegments`: the command line without its motions.
* `Reading`, `read`: all that a line says about motion.
-/

namespace CommandPalette.Motion

open CommandPalette.Text

/-- A part of an input line. -/
inductive Piece where
  /-- A character of the command line. -/
  | plain (c : Char)
  /-- A motion, by its inner text. -/
  | motion (inner : List Char)
  deriving DecidableEq, Repr, Inhabited

/-- What is left after the closing bracket of a motion, if there is one. -/
def dropClosing : List Char → List Char
  | ']' :: rest => rest
  | rest => rest

theorem length_dropClosing_le (s : List Char) : (dropClosing s).length ≤ s.length := by
  unfold dropClosing
  split <;> simp

/-- The parts of a line, from left to right. -/
def scan (s : List Char) : List Piece :=
  match s with
  | [] => []
  | c :: rest =>
    if c = '[' then
      .motion (rest.takeWhile Char.isAlphanum) ::
        scan (dropClosing (rest.dropWhile Char.isAlphanum))
    else .plain c :: scan rest
termination_by s.length
decreasing_by
  · have := length_dropWhile_le Char.isAlphanum rest
    have := length_dropClosing_le (rest.dropWhile Char.isAlphanum)
    simp only [List.length_cons]
    omega
  · simp

/-- The inner text of a part that is a motion. -/
def Piece.inner? : Piece → Option (List Char)
  | plain _ => none
  | motion inner => some inner

/-- A part as it stands in the command line: a motion leaves a blank. -/
def Piece.shown : Piece → Char
  | plain c => c
  | motion _ => ' '

/-- The inner texts of the motions of a line. -/
def segments (s : List Char) : List (List Char) := (scan s).filterMap Piece.inner?

/-- The command line without its motions. -/
def stripSegments (s : List Char) : List Char := trim ((scan s).map Piece.shown)

/-- A place in the menu.  The menu is a column, so `x` stays 0. -/
structure Position where
  /-- The column. -/
  x : Int := 0
  /-- The row. -/
  y : Int := 0
  deriving DecidableEq, Repr, Inhabited

/-- All that a line says about motion. -/
structure Reading where
  /-- The command line without its motions. -/
  text : List Char
  /-- Where the motions lead. -/
  position : Position
  /-- The chain of each motion. -/
  chains : List (List Node)
  deriving DecidableEq, Repr, Inhabited

/-- Whether a line has a motion at all. -/
def Reading.isVimMode (r : Reading) : Bool := !r.chains.isEmpty

/-- Reads the motions of a line; their offsets add up. -/
def read (keymap : Keymap) (raw : List Char) : Reading :=
  let chains := (segments raw).map (parse keymap)
  { text := stripSegments raw
    position := { y := (chains.map offset).foldl (· + ·) 0 }
    chains }

/-- The lines that reading the motions of a line writes to the log. -/
def readRemarks (keymap : Keymap) (raw : List Char) : List Log.Entry :=
  (segments raw).flatMap (remarks keymap)

end CommandPalette.Motion
