/-!
# Motion letters

Eight letters move through the menu of suggestions: `h j k l` as in a text editor, `n` and `p` to the
next and the previous entry, `f` and `b` by a page.

* `Axis`: the menu is a column, so only vertical motion counts.
* `direction?`: what a motion letter does.
-/

namespace CommandPalette.Motion

/-- The two axes of the menu. -/
inductive Axis where
  | horizontal
  | vertical
  deriving DecidableEq, Repr, Inhabited

/-- The name of an axis. -/
def Axis.name : Axis → String
  | horizontal => "x"
  | vertical => "y"

/-- The axis and the signed distance of a motion letter. -/
def direction? : Char → Option (Axis × Int)
  | 'h' => some (.horizontal, -1)
  | 'j' => some (.vertical, 1)
  | 'k' => some (.vertical, -1)
  | 'l' => some (.horizontal, 1)
  | 'n' => some (.vertical, 1)
  | 'p' => some (.vertical, -1)
  | 'f' => some (.vertical, 5)
  | 'b' => some (.vertical, -5)
  | _ => none

/-- Whether a character is a motion letter. -/
def isMotionLetter (c : Char) : Bool := (direction? c).isSome

/-- The lower-case letters, in order. -/
def letters : List Char := (List.range 26).map fun i => Char.ofNat ('a'.toNat + i)

/-- The motion letters, in order. -/
def motionLetters : List Char := letters.filter isMotionLetter

end CommandPalette.Motion
