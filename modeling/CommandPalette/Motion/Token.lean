import CommandPalette.Motion.Direction
import CommandPalette.Text.Run

/-!
# Tokens of a motion

Inside a motion a run of digits counts, a motion letter steps, and any other run of characters is a
jump code.  Each token is as long as it can be.

* `Token`: the three kinds.
* `tokenize`: the tokens of a text.
* `Token.text`: the characters of a token; those of all tokens together are the text.
-/

namespace CommandPalette.Motion

open CommandPalette.Text

/-- A token of a motion. -/
inductive Token where
  | number (digits : List Char)
  | letter (c : Char)
  | code (name : List Char)
  deriving DecidableEq, Repr, Inhabited

/-- The characters of a token. -/
def Token.text : Token → List Char
  | number digits => digits
  | letter c => [c]
  | code name => name

/-- A character that belongs to a jump code: neither a digit nor a motion letter. -/
def isCodeChar (c : Char) : Bool := !c.isDigit && !isMotionLetter c

/-- Splits a text into its tokens. -/
def tokenize (s : List Char) : List Token :=
  match s with
  | [] => []
  | c :: rest =>
    if c.isDigit then
      .number (c :: rest.takeWhile Char.isDigit) :: tokenize (rest.dropWhile Char.isDigit)
    else if isMotionLetter c then .letter c :: tokenize rest
    else .code (c :: rest.takeWhile isCodeChar) :: tokenize (rest.dropWhile isCodeChar)
termination_by s.length
decreasing_by
  · have := length_dropWhile_le Char.isDigit rest
    simp only [List.length_cons]
    omega
  · simp
  · have := length_dropWhile_le isCodeChar rest
    simp only [List.length_cons]
    omega

/-- The tokens of a text concatenate to it. -/
theorem flatMap_text_tokenize (s : List Char) : (tokenize s).flatMap Token.text = s := by
  fun_induction tokenize s with
  | case1 => rfl
  | case2 c rest digit ih => simp [Token.text, ih]
  | case3 c rest digit letter ih => simp [Token.text, ih]
  | case4 c rest digit letter ih => simp [Token.text, ih]

end CommandPalette.Motion
