import CommandPalette.Fault
import CommandPalette.Log.Entry

/-!
# What is wrong with settings

Settings are checked field by field, and all that is wrong is reported together.

* `Problem`: a field that is not as it should be.
* `Checked`: the outcome of a check, which collects the problems of its parts.
-/

namespace CommandPalette.Settings

/-- What is wrong with the value of a field. -/
inductive Complaint where
  | notText
  | emptyText
  | notFlag
  | unreadableFlag
  | unknownLevel
  | notInteger
  | unreadableInteger
  | longInteger
  | fractional
  | notFinite
  | below (least : Int)
  | above (greatest : Int)
  | notSection (name : String)
  /-- A rule of one field only, in words. -/
  | rule (words : String)
  /-- Anything else, by its short name and in words. -/
  | other (name words : String)
  deriving DecidableEq, Repr, Inhabited

namespace Complaint

/-- The short name of a complaint. -/
def kind : Complaint → String
  | notText => "string_type"
  | emptyText => "string_too_short"
  | notFlag => "bool_type"
  | unreadableFlag => "bool_parsing"
  | unknownLevel => "enum"
  | notInteger => "int_type"
  | unreadableInteger => "int_parsing"
  | longInteger => "int_parsing_size"
  | fractional => "int_from_float"
  | notFinite => "finite_number"
  | below _ => "greater_than_equal"
  | above _ => "less_than_equal"
  | notSection _ => "model_type"
  | rule _ => "value_error"
  | other name _ => name

/-- The names of the levels in a sentence. -/
def levelNames : String :=
  let names := Log.Level.all.map fun level => s!"'{level.name}'"
  ", ".intercalate names.dropLast ++ " or " ++ names.getLastD ""

/-- A complaint in words. -/
def message : Complaint → String
  | notText => "Input should be a valid string"
  | emptyText => "String should have at least 1 character"
  | notFlag => "Input should be a valid boolean"
  | unreadableFlag => "Input should be a valid boolean, unable to interpret input"
  | unknownLevel => "Input should be " ++ levelNames
  | notInteger => "Input should be a valid integer"
  | unreadableInteger => "Input should be a valid integer, unable to parse string as an integer"
  | longInteger => "Unable to parse input string as an integer, exceeded maximum size"
  | fractional => "Input should be a valid integer, got a number with a fractional part"
  | notFinite => "Input should be a finite number"
  | below least => s!"Input should be greater than or equal to {least}"
  | above greatest => s!"Input should be less than or equal to {greatest}"
  | notSection name => s!"Input should be a valid dictionary or instance of {name}"
  | rule words => "Value error, " ++ words
  | other _ words => words

end Complaint

/-- A field that is not as it should be. -/
structure Problem where
  /-- Where the field is. -/
  path : List String
  /-- What is wrong with its value. -/
  complaint : Complaint
  /-- Its value. -/
  input : Value
  deriving Inhabited, Repr

namespace Problem

/-- A problem of a part, seen from the whole. -/
def within (name : String) (p : Problem) : Problem := { p with path := name :: p.path }

/-- A problem in one line, if its value has a text. -/
def line (p : Problem) : Except Fault String := do
  let place := " -> ".intercalate p.path
  let input ← p.input.write
  return s!"  {place}: {p.complaint.message} (got: {input})"

/-- All problems, one in a line, if their values have a text. -/
def report (problems : List Problem) : Except Fault String := do
  return "Validation errors:\n" ++ "\n".intercalate (← problems.mapM line)

/-! ## The detailed report -/

/-- The longest text of a value that is shown in full, in bytes. -/
def shownBytes : Nat := 50

/-- The longest head of a text within a number of bytes. -/
def headBytes : Nat → List Char → List Char
  | _, [] => []
  | bytes, c :: rest => if c.utf8Size ≤ bytes then c :: headBytes (bytes - c.utf8Size) rest else []

/-- The longest tail of a text within a number of bytes. -/
def tailBytes (bytes : Nat) (s : List Char) : List Char := (headBytes bytes s.reverse).reverse

/-- What is shown of a value: its text, with the middle left out where it is long. -/
def shown (v : Value) : String :=
  let s := v.quoted?.getD s!"<unprintable {v.typeName} object>"
  if s.utf8ByteSize ≤ shownBytes then s
  else String.ofList (headBytes 25 s.toList) ++ "..." ++ String.ofList (tailBytes 24 s.toList)

/-- A problem in two lines. -/
def paragraph (p : Problem) : String :=
  ".".intercalate p.path ++ s!"\n  {p.complaint.message} [type={p.complaint.kind}, " ++
    s!"input_value={shown p.input}, input_type={p.input.typeName}]"

/-- All problems of a section, with their number. -/
def details (section_ : String) (problems : List Problem) : String :=
  let noun := if problems.length = 1 then "error" else "errors"
  s!"{problems.length} validation {noun} for {section_}\n" ++
    "\n".intercalate (problems.map paragraph)

end Problem

/-! ## Collecting problems -/

/-- The outcome of a check. -/
inductive Checked (α : Type _) where
  | ok (a : α)
  /-- All that is wrong. -/
  | problems (list : List Problem)
  /-- The check itself failed. -/
  | fault (f : Fault)
  deriving Inhabited

namespace Checked

variable {α β : Type _}

/-- A check that found one thing wrong. -/
def complain (complaint : Complaint) (input : Value) : Checked α := problems [⟨[], complaint, input⟩]

/-- The outcome of a check of a part, seen from the whole. -/
def within (name : String) : Checked α → Checked α
  | problems list => problems (list.map (Problem.within name))
  | outcome => outcome

/-- The outcome of two checks.  The problems of both count; a check that failed is the outcome of
both. -/
def both : Checked α → Checked β → Checked (α × β)
  | fault f, _ => fault f
  | _, fault f => fault f
  | ok a, ok b => ok (a, b)
  | ok _, problems list => problems list
  | problems list, ok _ => problems list
  | problems list, problems more => problems (list ++ more)

/-- A function on the value of a check. -/
def map (f : α → β) : Checked α → Checked β
  | ok a => ok (f a)
  | problems list => problems list
  | fault g => fault g

/-- A check of the value of a check. -/
def andThen (f : α → Checked β) : Checked α → Checked β
  | ok a => f a
  | problems list => problems list
  | fault g => fault g

instance : Functor Checked where
  map := map

instance : Applicative Checked where
  pure := ok
  seq f a := (both f (a ())).map fun (f, a) => f a

end Checked

end CommandPalette.Settings
