import CommandPalette.Environment
import CommandPalette.Text.Blank
import CommandPalette.Text.Case

/-!
# Files of variables

A file may hold variables for the environment, one to a line: `NAME=value`, with the value in quotes if
it has several lines.  Values may refer to other variables as `${NAME}` or `${NAME:-default}`.

* `EnvFile.bindings`: the variables of a text.
* `EnvFile.fill`: a value with its references replaced.
* `EnvFile.load`: an environment with the variables that it lacks.
-/

namespace CommandPalette

namespace EnvFile

open CommandPalette.Text

/-! ## Lines -/

/-- Whether a line ends at a character. -/
def endsLine (c : Char) : Bool := c = '\n' || c = '\r'

/-- White space inside a line. -/
def isSpace (c : Char) : Bool := isBlank c && !endsLine c

/-- What can be read, and what follows it; or where reading failed. -/
abbrev Read (α : Type) := Except (List Char) (α × List Char)

/-- Past the rest of a line, whatever it holds. -/
def pastLine (s : List Char) : List Char := (s.dropWhile (!endsLine ·)).drop 1

/-- The word that may stand before a name, if it stands here. -/
def pastExport (s : List Char) : List Char :=
  let word := "export".toList
  if word.isPrefixOf s && ((s.drop word.length).head?.map isSpace).getD false then
    (s.drop word.length).dropWhile isSpace
  else s

/-- The name here; a comment has none. -/
def name? (s : List Char) : Read (Option String) :=
  match s with
  | '#' :: _ => .ok (none, s)
  | '\'' :: rest =>
    let name := rest.takeWhile (· ≠ '\'')
    match rest.dropWhile (· ≠ '\'') with
    | _ :: after => if name.isEmpty then .error s else .ok (some (String.ofList name), after)
    | [] => .error s
  | _ =>
    let inName (c : Char) : Bool := !(c = '=' || c = '#' || isBlank c)
    let name := s.takeWhile inName
    if name.isEmpty then .error s else .ok (some (String.ofList name), s.dropWhile inName)

/-! ## Values -/

/-- The text up to the closing mark, and what follows it.  A mark after a backslash does not close the
text; a line must not end after a backslash. -/
def closing? (mark : Char) : List Char → Option (List Char × List Char)
  | '\\' :: c :: rest =>
    if c = '\n' then none
    else (closing? mark rest).map fun (text, after) => ('\\' :: c :: text, after)
  | '\\' :: [] | [] => none
  | c :: rest =>
    if c = mark then some ([], rest)
    else (closing? mark rest).map fun (text, after) => (c :: text, after)

/-- The escapes in single quotes. -/
def singleEscapes : List (Char × Char) := [('\\', '\\'), ('\'', '\'')]

/-- The escapes in double quotes. -/
def doubleEscapes : List (Char × Char) :=
  [('\\', '\\'), ('\'', '\''), ('"', '"'), ('a', '\x07'), ('b', '\x08'), ('f', '\x0c'), ('n', '\n'),
    ('r', '\r'), ('t', '\t'), ('v', '\x0b')]

/-- A text with its escapes replaced. -/
def unescape (escapes : List (Char × Char)) : List Char → List Char
  | [] => []
  | [c] => [c]
  | c :: d :: rest =>
    match if c = '\\' then escapes.lookup d else none with
    | some meant => meant :: unescape escapes rest
    | none => c :: unescape escapes (d :: rest)

/-- A text up to the comment at its end. -/
def cutComment : List Char → List Char
  | [] => []
  | c :: rest =>
    if isBlank c && (rest.dropWhile isBlank).head? = some '#' then [] else c :: cutComment rest

/-- The value here. -/
def value (s : List Char) : Read String :=
  let quoted (mark : Char) (escapes : List (Char × Char)) (rest : List Char) : Read String :=
    match closing? mark rest with
    | some (text, after) => .ok (String.ofList (unescape escapes text), after)
    | none => .error s
  match s with
  | '\'' :: rest => quoted '\'' singleEscapes rest
  | '"' :: rest => quoted '"' doubleEscapes rest
  | _ =>
    let text := trimRight (cutComment (s.takeWhile (!endsLine ·)))
    .ok (String.ofList text, s.dropWhile (!endsLine ·))

/-- The value after an equals sign.  A comment that stands apart from the sign is no value. -/
def valueAfter (s : List Char) : Read String :=
  let rest := s.dropWhile isSpace
  if rest.head? = some '#' && rest.length < s.length then .ok ("", rest) else value rest

/-! ## Bindings -/

/-- A variable; one without an equals sign has no value. -/
abbrev Binding := String × Option String

/-- Past the end of a line that holds nothing more than a comment. -/
def lineEnd (s : List Char) : Except (List Char) (List Char) :=
  let t := s.dropWhile isSpace
  let t := if t.head? = some '#' then t.dropWhile (!endsLine ·) else t
  match t with
  | [] => .ok []
  | '\r' :: '\n' :: rest => .ok rest
  | c :: rest => if endsLine c then .ok rest else .error s

/-- The line here, which is not blank, and what follows it. -/
def line (s : List Char) : Except (List Char) (Option Binding × List Char) := do
  let (name, rest) ← name? (pastExport s)
  let rest := rest.dropWhile isSpace
  let (value, rest) ← match rest with
    | '=' :: rest => do
      let (value, rest) ← valueAfter rest
      pure (some value, rest)
    | _ => pure (none, rest)
  return (name.map fun name => (name, value), ← lineEnd rest)

/-- The variables of a text, with room for the given number of lines.  Lines that cannot be read are
left out. -/
def bindingsFrom : Nat → List Char → List Binding
  | 0, _ => []
  | room + 1, s => match s.dropWhile isBlank with
    | [] => []
    | s => match line s with
      | .ok (binding, rest) => binding.toList ++ bindingsFrom room rest
      | .error rest => bindingsFrom room (pastLine rest)

/-- The variables of a text. -/
def bindings (s : List Char) : List Binding := bindingsFrom (s.length + 1) s

/-! ## References -/

/-- The name and the default of the reference here, after its opening, and what follows it. -/
def reference? (s : List Char) : Option (String × String × List Char) :=
  let inName (c : Char) : Bool := !(c = '\x7d' || c = ':')
  let name := String.ofList (s.takeWhile inName)
  match s.dropWhile inName with
  | '\x7d' :: rest => some (name, "", rest)
  | ':' :: '-' :: rest =>
    match rest.dropWhile (· ≠ '\x7d') with
    | _ :: after => some (name, String.ofList (rest.takeWhile (· ≠ '\x7d')), after)
    | [] => none
  | _ => none

/-- A value with its references replaced, with room for the given number of characters. -/
def fillFrom (get : String → Option (Option String)) : Nat → List Char → List Char
  | 0, s => s
  | _, [] => []
  | room + 1, c :: rest =>
    let reference := if c = '$' && rest.head? = some '\x7b' then reference? (rest.drop 1) else none
    match reference with
    | some (name, default, after) =>
      let meant := match get name with
        | some meant => meant.getD ""
        | none => default
      meant.toList ++ fillFrom get room after
    | none => c :: fillFrom get room rest

/-- A value with its references replaced.  A variable that is known but has no value counts as
empty. -/
def fill (get : String → Option (Option String)) (s : String) : String :=
  String.ofList (fillFrom get (s.length + 1) s.toList)

/-- What a variable means: the environment counts more than the file. -/
def meaning (environment : Environment) (found : Table (Option String)) (name : String) :
    Option (Option String) :=
  match environment.get? name with
  | some value => some (some value)
  | none => found.get? name

/-- The variables of a file, each filled in from the environment and the ones before it. -/
def resolve (environment : Environment) (list : List Binding) : Table (Option String) :=
  list.foldl (fun found (name, value) =>
    found.insert name (value.map (fill (meaning environment found)))) {}

/-- An environment with those of a list of variables that it lacks and that have values.  Where one of
them is refused, the ones before it stay. -/
def addMissing (environment : Environment) : List Binding → Environment × Option Fault
  | [] => (environment, none)
  | (_, none) :: rest => addMissing environment rest
  | (name, some value) :: rest =>
    if environment.contains name then addMissing environment rest
    else match environment.set name value with
      | .ok environment => addMissing environment rest
      | .error fault => (environment, some fault)

/-- An environment with the variables of a file that it lacks, and the fault that stopped the
reading, if there was one. -/
def load (s : List Char) (environment : Environment) : Environment × Option Fault :=
  addMissing environment (resolve environment (bindings s)).entries

/-! ## Files that are not read -/

/-- The variable that says whether files of variables are left alone. -/
def switchName : String := "PYTHON_DOTENV_DISABLED"

/-- The words that say so. -/
def switchWords : List String := ["1", "true", "t", "yes", "y"]

/-- Whether files of variables are left alone.  The case of letters does not matter, nor does the form
of an `s`. -/
def isSwitchedOff (environment : Environment) : Bool :=
  (environment.get? switchName).any fun word =>
    let folded := (Case.lower word).toList.map fun c => if c = 'ſ' then 's' else c
    switchWords.contains (String.ofList folded)

end EnvFile

end CommandPalette
