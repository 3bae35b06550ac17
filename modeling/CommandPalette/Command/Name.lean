import CommandPalette.Fault
import CommandPalette.Text.Blank

/-!
# Command names and paths

A command is called by one token.  A path is the space-joined names from a root of the command tree
down to a node, and since no name holds a blank, a path determines its names.

* `isName`: whether a text can be the name of a command.
* `checkName`: the check of a name of unknown type.
* `joinPath`, `splitPath`: paths and their names.
-/

namespace CommandPalette.Command

open CommandPalette.Text

/-- A name is a text that is not empty, has no blank at its ends, and is one word. -/
def isName (s : String) : Bool := !s.isEmpty && strip s == s && (tokens s).length == 1

/-- Refuses a value that is no name. -/
def checkName (v : Value) : Except Fault Value :=
  let refusal := Fault.invalid s!"command names must be single non-empty tokens, got {v.quoted}"
  match v with
  | .text s => if isName s then .ok v else .error refusal
  | _ => if v.truthy then .error (.noField v.typeName "strip") else .error refusal

/-- The path of a list of names. -/
def joinPath (names : List String) : String := " ".intercalate names

/-- A text cut at every space. -/
def splitSpaces : List Char → List (List Char)
  | [] => [[]]
  | c :: rest =>
    if c = ' ' then [] :: splitSpaces rest
    else match splitSpaces rest with
      | [] => [[c]]
      | part :: parts => (c :: part) :: parts

/-- The names of a path. -/
def splitPath (path : String) : List String := (splitSpaces path.toList).map String.ofList

/-- A path with one more name; the path of a root is its name. -/
def extendPath (lead name : String) : String :=
  if lead.isEmpty then name else lead ++ " " ++ name

end CommandPalette.Command
