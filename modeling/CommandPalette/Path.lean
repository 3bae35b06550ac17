import CommandPalette.Fault
import CommandPalette.Text.Run

/-!
# File paths

A path is kept without what does not matter: repeated slashes, `.` parts and a slash at its end.  Two
slashes at the start, and no more than two, stand for a root of their own.

* `Path`: the paths; `Path.ofText` and `Path.text` go between paths and their texts.
* `Path.parent`, `Path.absolute`, `Path.expandHome`: operations.
-/

namespace CommandPalette

/-- A path to a file or a directory. -/
structure Path where
  /-- The slashes that an absolute path starts with. -/
  root : String := ""
  /-- The names along the path. -/
  parts : List String := []
  deriving DecidableEq, Repr, Inhabited

namespace Path

/-- The root of a path by its text. -/
def rootOf (s : List Char) : String :=
  match s.takeWhile (· == '/') with
  | [] => ""
  | ['/', '/'] => "//"
  | _ => "/"

/-- The path of a text. -/
def ofText (s : String) : Path where
  root := rootOf s.toList
  parts := ((Text.pieces (· == '/') s.toList).map String.ofList).filter fun part => part != "" && part != "."

/-- The text of a path; a path without names is the place where one is. -/
def text (p : Path) : String :=
  if p.root.isEmpty && p.parts.isEmpty then "." else p.root ++ "/".intercalate p.parts

/-- The directory that holds a path. -/
def parent (p : Path) : Path := { p with parts := p.parts.dropLast }

/-- Whether a path starts at a root. -/
def isAbsolute (p : Path) : Bool := !p.root.isEmpty

/-- A path from the root on, with each step upwards cancelled against the name before it; `working` are
the names of the working directory. -/
def absolute (working : List String) (p : Path) : Path where
  root := if p.isAbsolute then p.root else "/"
  parts := p.parts.foldl (fun names part => if part == ".." then names.dropLast else names ++ [part])
    (if p.isAbsolute then [] else working)

/-- The home directory as it is inserted into a path: without slashes at its end, unless it is the
root itself. -/
def homeText (home : String) : String :=
  match (home.toList.reverse.dropWhile (· == '/')).reverse with
  | [] => "/"
  | s => String.ofList s

/-- A path with its leading tilde replaced by the home directory.  The homes of other users are not
known. -/
def expandHome (home : String) (p : Path) : Except Fault Path :=
  match p.root, p.parts with
  | "", first :: rest =>
    if !first.startsWith "~" then .ok p
    else
      let target := homeText home
      if first == "~" && !target.startsWith "~" then
        let base := ofText target
        .ok { base with parts := base.parts ++ rest }
      else if first.toList.contains '\x00' then .error (.foreign "ValueError" "embedded null byte")
      else .error (.foreign "RuntimeError" "Could not determine home directory.")
  | _, _ => .ok p

end Path

end CommandPalette
