import CommandPalette.Path
import CommandPalette.Table
import CommandPalette.Text.Utf8

/-!
# Files

The files that the library reads and writes.  A path starts at the root or at the working directory and
is followed part by part, so a step upwards leads to the directory that holds the present one.  There are
no links, and the disk is never full.

* `FileTree`: files and directories.
* `FileTree.Refusal`: why an operation on a path is refused.
* `FileSystem`: the files of a system, as they are seen from a working directory.
* `FileSystem.find`, `FileSystem.read`, `FileSystem.write`, `FileSystem.append`, `FileSystem.remove`,
  `FileSystem.makeDirectories`: the operations.
-/

namespace CommandPalette

/-- A file by its bytes, or a directory by its entries. -/
inductive FileTree where
  | file (bytes : List UInt8)
  | directory (entries : List (String × FileTree))
  /-- A file or a directory that is there, but may be neither read nor written nor entered. -/
  | locked (isDirectory : Bool)
  deriving Inhabited

namespace FileTree

/-- Why an operation on a path is refused. -/
inductive Refusal where
  | missing
  | denied
  | taken
  | notDirectory
  | isDirectory
  | longName
  deriving DecidableEq, Repr, Inhabited

namespace Refusal

/-- The number of a refusal. -/
def code : Refusal → Nat
  | missing => 2
  | denied => 13
  | taken => 17
  | notDirectory => 20
  | isDirectory => 21
  | longName => 36

/-- A refusal in words. -/
def words : Refusal → String
  | missing => "No such file or directory"
  | denied => "Permission denied"
  | taken => "File exists"
  | notDirectory => "Not a directory"
  | isDirectory => "Is a directory"
  | longName => "File name too long"

/-- The class under which a refusal is known. -/
def className : Refusal → String
  | missing => "FileNotFoundError"
  | denied => "PermissionError"
  | taken => "FileExistsError"
  | notDirectory => "NotADirectoryError"
  | isDirectory => "IsADirectoryError"
  | longName => "OSError"

/-- A refusal of an operation on a path. -/
def fault (r : Refusal) (path : String) : Fault :=
  .foreign r.className s!"[Errno {r.code}] {r.words}: {Text.quote path}"

end Refusal

/-! ## Entries by their names -/

/-- The empty directory. -/
def empty : FileTree := directory []

/-- Whether this is a directory. -/
def isDirectory : FileTree → Bool
  | directory _ => true
  | file _ => false
  | locked isDirectory => isDirectory

/-- What the names lead to. -/
def get? : FileTree → List String → Option FileTree
  | tree, [] => some tree
  | file _, _ :: _ | locked _, _ :: _ => none
  | directory entries, name :: rest => (entries.lookup name).bind fun tree => get? tree rest

/-- Puts a tree where the names lead; directories on the way are made. -/
def put (tree : FileTree) (node : FileTree) : List String → FileTree
  | [] => node
  | name :: rest =>
    let entries := match tree with
      | directory entries => entries
      | file _ | locked _ => []
    let child := (entries.lookup name).getD empty
    directory (Table.insertEntry name (child.put node rest) entries)

/-- Removes what the names lead to. -/
def erase (tree : FileTree) : List String → FileTree
  | [] => tree
  | name :: rest => match tree with
    | file _ | locked _ => tree
    | directory entries => match rest, entries.lookup name with
      | [], _ => directory (entries.filter (·.1 != name))
      | _, none => directory entries
      | _, some child => directory (Table.insertEntry name (child.erase rest) entries)

/-- Why nothing can be reached below what is there, if that is so. -/
def barrier? : FileTree → Option Refusal
  | directory _ => none
  | file _ | locked false => some .notDirectory
  | locked true => some .denied

end FileTree

/-! ## File systems -/

/-- The files of a system, as they are seen from a working directory. -/
structure FileSystem where
  /-- What is below the root. -/
  root : FileTree
  /-- The names that lead from the root to the working directory. -/
  working : List String

namespace FileSystem

open FileTree

/-- The places that every system has, and a working directory with the given entries. -/
def around (entries : List (String × FileTree)) : FileSystem where
  root := directory <| ("dev", directory [("null", file [])]) :: ("work", directory entries) ::
    ["bin", "boot", "etc", "home", "lib", "media", "mnt", "opt", "proc", "root", "run", "sbin", "srv",
      "sys", "tmp", "usr", "var"].map fun name => (name, FileTree.empty)
  working := ["work"]

/-- A system with an empty working directory. -/
def empty : FileSystem := around []

instance : Inhabited FileSystem := ⟨empty⟩

/-! ## Following paths -/

/-- The longest name of an entry, in bytes. -/
def maxNameBytes : Nat := 255

/-- A path has fewer bytes than this. -/
def pathBytes : Nat := 4096

/-- What is at a place, which is given by the names from the root on. -/
def at? (files : FileSystem) (place : List String) : Option FileTree := files.root.get? place

/-- Where a path leads from a place.  All but the last entry have to be there. -/
def follow (files : FileSystem) (place : List String) : List String → Except Refusal (List String)
  | [] => .ok place
  | part :: rest =>
    match files.at? place with
    | none => .error .missing
    | some node => match node.barrier? with
      | some refusal => .error refusal
      | none =>
        if part == ".." then follow files place.dropLast rest
        else if part.utf8ByteSize > maxNameBytes then .error .longName
        else follow files (place ++ [part]) rest

/-- Where a path leads. -/
def locate (files : FileSystem) (p : Path) : Except Refusal (List String) :=
  if p.text.utf8ByteSize ≥ pathBytes then .error .longName
  else files.follow (if p.isAbsolute then [] else files.working) p.parts

/-- What a path leads to. -/
def find (files : FileSystem) (p : Path) : Except Refusal FileTree := do
  match files.at? (← files.locate p) with
  | some node => return node
  | none => .error .missing

/-- Whether a path leads to anything.  A name that is too long is refused even here, and so is what lies
in a directory that may not be entered. -/
def has (files : FileSystem) (p : Path) : Except Refusal Bool :=
  match files.find p with
  | .ok _ => .ok true
  | .error .missing | .error .notDirectory => .ok false
  | .error refusal => .error refusal

/-- Whether a path leads to a directory. -/
def hasDirectory (files : FileSystem) (p : Path) : Bool :=
  match files.find p with
  | .ok node => node.isDirectory
  | .error _ => false

/-- The bytes of a file. -/
def read (files : FileSystem) (p : Path) : Except Refusal (List UInt8) := do
  match ← files.find p with
  | file bytes => return bytes
  | directory _ => .error .isDirectory
  | locked _ => .error .denied

/-! ## Changing files -/

/-- What holds a place, if that is a directory. -/
def holder (files : FileSystem) (place : List String) : Except Refusal Unit :=
  match files.at? place.dropLast with
  | some node => match node.barrier? with
    | some refusal => .error refusal
    | none => .ok ()
  | none => .error .missing

/-- Puts a tree at a place. -/
def putAt (files : FileSystem) (place : List String) (node : FileTree) : FileSystem :=
  { files with root := files.root.put node place }

/-- The bytes of the file at a path after a change of those that are there; a file that is missing
is made. -/
def change (files : FileSystem) (p : Path) (f : List UInt8 → List UInt8) :
    Except Refusal FileSystem := do
  let place ← files.locate p
  match files.at? place with
  | some (file old) => return files.putAt place (file (f old))
  | some (directory _) => .error .isDirectory
  | some (locked _) => .error .denied
  | none => do
    files.holder place
    return files.putAt place (file (f []))

/-- Writes at the end of a file, which is made if it is not there. -/
def append (files : FileSystem) (p : Path) (bytes : List UInt8) : Except Refusal FileSystem :=
  files.change p (· ++ bytes)

/-- Removes a file. -/
def remove (files : FileSystem) (p : Path) : Except Refusal FileSystem := do
  let place ← files.locate p
  match files.at? place with
  | some node =>
    if node.isDirectory then .error .isDirectory
    else return { files with root := files.root.erase place }
  | none => .error .missing

/-- Makes a directory in one that is there. -/
def makeDirectory (files : FileSystem) (p : Path) : Except Refusal FileSystem := do
  let place ← files.locate p
  if (files.at? place).isSome then .error .taken
  else
    files.holder place
    return files.putAt place FileTree.empty

/-- What a change in several steps comes to: the files afterwards, and the refusal that stopped it with
the path that was refused.  The steps before it are not undone. -/
structure Progress where
  files : FileSystem
  refused? : Option (Refusal × Path) := none

/-- Makes a directory unless it is there. -/
def ensureDirectory (files : FileSystem) (p : Path) : Progress :=
  match files.makeDirectory p with
  | .ok files => { files }
  | .error refusal =>
    if files.hasDirectory p then { files } else { files, refused? := some (refusal, p) }

/-- Makes a directory and all that are missing above it; `fuel` is the number of names of the path. -/
def makeDirectoriesFrom (p : Path) : Nat → FileSystem → Progress
  | 0, files => files.ensureDirectory p
  | fuel + 1, files => match files.makeDirectory p with
    | .error .missing =>
      let above := makeDirectoriesFrom p.parent fuel files
      if above.refused?.isSome then above else above.files.ensureDirectory p
    | _ => files.ensureDirectory p

/-- Makes a directory and all that are missing above it. -/
def makeDirectories (files : FileSystem) (p : Path) : Progress :=
  makeDirectoriesFrom p p.parts.length files

/-- Writes a file; directories that are missing above it are made. -/
def write (files : FileSystem) (p : Path) (bytes : List UInt8) : Progress :=
  let above := files.makeDirectories p.parent
  if above.refused?.isSome then above
  else match above.files.change p fun _ => bytes with
    | .ok files => { files }
    | .error refusal => { above with refused? := some (refusal, p) }

end FileSystem

end CommandPalette
