import CommandPalette.Settings.Layer
import CommandPalette.Settings.Readers

/-!
# Loading settings

Settings come from files and from the environment.  Of the places where a file may be, the first one
that holds one counts; a later layer is laid over an earlier one.  How files are read and how settings are
checked is a matter of the readers (`Readers`).

* `World`: the files and the variables that there are, and the account.
* `LoadFailure`: why settings could not be loaded.
* `readTable`: the table in a file.
* `Loader`: the settings that were loaded last; `Loader.load`, `Loader.current`, `Loader.reload`.
* `validate`: whether a file holds settings.
-/

namespace CommandPalette.Settings

/-- The files and the variables that there are, and the account for which the program runs. -/
structure World where
  files : FileSystem := .empty
  environment : Environment := {}
  /-- The home directory of the account, which counts where no variable names one. -/
  account : String := "/root"

/-- The home directory. -/
def World.home (w : World) : String := (w.environment.get? "HOME").getD w.account

/-! ## Failures -/

/-- Why settings could not be loaded. -/
inductive LoadFailure where
  /-- There is no such file. -/
  | notFound (path : String)
  /-- The file is no document, for the reason given in words. -/
  | badDocument (path : Path) (words : String)
  /-- The file is a document, but no table. -/
  | noTable (path : Path)
  /-- The file cannot be read. -/
  | unreadable (path : Path) (reason : FileTree.Refusal)
  /-- The settings are not as they should be; the problems as they are reported. -/
  | problems (report : String)
  /-- The settings are not as they should be, and the problems cannot be reported. -/
  | unreportable (reason : Fault)
  /-- Something else went wrong. -/
  | failed (reason : Fault)
  deriving Inhabited

/-- A failure as the host sees it. -/
def LoadFailure.fault : LoadFailure → Fault
  | notFound path => .configuration s!"Specified config file not found: {path}" none
  | badDocument path words =>
    .configuration s!"Invalid YAML in {path.text}: {words}" (some (.foreign "YAMLError" words))
  | noTable path =>
    .configuration
      s!"Configuration file {path.text} must contain a YAML object (dictionary)" none
  | unreadable path reason =>
    let reason := reason.fault path.text
    .configuration s!"Cannot read configuration file {path.text}: {reason.message}" (some reason)
  | problems report => .configuration ("Configuration validation failed: " ++ report) none
  | unreportable reason => reason
  | failed reason =>
    .configuration s!"Failed to load configuration: {reason.message}" (some reason)

/-! ## Files -/

/-- The table in a file.  A file without a document counts as an empty table. -/
def readTable (r : Readers) (files : FileSystem) (path : Path) :
    Except LoadFailure (List (Value × Value)) := do
  match r.document (← (files.read path).mapError (.unreadable path)) with
  | .ok .null => return []
  | .ok (.table entries) => return entries
  | .ok _ => .error (.noTable path)
  | .error (.malformed words) => .error (.badDocument path words)
  | .error (.fault fault) => .error (.failed fault)

/-- The first of several paths that leads to something. -/
def firstFound (files : FileSystem) : List Path → Except LoadFailure (Option Path)
  | [] => .ok none
  | path :: rest => match files.has path with
    | .ok true => .ok (some path)
    | .ok false => firstFound files rest
    | .error refusal => .error (.failed (refusal.fault path.text))

/-- Where the settings for all environments may be. -/
def usualPaths : List Path :=
  ["configs/omnicli.yaml", "configs/omnicli.yml", "omnicli.yaml", "omnicli.yml"].map Path.ofText

/-- Where the settings for one environment may be. -/
def environmentPaths (name : String) : List Path :=
  [s!"configs/omnicli.{name}.yaml", s!"configs/omnicli.{name}.yml", s!"omnicli.{name}.yaml",
    s!"omnicli.{name}.yml"].map Path.ofText

/-- The file with the settings for the environment that the variables name. -/
def environmentPath (w : World) : Except LoadFailure (Option Path) :=
  match w.environment.get? environmentVariable with
  | none => .ok none
  | some name => if name.isEmpty then .ok none else firstFound w.files (environmentPaths name)

/-- The table in a file that may be there laid over another one. -/
def overlayFile (r : Readers) (files : FileSystem) (path : Option Path)
    (entries : List (Value × Value)) : Except LoadFailure (List (Value × Value)) := do
  match path with
  | none => return entries
  | some path => return overlay entries (← readTable r files path)

/-- The tables in the files that are found without being asked for. -/
def foundLayers (r : Readers) (w : World) : Except LoadFailure (List (Value × Value)) := do
  let usual ← firstFound w.files usualPaths
  let entries ← overlayFile r w.files usual []
  let special ← environmentPath w
  if special = usual then return entries else overlayFile r w.files special entries

/-- The table in a file that was asked for, laid over another one. -/
def askedLayer (r : Readers) (w : World) (name : String) (entries : List (Value × Value)) :
    Except LoadFailure (List (Value × Value)) := do
  let path := Path.ofText name
  match w.files.has path with
  | .ok true => overlayFile r w.files (some path) entries
  | .ok false => .error (.notFound name)
  | .error refusal => .error (.failed (refusal.fault path.text))

/-- The settings of a table, with the variables laid over it.  Each key is the name of a setting, so all
have to be texts. -/
def settingsOf (r : Readers) (w : World) (entries : List (Value × Value)) : Except LoadFailure Config :=
  let entries := overlayVariables w.environment.entries entries
  if !hasTextKeys entries then .error (.failed (.foreign "TypeError" "keywords must be strings"))
  else match r.settings w.home entries with
    | .ok config => .ok config
    | .problems list => match Problem.report list with
      | .ok report => .error (.problems report)
      | .error reason => .error (.unreportable reason)
    | .fault reason => .error (.failed reason)

/-! ## Loaders -/

/-- The settings that were loaded last, and the file that was asked for last. -/
structure Loader where
  config : Option Config := none
  path : Option Path := none
  deriving Inhabited

namespace Loader

/-- Loads settings; `name` is the path of the file that is asked for, if there is one.  The file that
was asked for is remembered once it has been read. -/
def load (l : Loader) (r : Readers) (w : World) (name : Option String) :
    Except LoadFailure Config × Loader :=
  let layers : Except LoadFailure (List (Value × Value) × Loader) := do
    let entries ← foundLayers r w
    match name.filter (!·.isEmpty) with
    | none => return (entries, l)
    | some name => return (← askedLayer r w name entries, { l with path := some (Path.ofText name) })
  match layers with
  | .error failure => (.error failure, l)
  | .ok (entries, l) => match settingsOf r w entries with
    | .ok config => (.ok config, { l with config := some config })
    | .error failure => (.error failure, l)

/-- The settings that were loaded last; if there are none, they are loaded. -/
def current (l : Loader) (r : Readers) (w : World) : Except LoadFailure Config × Loader :=
  match l.config with
  | some config => (.ok config, l)
  | none => l.load r w none

/-- Forgets the settings and loads them again. -/
def reload (l : Loader) (r : Readers) (w : World) (name : Option String) :
    Except LoadFailure Config × Loader :=
  { l with config := none }.load r w name

end Loader

/-! ## Making loaders -/

/-- The file that may hold variables. -/
def variablesPath : Path := .ofText ".env"

/-- The world as a new loader leaves it: if there is a file of variables, they are brought.  The fault that
stopped this, if there is one, leaves the variables before it. -/
def World.prepared (r : Readers) (w : World) : World × Option Fault :=
  match w.files.has variablesPath with
  | .error refusal => (w, some (refusal.fault variablesPath.text))
  | .ok false => (w, none)
  | .ok true =>
    let (environment, fault) := r.bring w.files variablesPath w.environment
    ({ w with environment }, fault)

/-- Whether a file holds settings, and the failure if it does not; a loader is made for the
question. -/
def validate (r : Readers) (w : World) (name : String) : Except Fault (Option LoadFailure) × World :=
  match w.prepared r with
  | (w, some fault) => (.error fault, w)
  | (w, none) => match (({} : Loader).load r w (some name)).1 with
    | .ok _ => (.ok none, w)
    | .error (.unreportable reason) => (.error reason, w)
    | .error failure => (.ok (some failure), w)

end CommandPalette.Settings
