import CommandPalette.Log.Output
import CommandPalette.Proofs.Path

/-!
# An output that is set up again and again

Setting up puts new handlers in place of whatever was there, so the handlers are those of the last call
that did anything.  The log file is another matter: an output remembers the last one that could be opened,
and a later call does not forget it, even if it opens none itself.

* `Request`: a call that sets an output up, with the world as the call finds it.
* `Request.answer_effective`: what a call comes to that does anything.
* `Reached`: an output after a history of calls, between which the host may have put its own handlers in
  place.  `Reached.memory`: it remembers the last file that has been opened.
* **`Reached.setUp_again`**: what any call comes to after any history.  The line that names the log file is
  about the file that is remembered; so a call says which file it has opened itself just if it has opened
  one, or none has ever been opened.
-/

namespace CommandPalette.Log.Output

/-! ## One call -/

/-- A call that sets an output up, with the world as the call finds it. -/
structure Request where
  place : Place
  files : FileSystem
  app : Settings.App
  verbose : Bool := false
  force : Bool := false

namespace Request

variable (r : Request)

/-- What a call comes to. -/
def answer (out : Output) : SetUp := out.setUp r.place r.files r.app r.verbose r.force

/-- The name of the log file is one that a path can have. -/
def Nameable : Prop := ∀ name ∈ r.app.logName?, '\x00' ∉ name.toList

instance : Decidable r.Nameable := inferInstanceAs (Decidable (∀ name ∈ r.app.logName?, _))

/-- The level that the call asks for. -/
def level : Level := wantedLevel r.app r.verbose

/-- The log file of the call, if the settings name one and it can be opened. -/
def opened? : Option Path :=
  (r.app.logName?.map Path.ofText).filter fun path => (openFile r.files path).failure?.isNone

/-- The handler for the console. -/
def console : Handler := ⟨r.level, .console r.place.terminal.showsColors⟩

/-- The handler for a log file. -/
def fileHandler (path : Path) : Handler where
  level := r.level
  target := .file
    { path := path.absolute r.files.working
      maxBytes := r.app.maxLogSizeMb * 1024 * 1024
      backupCount := r.app.backupCount }

/-- The output that the call leaves behind if it does anything. -/
def settled (out : Output) : Output where
  initialized := true
  level := r.level
  propagates := false
  handlers := r.console :: (r.opened?.map r.fileHandler).toList
  file? := r.opened?.or out.file?

end Request

/-- The line that names a log file. -/
def fileLine (name : String) : Entry := .debug channel s!"Log file: {name}"

/-- No path has a character that is not in its text, except slashes and dots. -/
lemma isBad_eq_false {name : String} (h : '\x00' ∉ name.toList) {p : Path} (hroot : p.root = (Path.ofText name).root)
    (hparts : ∀ part ∈ p.parts, part ∈ (Path.ofText name).parts) : isBad p = false := by
  rw [isBad, ← Bool.not_eq_true, List.contains_iff_mem]
  intro hmem
  rcases Path.mem_of_mem_text hmem with hslash | hdot | hmem | ⟨part, hpart, hmem⟩
  · exact absurd hslash (by decide)
  · exact absurd hdot (by decide)
  · exact absurd (Path.mem_of_mem_root_ofText (hroot ▸ hmem)) (by decide)
  · exact h (Path.mem_of_mem_part_ofText (hparts part hpart) hmem)

lemma openFile_ne_badPath {name : String} (h : '\x00' ∉ name.toList) (files : FileSystem) :
    (openFile files (Path.ofText name)).failure? ≠ some .badPath := by
  have hwhole : isBad (Path.ofText name) = false := isBad_eq_false h rfl fun _ hpart => hpart
  have habove : isBad (Path.ofText name).parent = false :=
    isBad_eq_false h rfl fun _ hpart => List.dropLast_subset _ hpart
  rw [openFile, habove, if_neg Bool.false_ne_true]
  dsimp only
  rw [hwhole, if_neg Bool.false_ne_true]
  split
  · exact nofun
  · split <;> exact nofun

namespace Request

variable {r : Request} {out : Output}

lemma answer_idle (hinitialized : out.initialized = true) (hforce : r.force = false) :
    r.answer out = { output := out, written := { files := r.files } } := by
  rw [answer, setUp, hinitialized, hforce]
  rfl

/-- **What a call comes to that does anything.** -/
lemma answer_effective (hname : r.Nameable) (h : out.initialized = false ∨ r.force = true) :
    ∃ files warnings, r.answer out = (r.settled out).finish files warnings := by
  have hgoes : (out.initialized && !r.force) = false := by
    rcases h with h | h <;> simp [h]
  rw [answer, setUp, hgoes, if_neg Bool.false_ne_true]
  cases hlog : r.app.logName? with
  | none =>
      have hopened : r.opened? = none := by rw [opened?, hlog]; rfl
      refine ⟨r.files, [], ?_⟩
      simp only [settled, hopened]
      rfl
  | some name =>
      cases hopen : (openFile r.files (Path.ofText name)).failure? with
      | none =>
          have hopened : r.opened? = some (Path.ofText name) := by simp [opened?, hlog, hopen]
          refine ⟨(openFile r.files (Path.ofText name)).files, [], ?_⟩
          simp only [settled, hopened, hopen]
          rfl
      | some failure =>
          have hopened : r.opened? = none := by simp [opened?, hlog, hopen]
          cases failure with
          | badPath => exact absurd hopen (openFile_ne_badPath (hname name hlog) _)
          | refused refusal path =>
              refine ⟨(openFile r.files (Path.ofText name)).files,
                ["Warning: Could not setup file logging: " ++ (refusal.fault path).message], ?_⟩
              simp only [settled, hopened, hopen]
              rfl

end Request

/-! ## Many calls -/

/-- The calls of a history that did anything: the first, and those that were forced. -/
def effective : List Request → List Request
  | [] => []
  | first :: rest => first :: rest.filter (·.force)

/-- The log file that was opened last. -/
def lastOpened? (history : List Request) : Option Path :=
  ((effective history).filterMap Request.opened?).getLast?

/-- An output after a history of calls.  Between the calls the host may put handlers of its own in place,
or change the level. -/
inductive Reached : List Request → Output → Prop where
  | fresh : Reached [] {}
  | answered {history out} {r : Request} (hname : r.Nameable) (h : Reached history out) :
      Reached (history ++ [r]) (r.answer out).output
  | meddled {history out} (level : Level) (propagates : Bool) (handlers : List Handler)
      (h : Reached history out) : Reached history { out with level, propagates, handlers }

lemma effective_append (history : List Request) (r : Request) :
    effective (history ++ [r]) =
      effective history ++ if history = [] ∨ r.force = true then [r] else [] := by
  cases history with
  | nil => simp [effective]
  | cons first rest => cases hforce : r.force <;> simp [effective, hforce]

lemma lastOpened?_append (history : List Request) (r : Request) :
    lastOpened? (history ++ [r]) =
      if history = [] ∨ r.force = true then r.opened?.or (lastOpened? history)
      else lastOpened? history := by
  rw [lastOpened?, effective_append, List.filterMap_append, List.getLast?_append]
  split
  · cases hopened : r.opened? <;> simp [hopened, lastOpened?]
  · rfl

/-- A call does something just if it is the first one or forced. -/
lemma Request.answer_cases {history : List Request} {out : Output} {r : Request} (hname : r.Nameable)
    (h : out.initialized = !history.isEmpty) :
    ((history = [] ∨ r.force = true) ∧
        ∃ files warnings, r.answer out = (r.settled out).finish files warnings) ∨
      (¬ (history = [] ∨ r.force = true) ∧
        r.answer out = { output := out, written := { files := r.files } }) := by
  by_cases hacts : history = [] ∨ r.force = true
  · refine .inl ⟨hacts, answer_effective hname ?_⟩
    rw [h]
    exact hacts.imp_left (by rintro rfl; rfl)
  · obtain ⟨hcalled, hforce⟩ := not_or.mp hacts
    exact .inr ⟨hacts, answer_idle (by simpa [h] using hcalled) (by simpa using hforce)⟩

/-- **An output remembers** that it has been set up, and the log file that was opened last. -/
lemma Reached.memory {history : List Request} {out : Output} (h : Reached history out) :
    out.initialized = !history.isEmpty ∧ out.file? = lastOpened? history := by
  induction h with
  | fresh => exact ⟨rfl, rfl⟩
  | meddled _ _ _ _ ih => exact ih
  | @answered history out r hname _ ih =>
      obtain ⟨hinitialized, hfile⟩ := ih
      have hcalled : (!(history ++ [r]).isEmpty) = true := by simp
      rw [lastOpened?_append, ← hfile, hcalled]
      rcases Request.answer_cases hname hinitialized with ⟨hacts, files, warnings, hanswer⟩ | ⟨hidle, hanswer⟩
      · rw [hanswer, if_pos hacts]
        exact ⟨rfl, rfl⟩
      · rw [hanswer, if_neg hidle]
        exact ⟨by simpa [hinitialized] using (not_or.mp hidle).1, rfl⟩

/-! ## The line about the file -/

lemma fileLine_inj {name other : String} : fileLine name = fileLine other ↔ name = other := by
  simp [fileLine, Entry.debug, toString]

/-- Lines with texts that differ in one of their first letters are two. -/
lemma fileLine_ne {name text : String} (h : text.toList.take 5 ≠ "Log f".toList) :
    fileLine name ≠ .debug channel text := by
  rintro heq
  refine h ?_
  have htext : "Log file: " ++ name = text := congrArg Entry.text heq
  simp [← htext]

lemma fileLine_mem_setUpLines {out : Output} {name : String} :
    fileLine name ∈ out.setUpLines ↔ out.file?.map Path.text = some name := by
  have hready : fileLine name ≠ .debug channel "Logging system initialized" := fileLine_ne (by simp)
  have hlevel : fileLine name ≠ .debug channel ("Log level: " ++ out.level.name) := fileLine_ne (by simp)
  have hlines : out.setUpLines =
      .debug channel "Logging system initialized" :: .debug channel ("Log level: " ++ out.level.name) ::
        (out.file?.map fun path => fileLine path.text).toList := rfl
  rw [hlines, List.mem_cons, List.mem_cons, or_iff_right hready, or_iff_right hlevel, Option.mem_toList]
  cases out.file? with
  | none => simp
  | some path => simp [fileLine_inj]

/-! ## Any call after any calls -/

/-- A call that says which log file it has opened itself, and names no other one. -/
def Request.NamesItsFile (r : Request) (out : Output) : Prop :=
  ∀ name, fileLine name ∈ (r.answer out).lines ↔ r.opened?.map Path.text = some name

/-- **Setting up again.**  A call that is neither the first nor forced changes nothing and writes nothing.
Any other one leaves a handler for the console, and one for the log file just if the settings name one that
can be opened, both at the level that it asks for; its lines are written to these.  They name the file that
has been opened last, by this call or by an earlier one.  So they name the file of this call, and no other
one, just if it has opened one or there has never been one. -/
theorem Reached.setUp_again {history : List Request} {out : Output} (h : Reached history out) (r : Request)
    (hname : r.Nameable) :
    (r.answer out).fault? = none ∧
      (history ≠ [] → r.force = false →
        r.answer out = { output := out, written := { files := r.files } }) ∧
      (history = [] ∨ r.force = true →
        (r.answer out).output =
            { initialized := true
              level := r.level
              propagates := false
              handlers := r.console :: (r.opened?.map r.fileHandler).toList
              file? := r.opened?.or (lastOpened? history) } ∧
          (∀ handler ∈ (r.answer out).output.handlers, handler.level = r.level) ∧
          (∃ files warnings, (r.answer out).written.shown =
            warnings ++ ((r.answer out).output.writeEntries files (r.answer out).lines).shown) ∧
          (∀ name, fileLine name ∈ (r.answer out).lines ↔
            (r.opened?.or (lastOpened? history)).map Path.text = some name) ∧
          (r.NamesItsFile out ↔ r.opened?.isSome ∨ lastOpened? history = none)) := by
  obtain ⟨hinitialized, hfile⟩ := h.memory
  rcases Request.answer_cases hname hinitialized with ⟨hacts, files, warnings, hanswer⟩ | ⟨hidle, hanswer⟩
  · have hlines : ∀ name, fileLine name ∈ (r.answer out).lines ↔
        (r.opened?.or (lastOpened? history)).map Path.text = some name := fun name => by
      rw [hanswer, finish, fileLine_mem_setUpLines, ← hfile]
      rfl
    have hnames : r.NamesItsFile out ↔ r.opened?.isSome ∨ lastOpened? history = none := by
      simp only [Request.NamesItsFile, hlines]
      cases r.opened? with
      | some path => simp
      | none => cases lastOpened? history <;> simp
    refine ⟨by rw [hanswer]; rfl, fun hcalled hforce => ?_, fun _ => ⟨?_, ?_, ?_, hlines, hnames⟩⟩
    · exact absurd hacts (not_or.mpr ⟨hcalled, by simp [hforce]⟩)
    · rw [hanswer, ← hfile]
      rfl
    · rw [hanswer]
      show ∀ handler ∈ r.console :: (r.opened?.map r.fileHandler).toList, handler.level = r.level
      cases r.opened? <;> simp [Request.console, Request.fileHandler]
    · exact ⟨files, warnings, by rw [hanswer]; rfl⟩
  · exact ⟨by rw [hanswer], fun _ _ => hanswer, fun hacts => absurd hacts hidle⟩

/-- A call that opens a log file. -/
def toFile : Request where
  place := {}
  files := .empty
  app := { logFile := some "a.log", logLevel := .debug }

/-- A call that sets the output up again, without a log file. -/
def toConsole : Request where
  place := {}
  files := .empty
  app := { logLevel := .debug }
  force := true

/-- The log file of the first call is named by the second one, which writes to the console alone. -/
theorem toConsole_names_earlier_file :
    (toConsole.answer (toFile.answer {}).output).output.handlers = [toConsole.console] ∧
      fileLine "a.log" ∈ (toConsole.answer (toFile.answer {}).output).lines ∧
      ¬ toConsole.NamesItsFile (toFile.answer {}).output := by
  have hreached : Reached [toFile] (toFile.answer {}).output :=
    Reached.fresh.answered (by decide)
  have hopened : toConsole.opened? = none := rfl
  have hlast : lastOpened? [toFile] = some { parts := ["a.log"] } := by decide +kernel
  obtain ⟨houtput, -, -, hlines, hnames⟩ := (hreached.setUp_again toConsole (by decide)).2.2 (.inr rfl)
  refine ⟨?_, ?_, ?_⟩
  · rw [houtput, hopened]
    rfl
  · rw [hlines, hopened, hlast]
    rfl
  · simp [hnames, hopened, hlast]

end CommandPalette.Log.Output
