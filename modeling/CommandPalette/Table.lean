/-!
# Tables in order of insertion

A table maps names to values and remembers in which order the names came.  Writing to a name that is
there already replaces the value and keeps the place.

* `Table`: the tables.
* `Table.get?`, `Table.insert`, `Table.erase`: the map, with the laws that tie them together.
-/

namespace CommandPalette

/-- A map from names to values in order of insertion. -/
structure Table (α : Type _) where
  /-- The entries, the oldest name first. -/
  entries : List (String × α) := []
  deriving Repr, Inhabited

namespace Table

variable {α : Type _}

/-- The value of a name. -/
def get? (t : Table α) (name : String) : Option α := t.entries.lookup name

/-- The names, the oldest first. -/
def keys (t : Table α) : List String := t.entries.map (·.1)

/-- The values, in the order of their names. -/
def values (t : Table α) : List α := t.entries.map (·.2)

/-- How many names there are. -/
def size (t : Table α) : Nat := t.entries.length

/-- Whether a name is there. -/
def contains (t : Table α) (name : String) : Bool := (t.get? name).isSome

/-- Writes a value to a name in a list of entries. -/
def insertEntry {κ : Type _} [DecidableEq κ] (name : κ) (value : α) : List (κ × α) → List (κ × α)
  | [] => [(name, value)]
  | (key, old) :: rest =>
    if key = name then (key, value) :: rest else (key, old) :: insertEntry name value rest

/-- Writes a value to a name. -/
def insert (t : Table α) (name : String) (value : α) : Table α :=
  ⟨insertEntry name value t.entries⟩

/-- Writes several values, one after the other. -/
def insertAll (t : Table α) (entries : List (String × α)) : Table α :=
  entries.foldl (fun t (name, value) => t.insert name value) t

/-- Removes a name. -/
def erase (t : Table α) (name : String) : Table α := ⟨t.entries.filter fun (key, _) => key != name⟩

/-! ## Reading after writing -/

theorem lookup_insertEntry {κ : Type _} [DecidableEq κ] [BEq κ] [LawfulBEq κ] (name key : κ) (value : α)
    (entries : List (κ × α)) :
    (insertEntry name value entries).lookup key =
      if key = name then some value else entries.lookup key := by
  induction entries with
  | nil =>
    by_cases h : key = name
    · simp [insertEntry, h]
    · simp [insertEntry, List.lookup_cons, h, beq_false_of_ne h]
  | cons entry rest ih =>
    obtain ⟨k, old⟩ := entry
    by_cases hk : k = name
    · subst hk
      by_cases h : key = k
      · simp [insertEntry, h]
      · simp [insertEntry, List.lookup_cons, h, beq_false_of_ne h]
    · by_cases h : key = k
      · subst h
        simp [insertEntry, hk]
      · simp [insertEntry, hk, List.lookup_cons, beq_false_of_ne h, ih]

/-- A write is read back, and no other name is touched. -/
theorem get?_insert (t : Table α) (name key : String) (value : α) :
    (t.insert name value).get? key = if key = name then some value else t.get? key :=
  lookup_insertEntry name key value t.entries

/-- Of several writes to one name the last is read back. -/
theorem get?_insertAll (t : Table α) (entries : List (String × α)) (key : String) :
    (t.insertAll entries).get? key = (entries.reverse.lookup key).or (t.get? key) := by
  induction entries generalizing t with
  | nil => simp [insertAll]
  | cons entry rest ih =>
    obtain ⟨name, value⟩ := entry
    have hstep : t.insertAll ((name, value) :: rest) = (t.insert name value).insertAll rest := rfl
    rw [hstep, ih, get?_insert, List.reverse_cons, List.lookup_append]
    by_cases h : key = name
    · simp [h]
    · simp [List.lookup_cons, h, beq_false_of_ne h]

end Table

end CommandPalette
