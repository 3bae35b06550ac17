import CommandPalette.Table
import Mathlib.Data.List.Basic
import Mathlib.Data.List.Nodup
import Mathlib.Tactic.Lemma

/-!
# The order of a table

A write to a name that is there already does not move it, and a new name comes last.  So after several
writes the old names stand where they stood, and behind them the new ones in the order in which each
was first written: **`keys_insertAll`**.  No name is there twice, so what is listed is found
(`get?_of_mem`), in whatever order it is listed (`get?_of_perm`); and what is listed was there before or
was written (`mem_insertAll`).  What a change of one name means for the others is said by `get?_erase` and
`filter_insertEntry`.
-/

namespace CommandPalette.Table

variable {α : Type _}

lemma keys_insertEntry {κ : Type _} [DecidableEq κ] (name : κ) (value : α) (entries : List (κ × α)) :
    (insertEntry name value entries).map (·.1) =
      if name ∈ entries.map (·.1) then entries.map (·.1) else entries.map (·.1) ++ [name] := by
  induction entries with
  | nil => simp [insertEntry]
  | cons entry rest ih =>
      obtain ⟨key, old⟩ := entry
      by_cases hkey : key = name
      · simp [insertEntry, hkey]
      · rw [insertEntry, if_neg hkey, List.map_cons, ih]
        by_cases hrest : name ∈ rest.map (·.1)
        · simp [hrest]
        · simp [hrest, Ne.symm hkey]

lemma insertEntry_of_notMem {κ : Type _} [DecidableEq κ] {name : κ} {entries : List (κ × α)}
    (h : name ∉ entries.map (·.1)) (value : α) :
    insertEntry name value entries = entries ++ [(name, value)] := by
  induction entries with
  | nil => rfl
  | cons entry rest ih =>
      obtain ⟨hkey, hrest⟩ := List.ne_and_not_mem_of_not_mem_cons h
      rw [insertEntry, if_neg (Ne.symm hkey), ih hrest]
      rfl

lemma keys_insert (t : Table α) (name : String) (value : α) :
    (t.insert name value).keys = if name ∈ t.keys then t.keys else t.keys ++ [name] :=
  keys_insertEntry name value t.entries

/-- **Old names keep their places, and new ones follow in the order of their first writes.** -/
lemma keys_insertAll (t : Table α) (writes : List (String × α)) :
    (t.insertAll writes).keys =
      t.keys ++ ((writes.map (·.1)).filter (· ∉ t.keys)).eraseDups := by
  induction writes generalizing t with
  | nil => simp [insertAll]
  | cons write rest ih =>
      obtain ⟨name, value⟩ := write
      have hstep : t.insertAll ((name, value) :: rest) = (t.insert name value).insertAll rest := rfl
      rw [hstep, ih, keys_insert, List.map_cons]
      by_cases hname : name ∈ t.keys
      · rw [if_pos hname, List.filter_cons_of_neg (by simpa using hname)]
      · have hnew : (rest.map (·.1)).filter (· ∉ t.keys ++ [name]) =
            ((rest.map (·.1)).filter (· ∉ t.keys)).filter fun key => !key == name := by
          rw [List.filter_filter]
          refine List.filter_congr fun key _ => ?_
          by_cases hkey : key = name <;> simp [hkey]
        rw [if_neg hname, List.filter_cons_of_pos (by simpa using hname), List.eraseDups_cons, hnew,
          List.append_assoc, List.singleton_append]

/-- No name is in a table twice, if it was not before. -/
lemma nodup_keys_insertAll {t : Table α} (h : t.keys.Nodup) (writes : List (String × α)) :
    (t.insertAll writes).keys.Nodup := by
  induction writes generalizing t with
  | nil => exact h
  | cons write rest ih =>
      obtain ⟨name, value⟩ := write
      refine ih ?_
      rw [keys_insert]
      split
      · exact h
      · rename_i hnew
        rw [← List.concat_eq_append]
        exact .concat hnew h

/-- Where no name is there twice, every entry is found. -/
lemma get?_of_mem {t : Table α} (h : t.keys.Nodup) {name : String} {value : α}
    (hentry : (name, value) ∈ t.entries) : t.get? name = some value := by
  obtain ⟨entries⟩ := t
  induction entries with
  | nil => simp at hentry
  | cons first rest ih =>
      obtain ⟨key, old⟩ := first
      obtain ⟨hfirst, hrest⟩ := List.nodup_cons.mp h
      rcases List.mem_cons.mp hentry with heq | hlater
      · obtain ⟨rfl, rfl⟩ := Prod.mk.inj heq
        simp [get?]
      · have hname : name ≠ key := by
          rintro rfl
          exact hfirst (List.mem_map.mpr ⟨(name, value), hlater, rfl⟩)
        rw [get?, List.lookup_cons, beq_false_of_ne hname]
        exact ih hrest hlater

lemma mem_insertEntry {name : String} {value : α} {entries : List (String × α)} {w : String × α}
    (h : w ∈ insertEntry name value entries) : w = (name, value) ∨ w ∈ entries := by
  induction entries with
  | nil => exact .inl (List.mem_singleton.mp h)
  | cons entry rest ih =>
      obtain ⟨key, old⟩ := entry
      by_cases hkey : key = name
      · rw [insertEntry, if_pos hkey, hkey] at h
        exact (List.mem_cons.mp h).imp_right (List.mem_cons_of_mem _)
      · rw [insertEntry, if_neg hkey] at h
        rcases List.mem_cons.mp h with rfl | h
        · exact .inr List.mem_cons_self
        · exact (ih h).imp_right (List.mem_cons_of_mem _)

/-- An entry of a table was there before or was written. -/
lemma mem_insertAll {t : Table α} {writes : List (String × α)} {w : String × α}
    (h : w ∈ (t.insertAll writes).entries) : w ∈ writes ∨ w ∈ t.entries := by
  induction writes generalizing t with
  | nil => exact .inr h
  | cons write rest ih =>
      rcases ih h with hlater | hinsert
      · exact .inl (List.mem_cons_of_mem _ hlater)
      · rcases mem_insertEntry hinsert with rfl | hold
        · exact .inl List.mem_cons_self
        · exact .inr hold

/-- The names of a table after several writes. -/
lemma mem_keys_insertAll {t : Table α} {writes : List (String × α)} {name : String} :
    name ∈ (t.insertAll writes).keys ↔ name ∈ t.keys ∨ name ∈ writes.map (·.1) := by
  rw [keys_insertAll, List.mem_append, List.mem_eraseDups, List.mem_filter]
  by_cases h : name ∈ t.keys <;> simp [h]

lemma mem_of_get? {t : Table α} {name : String} {value : α} (h : t.get? name = some value) :
    (name, value) ∈ t.entries := by
  obtain ⟨before, after, hsplit, -⟩ := List.lookup_eq_some_iff.mp h
  rw [hsplit]
  exact List.mem_append_right _ List.mem_cons_self

/-- Where no name is there twice, the order of the entries does not matter for what is found. -/
lemma get?_of_perm {t u : Table α} (h : t.keys.Nodup) (hperm : u.entries.Perm t.entries) (name : String) :
    u.get? name = t.get? name := by
  have hu : u.keys.Nodup := (hperm.map _).nodup_iff.mpr h
  refine Option.ext fun value => ⟨fun hfound => ?_, fun hfound => ?_⟩
  · exact get?_of_mem h (hperm.mem_iff.mp (mem_of_get? hfound))
  · exact get?_of_mem hu (hperm.mem_iff.mpr (mem_of_get? hfound))

/-! ## Erasing and filtering -/

lemma get?_erase (t : Table α) (name key : String) :
    (t.erase name).get? key = if key = name then none else t.get? key := by
  obtain ⟨entries⟩ := t
  simp only [erase, get?]
  induction entries with
  | nil => simp
  | cons entry rest ih =>
      obtain ⟨k, old⟩ := entry
      rw [List.filter_cons]
      by_cases hk : k = name
      · subst hk
        rw [if_neg (by simp), ih]
        by_cases hkey : key = k
        · rw [if_pos hkey, if_pos hkey]
        · rw [if_neg hkey, if_neg hkey, List.lookup_cons, beq_false_of_ne hkey]
      · rw [if_pos (by simpa using hk), List.lookup_cons, List.lookup_cons, ih]
        by_cases hkey : key = k
        · subst hkey
          simp [hk]
        · rw [beq_false_of_ne hkey]

/-- A write to a name that is left out is not seen among the others. -/
lemma filter_insertEntry (keep : String → Bool) (name : String) (value : α) (entries : List (String × α)) :
    (insertEntry name value entries).filter (fun e => keep e.1) =
      if keep name then insertEntry name value (entries.filter fun e => keep e.1)
      else entries.filter fun e => keep e.1 := by
  induction entries with
  | nil => cases hname : keep name <;> simp [insertEntry, hname]
  | cons entry rest ih =>
      obtain ⟨key, old⟩ := entry
      by_cases hkey : key = name
      · subst hkey
        cases hname : keep key <;> simp [insertEntry, hname]
      · rw [insertEntry, if_neg hkey, List.filter_cons, List.filter_cons, ih]
        cases keep key <;> cases keep name <;> simp [insertEntry, hkey]

end CommandPalette.Table
