import CommandPalette.Arrangement
import CommandPalette.Proofs.Motion.Code
import CommandPalette.Proofs.Text.Template
import Mathlib.Data.List.Forall2
import Mathlib.Data.List.Rotate
import Mathlib.Tactic.Lemma

/-!
# What a menu consists of

Annotating and turning a menu adds no entry and takes none away.

* `forall₂_of_mapM`: a list that was mapped without a fault, entry by entry.
* `length_rotate`, `length_annotate`, `length_arrange`: how many entries there are.
* `getElem?_rotate`: the place from which an entry of a turned list comes.
* `Annotation.Turned`: a menu in vim mode, entry by entry.  **`turned_of_arrange`**: such a menu is
  what arranging gives.
* `Annotation.Refuses`: some code spoils the template.  **`annotate_eq_error_iff`**: only then is there no
  menu.  `Annotation.Formats`: no code does, so there always is one, `exists_arrange`.
-/

namespace CommandPalette

open Motion

lemma error_of_bind {ε α β : Type _} {x : Except ε α} {f : α → Except ε β} {fault : ε}
    (h : x >>= f = .error fault) : x = .error fault ∨ ∃ a, x = .ok a ∧ f a = .error fault := by
  cases x with
  | error other => exact .inl (congrArg Except.error (Except.error.inj h))
  | ok a => exact .inr ⟨a, rfl, h⟩

/-- The fault of a list that is mapped is that of the first item that has one. -/
lemma mapM_eq_error_iff {ε α β : Type _} {f : α → Except ε β} {items : List α} {fault : ε} :
    items.mapM f = .error fault ↔ ∃ (i : ℕ) (item : α), items[i]? = some item ∧ f item = .error fault ∧
      ∀ j < i, ∀ other, items[j]? = some other → ∃ image, f other = .ok image := by
  induction items with
  | nil =>
      rw [List.mapM_nil]
      exact iff_of_false nofun (by simp)
  | cons first rest ih =>
      rw [List.mapM_cons]
      cases hfirst : f first with
      | error other =>
          constructor
          · intro h
            cases h
            exact ⟨0, first, rfl, hfirst, fun j hj => absurd hj (Nat.not_lt_zero j)⟩
          · rintro ⟨i, item, hitem, hfault, hbefore⟩
            cases i with
            | zero =>
                obtain rfl : first = item := Option.some.inj hitem
                exact congrArg Except.error (Except.error.inj (hfirst.symm.trans hfault))
            | succ i =>
                obtain ⟨image, himage⟩ := hbefore 0 (Nat.succ_pos i) first rfl
                cases hfirst.symm.trans himage
      | ok image =>
          have hrest : (do let images ← rest.mapM f; pure (image :: images) : Except ε (List β)) =
              .error fault ↔ rest.mapM f = .error fault := by
            cases rest.mapM f with
            | error other => exact Iff.rfl
            | ok images => exact iff_of_false nofun nofun
          refine hrest.trans (ih.trans ?_)
          constructor
          · rintro ⟨i, item, hitem, hfault, hbefore⟩
            refine ⟨i + 1, item, hitem, hfault, fun j hj other hother => ?_⟩
            cases j with
            | zero =>
                obtain rfl : first = other := Option.some.inj hother
                exact ⟨image, hfirst⟩
            | succ j => exact hbefore j (Nat.lt_of_succ_lt_succ hj) other hother
          · rintro ⟨i, item, hitem, hfault, hbefore⟩
            cases i with
            | zero =>
                obtain rfl : first = item := Option.some.inj hitem
                cases hfirst.symm.trans hfault
            | succ i =>
                exact ⟨i, item, hitem, hfault, fun j hj other hother =>
                  hbefore (j + 1) (Nat.succ_lt_succ hj) other hother⟩

lemma exists_mapM_ok {ε α β : Type _} {f : α → Except ε β} {items : List α}
    (h : ∀ item ∈ items, ∃ image, f item = .ok image) : ∃ images, items.mapM f = .ok images := by
  cases hmap : items.mapM f with
  | ok images => exact ⟨images, rfl⟩
  | error fault =>
      obtain ⟨i, item, hitem, hfault, -⟩ := mapM_eq_error_iff.mp hmap
      obtain ⟨image, himage⟩ := h item (List.mem_of_getElem? hitem)
      cases hfault.symm.trans himage

/-- What is mapped without a fault is mapped entry by entry. -/
lemma forall₂_of_mapM {ε α β : Type _} {f : α → Except ε β} {items : List α} {images : List β}
    (h : items.mapM f = .ok images) : List.Forall₂ (fun item image => f item = .ok image) items images := by
  induction items generalizing images with
  | nil =>
      rw [List.mapM_nil] at h
      cases h
      exact .nil
  | cons item rest ih =>
      rw [List.mapM_cons] at h
      cases hitem : f item with
      | error fault => rw [hitem] at h; cases h
      | ok image =>
          cases hrest : rest.mapM f with
          | error fault => rw [hitem, hrest] at h; cases h
          | ok images =>
              rw [hitem, hrest] at h
              cases h
              exact .cons hitem (ih hrest)

lemma mapM_of_forall₂ {ε α β : Type _} {f : α → Except ε β} {items : List α} {images : List β}
    (h : List.Forall₂ (fun item image => f item = .ok image) items images) :
    items.mapM f = .ok images := by
  induction h with
  | nil => exact List.mapM_nil
  | cons hitem _ ih =>
      rw [List.mapM_cons, hitem, ih]
      rfl

lemma length_rotate {α : Type _} (items : List α) (offset : Int) :
    (rotate items offset).length = items.length := by
  rw [rotate, List.length_append, List.length_drop, List.length_take]
  omega

lemma length_annotate {look : Annotation} {keymap : Motion.Keymap} {highlighted : Int}
    {suggestions annotated : List Suggestion}
    (h : annotate look keymap highlighted suggestions = .ok annotated) :
    annotated.length = suggestions.length := by
  rw [← (forall₂_of_mapM h).length_eq, List.length_zipIdx]

/-- In vim mode a menu is annotated and then turned. -/
lemma arrange_vim (look : Annotation) (keymap : Option Keymap) (y : Int)
    (suggestions : List Suggestion) :
    arrange look true keymap y suggestions =
      (annotate look (keymap.getD {}) (ringIndex y suggestions.length) suggestions).map
        fun annotated => .ofList (rotate annotated y) := by
  rw [arrange, if_pos rfl]
  cases annotate look (keymap.getD {}) (ringIndex y suggestions.length) suggestions <;> rfl

/-- What is arranged without a fault is a list with as many entries, turned. -/
lemma eq_ofList_of_arrange {look : Annotation} {vimMode : Bool} {keymap : Option Keymap} {y : Int}
    {suggestions : List Suggestion} {menu : Arrangement}
    (h : arrange look vimMode keymap y suggestions = .ok menu) :
    ∃ items, menu = .ofList (rotate items y) ∧ items.length = suggestions.length ∧
      (vimMode = true →
        annotate look (keymap.getD {}) (ringIndex y suggestions.length) suggestions = .ok items) := by
  cases vimMode with
  | false =>
      cases h
      exact ⟨suggestions, rfl, rfl, fun hvim => by cases hvim⟩
  | true =>
      rw [arrange_vim] at h
      cases hannotate : annotate look (keymap.getD {}) (ringIndex y suggestions.length) suggestions with
      | error fault => rw [hannotate] at h; cases h
      | ok annotated =>
          rw [hannotate] at h
          exact ⟨annotated, (Except.ok.inj h).symm, length_annotate hannotate, fun _ => rfl⟩

/-- A menu has as many entries as were suggested. -/
lemma length_arrange {look : Annotation} {vimMode : Bool} {keymap : Option Keymap} {y : Int}
    {suggestions : List Suggestion} {menu : Arrangement}
    (h : arrange look vimMode keymap y suggestions = .ok menu) :
    menu.suggestions.length = suggestions.length := by
  obtain ⟨items, rfl, hlength, -⟩ := eq_ofList_of_arrange h
  rw [← hlength]
  exact length_rotate items y

/-- What is selected is the content of the first entry. -/
lemma selected_of_arrange {look : Annotation} {vimMode : Bool} {keymap : Option Keymap} {y : Int}
    {suggestions : List Suggestion} {menu : Arrangement}
    (h : arrange look vimMode keymap y suggestions = .ok menu) :
    menu.selected = (menu.suggestions.head?.map Suggestion.content).getD "" := by
  obtain ⟨items, rfl, -, -⟩ := eq_ofList_of_arrange h
  rfl

/-! ## Places in the ring -/

lemma ringIndex_lt {n : ℕ} (h : 0 < n) (y : Int) : ringIndex y n < n := by
  have hlt := Int.emod_lt_of_pos y (Int.natCast_pos.mpr h)
  have hnonneg := Int.emod_nonneg y (Int.natCast_ne_zero.mpr (Nat.ne_of_gt h))
  rw [ringIndex]
  omega

@[simp] lemma ringIndex_zero (n : ℕ) : ringIndex 0 n = 0 := by
  simp [ringIndex]

lemma ringIndex_natCast {n i : ℕ} (h : i < n) : ringIndex i n = i := by
  rw [ringIndex, ← Int.natCast_emod, Int.toNat_natCast, Nat.mod_eq_of_lt h]

lemma natCast_ringIndex {n : ℕ} (h : 0 < n) (y : Int) : (ringIndex y n : Int) = y % n :=
  Int.toNat_of_nonneg (Int.emod_nonneg y (Int.natCast_ne_zero.mpr (Nat.ne_of_gt h)))

lemma ringIndex_add {n : ℕ} (h : 0 < n) (y : Int) (i : ℕ) :
    ringIndex (y + i) n = (i + ringIndex y n) % n := by
  apply Int.natCast_inj.mp
  rw [natCast_ringIndex h, Int.natCast_emod, Int.natCast_add, natCast_ringIndex h, Int.add_emod_emod,
    Int.add_comm]

/-- Only the first place of a turned menu is that of the entry pointed at. -/
lemma ringIndex_add_eq_iff {n i : ℕ} (h : i < n) (y : Int) :
    ringIndex (y + i) n = ringIndex y n ↔ i = 0 := by
  have hlt := ringIndex_lt (Nat.zero_lt_of_lt h) y
  rw [ringIndex_add (Nat.zero_lt_of_lt h)]
  constructor
  · intro heq
    rcases Nat.lt_or_ge (i + ringIndex y n) n with hsmall | hlarge
    · rw [Nat.mod_eq_of_lt hsmall] at heq
      omega
    · rw [Nat.mod_eq_sub_mod hlarge, Nat.mod_eq_of_lt (by omega)] at heq
      omega
  · rintro rfl
    rw [Nat.zero_add, Nat.mod_eq_of_lt hlt]

/-- Every place is in the ring somewhere. -/
lemma exists_ringIndex_add_eq {n i : ℕ} (h : i < n) (y : Int) : ∃ j < n, ringIndex (y + j) n = i := by
  have hpos := Nat.zero_lt_of_lt h
  refine ⟨ringIndex (i - y) n, ringIndex_lt hpos _, ?_⟩
  calc ringIndex (y + ringIndex (i - y) n) n = ((y + (i - y) % n) % n).toNat := by
        rw [ringIndex, natCast_ringIndex hpos]
    _ = ringIndex i n := by rw [Int.add_emod_emod, ringIndex, show y + (i - y) = i by omega]
    _ = i := ringIndex_natCast h

/-- Turning a list is a rotation. -/
lemma rotate_eq {α : Type _} (items : List α) (offset : Int) :
    rotate items offset = items.rotate (ringIndex offset items.length) := by
  cases items with
  | nil => simp [rotate]
  | cons first rest =>
      have hlt := ringIndex_lt (Nat.succ_pos rest.length) offset
      rw [rotate, List.rotate_eq_drop_append_take (Nat.le_of_lt hlt)]

@[simp] lemma rotate_nil {α : Type _} (offset : Int) : rotate ([] : List α) offset = [] := by
  simp [rotate]

@[simp] lemma rotate_zero {α : Type _} (items : List α) : rotate items 0 = items := by
  rw [rotate_eq, ringIndex_zero, List.rotate_zero]

lemma getElem?_rotate {α : Type _} {items : List α} {i : ℕ} (h : i < items.length) (offset : Int) :
    (rotate items offset)[i]? = items[ringIndex (offset + i) items.length]? := by
  rw [rotate_eq, List.getElem?_rotate h, ringIndex_add (Nat.zero_lt_of_lt h)]

/-! ## Menus in vim mode -/

namespace Annotation

/-- The entry that shows a suggestion with its jump code. -/
def Marks (look : Annotation) (highlighted : Bool) (code : List Char) (s shown : Suggestion) : Prop :=
  ∃ lead, look.lead highlighted (String.ofList code) = .ok lead ∧
    shown = { content := s.content, description := lead ++ " " ++ s.description
              code := some (String.ofList code) }

/-- A menu in vim mode that was turned to a row: each entry bears the code of the place from which it
comes, and the first one is the one pointed at. -/
structure Turned (look : Annotation) (keymap : Keymap) (y : Int) (suggestions menu : List Suggestion) :
    Prop where
  length_eq : menu.length = suggestions.length
  marks : ∀ i < suggestions.length, ∃ s shown,
    suggestions[ringIndex (y + i) suggestions.length]? = some s ∧ menu[i]? = some shown ∧
      look.Marks (decide (i = 0)) (keymap.keyFor (ringIndex (y + i) suggestions.length)) s shown

/-- The entry at a place of such a menu, in the codes of the menu. -/
lemma Turned.getElem? {look : Annotation} {y : Int} {suggestions menu : List Suggestion}
    (h : look.Turned (.generate suggestions.length) y suggestions menu) {i j : ℕ}
    (hi : i < suggestions.length) (hj : j < suggestions.length)
    (hring : ringIndex (y + j) suggestions.length = i) :
    ∃ lead, look.lead (decide (j = 0)) (String.ofList (codeOf i)) = .ok lead ∧
      menu[j]? = some { content := suggestions[i].content
                        description := lead ++ " " ++ suggestions[i].description
                        code := some (String.ofList (codeOf i)) } := by
  obtain ⟨s, shown, hs, hshown, lead, hlead, rfl⟩ := h.marks j hj
  rw [hring] at hs hshown hlead
  rw [Keymap.keyFor_generate hi] at hshown hlead
  obtain rfl : suggestions[i] = s := Option.some.inj ((List.getElem?_eq_getElem hi).symm.trans hs)
  exact ⟨lead, hlead, hshown⟩

/-- The first entry of such a menu is one of the suggestions. -/
lemma Turned.head_mem {look : Annotation} {keymap : Keymap} {y : Int}
    {suggestions menu : List Suggestion} (h : look.Turned keymap y suggestions menu)
    (hne : suggestions ≠ []) :
    ∃ s ∈ suggestions, (menu.head?.map Suggestion.content).getD "" = s.content := by
  obtain ⟨s, shown, hs, hshown, lead, -, rfl⟩ := h.marks 0 (List.length_pos_iff.mpr hne)
  refine ⟨s, List.mem_of_getElem? hs, ?_⟩
  rw [List.head?_eq_getElem?, hshown]
  rfl

/-- No jump code spoils the template of codes. -/
def Formats (look : Annotation) : Prop :=
  ∀ i, ∃ text, look.lead false (String.ofList (codeOf i)) = .ok text

/-- In a menu of a size, the template does not take the code of an entry other than the one pointed at;
the fault is that of the first such entry. -/
def Refuses (look : Annotation) (size row : ℕ) (fault : Fault) : Prop :=
  ∃ i < size, i ≠ row ∧ look.lead false (String.ofList (codeOf i)) = .error fault ∧
    ∀ j < i, j ≠ row → ∃ text, look.lead false (String.ofList (codeOf j)) = .ok text

/-- The template that is meant if none is given takes every text. -/
lemma formats_default : ({} : Annotation).Formats := fun i =>
  ⟨_, congrArg (Except.mapError Fault.template)
    (Text.Template.render_bracketed (String.ofList (codeOf i)))⟩

end Annotation

section Arranged

variable {look : Annotation} {keymap : Keymap} {suggestions : List Suggestion}

lemma entry_eq (highlighted : Int) (s : Suggestion) (i : ℕ) :
    look.entry keymap highlighted s i =
      (look.lead (decide (Int.ofNat i = highlighted)) (String.ofList (keymap.keyFor i))).map
        fun lead => { content := s.content, description := lead ++ " " ++ s.description
                      code := some (String.ofList (keymap.keyFor i)) } := by
  unfold Annotation.entry
  show (look.lead (decide (Int.ofNat i = highlighted)) (String.ofList (keymap.keyFor i)) >>= _) = _
  cases look.lead (decide (Int.ofNat i = highlighted)) (String.ofList (keymap.keyFor i)) <;> rfl

/-- The entry of a row is the one pointed at if it has the same place. -/
lemma entry_row (row : ℕ) (s : Suggestion) (i : ℕ) :
    look.entry keymap row s i =
      (look.lead (decide (i = row)) (String.ofList (keymap.keyFor i))).map
        fun lead => { content := s.content, description := lead ++ " " ++ s.description
                      code := some (String.ofList (keymap.keyFor i)) } := by
  rw [entry_eq, show decide (Int.ofNat i = (row : Int)) = decide (i = row) from
    decide_eq_decide.mpr Int.ofNat_inj]

lemma marks_of_entry {highlighted : Int} {s shown : Suggestion} {i : ℕ}
    (h : look.entry keymap highlighted s i = .ok shown) :
    look.Marks (decide (Int.ofNat i = highlighted)) (keymap.keyFor i) s shown := by
  rw [entry_eq] at h
  cases hlead : look.lead (decide (Int.ofNat i = highlighted)) (String.ofList (keymap.keyFor i)) with
  | error fault => rw [hlead] at h; cases h
  | ok lead =>
      rw [hlead] at h
      exact ⟨lead, hlead, (Except.ok.inj h).symm⟩

/-- Annotating goes entry by entry. -/
lemma getElem?_annotate {highlighted : Int} {annotated : List Suggestion}
    (h : annotate look keymap highlighted suggestions = .ok annotated) {i : ℕ}
    (hi : i < suggestions.length) :
    ∃ s shown, suggestions[i]? = some s ∧ annotated[i]? = some shown ∧
      look.Marks (decide (Int.ofNat i = highlighted)) (keymap.keyFor i) s shown := by
  have hlength := length_annotate h
  have hi' : i < annotated.length := by omega
  refine ⟨suggestions[i], annotated[i], List.getElem?_eq_getElem hi, List.getElem?_eq_getElem hi', ?_⟩
  have hentry := (forall₂_of_mapM h).get (by simpa using hi) hi'
  apply marks_of_entry
  simpa using hentry

/-- **A menu whose entries are annotated is turned to its row.** -/
lemma turned_of_annotate {y : Int} {annotated : List Suggestion}
    (h : annotate look keymap (ringIndex y suggestions.length) suggestions = .ok annotated) :
    look.Turned keymap y suggestions (rotate annotated y) where
  length_eq := by rw [length_rotate, length_annotate h]
  marks := by
    intro i hi
    have hlength := length_annotate h
    obtain ⟨s, shown, hs, hshown, hmarks⟩ :=
      getElem?_annotate h (ringIndex_lt (Nat.zero_lt_of_lt hi) (y + i))
    have hmenu : (rotate annotated y)[i]? = some shown := by
      rw [getElem?_rotate (by omega), hlength, hshown]
    refine ⟨s, shown, hs, hmenu, ?_⟩
    have hfirst : decide (Int.ofNat (ringIndex (y + i) suggestions.length) =
        ((ringIndex y suggestions.length : ℕ) : Int)) = decide (i = 0) :=
      decide_eq_decide.mpr (Int.ofNat_inj.trans (ringIndex_add_eq_iff hi y))
    rwa [hfirst] at hmarks

/-- So arranging a menu in vim mode turns it to its row. -/
lemma turned_of_arrange {y : Int} {menu : Arrangement}
    (h : arrange look true (some keymap) y suggestions = .ok menu) :
    look.Turned keymap y suggestions menu.suggestions := by
  obtain ⟨annotated, rfl, -, hannotate⟩ := eq_ofList_of_arrange h
  exact turned_of_annotate (hannotate rfl)

/-- Whatever a menu shows has the content of a suggestion. -/
lemma exists_content_of_arrange {vimMode : Bool} {codes : Option Keymap} {y : Int} {menu : Arrangement}
    (h : arrange look vimMode codes y suggestions = .ok menu) {shown : Suggestion}
    (hshown : shown ∈ menu.suggestions) : ∃ s ∈ suggestions, shown.content = s.content := by
  have hturned : ∀ {items : List Suggestion}, shown ∈ rotate items y → shown ∈ items := by
    intro items hmem
    rw [rotate_eq] at hmem
    exact List.mem_rotate.mp hmem
  cases vimMode with
  | false =>
      cases h
      exact ⟨shown, hturned hshown, rfl⟩
  | true =>
      obtain ⟨annotated, rfl, hlength, hannotate⟩ := eq_ofList_of_arrange h
      obtain ⟨i, hi, hget⟩ := List.mem_iff_getElem.mp (hturned hshown)
      obtain ⟨s, other, hs, hother, lead, -, rfl⟩ := getElem?_annotate (hannotate rfl) (hlength ▸ hi)
      rw [List.getElem?_eq_getElem hi, hget] at hother
      obtain rfl := Option.some.inj hother
      exact ⟨s, List.mem_of_getElem? hs, rfl⟩

/-- An entry is shown as the template has it, unless it is pointed at. -/
lemma entry_generate {size row i : ℕ} (hi : i < size) (s : Suggestion) :
    (∀ fault, look.entry (.generate size) row s i = .error fault ↔
        i ≠ row ∧ look.lead false (String.ofList (codeOf i)) = .error fault) ∧
      ((∃ image, look.entry (.generate size) row s i = .ok image) ↔
        (i ≠ row → ∃ text, look.lead false (String.ofList (codeOf i)) = .ok text)) := by
  rw [entry_row, Keymap.keyFor_generate hi]
  by_cases hrow : i = row
  · simp [hrow, Annotation.lead, Except.map]
  · rw [decide_eq_false hrow]
    cases look.lead false (String.ofList (codeOf i)) <;> simp [hrow, Except.map]

/-- **Annotating fails exactly where the template does**, with the fault of the first code that it does
not take. -/
lemma annotate_eq_error_iff {row : ℕ} {fault : Fault} :
    annotate look (.generate suggestions.length) row suggestions = .error fault ↔
      look.Refuses suggestions.length row fault := by
  have hplace : ∀ (i : ℕ) item, suggestions.zipIdx[i]? = some item ↔
      ∃ s, suggestions[i]? = some s ∧ item = (s, i) := by
    intro i item
    rw [List.getElem?_zipIdx, Nat.zero_add, Option.map_eq_some_iff]
    exact exists_congr fun s => and_congr_right fun _ => eq_comm
  rw [annotate, mapM_eq_error_iff, Annotation.Refuses]
  constructor
  · rintro ⟨i, item, hitem, hfault, hbefore⟩
    obtain ⟨s, hs, rfl⟩ := (hplace i item).mp hitem
    have hi : i < suggestions.length := (List.getElem?_eq_some_iff.mp hs).1
    obtain ⟨hrow, hlead⟩ := ((entry_generate hi s).1 fault).mp hfault
    refine ⟨i, hi, hrow, hlead, fun j hj => ?_⟩
    have hj' : j < suggestions.length := Nat.lt_trans hj hi
    have hother := (hplace j _).mpr ⟨_, List.getElem?_eq_getElem hj', rfl⟩
    exact (entry_generate hj' _).2.mp (hbefore j hj _ hother)
  · rintro ⟨i, hi, hrow, hlead, hbefore⟩
    have hs := List.getElem?_eq_getElem hi
    refine ⟨i, _, (hplace i _).mpr ⟨_, hs, rfl⟩, ((entry_generate hi _).1 fault).mpr ⟨hrow, hlead⟩, ?_⟩
    intro j hj other hother
    obtain ⟨s, -, rfl⟩ := (hplace j other).mp hother
    exact (entry_generate (Nat.lt_trans hj hi) s).2.mpr (hbefore j hj)

/-- Only the entry that is pointed at is shown without its code, so a template that takes the other codes
gives a menu. -/
lemma exists_annotate {row : ℕ} (h : ∀ i < suggestions.length, i ≠ row →
      ∃ text, look.lead false (String.ofList (keymap.keyFor i)) = .ok text) :
    ∃ annotated, annotate look keymap row suggestions = .ok annotated := by
  refine exists_mapM_ok fun ⟨s, i⟩ hitem => ?_
  obtain ⟨-, hi, -⟩ := List.mem_zipIdx hitem
  show ∃ image, look.entry keymap row s i = .ok image
  rw [entry_row]
  by_cases hrow : i = row
  · rw [decide_eq_true hrow]
    exact ⟨_, rfl⟩
  · obtain ⟨text, htext⟩ := h i (by omega) hrow
    rw [decide_eq_false hrow, htext]
    exact ⟨_, rfl⟩

/-- A template that no jump code spoils gives a menu of any size. -/
lemma exists_arrange (h : look.Formats) (y : Int) (suggestions : List Suggestion) :
    ∃ menu, arrange look true (some (.generate suggestions.length)) y suggestions = .ok menu := by
  have htakes : ∀ i < suggestions.length, i ≠ ringIndex y suggestions.length → ∃ text,
      look.lead false (String.ofList ((Keymap.generate suggestions.length).keyFor i)) = .ok text := by
    intro i hi _
    rw [Keymap.keyFor_generate hi]
    exact h i
  obtain ⟨annotated, hannotated⟩ := exists_annotate htakes
  rw [arrange_vim, Option.getD_some, hannotated]
  exact ⟨_, rfl⟩

end Arranged

end CommandPalette
