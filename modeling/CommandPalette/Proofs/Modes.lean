import CommandPalette.Proofs.Rotation

/-!
# One menu in two modes

Vim mode shows the menu that is shown without it, and adds to every entry a jump code and a few
characters before the description.  What it adds can be taken away again, since the mode itself says what
it was: the hint before the entry pointed at, and the template with the jump code before every other one.

* `Annotation.Takes`: the template takes the jump codes that a menu shows.
* `Annotation.forget`: a menu without what vim mode has added to it.  `forget_of_turned`: that is the menu
  which is shown without vim mode.
* **`modes_agree`**: both modes show the same entries in the same order and select the same one, and in
  vim mode each bears the code of the place from which it comes.
-/

namespace CommandPalette

open Motion

/-- A suggestion without a jump code. -/
def Suggestion.uncoded (s : Suggestion) : Suggestion := { s with code := none }

namespace Annotation

/-- The template takes the code of every entry of a menu but the one pointed at. -/
def Takes (look : Annotation) (keymap : Keymap) (size row : ℕ) : Prop :=
  ∀ i < size, i ≠ row →
    ∃ text, Text.Template.render [("key", String.ofList (keymap.keyFor i))] look.keyFormat = .ok text

/-- An entry of a menu in vim mode without its jump code and without what stands before its
description. -/
def forgetEntry (look : Annotation) (shown : Suggestion) (i : ℕ) : Except Fault Suggestion :=
  (look.lead (decide (i = 0)) (shown.code.getD "")).map fun lead =>
    { content := shown.content
      description := String.ofList (shown.description.toList.drop (lead.length + 1)) }

/-- A menu without what vim mode has added to it. -/
def forget (look : Annotation) (menu : List Suggestion) : Except Fault (List Suggestion) :=
  menu.zipIdx.mapM fun (shown, i) => look.forgetEntry shown i

/-- What stands before a description: the hint, or what the template makes of the code. -/
lemma lead_eq_ok_iff {look : Annotation} {highlighted : Bool} {code lead : String} :
    look.lead highlighted code = .ok lead ↔
      (highlighted = true → lead = look.hint) ∧
        (highlighted = false → Text.Template.render [("key", code)] look.keyFormat = .ok lead) := by
  cases highlighted with
  | true => simp [eq_comm, Annotation.lead]
  | false =>
      cases hrender : Text.Template.render [("key", code)] look.keyFormat <;>
        simp [hrender, Annotation.lead, Except.mapError]

lemma forgetEntry_of_marks {look : Annotation} {code : List Char} {s shown : Suggestion} {i : ℕ}
    (h : look.Marks (decide (i = 0)) code s shown) : look.forgetEntry shown i = .ok s.uncoded := by
  obtain ⟨lead, hlead, rfl⟩ := h
  have hdescription : (lead ++ " " ++ s.description).toList.drop (lead.length + 1) =
      s.description.toList := by
    rw [String.toList_append, String.toList_append]
    exact List.drop_left' (by rw [List.length_append, String.length_toList]; rfl)
  rw [forgetEntry, Option.getD_some, hlead]
  show Except.ok (Suggestion.mk s.content (String.ofList (List.drop _ _)) none) = _
  rw [hdescription, String.ofList_toList]
  rfl

/-- **What vim mode has added can be taken away.** -/
lemma forget_of_turned {look : Annotation} {keymap : Keymap} {y : Int} {suggestions menu : List Suggestion}
    (h : look.Turned keymap y suggestions menu) :
    look.forget menu = .ok ((rotate suggestions y).map Suggestion.uncoded) := by
  refine mapM_of_forall₂ (List.forall₂_iff_get.mpr ⟨?_, fun i hi hi' => ?_⟩)
  · rw [List.length_zipIdx, List.length_map, length_rotate, h.length_eq]
  · rw [List.length_map, length_rotate] at hi'
    obtain ⟨s, shown, hs, hshown, hmarks⟩ := h.marks i hi'
    have hturned : (rotate suggestions y)[i]? = some s := by rw [getElem?_rotate hi', hs]
    simpa [(List.getElem?_eq_some_iff.mp hturned).2, (List.getElem?_eq_some_iff.mp hshown).2]
      using forgetEntry_of_marks hmarks

end Annotation

lemma Suggestion.uncoded_eq_self {s : Suggestion} (h : s.code = none) : s.uncoded = s := by
  rw [uncoded, ← h]

lemma map_uncoded {suggestions : List Suggestion} (h : ∀ s ∈ suggestions, s.code = none) :
    suggestions.map Suggestion.uncoded = suggestions := by
  rw [List.map_congr_left fun s hs => s.uncoded_eq_self (h s hs), List.map_id']

lemma Arrangement.selected_ofList {menu : List Suggestion} {first : Suggestion}
    (h : menu[0]? = some first) : (Arrangement.ofList menu).selected = first.content := by
  rw [ofList, List.head?_eq_getElem?, h]
  rfl

lemma arrangeAt_int (look : Annotation) (vimMode : Bool) (keymap : Option Keymap) (y : Int)
    (suggestions : List Suggestion) :
    arrangeAt look vimMode keymap (.int y) suggestions = arrange look vimMode keymap y suggestions := by
  have hrotate : ∀ items : List Suggestion,
      (rotateAt items (.int y) >>= fun turned => pure (.ofList turned) : Except Fault Arrangement) =
        .ok (.ofList (rotate items y)) := fun items => by
    rw [rotateAt_int]
    rfl
  cases suggestions with
  | nil =>
      have hempty : (.ok {} : Except Fault Arrangement) = .ok (.ofList (rotate [] y)) := by
        rw [rotate_nil]
        rfl
      cases vimMode <;> exact hempty
  | cons first rest =>
      rw [arrangeAt, List.isEmpty_cons, if_neg Bool.false_ne_true]
      cases vimMode with
      | false => exact hrotate (first :: rest)
      | true =>
          have hpos : 0 < (first :: rest).length := Nat.succ_pos rest.length
          rw [arrange_vim, natCast_ringIndex hpos]
          show (annotate look (keymap.getD {}) (y % (first :: rest).length) (first :: rest) >>= fun items =>
            rotateAt items (.int y) >>= fun turned => pure (Arrangement.ofList turned)) = _
          cases annotate look (keymap.getD {}) (y % (first :: rest).length) (first :: rest) with
          | error fault => rfl
          | ok annotated => exact hrotate annotated

/-- **A menu is the same in both modes.**  Without vim mode the suggestions are turned as they are, so the
entry of row `i` is the one `i` places behind the row `y`.  In vim mode there is a menu if the template takes
the codes of all entries but the one pointed at.  It shows the same suggestions in the same rows, each with
the code of the place from which it comes and with something before its description: the hint in the first
row, and in the others what the template makes of the code.  Without these it is the other menu.  Both
menus select the entry of the row `y`.  A row that is given as a value leads to the same menus. -/
theorem modes_agree (look : Annotation) (keymap : Option Keymap) (y : Int) {suggestions : List Suggestion}
    (hne : suggestions ≠ [])
    (htakes : look.Takes (keymap.getD {}) suggestions.length (ringIndex y suggestions.length)) :
    let place (i : ℕ) : ℕ := ((y + i) % suggestions.length).toNat
    ∃ vim plain first, arrange look true keymap y suggestions = .ok vim ∧
      arrange look false keymap y suggestions = .ok plain ∧
      look.forget vim.suggestions = .ok (plain.suggestions.map Suggestion.uncoded) ∧
      ((∀ s ∈ suggestions, s.code = none) →
        plain.suggestions.map Suggestion.uncoded = plain.suggestions) ∧
      vim.suggestions.length = suggestions.length ∧ plain.suggestions.length = suggestions.length ∧
      suggestions[(y % suggestions.length).toNat]? = some first ∧
      vim.selected = first.content ∧ plain.selected = first.content ∧
      (∀ i < suggestions.length, ∃ s lead, suggestions[place i]? = some s ∧
        plain.suggestions[i]? = some s ∧
        vim.suggestions[i]? = some
          { content := s.content
            description := lead ++ " " ++ s.description
            code := some (String.ofList ((keymap.getD {}).keyFor (place i))) } ∧
        (i = 0 → lead = look.hint) ∧
        (i ≠ 0 → Text.Template.render [("key", String.ofList ((keymap.getD {}).keyFor (place i)))]
          look.keyFormat = .ok lead)) ∧
      ∀ vimMode, arrangeAt look vimMode keymap (.int y) suggestions =
        arrange look vimMode keymap y suggestions := by
  intro place
  have hpos : 0 < suggestions.length := List.length_pos_iff.mpr hne
  have hlead : ∀ i < suggestions.length, i ≠ ringIndex y suggestions.length →
      ∃ text, look.lead false (String.ofList ((keymap.getD {}).keyFor i)) = .ok text := by
    intro i hi hrow
    obtain ⟨text, htext⟩ := htakes i hi hrow
    exact ⟨text, Annotation.lead_eq_ok_iff.mpr ⟨nofun, fun _ => htext⟩⟩
  obtain ⟨annotated, hannotated⟩ := exists_annotate hlead
  have hvim : arrange look true keymap y suggestions = .ok (.ofList (rotate annotated y)) := by
    rw [arrange_vim, hannotated]
    rfl
  have hturned : look.Turned (keymap.getD {}) y suggestions (rotate annotated y) :=
    turned_of_annotate hannotated
  have hentries : ∀ i < suggestions.length, ∃ s lead, suggestions[place i]? = some s ∧
      (rotate suggestions y)[i]? = some s ∧
      (rotate annotated y)[i]? = some
        { content := s.content
          description := lead ++ " " ++ s.description
          code := some (String.ofList ((keymap.getD {}).keyFor (place i))) } ∧
      (i = 0 → lead = look.hint) ∧
      (i ≠ 0 → Text.Template.render [("key", String.ofList ((keymap.getD {}).keyFor (place i)))]
        look.keyFormat = .ok lead) := by
    intro i hi
    obtain ⟨s, shown, hs, hshown, lead, hmark, rfl⟩ := hturned.marks i hi
    obtain ⟨hhint, htemplate⟩ := Annotation.lead_eq_ok_iff.mp hmark
    exact ⟨s, lead, hs, (getElem?_rotate hi y).trans hs, hshown, fun h => hhint (decide_eq_true h),
      fun h => htemplate (decide_eq_false h)⟩
  obtain ⟨first, lead, hfirst, hplain, hshown, -⟩ := hentries 0 hpos
  have hselected := Arrangement.selected_ofList hshown
  rw [show place 0 = (y % suggestions.length).toNat by simp [place]] at hfirst
  exact ⟨_, .ofList (rotate suggestions y), first, hvim, rfl, Annotation.forget_of_turned hturned,
    fun huncoded => map_uncoded fun s hs => huncoded s ((rotate_isRotated suggestions y).mem_iff.mp hs),
    hturned.length_eq, length_rotate suggestions y, hfirst, hselected,
    Arrangement.selected_ofList hplain, hentries, fun vimMode => arrangeAt_int look vimMode keymap y _⟩

/-- A menu that has one entry twice, turned back by one row. -/
theorem modes_agree_twice :
    let s : Suggestion := { content := "a", description := "first" }
    let suggestions := [s, { content := "b", description := "" }, s]
    let keymap := some (.generate 3)
    suggestions ≠ [] ∧ ({} : Annotation).Takes (keymap.getD {}) 3 (ringIndex (-1) 3) ∧
      ∃ vim plain, arrange {} true keymap (-1) suggestions = .ok vim ∧
        arrange {} false keymap (-1) suggestions = .ok plain ∧
        ({} : Annotation).forget vim.suggestions = .ok plain.suggestions ∧
        vim.selected = "a" ∧ plain.selected = "a" := by
  intro s suggestions keymap
  have hne : suggestions ≠ [] := List.cons_ne_nil _ _
  have htakes : ({} : Annotation).Takes (keymap.getD {}) 3 (ringIndex (-1) 3) :=
    fun i _ _ => ⟨_, Text.Template.render_bracketed _⟩
  obtain ⟨vim, plain, first, hvim, hplain, hforget, huncoded, -, -, hfirst, hselected, hselected', -⟩ :=
    modes_agree {} keymap (-1) hne htakes
  obtain rfl : s = first := Option.some.inj hfirst
  rw [huncoded (by decide)] at hforget
  exact ⟨hne, htakes, vim, plain, hvim, hplain, hforget, hselected, hselected'⟩

end CommandPalette
