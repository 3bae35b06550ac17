import CommandPalette.Proofs.Engine.Newest

/-!
# Jump codes lead back

The code that an entry shows is typed behind the line, in brackets.  Then the engine has to find the same
suggestions, and turn them to the entry, whatever its session has seen before.

* `suggested_coded`: a code behind a line without motions does not change what the line suggests.
* `Timely.exists_code`: in vim mode each suggestion is shown with the code of its place.
* `Timely.turned_coded`: a line with the code of a place behind it turns the menu to that place.
* **`code_leads_back`**: so the code that a suggestion is shown with leads to it.
-/

namespace CommandPalette

open Command Motion

variable {α β : Type}

namespace Engine

/-- A line with a code behind it. -/
def coded (text : String) (i : ℕ) : String := text ++ " [" ++ String.ofList (codeOf i) ++ "]"

lemma toList_coded (text : String) (i : ℕ) : (coded text i).toList = labelled text.toList (codeOf i) := by
  simp [coded, labelled]

section Coded

variable {e : Engine α β} {text : String} (hlead : e.hasLead text = true)

include hlead

lemma stripLead_coded (i : ℕ) :
    (e.stripLead (coded text i)).toList = labelled (e.stripLead text).toList (codeOf i) := by
  have hstarts : e.lead.toList <+: text.toList := List.isPrefixOf_iff_prefix.mp hlead
  have hlead' : e.hasLead (coded text i) = true := by
    rw [hasLead, toList_coded]
    exact List.isPrefixOf_iff_prefix.mpr (hstarts.trans (List.prefix_append _ _))
  rw [stripLead, stripLead, if_pos hlead, if_pos hlead', String.toList_ofList, String.toList_ofList,
    toList_coded, labelled, labelled, List.drop_append_of_le_length]
  exact hstarts.length_le

variable (hplain : '[' ∉ (e.stripLead text).toList)

include hplain

/-- A code behind a line without motions does not change what the line suggests. -/
lemma suggested_coded (hvim : e.config.vim.enabled = true) (i : ℕ) (outcome : Except Fault Provided) :
    e.suggested (coded text i) outcome = e.suggested text outcome := by
  have hline : e.commandLine (coded text i) = e.commandLine text := by
    simp only [commandLine, hvim, if_true]
    rw [stripLead_coded hlead, stripSegments_labelled hplain fun _ => isAlphanum_of_mem_codeOf]
  have hprocess : e.process (coded text i) = e.process text := congrArg e.registry.resolve hline
  rw [suggested, suggested, hprocess]

end Coded

namespace Timely

variable {e : Engine α β} (run : Timely e)

/-- A code is a motion. -/
lemma moves_coded (hvim : e.config.vim.enabled = true) {text : String} (hlead : e.hasLead text = true)
    {i : ℕ} (hcoded : run.text = coded text i) : run.Moves := by
  have hvim' : run.noted.config.vim.enabled = true := by rw [run.sameHost_noted.config, hvim]
  have hbracket : '[' ∈ (run.noted.stripLead run.text).toList := by
    rw [run.sameHost_noted.stripLead, hcoded, stripLead_coded hlead]
    simp [labelled]
  rw [Moves, hasMotion_eq hvim', decide_eq_true hbracket, Bool.or_true]
  exact ⟨hvim', rfl⟩

variable (hmoves : run.Moves) {items menu : List Suggestion}
  (h : e.suggested run.text run.outcome = .ok items)
  (hanswered : .answered run.call (.ok menu) ∈ run.seen)

include hmoves h hanswered

/-- In vim mode each suggestion is shown with the code of its place. -/
lemma exists_code {i : ℕ} (hi : i < items.length) :
    ∃ (j : ℕ) (shown : Suggestion),
      ringIndex (run.state.engine.session.position.y + j) items.length = i ∧
        menu[j]? = some shown ∧ shown.content = items[i].content ∧
        shown.code = some (String.ofList (codeOf i)) := by
  obtain ⟨hsession, hturned⟩ := run.turned hmoves h hanswered
  rw [hsession]
  obtain ⟨j, hj, hring⟩ := exists_ringIndex_add_eq hi
    (run.noted.session.moved items.length (e.stripLead run.text).toList).position.y
  obtain ⟨lead, -, hshown⟩ := hturned.getElem? hi hj hring
  exact ⟨j, _, hring, hshown, rfl, rfl⟩

/-- A line with the code of a place behind it turns the menu to that place. -/
lemma turned_coded {text : String} (hlead : e.hasLead text = true)
    (hplain : '[' ∉ (e.stripLead text).toList) {i : ℕ} (hi : i < items.length)
    (hcoded : run.text = coded text i) :
    e.look.Turned (.generate items.length) i items menu ∧
      menu.head? = some { content := items[i].content
                          description := e.look.hint ++ " " ++ items[i].description
                          code := some (String.ofList (codeOf i)) } ∧
      run.state.engine.session.suggestions = menu ∧
      run.state.engine.session.selected = items[i].content := by
  obtain ⟨hsession, hturned⟩ := run.turned hmoves h hanswered
  have hline : (e.stripLead run.text).toList = labelled (e.stripLead text).toList (codeOf i) := by
    rw [hcoded, stripLead_coded hlead]
  have hrow : (run.noted.session.moved items.length (e.stripLead run.text).toList).position.y = i := by
    rw [hline, Session.moved, read_labelled hplain hi]
  rw [hrow] at hturned
  obtain ⟨lead, hmark, hshown⟩ := hturned.getElem? hi (Nat.zero_lt_of_lt hi) (ringIndex_natCast hi)
  obtain rfl : e.look.hint = lead := Except.ok.inj hmark
  have hhead := List.head?_eq_getElem?.trans hshown
  refine ⟨hturned, hhead, ?_, ?_⟩
  · rw [hsession]
    rfl
  · rw [hsession, hhead]
    rfl

end Timely

/-- **The code that a suggestion is shown with leads to it.**  The code is not empty; every menu in vim
mode for a line that commands the same shows it on the suggestion; and with the code behind the line the
menu is turned to the suggestion, which is highlighted and selected.  All this holds whatever the session
has been through before. -/
theorem code_leads_back {e : Engine α β} (hvim : e.config.vim.enabled = true)
    (hformats : e.look.Formats) {text : String} (hlead : e.hasLead text = true)
    (hplain : '[' ∉ (e.stripLead text).toList) {outcome : Except Fault Provided}
    {items : List Suggestion} (hitems : e.suggested text outcome = .ok items) {i : ℕ}
    (hi : i < items.length) :
    String.ofList (codeOf i) ≠ "" ∧
      (∀ run : Timely e, run.outcome = outcome → e.commandLine run.text = e.commandLine text →
        run.state.engine.session.mode = .vim →
        ∃ menu, .answered run.call (.ok menu) ∈ run.seen ∧ menu.length = items.length ∧
          ∃ (j : ℕ) (shown : Suggestion),
            ringIndex (run.state.engine.session.position.y + j) items.length = i ∧
              menu[j]? = some shown ∧ shown.content = items[i].content ∧
              shown.code = some (String.ofList (codeOf i))) ∧
      ∀ run : Timely e, run.outcome = outcome → run.text = coded text i →
        ∃ menu, .answered run.call (.ok menu) ∈ run.seen ∧ menu.length = items.length ∧
          e.look.Turned (.generate items.length) i items menu ∧
          menu.head? = some { content := items[i].content
                              description := e.look.hint ++ " " ++ items[i].description
                              code := some (String.ofList (codeOf i)) } ∧
          run.state.engine.session.suggestions = menu ∧
          run.state.engine.session.selected = items[i].content := by
  refine ⟨?_, ?_, ?_⟩
  · rw [Ne, ← String.toList_eq_nil_iff, String.toList_ofList]
    exact codeOf_ne_nil i
  · intro run houtcome hline hmode
    have hprocess : e.process run.text = e.process text := congrArg e.registry.resolve hline
    have hsuggested : e.suggested run.text run.outcome = .ok items := by
      rw [houtcome, ← hitems, suggested, suggested, hprocess]
    have hmoves := run.moves_of_mode hsuggested hmode
    obtain ⟨menu, hanswered⟩ := run.exists_answered hmoves hsuggested hformats
    exact ⟨menu, hanswered, (run.turned hmoves hsuggested hanswered).2.length_eq,
      run.exists_code hmoves hsuggested hanswered hi⟩
  · intro run houtcome hcoded
    have hsuggested : e.suggested run.text run.outcome = .ok items := by
      rw [houtcome, hcoded, suggested_coded hlead hplain hvim, hitems]
    have hmoves := run.moves_coded hvim hlead hcoded
    obtain ⟨menu, hanswered⟩ := run.exists_answered hmoves hsuggested hformats
    have hturned := run.turned_coded hmoves hsuggested hanswered hlead hplain hi hcoded
    exact ⟨menu, hanswered, hturned.1.length_eq, hturned⟩

/-- Two suggestions of a provider. -/
def pair : Except Fault Provided :=
  .ok (.items [.suggestion { content := "a", description := "" },
    .suggestion { content := "b", description := "" }])

/-- A menu in vim mode, on its second row. -/
def listed : Timely shelf := shelfRun "list [j]" pair

/-- The code of the second suggestion, typed after that. -/
def jumped : Timely shelf where
  call := 1
  text := coded "list" 1
  outcome := pair
  before := listed.events
  between := listed.between
  fresh := listed.fresh
  lead := by decide +kernel
  foreign := by decide
  newest := listed.newest

theorem jumped_leads_back :
    (∃ menu, .answered 0 (.ok menu) ∈ listed.seen ∧ ∃ (j : ℕ) (shown : Suggestion),
      menu[j]? = some shown ∧ shown.content = "list b" ∧
        shown.code = some (String.ofList (codeOf 1))) ∧
      jumped.state.engine.session.selected = "list b" := by
  have hformats : shelf.look.Formats := Annotation.formats_default
  have hitems : concluded pair =
      .ok [{ content := "a", description := "" }, { content := "b", description := "" }] := rfl
  have hsuggested : shelf.suggested "list" pair = _ := shelf_suggested (by decide +kernel) hitems
  have hlisted : shelf.suggested listed.text listed.outcome = _ :=
    shelf_suggested (by decide +kernel) hitems
  have hmoves : listed.Moves := by decide +kernel
  obtain ⟨menu, hanswered⟩ := listed.exists_answered hmoves hlisted hformats
  have hmode := listed.mode_of_moves hmoves hlisted hanswered
  obtain ⟨-, hshown, hjumped⟩ := code_leads_back (e := shelf) (by decide +kernel) hformats
    (by decide +kernel) (by decide +kernel) hsuggested (i := 1) (by decide)
  obtain ⟨menu', hanswered', -, j, shown, -, hj, hcontent, hcode⟩ :=
    hshown listed rfl (by decide +kernel) hmode
  obtain ⟨-, -, -, -, -, -, hselected⟩ := hjumped jumped rfl rfl
  exact ⟨⟨menu', hanswered', j, shown, hj, hcontent, hcode⟩, hselected⟩

end Engine

end CommandPalette
