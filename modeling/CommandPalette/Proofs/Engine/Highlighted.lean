import CommandPalette.Proofs.Command.LongestPath
import CommandPalette.Proofs.Engine.Coherence
import CommandPalette.Proofs.Engine.Newest

/-!
# The highlighted entry as a command line

In vim mode a submission runs the highlighted entry.  The entry is read as if it had been typed: what
every command line starts with is taken off it, and so are its motions, although it was built from a
path and an item of a provider.

**Meaning and tokens.**  Two lines mean the same exactly if they have the same tokens: `agrees_iff`.

**Reading.**  A line that does not start with a blank keeps its tokens exactly if there is nothing to
take off: `tokens_commandLine_iff`.

**`Timely.highlighted_agrees_iff`** puts the two together: when the highlighted entry means what its text
means.
-/

namespace CommandPalette

open Command Motion Text

variable {α β : Type}

/-! ## Meaning and tokens -/

namespace Command

/-- The same command, with the same arguments behind as many tokens. -/
def Resolution.Agrees (r r' : Resolution α β) : Prop :=
  r.command = r'.command ∧ r.args = r'.args ∧ r.consumed = r'.consumed

namespace Registry

/-- **Two lines mean the same exactly if they have the same tokens.**  The command tells its path, and
the path and the arguments together are the tokens. -/
lemma agrees_iff {r : Registry α β} (h : r.Sound) (s t : String) :
    (r.resolve s).Agrees (r.resolve t) ↔ tokens s = tokens t := by
  constructor
  · rintro ⟨hcommand, hargs, hconsumed⟩
    rcases resolve_cases h s with ⟨hs, -⟩ | ⟨n, entry, hpos, hle, hget, hs⟩
    · rcases resolve_cases h t with ⟨ht, -⟩ | ⟨m, other, hpos', -, -, ht⟩
      · rw [hs, ht] at hargs
        exact hargs
      · rw [hs, ht] at hconsumed
        have hzero : 0 = m := hconsumed
        omega
    · rcases resolve_cases h t with ⟨ht, -⟩ | ⟨m, other, hpos', hle', hget', ht⟩
      · rw [hs, ht] at hconsumed
        have hzero : n = 0 := hconsumed
        omega
      · -- One entry has one path, and its path is what the tokens before the arguments spell.
        rw [hs, ht] at hcommand hargs hconsumed
        obtain rfl : n = m := hconsumed
        obtain rfl : entry = other := Option.some.inj hcommand
        have hpath : joinPath ((tokens s).take n) = joinPath ((tokens t).take n) := by
          rw [← h.name_eq _ _ hget, h.name_eq _ _ hget']
        have htake := joinPath_inj (take_tokens_ne_nil hpos hle) (take_tokens_ne_nil hpos' hle')
          (fun w hw => isWord_of_mem_take hw) (fun w hw => isWord_of_mem_take hw) hpath
        calc tokens s = (tokens s).take n ++ (tokens s).drop n := (List.take_append_drop n _).symm
          _ = (tokens t).take n ++ (tokens t).drop n := congrArg₂ (· ++ ·) htake hargs
          _ = tokens t := List.take_append_drop n _
  · intro heq
    rw [resolve_congr r heq]
    exact ⟨rfl, rfl, rfl⟩

/-- The name of a command other than the catch-all starts with a character that is no blank. -/
lemma head_name {r : Registry α β} (h : r.Sound) {text : String} {entry : Entry α β}
    (hcommand : (r.resolve text).command = some entry) (hdefault : r.isDefault entry = false) :
    ∃ c rest, entry.name.toList = c :: rest ∧ isBlank c = false := by
  rcases resolve_cases h text with ⟨hresolve, -⟩ | ⟨n, found, hpos, hle, hget, hresolve⟩
  · -- What no root leads to is the catch-all.
    rw [hresolve] at hcommand
    have hname := h.name_eq _ _ hcommand
    rw [isDefault, hname] at hdefault
    simp at hdefault
  · rw [hresolve] at hcommand
    obtain rfl : found = entry := Option.some.inj hcommand
    rw [h.name_eq _ _ hget]
    cases hnames : (tokens text).take n with
    | nil => exact absurd hnames (take_tokens_ne_nil hpos hle)
    | cons first others =>
        obtain ⟨hne, hsolid⟩ := isWord_of_mem_take (n := n) (hnames ▸ List.mem_cons_self)
        obtain ⟨c, rest, hfirst⟩ : ∃ c rest, first.toList = c :: rest :=
          List.exists_cons_of_ne_nil fun hnil => hne (String.toList_eq_nil_iff.mp hnil)
        refine ⟨c, ?_, ?_, hsolid c (by rw [hfirst]; exact List.mem_cons_self)⟩
        · exact ((joinPath (first :: others)).toList).tail
        · cases others with
          | nil => rw [joinPath_singleton, hfirst]; rfl
          | cons second more =>
              rw [joinPath_cons first (List.cons_ne_nil second more), String.toList_append,
                String.toList_append, hfirst]
              rfl

end Registry

end Command

/-! ## Reading -/

namespace Engine

lemma tokens_eq_iff {s t : String} : tokens s = tokens t ↔ words s.toList = words t.toList := by
  rw [tokens, tokens]
  exact (List.map_injective_iff.mpr fun _ _ h => String.ofList_injective h).eq_iff

/-- There is nothing to take off a line: it does not start as command lines do, and has no motions. -/
def Bare (e : Engine α β) (line : String) : Prop :=
  (e.lead = "" ∨ e.hasLead line = false) ∧ '[' ∉ line.toList

instance (e : Engine α β) (line : String) : Decidable (e.Bare line) :=
  inferInstanceAs (Decidable (_ ∧ _))

lemma stripLead_eq_self {e : Engine α β} {line : String} (h : e.lead = "" ∨ e.hasLead line = false) :
    e.stripLead line = line := by
  rw [stripLead]
  rcases h with hlead | hlead
  · rw [hlead, String.length_empty, List.drop_zero, String.ofList_toList, ite_self]
  · rw [if_neg (by simp [hlead])]

lemma commandLine_of_vim {e : Engine α β} (h : e.config.vim.enabled = true) (line : String) :
    (e.commandLine line).toList = stripSegments (e.stripLead line).toList := by
  simp only [commandLine, h, if_true, String.toList_ofList]

/-- What is left of a line but blanks was there before. -/
lemma solid_commandLine {e : Engine α β} (h : e.config.vim.enabled = true) (line : String) :
    (solid (e.commandLine line).toList).Sublist (solid (e.stripLead line).toList) := by
  rw [commandLine_of_vim h, stripSegments, solid_trim]
  exact solid_shown_sublist _

/-- **A line that does not start with a blank keeps its tokens exactly if there is nothing to take
off it.** -/
lemma tokens_commandLine_iff {e : Engine α β} (h : e.config.vim.enabled = true) {line : String}
    {c : Char} {rest : List Char} (hline : line.toList = c :: rest) (hc : isBlank c = false) :
    tokens (e.commandLine line) = tokens line ↔ e.Bare line := by
  rw [tokens_eq_iff]
  constructor
  · intro hwords
    have hsolid : solid (e.commandLine line).toList = solid line.toList := by
      rw [← flatten_words, hwords, flatten_words]
    have hlead : e.lead = "" ∨ e.hasLead line = false := by
      -- Otherwise at least the first character is taken off.
      by_contra hstripped
      rw [not_or, Bool.not_eq_false] at hstripped
      obtain ⟨hne, hlead⟩ := hstripped
      have hpos : 0 < e.lead.length :=
        Nat.pos_of_ne_zero fun hzero => hne (String.length_eq_zero_iff.mp hzero)
      have hkept : ((e.stripLead line).toList).Sublist rest := by
        rw [stripLead, if_pos hlead, String.toList_ofList, hline,
          ← Nat.succ_pred_eq_of_pos hpos, List.drop_succ_cons]
        exact List.drop_sublist _ _
      have hlength := ((e.solid_commandLine h line).trans (hkept.filter _)).length_le
      rw [hsolid, hline, solid, List.filter_cons_of_pos (by simp [hc]), List.length_cons] at hlength
      omega
    refine ⟨hlead, fun hmem => ?_⟩
    have hbracket : '[' ∈ solid (e.commandLine line).toList := by
      rw [hsolid]
      exact List.mem_filter.mpr ⟨hmem, by decide⟩
    rw [commandLine_of_vim h, stripSegments, solid_trim] at hbracket
    exact not_mem_shown _ (List.mem_filter.mp hbracket).1
  · rintro ⟨hlead, hmem⟩
    rw [commandLine_of_vim h, stripLead_eq_self hlead, stripSegments_of_not_mem hmem, words_trim]

/-! ## The highlighted entry -/

namespace Timely

variable {e : Engine α β}

/-- The first entry of a menu in vim mode is one of the suggestions. -/
lemma selected_mem (run : Timely e) (hmoves : run.Moves) {suggestions menu : List Suggestion}
    (h : e.suggested run.text run.outcome = .ok suggestions) (hne : suggestions ≠ [])
    (hanswered : .answered run.call (.ok menu) ∈ run.seen) :
    ∃ s ∈ suggestions, run.state.engine.session.selected = s.content := by
  obtain ⟨hsession, hturned⟩ := run.turned hmoves h hanswered
  rw [hsession]
  exact hturned.head_mem hne

/-- **When the highlighted entry means what its text means.**  A provider was asked for a command other
than the catch-all, and one of its items is highlighted in vim mode.  The line of a submission has no part
in what is run; and the entry, which is the path of the command and the content of the item, is run with
its own tokens exactly if it does not start as command lines do and no bracket is in it. -/
theorem highlighted_agrees_iff (run : Timely e) (hreached : e.registry.Reached) {entry : Entry α β}
    (hcommand : (e.process run.text).command = some entry)
    (hdefault : e.registry.isDefault entry = false) (hprovider : entry.provider.isSome = true)
    {items : List Suggestion} (hitems : concluded run.outcome = .ok items) (hne : items ≠ [])
    {menu : List Suggestion} (hanswered : .answered run.call (.ok menu) ∈ run.seen)
    (hmode : run.state.engine.session.mode = .vim) :
    ∃ item ∈ items, run.state.engine.session.selected = entry.name ++ " " ++ item.content ∧
      ∀ line, (run.state.engine.process (run.state.engine.session.submissionText line)).Agrees
          (e.registry.resolve (entry.name ++ " " ++ item.content)) ↔
        e.Bare (entry.name ++ " " ++ item.content) := by
  have hsuggested : e.suggested run.text run.outcome =
      .ok (items.map (underPath (some entry.name))) := by
    rw [suggested_of_provider hcommand hprovider, hitems, pathOf, hdefault]
    rfl
  have hmoves := run.moves_of_mode hsuggested hmode
  obtain ⟨s, hs, hselected⟩ :=
    run.selected_mem hmoves hsuggested (mt List.map_eq_nil_iff.mp hne) hanswered
  obtain ⟨item, hitem, rfl⟩ := List.mem_map.mp hs
  refine ⟨item, hitem, hselected, fun line => ?_⟩
  have hhost : e.SameHost run.state.engine := run.sameHost_start.trans (run.start.sameHost_after _)
  have hvim : e.config.vim.enabled = true := run.sameHost_noted.config ▸ hmoves.1
  obtain ⟨c, rest, hname, hc⟩ := Registry.head_name hreached.sound hcommand hdefault
  have hline : (entry.name ++ " " ++ item.content).toList = c :: (rest ++ ' ' :: item.content.toList) := by
    rw [String.toList_append, String.toList_append, hname]
    simp
  have hsubmission : run.state.engine.session.submissionText line =
      entry.name ++ " " ++ item.content := by
    have hfull : run.state.engine.session.selected.isEmpty = false := by
      rw [hselected, Bool.eq_false_iff, Ne, String.isEmpty_iff, ← String.toList_eq_nil_iff]
      show (entry.name ++ " " ++ item.content).toList ≠ []
      rw [hline]
      exact List.cons_ne_nil _ _
    rw [Session.submissionText, Session.vimMode, hmode, hfull]
    exact hselected
  rw [hsubmission, hhost.process, process, Registry.agrees_iff hreached.sound,
    tokens_commandLine_iff hvim hline hc]

/-- An item with brackets. -/
def bracketed : Timely shelf :=
  shelfRun "list [j]" (.ok (.items [.suggestion { content := "a[1]", description := "" }]))

/-- The brackets are taken for a motion, and the command gets another argument. -/
theorem bracketed_not_agrees :
    bracketed.state.engine.session.selected = "list a[1]" ∧
      ¬ (bracketed.state.engine.process
        (bracketed.state.engine.session.submissionText "list")).Agrees
          (shelf.registry.resolve "list a[1]") := by
  have hline : shelf.commandLine bracketed.text = "list" := by decide +kernel
  have hmode : bracketed.state.engine.session.mode = .vim := by decide +kernel
  have hitems : concluded bracketed.outcome = .ok [{ content := "a[1]", description := "" }] := rfl
  have hsuggested := shelf_suggested hline hitems
  obtain ⟨entry, hcommand, hdefault, hprovider, hname⟩ := shelf_command hline
  obtain ⟨menu, hanswered⟩ := bracketed.exists_answered (bracketed.moves_of_mode hsuggested hmode)
    hsuggested Annotation.formats_default
  have hreached : shelf.registry.Reached :=
    .register (.fresh "*") [.command (.text "list") [] .null .absent [] (.callable ())]
  obtain ⟨item, hitem, hselected, hagrees⟩ := highlighted_agrees_iff bracketed hreached hcommand
    hdefault hprovider hitems (List.cons_ne_nil _ _) hanswered hmode
  rw [List.mem_singleton.mp hitem, hname] at hselected hagrees
  refine ⟨hselected, fun h => ?_⟩
  have hbare := (hagrees "list").mp h
  revert hbare
  decide +kernel

end Timely

end Engine

end CommandPalette
