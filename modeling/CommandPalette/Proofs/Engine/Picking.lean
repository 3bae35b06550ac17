import CommandPalette.Proofs.Engine.Raising
import CommandPalette.Proofs.Engine.Reach
import CommandPalette.Proofs.Engine.Submission
import CommandPalette.Proofs.Engine.Supersession

/-!
# Picking a suggestion of a provider

A suggestion is picked by placing its content in the input line.  What a provider suggests for a command
has the path of the command in front, but not what every command line starts with.

**Lines of a command.**  Tokens that start with the path of a command lead to it or below it, and hardly
any others do: `Registry.resolve_into_iff`.

**Where a content comes from.**  A call in flight keeps the path of the command that its line means
(`Live.Asked`), and a menu shows what was suggested: `Live.Asked.content_of_answer`.

**`picked_completes_iff`** puts the two together: when a suggestion that is picked is a line of its command,
and what submitting it comes to.
-/

namespace CommandPalette

open Command Motion Text

variable {α β : Type}

namespace Command.Registry

/-! ## Lines of a command -/

/-- Tokens lead to a path or below it: they start with it, or they call no root and the path of the
catch-all starts with it. -/
def LeadsInto (r : Registry α β) (tokens path : List String) : Prop :=
  path <+: tokens ∨ (∀ root ∈ tokens.head?, r.get? root = none) ∧
    ∃ other, r.default? = some other ∧ path <+: other.path

/-- What a line with a root means: the longest path within the depth of the root. -/
lemma resolve_of_some_root {r : Registry α β} (h : r.Sound) {line : String}
    (hroot : ¬ ∀ root ∈ (tokens line).head?, r.get? root = none) :
    ∃ root args rootEntry entry, tokens line = root :: args ∧ r.get? root = some rootEntry ∧
      (r.resolve line).command = some entry ∧ r.get? (joinPath entry.path) = some entry ∧
      entry.path <+: tokens line ∧ entry.path ≠ [] ∧ entry.path.length ≤ rootEntry.depth ∧
      ∀ m, r.Starts (tokens line) m → m ≤ rootEntry.depth → m ≤ entry.path.length := by
  push Not at hroot
  obtain ⟨root, hhead, hroot⟩ := hroot
  obtain ⟨args, htokens⟩ := List.head?_eq_some_iff.mp hhead
  obtain ⟨rootEntry, hroot⟩ := Option.ne_none_iff_exists'.mp hroot
  obtain ⟨n, entry, ⟨hpos, hle, -⟩, hdepth, hlongest, hget, hresolve⟩ := resolve_of_root h htokens hroot
  have hne := take_tokens_ne_nil hpos hle
  have hpath : entry.path = (tokens line).take n := by
    rw [Entry.path, h.name_eq _ _ hget, splitPath_joinPath hne fun s hs => isWord_of_mem_take hs]
  have hlength : entry.path.length = n := by
    rw [hpath, List.length_take, min_eq_left hle]
  refine ⟨root, args, rootEntry, entry, htokens, hroot, by rw [hresolve], ?_, ?_, ?_, ?_, ?_⟩
  · rw [hpath, hget]
  · rw [hpath]
    exact List.take_prefix n _
  · rw [hpath]
    exact hne
  · rwa [hlength]
  · rwa [hlength]

/-- A command was found on a line: the line starts with its path, and the depth of its root reaches it. -/
structure Found (r : Registry α β) (line : String) (entry : Entry α β) : Prop where
  path : entry.path <+: tokens line
  stored : r.get? (joinPath entry.path) = some entry
  root : ∃ first rest rootEntry, entry.path = first :: rest ∧ r.get? first = some rootEntry ∧
    entry.path.length ≤ rootEntry.depth

/-- A command that a line means, unless it is the catch-all, was found there. -/
lemma found_of_resolve {r : Registry α β} (h : r.Sound) {line : String} {entry : Entry α β}
    (hcommand : (r.resolve line).command = some entry) (hdefault : r.isDefault entry = false) :
    r.Found line entry := by
  by_cases hnone : ∀ root ∈ (tokens line).head?, r.get? root = none
  · rw [resolve_of_no_root hnone] at hcommand
    rw [isDefault, h.name_eq _ _ hcommand, beq_self_eq_true] at hdefault
    cases hdefault
  · obtain ⟨root, args, rootEntry, found, htokens, hroot, hfound, hget, hpath, hne, hdepth, -⟩ :=
      resolve_of_some_root h hnone
    obtain rfl := Option.some.inj (hfound.symm.trans hcommand)
    obtain ⟨first, rest, hnames⟩ := List.exists_cons_of_ne_nil hne
    refine ⟨hpath, hget, first, rest, rootEntry, hnames, ?_, hdepth⟩
    rw [hnames, htokens, List.cons_prefix_cons] at hpath
    rw [hpath.1, hroot]

/-- **Which lines lead to a command or below it.** -/
lemma Found.resolve_into_iff {r : Registry α β} (h : r.Sound) {origin : String} {entry : Entry α β}
    (hfound : r.Found origin entry) (line : String) :
    (∃ other, (r.resolve line).command = some other ∧ entry.path <+: other.path) ↔
      r.LeadsInto (tokens line) entry.path := by
  obtain ⟨first, rest, firstEntry, hnames, hfirst, hreach⟩ := hfound.root
  by_cases hnone : ∀ root ∈ (tokens line).head?, r.get? root = none
  · -- Then the line does not start with the path, whose first name calls a root.
    rw [resolve_of_no_root hnone, LeadsInto, or_iff_right, and_iff_right hnone]
    · exact Iff.rfl
    · rintro ⟨more, hmore⟩
      rw [← hmore, hnames] at hnone
      cases (hnone first rfl).symm.trans hfirst
  · rw [LeadsInto, or_iff_left fun hcatchAll => hnone hcatchAll.1]
    obtain ⟨root, args, rootEntry, other, htokens, hroot, hcommand, -, hpath, -, -, hlongest⟩ :=
      resolve_of_some_root h hnone
    constructor
    · rintro ⟨found, hother, hbelow⟩
      obtain rfl := Option.some.inj (hcommand.symm.trans hother)
      exact hbelow.trans hpath
    · intro hfront
      refine ⟨other, hcommand, List.prefix_of_prefix_length_le hfront hpath ?_⟩
      -- The path itself is one of those that the search compares, so what it finds is no shorter.
      refine hlongest _ ⟨?_, hfront.length_le, ?_⟩ ?_
      · rw [hnames]
        exact Nat.succ_pos _
      · rw [← List.prefix_iff_eq_take.mp hfront, hfound.stored]
        rfl
      · rw [hnames, htokens, List.cons_prefix_cons] at hfront
        rw [hfront.1, hroot] at hfirst
        rwa [Option.some.inj hfirst]

end Command.Registry

namespace Engine

/-! ## Where a content comes from -/

lemma respond_asks_command {e engine : Engine α β} {text : String} {request : Request β}
    {lines : List Log.Entry} (h : e.respond text = .asks engine request lines) :
    ∃ entry, (e.process request.text).command = some entry ∧ request.path = e.pathOf entry := by
  unfold respond at h
  split at h
  · exact absurd h (shown_ne_asks _)
  · rename_i entry hcommand
    split at h
    · cases h
      exact ⟨entry, hcommand, rfl⟩
    · exact absurd h (shown_ne_asks _)

lemma SameHost.pathOf {e e' : Engine α β} (h : e.SameHost e') (entry : Entry α β) :
    e'.pathOf entry = e.pathOf entry := by
  rw [h.eq]
  rfl

/-- The entries that a menu shows have contents of suggestions. -/
lemma exists_content_of_present {e : Engine α β} {text : String} {suggestions menu : List Suggestion}
    (h : (e.present text suggestions).result = .ok menu) {shown : Suggestion} (hshown : shown ∈ menu) :
    ∃ s ∈ suggestions, shown.content = s.content := by
  rw [present_result] at h
  cases harrange : arrange e.look (e.move text suggestions.length).1.vimMode
      (e.move text suggestions.length).1.keymap (e.move text suggestions.length).1.position.y
      suggestions with
  | error fault => rw [harrange] at h; cases h
  | ok arranged =>
      rw [harrange] at h
      cases h
      exact exists_content_of_arrange harrange hshown

/-- Only items of the provider are shown, with the path of the command in front. -/
lemma exists_content_of_settled {e : Engine α β} {current : Bool} {text : String} {path : Option String}
    {outcome : Except Fault Provided} {menu : List Suggestion}
    (h : (e.settled current text path (concluded outcome)).result = .ok menu) {shown : Suggestion}
    (hshown : shown ∈ menu) :
    ∃ items, concluded outcome = .ok items ∧
      ∃ item ∈ items, shown.content = (underPath path item).content := by
  have hnot : menu ≠ [] := List.ne_nil_of_mem hshown
  cases hconcluded : concluded outcome with
  | error fault =>
      rw [hconcluded, settled] at h
      split at h
      · split at h
        · exact absurd (eq_nil_of_reject h) hnot
        · exact absurd (Except.ok.inj h).symm hnot
      · cases h
  | ok items =>
      rw [hconcluded, settled] at h
      split at h
      · obtain ⟨s, hs, hcontent⟩ := exists_content_of_present h hshown
        obtain ⟨item, hitem, rfl⟩ := List.mem_map.mp hs
        exact ⟨items, rfl, item, hitem, hcontent⟩
      · exact absurd (Except.ok.inj h).symm hnot

namespace Live

/-- Every call in flight keeps the path of the command that its line means. -/
def Asked (s : Live α β) : Prop :=
  ∀ call request, s.pending call = some request → ∃ entry,
    (s.engine.process request.text).command = some entry ∧ request.path = s.engine.pathOf entry

/-- A call in flight was so before, or was asked with this event. -/
lemma pending_step_cases {s : Live α β} {event : Event α} {call : ℕ} {request : Request β}
    (h : (s.step event).1.pending call = some request) :
    s.pending call = some request ∨ ∃ text engine lines,
      (s.engine.begun text).respond text = .asks engine request lines := by
  cases event with
  | change c text =>
      cases hlead : s.engine.hasLead text with
      | false =>
          rw [step_change_of_not_hasLead hlead] at h
          exact .inl h
      | true =>
          rw [step_change_of_hasLead hlead] at h
          cases hrespond : (s.engine.begun text).respond text with
          | answered answer =>
              rw [hrespond] at h
              exact .inl h
          | asks engine asked lines =>
              simp only [hrespond, noted, Function.update_apply] at h
              split at h
              · obtain rfl := Option.some.inj h
                exact .inr ⟨text, engine, lines, hrespond⟩
              · exact .inl h
  | settle c outcome =>
      cases hpending : s.pending c with
      | none =>
          rw [step_settle_none hpending] at h
          exact .inl h
      | some asked =>
          simp only [step_settle hpending, Function.update_apply] at h
          split at h
          · cases h
          · exact .inl h
  | enter | start | cancel => exact .inl h

lemma Asked.step {s : Live α β} (h : s.Asked) (event : Event α) : (s.step event).1.Asked := by
  intro call request hrequest
  have hhost := s.sameHost_step event
  simp only [hhost.process, hhost.pathOf]
  rcases pending_step_cases hrequest with hpending | ⟨text, engine, lines, hasks⟩
  · exact h call request hpending
  · exact respond_asks_command (e := s.engine.begun text) hasks

lemma Asked.after {s : Live α β} (h : s.Asked) (events : List (Event α)) : (s.after events).Asked := by
  induction events generalizing s with
  | nil => exact h
  | cons event rest ih => exact ih (h.step event)

lemma asked_live (e : Engine α β) : e.live.Asked := by
  intro call request hrequest
  cases hrequest

/-- **The content of what a call shows** is the path of the command that its line means, unless that is
the catch-all, and the content of an item of the provider. -/
lemma Asked.content_of_answer {s : Live α β} (h : s.Asked) {call : ℕ} {request : Request β}
    (hpending : s.pending call = some request) {entry : Entry α β}
    (hcommand : (s.engine.process request.text).command = some entry)
    (hdefault : s.engine.registry.isDefault entry = false) {outcome : Except Fault Provided}
    {menu : List Suggestion} (hanswered : .answered call (.ok menu) ∈ (s.step (.settle call outcome)).2)
    {shown : Suggestion} (hshown : shown ∈ menu) :
    ∃ items, concluded outcome = .ok items ∧
      ∃ item ∈ items, shown.content = entry.name ++ " " ++ item.content := by
  obtain ⟨other, hother, hpath⟩ := h call request hpending
  obtain rfl := Option.some.inj (hother.symm.trans hcommand)
  rw [pathOf, hdefault] at hpath
  rw [step_settle hpending, Answer.answered_mem_effects_iff] at hanswered
  obtain ⟨items, hitems, item, hitem, hcontent⟩ := exists_content_of_settled hanswered.symm hshown
  refine ⟨items, hitems, item, hitem, ?_⟩
  rw [hcontent, hpath]
  rfl

end Live

/-! ## Picking -/

/-- A line is one of a command's: it is a command line, and what it means is the command or one below
it. -/
def Completes (e : Engine α β) (line : String) (entry : Entry α β) : Prop :=
  e.hasLead line = true ∧ ∃ other, (e.process line).command = some other ∧ entry.path <+: other.path

section Found

variable {e : Engine α β} (h : e.registry.Sound) {text : String} {entry : Entry α β}
  (hcommand : (e.process text).command = some entry) (hdefault : e.registry.isDefault entry = false)

include h hcommand hdefault

/-- Where nothing stands before command lines, a path with something behind it is read name by name. -/
lemma path_prefix_commandLine (hlead : e.lead = "") (content : String) :
    entry.path <+: tokens (e.commandLine (entry.name ++ " " ++ content)) := by
  have hfound := Registry.found_of_resolve h hcommand hdefault
  have hwords : ∀ s ∈ entry.path, IsWord s := fun s hs => isWord_of_mem_tokens (hfound.path.subset hs)
  have hname : entry.name = joinPath entry.path := h.name_eq _ _ hfound.stored
  have hnames : tokens entry.name = entry.path := by
    rw [hname, tokens_joinPath hwords]
  have hstrip : e.stripLead (entry.name ++ " " ++ content) = entry.name ++ " " ++ content :=
    stripLead_eq_self (.inl hlead)
  cases hvim : e.config.vim.enabled with
  | false =>
      have hline : e.commandLine (entry.name ++ " " ++ content) = entry.name ++ " " ++ content := by
        rw [commandLine, hstrip, hvim]
        rfl
      rw [hline, tokens_append_space, hnames]
      exact List.prefix_append _ _
  | true =>
      have hplain : '[' ∉ entry.name.toList := by
        rw [hname]
        exact not_mem_joinPath (by decide) fun s hs =>
          not_mem_tokens_commandLine hvim (hfound.path.subset hs)
      have hlist : (entry.name ++ " " ++ content).toList = entry.name.toList ++ ' ' :: content.toList := by
        rw [String.toList_append, String.toList_append, List.append_assoc]
        rfl
      have hwords : words (e.commandLine (entry.name ++ " " ++ content)).toList =
          words entry.name.toList ++ words ((scan content.toList).map Piece.shown) := by
        rw [commandLine_of_vim hvim, hstrip, hlist, stripSegments, words_trim, scan_append hplain,
          scan_cons_of_ne (by decide), List.map_append, shown_plain]
        exact words_append_cons (by decide) _ _
      rw [← hnames, tokens, tokens, hwords, List.map_append]
      exact List.prefix_append _ _

lemma completes_iff (line : String) :
    e.Completes line entry ↔
      e.hasLead line = true ∧ e.registry.LeadsInto (tokens (e.commandLine line)) entry.path :=
  and_congr_right fun _ => (Registry.found_of_resolve h hcommand hdefault).resolve_into_iff h _

/-- Where nothing stands before command lines, a path with something behind it is a line of its command. -/
lemma completes_of_lead_empty (hlead : e.lead = "") (content : String) :
    e.Completes (entry.name ++ " " ++ content) entry := by
  refine (completes_iff h hcommand hdefault _).mpr ⟨?_, .inl ?_⟩
  · rw [hasLead, hlead]
    rfl
  · exact path_prefix_commandLine h hcommand hdefault hlead content

end Found

/-- What a submission comes to in a session that is new. -/
lemma enter_reset (e : Engine α β) (session : Session) (act : α → List String → Except Fault Returned)
    (line : String) (disposition : Option String) :
    let result := ({ e with session := session.reset }.enter act line disposition).result
    (∀ found, e.hasLead line = true → (e.process line).command = some found →
      Verdict found.name (found.run act (e.process line).args) result) ∧
      (e.hasLead line = false → result = .ok (some (.prefixMismatch e.lead line))) := by
  constructor
  · intro found hlead hcommand
    exact (enter_of_accepted (submission_of_matched (e := { e with session := session.reset }) hlead rfl
      hcommand disposition) act).2
  · intro hlead
    refine (enter_of_refused ?_ act).2
    have hlead' : { e with session := session.reset }.hasLead line = false := hlead
    simp only [submission, hlead']
    rfl

/-- **When a suggestion of a provider completes the line of its command.**  A call in flight has asked the
provider of a command other than the catch-all, and answers with a menu.  The content of each entry is the
path of the command and that of an item, whatever command lines start with.  So it is a line of the command
exactly if it starts as they do by itself, and the path is still in front when this is taken off; which is
so if nothing has to stand there.  Submitted to a session that was reset, such a line runs the command or
one below it; one that does not start as command lines do is refused. -/
theorem picked_completes_iff {e : Engine α β} (hreached : e.registry.Reached) (events : List (Event α))
    {call : ℕ} {request : Request β} (hpending : (e.live.after events).pending call = some request)
    {entry : Entry α β} (hcommand : (e.process request.text).command = some entry)
    (hdefault : e.registry.isDefault entry = false) {outcome : Except Fault Provided}
    {menu : List Suggestion}
    (hanswered : .answered call (.ok menu) ∈ ((e.live.after events).step (.settle call outcome)).2)
    {s : Suggestion} (hs : s ∈ menu) :
    (∃ items, concluded outcome = .ok items ∧
        ∃ item ∈ items, s.content = entry.name ++ " " ++ item.content) ∧
      (e.Completes s.content entry ↔ e.hasLead s.content = true ∧
        e.registry.LeadsInto (tokens (e.commandLine s.content)) entry.path) ∧
      (e.lead = "" → e.Completes s.content entry) ∧
      ∀ session act disposition,
        let result := ({ e with session := Session.reset session }.enter act s.content disposition).result
        (e.Completes s.content entry → ∃ found, (e.process s.content).command = some found ∧
            entry.path <+: found.path ∧
            Verdict found.name (found.run act (e.process s.content).args) result) ∧
          (e.hasLead s.content = false → result = .ok (some (.prefixMismatch e.lead s.content))) := by
  have hsound := hreached.sound
  have hhost := e.live.sameHost_after events
  have hasked : (e.live.after events).Asked := (Live.asked_live e).after events
  obtain ⟨items, hitems, item, hitem, hcontent⟩ := hasked.content_of_answer hpending
    (by rw [hhost.process]; exact hcommand) (by rw [hhost.registry]; exact hdefault) hanswered hs
  refine ⟨⟨items, hitems, item, hitem, hcontent⟩, completes_iff hsound hcommand hdefault _,
    fun hlead => ?_, fun session act disposition => ⟨?_, ?_⟩⟩
  · rw [hcontent]
    exact completes_of_lead_empty hsound hcommand hdefault hlead item.content
  · rintro ⟨hlead, found, hfound, hbelow⟩
    exact ⟨found, hfound, hbelow, (enter_reset e session act s.content disposition).1 found hlead hfound⟩
  · exact (enter_reset e session act s.content disposition).2

/-- On lines that start with a colon, what is suggested does not, and is refused when it is submitted. -/
theorem colonMenu_not_completes :
    let s := colonMenu.live.after [.change 0 ":slow"]
    let shown : Suggestion := { content := "slow a", description := "" }
    .answered 0 (.ok [shown]) ∈ (s.step (.settle 0 single)).2 ∧
      (∃ entry, (colonMenu.process ":slow").command = some entry ∧
        ¬ colonMenu.Completes "slow a" entry) ∧
      ∀ session act disposition,
        ({ colonMenu with session := Session.reset session }.enter act "slow a" disposition).result =
          .ok (some (.prefixMismatch ":" "slow a")) := by
  intro s shown
  have hreached : colonMenu.registry.Reached :=
    .register (.fresh "*") [.command (.text "slow") [] .null .absent [] (.callable ())]
  obtain ⟨request, hpending, hcurrent⟩ : s.Current 0 := by decide +kernel
  have htext : request.text = ":slow" := by
    have hasked : (s.pending 0).map Request.text = some ":slow" := by decide +kernel
    rw [hpending] at hasked
    exact Option.some.inj hasked
  have hpath : request.path = some "slow" := by
    have hasked : (s.pending 0).map Request.path = some (some "slow") := by decide +kernel
    rw [hpending] at hasked
    exact Option.some.inj hasked
  have hmenu : (s.engine.present ":slow" [shown]).result = .ok [shown] := by
    have hresult : (s.engine.present ":slow" [shown]).result.toOption = some [shown] := by decide +kernel
    cases hpresent : (s.engine.present ":slow" [shown]).result with
    | error fault => rw [hpresent] at hresult; cases hresult
    | ok menu => rw [hpresent] at hresult; exact congrArg Except.ok (Option.some.inj hresult)
  have hanswered : .answered 0 (.ok [shown]) ∈ (s.step (.settle 0 single)).2 := by
    have hconcluded : concluded single = .ok [{ content := "a", description := "" }] := rfl
    rw [Live.step_settle_current hpending hcurrent hconcluded, htext, hpath, ← hmenu]
    exact List.mem_singleton_self _
  have hfound : (colonMenu.process ":slow").command.any (fun entry =>
      !colonMenu.registry.isDefault entry) = true := by decide +kernel
  obtain ⟨entry, hentry, hdefault⟩ := (Option.any_eq_true _ _).mp hfound
  rw [Bool.not_eq_true'] at hdefault
  have hstray : colonMenu.hasLead "slow a" = false := by decide +kernel
  obtain ⟨-, hcompletes, -, hsubmitted⟩ := picked_completes_iff hreached [.change 0 ":slow"] hpending
    (by rw [htext]; exact hentry) hdefault hanswered (List.mem_singleton_self shown)
  refine ⟨hanswered, ⟨entry, hentry, fun h => ?_⟩, fun session act disposition =>
    (hsubmitted session act disposition).2 hstray⟩
  cases hstray.symm.trans (hcompletes.mp h).1

end Engine

end CommandPalette
