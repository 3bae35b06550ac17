import CommandPalette.Proofs.Command.Wording
import CommandPalette.Proofs.Engine.History
import CommandPalette.Proofs.Engine.Provided
import CommandPalette.Settings.Reading

/-!
# When a call raises

A change is meant to be answered with a list, whatever its provider does.  Three things can make its call
raise all the same.

**Interruption.**  What is no failure is held back by no guard, whether it comes from the provider or from
the host's callback for failures.

**The template of jump codes.**  The check of the settings only looks for the place of the code.  A
template that it lets pass may still not take a code, and then the menu cannot be shown.

**Wording.**  A description may have no text; commands that are declared as they should be have one.

* `Live.Raises`: the first two, each with its condition.  `Live.Unworded`: the third.
* **`answers_once`**: a call that ends has one answer, and raises exactly on these conditions.
-/

namespace CommandPalette

open Command Motion

variable {α β : Type}

namespace Engine

/-! ## Wording -/

lemma exists_commandSuggestion (e : Engine α β) (name : String) {description : Value}
    (h : description.isWritable = true) : ∃ s, e.commandSuggestion name description = .ok s := by
  rw [commandSuggestion]
  split
  · rw [Value.write_of_isWritable h]
    exact ⟨_, rfl⟩
  · exact ⟨_, rfl⟩

lemma exists_listing {e : Engine α β} (h : e.registry.Worded) :
    ∃ suggestions, e.listing = .ok suggestions := by
  rw [listing]
  split
  · have hentries : ∀ entry ∈ e.registry.entries, ∃ s,
        e.commandSuggestion entry.name entry.description = .ok s := by
      intro entry hentry
      obtain ⟨w, hw, rfl⟩ := List.mem_map.mp hentry
      exact e.exists_commandSuggestion _ (h w (List.mem_filter.mp hw).1).description
    obtain ⟨suggestions, hsuggestions⟩ := exists_mapM_ok hentries
    rw [hsuggestions]
    exact ⟨_, rfl⟩
  · exact ⟨_, rfl⟩

lemma exists_childSuggestion {e : Engine α β} {path : String} {child : Declaration α β}
    (h : child.Worded) {suggestion : Except Fault Suggestion}
    (hsuggestion : e.childSuggestion? path child = some suggestion) : ∃ s, suggestion = .ok s := by
  cases h with
  | @command name aliases description action subcommands provider here below =>
      obtain ⟨s, rfl, -⟩ := Declaration.texts_of_validate here.1 name List.mem_cons_self
      obtain rfl := Option.some.inj hsuggestion
      exact e.exists_commandSuggestion _ here.2

lemma exists_entrySuggestions (e : Engine α β) {entry : Entry α β} (h : entry.Worded) :
    ∃ suggestions, e.entrySuggestions entry = .ok suggestions := by
  have hbelow : ∀ suggestion ∈ entry.subcommands.filterMap (e.childSuggestion? entry.name),
      ∃ s, id suggestion = .ok s := by
    intro suggestion hsuggestion
    obtain ⟨child, hchild, hmap⟩ := List.mem_filterMap.mp hsuggestion
    exact exists_childSuggestion (h.below child hchild) hmap
  obtain ⟨own, hown⟩ := e.exists_commandSuggestion entry.name h.description
  obtain ⟨below, hbelow⟩ := exists_mapM_ok hbelow
  refine ⟨own :: below, ?_⟩
  rw [entrySuggestions, hown]
  show ((entry.subcommands.filterMap (e.childSuggestion? entry.name)).mapM id >>=
    fun below => pure (own :: below) : Except Fault (List Suggestion)) = _
  rw [hbelow]
  rfl

/-- Where the commands can be shown, a line that asks no provider has suggestions. -/
lemma exists_suggested {e : Engine α β} (h : e.registry.Declared) {text : String}
    (hunasked : ¬ e.Asks text) (outcome : Except Fault Provided) :
    ∃ suggestions, e.suggested text outcome = .ok suggestions := by
  unfold Asks at hunasked
  unfold suggested
  cases hcommand : (e.process text).command with
  | none => exact exists_listing h.worded
  | some entry =>
      have hprovider : entry.provider = none := by simpa [hcommand] using hunasked
      simp only [hprovider]
      split
      · exact exists_listing h.worded
      · exact e.exists_entrySuggestions (h.worded.of_resolve h.reached.sound hcommand)

/-! ## Menus that cannot be shown -/

/-- A menu for a line is in vim mode. -/
def InVim (e : Engine α β) (text : String) : Prop :=
  e.config.vim.enabled = true ∧ (e.session.vimMode || e.hasMotion text) = true

instance (e : Engine α β) (text : String) : Decidable (e.InVim text) :=
  inferInstanceAs (Decidable (_ ∧ _))

/-- The place of the entry of a menu that a line points at. -/
def rowOf (e : Engine α β) (text : String) (size : ℕ) : ℕ :=
  ringIndex (Motion.read (.generate size) (e.stripLead text).toList).position.y size

lemma vimMode_of_not_inVim {e : Engine α β} (h : e.Coherent) {text : String} (hplain : ¬ e.InVim text)
    (size : ℕ) : (e.move text size).1.vimMode = false := by
  have hmode : e.session.mode ≠ .vim ∧ e.hasMotion text = false := by
    by_cases hvim : e.config.vim.enabled = true
    · have hboth : ¬ (e.session.vimMode || e.hasMotion text) = true := fun hmoves =>
        hplain ⟨hvim, hmoves⟩
      rw [Bool.not_eq_true, Bool.or_eq_false_iff] at hboth
      exact ⟨by simpa [Session.vimMode] using hboth.1, hboth.2⟩
    · exact ⟨fun hmode => hvim (h.enabled hmode), by simp [hasMotion, hvim]⟩
  rw [Session.vimMode, move_mode, hmode.2]
  simpa using hmode.1

lemma present_result (e : Engine α β) (text : String) (suggestions : List Suggestion) :
    (e.present text suggestions).result =
      (arrange e.look (e.move text suggestions.length).1.vimMode
        (e.move text suggestions.length).1.keymap (e.move text suggestions.length).1.position.y
        suggestions).map Arrangement.suggestions := by
  unfold present
  rcases e.move text suggestions.length with ⟨session, lines⟩
  dsimp only
  cases arrange e.look session.vimMode session.keymap session.position.y suggestions <;> rfl

/-- **A menu cannot be shown exactly where it is in vim mode and the template does not take a code.** -/
lemma Coherent.present_eq_error_iff {e : Engine α β} (h : e.Coherent) {text : String}
    {suggestions : List Suggestion} {fault : Fault} :
    (e.present text suggestions).result = .error fault ↔
      e.InVim text ∧ e.look.Refuses suggestions.length (e.rowOf text suggestions.length) fault := by
  rw [present_result]
  by_cases hmoves : e.InVim text
  · rw [move_of_vim hmoves.1 h.session.keyed hmoves.2]
    show (arrange e.look true (some (.generate suggestions.length)) _ suggestions).map _ = _ ↔ _
    rw [arrange_vim, Option.getD_some, ← annotate_eq_error_iff, iff_true_intro hmoves, true_and]
    show Except.map _ (Except.map _ (annotate e.look _ (e.rowOf text suggestions.length) suggestions)) =
      _ ↔ _
    cases annotate e.look (.generate suggestions.length) (e.rowOf text suggestions.length)
      suggestions with
    | ok annotated => exact iff_of_false nofun nofun
    | error other => exact ⟨fun h => congrArg _ (Except.error.inj h), fun h => congrArg _ (Except.error.inj h)⟩
  · rw [vimMode_of_not_inVim h hmoves]
    exact iff_of_false nofun fun hrefuses => hmoves hrefuses.1

/-! ## Calls -/

namespace Live

/-- A call raises a fault with an event. -/
inductive Raises (s : Live α β) (call : ℕ) : Event α → Fault → Prop
  /-- The template does not take a code of the menu. -/
  | refused {event : Event α} {text : String} {suggestions : List Suggestion} {fault : Fault}
      (supplied : s.Supplies call event text suggestions) (inVim : s.engine.InVim text)
      (refuses : s.engine.look.Refuses suggestions.length (s.engine.rowOf text suggestions.length) fault) :
      Raises s call event fault
  /-- The provider raises what is no failure. -/
  | interrupted {fault : Fault} (inFlight : s.InFlight call) (stop : fault.isFailure = false) :
      Raises s call (.settle call (.error fault)) fault
  /-- The host's callback does, when it is told of a failure. -/
  | stopped {outcome : Except Fault Provided} {request : Request β} {rejection fault : Fault}
      {callback : Fault → Option Fault} (pending : s.pending call = some request)
      (current : request.sequence = s.engine.session.sequence)
      (failed : concluded outcome = .error rejection) (rejected : rejection.isRejection = true)
      (told : s.engine.onError = some callback) (raised : callback rejection = some fault)
      (stop : fault.isFailure = false) : Raises s call (.settle call outcome) fault

/-- What a line suggests at once has no wording. -/
inductive Unworded (s : Live α β) (call : ℕ) : Event α → Fault → Prop
  | atOnce {text : String} {fault : Fault} (lead : s.engine.hasLead text = true)
      (unasked : ¬ s.engine.Asks text)
      (suggested : ∀ outcome, s.engine.suggested text outcome = .error fault) :
      Unworded s call (.change call text) fault

/-- A call ends with an event: it is a change that asks no provider, or its provider answers. -/
inductive Ends (s : Live α β) (call : ℕ) : Event α → Prop
  | atOnce {text : String} (unasked : ¬ (s.engine.hasLead text = true ∧ s.engine.Asks text)) :
      Ends s call (.change call text)
  | answered {outcome : Except Fault Provided} (inFlight : s.InFlight call) :
      Ends s call (.settle call outcome)

end Live

lemma Answer.answered_mem_effects_iff (answer : Answer α β (Except Fault (List Suggestion))) (call : ℕ)
    (result : Except Fault (List Suggestion)) :
    .answered call result ∈ answer.effects call ↔ result = answer.result := by
  simp [effects]

lemma inVim_begun {e : Engine α β} {first text : String} :
    (e.begun first).InVim text ↔ e.InVim text := by
  have hmode : (e.begun first).session.vimMode = e.session.vimMode := by
    rw [Session.vimMode, Session.vimMode, Bool.eq_iff_iff, beq_iff_eq, beq_iff_eq]
    exact (e.session.beginChange_mode first).2.1
  have hmotion : (e.begun first).hasMotion text = e.hasMotion text := rfl
  rw [InVim, InVim, hmode, hmotion]
  exact Iff.rfl

/-- Only the host's callback can make a report raise. -/
lemma report_eq_error_iff {e : Engine α β} {rejection fault : Fault} :
    (e.report rejection).result = .error fault ↔
      ∃ callback, e.onError = some callback ∧ callback rejection = some fault ∧
        fault.isFailure = false := by
  simp only [report]
  cases e.onError with
  | none => simp
  | some callback =>
      cases hraised : callback rejection with
      | none => simp [hraised]
      | some raised => cases hfailure : raised.isFailure with
        | true =>
            simp only [hraised, hfailure, if_true]
            refine iff_of_false (fun h => by cases h) ?_
            rintro ⟨other, hother, hfault, hstop⟩
            obtain rfl := Option.some.inj hother
            obtain rfl := Option.some.inj (hraised.symm.trans hfault)
            cases hfailure.symm.trans hstop
        | false =>
            simp only [hraised, hfailure, Bool.false_eq_true, if_false]
            constructor
            · rintro hfault
              obtain rfl := Except.error.inj hfault
              exact ⟨callback, rfl, hraised, hfailure⟩
            · rintro ⟨other, hother, hfault, -⟩
              obtain rfl := Option.some.inj hother
              exact congrArg Except.error (Option.some.inj (hraised.symm.trans hfault))

lemma reject_eq_error_iff {e : Engine α β} {text : String} {rejection fault : Fault} :
    (e.reject text rejection).result = .error fault ↔
      ∃ callback, e.onError = some callback ∧ callback rejection = some fault ∧
        fault.isFailure = false := by
  have hmap : ∀ result : Except Fault Unit,
      (result.map fun _ => ([] : List Suggestion)) = .error fault ↔ result = .error fault := by
    intro result
    cases result with
    | ok done => simp [Except.map]
    | error other => simp [Except.map]
  exact (hmap _).trans report_eq_error_iff

/-- A provider that fails leaves nothing to show. -/
lemma eq_nil_of_reject {e : Engine α β} {text : String} {fault : Fault} {menu : List Suggestion}
    (h : (e.reject text fault).result = .ok menu) : menu = [] := by
  have hmap : ∀ result : Except Fault Unit,
      (result.map fun _ => ([] : List Suggestion)) = .ok menu → menu = [] := by
    intro result hresult
    cases result with
    | error other => cases hresult
    | ok done => exact (Except.ok.inj hresult).symm
  exact hmap _ h

/-- The second half of a change raises where showing the menu or reporting the failure does, or where the
call is interrupted. -/
lemma settled_eq_error_iff {e : Engine α β} {current : Bool} {text : String} {path : Option String}
    {outcome : Except Fault Provided} {fault : Fault} :
    (e.settled current text path (concluded outcome)).result = .error fault ↔
      (outcome = .error fault ∧ fault.isFailure = false) ∨ current = true ∧
        ((∃ items, concluded outcome = .ok items ∧
            (e.present text (items.map (underPath path))).result = .error fault) ∨
          ∃ rejection, concluded outcome = .error rejection ∧ rejection.isRejection = true ∧
            (e.reject text rejection).result = .error fault) := by
  rw [← interrupts_iff, Interrupts]
  cases hconcluded : concluded outcome with
  | ok items => cases current <;> simp [settled]
  | error other =>
      -- One fault is a rejection or not, so it does not both interrupt and get reported.
      have hone : other.isRejection = true → ¬ (other = fault ∧ fault.isRejection = false) := by
        rintro hrejection ⟨rfl, hnot⟩
        cases hrejection.symm.trans hnot
      cases hrejection : other.isRejection with
      | false =>
          simp only [settled, hrejection, Except.error.injEq, Bool.false_eq_true, if_false]
          constructor
          · rintro rfl
            exact .inl ⟨rfl, hrejection⟩
          · rintro (⟨rfl, -⟩ | ⟨-, ⟨items, hitems, -⟩ | ⟨rejection, rfl, hrejected, -⟩⟩)
            · rfl
            · cases hitems
            · cases hrejection.symm.trans hrejected
      | true => cases current <;> simp [settled, hrejection, hone hrejection]

namespace Live

lemma seen_of_not_asks {s : Live α β} {text : String} (hlead : s.engine.hasLead text = true)
    (hunasked : ¬ s.engine.Asks text) (call : ℕ) (outcome : Except Fault Provided) :
    (s.step (.change call text)).2 = [.answered call (s.engine.suggested text outcome >>=
      fun suggestions => ((s.engine.begun text).present text suggestions).result)] := by
  have hrespond := respond_of_not_asks (e := s.engine.begun text) hunasked outcome
  rw [(s.engine.begun_sameHost text).suggested] at hrespond
  rw [step_change_of_hasLead hlead, hrespond]
  cases s.engine.suggested text outcome with
  | error fault => rfl
  | ok suggestions => exact present_effects (s.engine.begun text) call text suggestions

lemma Coherent.ends_at_once {s : Live α β} (h : s.Coherent) {call : ℕ} {text : String}
    (hunasked : ¬ (s.engine.hasLead text = true ∧ s.engine.Asks text)) :
    ∃ result, (∀ other, .answered call other ∈ (s.step (.change call text)).2 ↔ other = result) ∧
      ∀ fault, result = .error fault ↔
        s.Raises call (.change call text) fault ∨ s.Unworded call (.change call text) fault := by
  cases hlead : s.engine.hasLead text with
  | false =>
      rw [step_change_of_not_hasLead hlead]
      refine ⟨.ok [], by simp, fun fault => iff_of_false (fun h => by cases h) ?_⟩
      rintro (hraises | hunworded)
      · cases hraises with
        | refused supplied => cases supplied with
          | atOnce lead => cases hlead.symm.trans lead
      · cases hunworded with
        | atOnce lead => cases hlead.symm.trans lead
  | true =>
      have hasks : ¬ s.engine.Asks text := fun hasks => hunasked ⟨hlead, hasks⟩
      have hmenu : ∀ suggestions fault,
          ((s.engine.begun text).present text suggestions).result = .error fault ↔
            s.engine.InVim text ∧ s.engine.look.Refuses suggestions.length
              (s.engine.rowOf text suggestions.length) fault := fun suggestions fault =>
        (h.engine.begun text).1.present_eq_error_iff.trans (and_congr_left fun _ => inVim_begun)
      let empty : Except Fault Provided := .ok (.items [])
      have hall := fun outcome => suggested_of_not_asks hasks outcome empty
      rw [seen_of_not_asks hlead hasks call empty]
      refine ⟨_, fun other => List.mem_singleton.trans
        ⟨fun hother => (Effect.answered.inj hother).2, fun hother => by rw [hother]⟩, fun fault => ?_⟩
      constructor
      · intro hfault
        rcases error_of_bind hfault with hsuggested | ⟨suggestions, hsuggested, hpresent⟩
        · exact .inr (.atOnce hlead hasks fun outcome => (hall outcome).trans hsuggested)
        · obtain ⟨hvim, hrefuses⟩ := (hmenu suggestions fault).mp hpresent
          exact .inl (.refused (.atOnce hlead hasks fun outcome => (hall outcome).trans hsuggested)
            hvim hrefuses)
      · rintro (hraises | hunworded)
        · cases hraises with
          | refused supplied inVim refuses => cases supplied with
            | atOnce _ _ suggested =>
                rw [suggested]
                exact (hmenu _ fault).mpr ⟨inVim, refuses⟩
        · cases hunworded with
          | atOnce _ _ suggested =>
              rw [suggested]
              rfl

lemma Coherent.ends_with_answer {s : Live α β} (h : s.Coherent) {call : ℕ} (hflight : s.InFlight call)
    (outcome : Except Fault Provided) :
    ∃ result, (∀ other, .answered call other ∈ (s.step (.settle call outcome)).2 ↔ other = result) ∧
      ∀ fault, result = .error fault ↔ s.Raises call (.settle call outcome) fault := by
  obtain ⟨request, hrequest⟩ := Option.isSome_iff_exists.mp hflight
  rw [step_settle hrequest]
  refine ⟨_, Answer.answered_mem_effects_iff _ _, fun fault => ?_⟩
  rw [settled_eq_error_iff, decide_eq_true_iff]
  constructor
  · rintro (⟨rfl, hstop⟩ | ⟨hcurrent, ⟨items, hitems, hpresent⟩ | ⟨rejection, hfailed, hrejection, hreject⟩⟩)
    · exact .interrupted hflight hstop
    · obtain ⟨hvim, hrefuses⟩ := h.engine.present_eq_error_iff.mp hpresent
      exact .refused (.arrives hrequest hcurrent hitems) hvim hrefuses
    · obtain ⟨callback, htold, hraised, hstop⟩ := reject_eq_error_iff.mp hreject
      exact .stopped hrequest hcurrent hfailed hrejection htold hraised hstop
  · intro hraises
    cases hraises with
    | interrupted inFlight stop => exact .inl ⟨rfl, stop⟩
    | refused supplied inVim refuses => cases supplied with
      | arrives pending current provided =>
          obtain rfl := Option.some.inj (hrequest.symm.trans pending)
          exact .inr ⟨current, .inl ⟨_, provided, h.engine.present_eq_error_iff.mpr ⟨inVim, refuses⟩⟩⟩
    | stopped pending current failed rejected told raised stop =>
        obtain rfl := Option.some.inj (hrequest.symm.trans pending)
        exact .inr ⟨current, .inr ⟨_, failed, rejected, reject_eq_error_iff.mpr ⟨_, told, raised, stop⟩⟩⟩

end Live

/-- **A call that ends has one answer, and raises exactly on these conditions.**  In any other case it
returns a list, whatever the line is and whatever the provider did.  Commands that are declared as they
should be can always be worded. -/
theorem answers_once {e : Engine α β} (hfresh : e.session = {}) (events : List (Event α)) {call : ℕ}
    {event : Event α} (hends : (e.live.after events).Ends call event) :
    let s := e.live.after events
    ∃ result, (∀ other, .answered call other ∈ (s.step event).2 ↔ other = result) ∧
      (∀ fault, result = .error fault ↔ s.Raises call event fault ∨ s.Unworded call event fault) ∧
      (e.registry.Declared → ∀ fault, ¬ s.Unworded call event fault) := by
  intro s
  have hcoherent : s.Coherent := (Live.coherent_live hfresh).after events
  have hworded : e.registry.Declared → ∀ fault, ¬ s.Unworded call event fault := by
    intro hdeclared fault hunworded
    have hdeclared : s.engine.registry.Declared := (e.live.sameHost_after events).registry ▸ hdeclared
    cases hunworded with
    | atOnce lead unasked suggested =>
        obtain ⟨suggestions, hsuggestions⟩ := exists_suggested hdeclared unasked (.ok (.items []))
        cases hsuggestions.symm.trans (suggested _)
  cases hends with
  | atOnce unasked =>
      obtain ⟨result, hseen, hraises⟩ := hcoherent.ends_at_once unasked
      exact ⟨result, hseen, hraises, hworded⟩
  | answered inFlight =>
      obtain ⟨result, hseen, hraises⟩ := hcoherent.ends_with_answer inFlight _
      refine ⟨result, hseen, fun fault => (hraises fault).trans ?_, hworded⟩
      exact (or_iff_left nofun).symm

/-- A command without a provider, and a template with one brace too many. -/
def spoiled : Engine Unit Unit where
  config := { vim := { keyFormat := "\x7bkey\x7d\x7b" } }
  registry := (({} : Registry Unit Unit).register
    [.command (.text "open") [] .null .absent [] .absent]).1

/-- The template passes the check of the settings, and no menu with another entry can be shown. -/
theorem spoiled_raises :
    Settings.Config.ofTable "" (Settings.table [("vim", .table (Settings.table
        [("key_format", .text "\x7bkey\x7d\x7b")]))]) = .ok spoiled.config ∧
      spoiled.registry.Declared ∧ ∃ fault, fault.className = "ValueError" ∧
        .answered 0 (.error fault) ∈ (spoiled.live.step (.change 0 "[j]")).2 := by
  have hdeclared : spoiled.registry.Declared := by
    have hworded : ∀ d ∈ [(.command (.text "open") [] .null .absent [] .absent : Declaration Unit Unit)],
        d.Worded := by
      intro d hd
      obtain rfl := List.mem_singleton.mp hd
      exact .command ⟨rfl, rfl⟩ nofun
    exact .register (.fresh "*") hworded
  have hunasked : ¬ spoiled.Asks "[j]" := by decide +kernel
  have hlead : spoiled.hasLead "[j]" = true := by decide +kernel
  obtain ⟨suggestions, hsuggested⟩ := exists_suggested hdeclared hunasked (.ok (.items []))
  have hlength : suggestions.length = 2 := by
    have hcount : (spoiled.suggested "[j]" (.ok (.items []))).toOption.map List.length = some 2 := by
      decide +kernel
    rw [hsuggested] at hcount
    exact Option.some.inj hcount
  have hrefuses : spoiled.look.Refuses suggestions.length (spoiled.rowOf "[j]" suggestions.length)
      (.template (.singleBrace '{')) := by
    rw [hlength]
    refine ⟨0, by decide, by decide +kernel, ?_, fun j hj => absurd hj (Nat.not_lt_zero j)⟩
    exact congrArg (Except.mapError Fault.template) (Text.Template.render_unclosed _)
  have hends : (spoiled.live.after []).Ends 0 (.change 0 "[j]") := .atOnce fun h => hunasked h.2
  obtain ⟨result, hseen, hraises, -⟩ := answers_once (e := spoiled) rfl [] hends
  have hresult := (hraises _).mpr (.inl (.refused (.atOnce hlead hunasked fun outcome =>
    (suggested_of_not_asks hunasked _ _).trans hsuggested) (by decide +kernel) hrefuses))
  exact ⟨rfl, hdeclared, _, rfl, (hseen _).mpr hresult.symm⟩

end Engine

end CommandPalette
