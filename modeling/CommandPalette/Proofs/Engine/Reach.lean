import CommandPalette.Proofs.Arrangement
import CommandPalette.Proofs.Engine.Creation
import CommandPalette.Proofs.Engine.Highlighted
import CommandPalette.Proofs.Table

/-!
# Which paths can be typed

A path is typed behind what every command line starts with, and read back in three steps: the start is
taken off, the motions are taken out, and what is left is cut into tokens.

**Typing a path.**  The start is taken off as it was put in front (`stripLead_append`), and the tokens of
a path are its names, so without a bracket a path leads to its node: `resolve_spelled`.

**Brackets.**  Names may hold brackets, and a line is read without them: `not_mem_tokens_commandLine`.

**`Created.reaches_path_iff`** puts the two together, for every path and for every entry that is offered
without asking a provider.
-/

namespace CommandPalette

open Command Motion Text

variable {α β : Type}

namespace Command

/-! ## Typing a path -/

/-- An entry, and those of the commands right below it under their canonical names. -/
def Entry.family (entry : Entry α β) : List (Entry α β) :=
  entry :: entry.subcommands.map fun child =>
    child.entryAt (entry.name ++ " " ++ child.names.headD "")

section Declared

variable {forest : List (Declaration α β)} (hvalid : ∀ d ∈ forest, d.Valid) (h : Unambiguous forest)

include hvalid

/-- What is stored under a path is the entry of a node that the path spells. -/
lemma spelled_of_get? {defaultName path : String} {entry : Entry α β}
    (hget : (Registry.declared defaultName forest).get? path = some entry) :
    ∃ names node, SpellsIn forest names node ∧ (∀ s ∈ names, IsWord s) ∧ path = joinPath names ∧
      entry = node.entryAt path := by
  have hlookup := get?_register ({ defaultName } : Registry α β) hvalid path
  rw [show ({ defaultName } : Registry α β).get? path = none from rfl, Option.or_none] at hlookup
  obtain ⟨⟨names, node⟩, hspelling, hwrite⟩ :=
    List.mem_map.mp (mem_of_lookup_reverse (hlookup.symm.trans hget))
  obtain ⟨rfl, rfl⟩ := Prod.mk.inj hwrite
  obtain ⟨d, hd, hspells⟩ := mem_spellings_iff.mp hspelling
  exact ⟨names, node, ⟨d, hd, hspells⟩, hspells.isWord (hvalid d hd), rfl, rfl⟩

/-- What is declared below a stored entry is valid. -/
lemma valid_subcommands {defaultName path : String} {entry : Entry α β}
    (hget : (Registry.declared defaultName forest).get? path = some entry) :
    ∀ child ∈ entry.subcommands, child.Valid := by
  obtain ⟨names, node, ⟨d, hd, hspells⟩, -, rfl, rfl⟩ := spelled_of_get? hvalid hget
  intro child hchild
  rw [Declaration.entryAt_subcommands] at hchild
  exact (hspells.every (hvalid d hd)).child hchild

include h

/-- With an entry, those of its family are stored. -/
lemma get?_family {defaultName path : String} {entry : Entry α β}
    (hget : (Registry.declared defaultName forest).get? path = some entry) :
    ∀ relative ∈ entry.family, (Registry.declared defaultName forest).get? relative.name = some relative := by
  obtain ⟨names, node, ⟨d, hd, hspells⟩, hwords, rfl, rfl⟩ := spelled_of_get? hvalid hget
  refine List.forall_mem_cons.mpr ⟨by rwa [Declaration.entryAt_name], ?_⟩
  intro relative hrelative
  obtain ⟨child, hchild, rfl⟩ := List.mem_map.mp hrelative
  rw [Declaration.entryAt_subcommands] at hchild
  have hnode : node.Valid := hspells.every (hvalid d hd)
  have hname := Declaration.headD_mem_names (hnode.child hchild)
  have hbelow := hspells.concat hchild hname
  rw [Declaration.entryAt_name, Declaration.entryAt_name, ← joinPath_concat hspells.ne_nil]
  exact (get?_declared defaultName hvalid h hbelow.ne_nil (hbelow.isWord (hvalid d hd)) _).mpr
    ⟨child, ⟨d, hd, hbelow⟩, rfl⟩

/-- A line whose tokens spell a path means the node at its end, without arguments. -/
lemma resolve_spelled (defaultName : String) {names : List String} {node : Declaration α β}
    (hspells : SpellsIn forest names node) {text : String} (htokens : tokens text = names) :
    ((Registry.declared defaultName forest).resolve text).command =
        some (node.entryAt (joinPath names)) ∧
      ((Registry.declared defaultName forest).resolve text).args = [] := by
  obtain ⟨s, rest, rfl⟩ : ∃ s rest, names = s :: rest := by
    obtain ⟨d, -, hd⟩ := hspells
    exact List.exists_cons_of_ne_nil hd.ne_nil
  have htake := spellsIn_take_iff h (s :: rest)
  -- The descent goes on to the last token, and cannot go any further.
  have hlast : (descent forest (s :: rest))[rest.length]? = some node :=
    (htake rest.length node).mp ⟨by simp, by simpa using hspells⟩
  have hend : (descent forest (s :: rest))[rest.length + 1]? = none := by
    rw [Option.eq_none_iff_forall_not_mem]
    intro other hother
    have hlt := ((htake _ other).mpr hother).1
    simp at hlt
  have hlength : (descent forest (s :: rest)).length = (s :: rest).length :=
    le_antisymm (List.getElem?_eq_none_iff.mp hend) (List.getElem?_eq_some_iff.mp hlast).1
  have hne : descent forest (tokens text) ≠ [] := by
    rw [htokens, ← List.length_pos_iff, hlength]
    exact Nat.succ_pos _
  have hgetLast : (descent forest (tokens text)).getLast hne = node := by
    rw [← Option.some_inj, ← List.getLast?_eq_some_getLast, List.getLast?_eq_getElem?, htokens, hlength]
    exact hlast
  rw [resolve_of_descent_ne_nil defaultName hvalid h hne, hgetLast, htokens, hlength, List.take_length,
    List.drop_length]
  exact ⟨rfl, rfl⟩

end Declared

end Command

namespace Engine

lemma hasLead_append (e : Engine α β) (s : String) : e.hasLead (e.lead ++ s) = true := by
  rw [hasLead, String.toList_append, List.isPrefixOf_iff_prefix]
  exact List.prefix_append _ _

/-- What every command line starts with is taken off as it was put in front. -/
lemma stripLead_append (e : Engine α β) (s : String) : e.stripLead (e.lead ++ s) = s := by
  rw [stripLead, if_pos (e.hasLead_append s), String.toList_append, ← String.length_toList,
    List.drop_left, String.ofList_toList]

/-! ## Brackets -/

lemma not_mem_joinPath {c : Char} (hc : c ≠ ' ') {names : List String} (h : ∀ s ∈ names, c ∉ s.toList) :
    c ∉ (joinPath names).toList := by
  induction names with
  | nil => exact List.not_mem_nil
  | cons s rest ih =>
      obtain ⟨hs, hrest⟩ := List.forall_mem_cons.mp h
      by_cases hnil : rest = []
      · rw [hnil, joinPath_singleton]
        exact hs
      · rw [joinPath_cons s hnil]
        simpa [hs, hc] using ih hrest

section Vim

variable {e : Engine α β} (h : e.config.vim.enabled = true)

include h

/-- No token of a line that is read holds a bracket. -/
lemma not_mem_tokens_commandLine {line s : String} (hs : s ∈ tokens (e.commandLine line)) :
    '[' ∉ s.toList := by
  obtain ⟨word, hword, rfl⟩ := List.mem_map.mp hs
  rw [String.toList_ofList]
  intro hmem
  have hsolid : '[' ∈ solid (e.commandLine line).toList := by
    rw [← flatten_words]
    exact List.mem_flatten_of_mem hword hmem
  rw [commandLine_of_vim h, stripSegments, solid_trim] at hsolid
  exact not_mem_shown _ (List.mem_filter.mp hsolid).1

/-- Without brackets a text behind the start of a line keeps its tokens. -/
lemma tokens_commandLine_append {s : String} (hs : '[' ∉ s.toList) :
    tokens (e.commandLine (e.lead ++ s)) = tokens s := by
  rw [tokens_eq_iff, commandLine_of_vim h, stripLead_append, stripSegments_of_not_mem hs, words_trim]

end Vim

/-! ## Paths and offers -/

/-- A line means an entry, and leaves it no arguments. -/
def Reaches (e : Engine α β) (line : String) (entry : Entry α β) : Prop :=
  (e.process line).command = some entry ∧ (e.process line).args = []

/-- A path that is typed is read as it stands: it has no bracket, or it is that of the catch-all and
nothing is left of it. -/
def Legible (e : Engine α β) (path : String) : Prop :=
  '[' ∉ path.toList ∨
    path = e.registry.defaultName ∧ tokens (e.commandLine (e.lead ++ path)) = []

/-- An entry is offered by a suggestion: its content is the path of the entry as it is typed, and it leads
to the entry exactly if the path is legible. -/
def Offers (e : Engine α β) (entry : Entry α β) (s : Suggestion) : Prop :=
  s.content = e.lead ++ entry.name ∧ (e.Reaches s.content entry ↔ e.Legible entry.name)

/-- The entries that are listed where nothing matches. -/
def unmatched (e : Engine α β) : List (Entry α β) :=
  if e.config.input.listAllCommands then e.registry.entries else []

lemma commandSuggestion_content {e : Engine α β} {name : String} {description : Value} {s : Suggestion}
    (h : e.commandSuggestion name description = .ok s) : s.content = e.lead ++ name := by
  rw [commandSuggestion] at h
  split at h
  · cases hwrite : description.write with
    | error fault => rw [hwrite] at h; cases h
    | ok text => rw [hwrite] at h; cases h; rfl
  · cases h
    rfl

section Created

variable {e : Engine α β} {forest : List (Declaration α β)} (h : e.Created forest)

include h

lemma Created.sound : e.registry.Sound := by
  obtain ⟨-, hregistry, -⟩ := h.spec
  rw [hregistry]
  exact (Registry.Sound.fresh _).register forest

/-- What is listed is stored under its path. -/
lemma Created.get?_entries {entry : Entry α β} (hentry : entry ∈ e.registry.entries) :
    e.registry.get? entry.name = some entry := by
  obtain ⟨hvalid, hregistry, -⟩ := h.spec
  obtain ⟨⟨path, found⟩, hmem, rfl⟩ := List.mem_map.mp hentry
  have hnodup : e.registry.table.keys.Nodup := by
    rw [hregistry, (register_of_valid _ hvalid).2.2]
    exact Table.nodup_keys_insertAll (t := {}) List.nodup_nil _
  have hget : e.registry.get? path = some found := Table.get?_of_mem hnodup (List.mem_filter.mp hmem).1
  rw [h.sound.name_eq _ _ hget]
  exact hget

variable (hapart : Unambiguous forest) (hvim : e.config.vim.enabled = true)

include hapart hvim

lemma Created.reaches_iff_legible {path : String} {entry : Entry α β}
    (hget : e.registry.get? path = some entry) : e.Reaches (e.lead ++ path) entry ↔ e.Legible path := by
  have hname := h.sound.name_eq _ _ hget
  constructor
  · rintro ⟨hcommand, hargs⟩
    refine or_iff_not_imp_left.mpr fun hbracket => ?_
    rw [process] at hcommand hargs
    rcases Registry.resolve_cases h.sound (e.commandLine (e.lead ++ path)) with
      ⟨hresolve, -⟩ | ⟨n, found, -, -, hfound, hresolve⟩
    · rw [hresolve] at hcommand hargs
      exact ⟨hname.symm.trans (h.sound.name_eq _ _ hcommand), hargs⟩
    · -- A command that is found has a path of tokens, and these have no brackets.
      rw [hresolve] at hcommand
      obtain rfl := Option.some.inj hcommand
      have hpath := hname.symm.trans (h.sound.name_eq _ _ hfound)
      refine absurd (fun hmem => ?_) hbracket
      rw [hpath] at hmem
      refine not_mem_joinPath (by decide) (fun s hs => ?_) hmem
      exact not_mem_tokens_commandLine hvim (List.mem_of_mem_take hs)
  · obtain ⟨hvalid, hregistry, -⟩ := h.spec
    rintro (hplain | ⟨hdefault, hnil⟩)
    · rw [hregistry] at hget
      obtain ⟨names, node, hspells, hwords, rfl, rfl⟩ := spelled_of_get? hvalid hget
      have htokens := (tokens_commandLine_append hvim hplain).trans (tokens_joinPath hwords)
      rw [Reaches, process, hregistry]
      exact resolve_spelled hvalid hapart _ hspells htokens
    · rw [Reaches, process, Registry.resolve, hnil, ← hget, hdefault]
      exact ⟨rfl, rfl⟩

lemma Created.offers {name : String} {description : Value} {s : Suggestion}
    (hs : e.commandSuggestion name description = .ok s) {entry : Entry α β}
    (hget : e.registry.get? name = some entry) : e.Offers entry s := by
  rw [Offers, commandSuggestion_content hs, h.sound.name_eq _ _ hget]
  exact ⟨rfl, h.reaches_iff_legible hapart hvim hget⟩

/-- The listing offers the entries of the table, behind a placeholder. -/
lemma Created.offers_listing {menu : List Suggestion} (hmenu : e.listing = .ok menu) :
    ∃ shown, menu = { content := "", description := e.config.input.emptyHint } :: shown ∧
      List.Forall₂ e.Offers e.unmatched shown := by
  rw [listing] at hmenu
  rw [unmatched]
  split at hmenu
  · rename_i hall
    rw [if_pos hall]
    cases hmap : e.registry.entries.mapM fun entry =>
        e.commandSuggestion entry.name entry.description with
    | error fault => rw [hmap] at hmenu; cases hmenu
    | ok shown =>
        rw [hmap] at hmenu
        cases hmenu
        refine ⟨shown, rfl, ?_⟩
        have hentries := (List.forall₂_and_left e.registry.entries shown).mpr
          ⟨fun entry hentry => h.get?_entries hentry, forall₂_of_mapM hmap⟩
        exact hentries.imp fun entry s hs => h.offers hapart hvim hs.2 hs.1
  · rename_i hnone
    rw [if_neg hnone]
    cases hmenu
    exact ⟨[], rfl, .nil⟩

lemma Created.offers_children {path : String} {children : List (Declaration α β)}
    (hvalid : ∀ child ∈ children, child.Valid)
    (hget : ∀ child ∈ children, e.registry.get? (path ++ " " ++ child.names.headD "") =
      some (child.entryAt (path ++ " " ++ child.names.headD "")))
    {below : List Suggestion} (hbelow : List.Forall₂ (fun suggestion s => suggestion = Except.ok s)
      (children.filterMap (e.childSuggestion? path)) below) :
    List.Forall₂ e.Offers
      (children.map fun child => child.entryAt (path ++ " " ++ child.names.headD "")) below := by
  induction children generalizing below with
  | nil =>
      cases hbelow
      exact .nil
  | cons child rest ih =>
      obtain ⟨hchild, hrest⟩ := List.forall_mem_cons.mp hvalid
      obtain ⟨hstored, hothers⟩ := List.forall_mem_cons.mp hget
      cases hchild with
      | @command name aliases description action subcommands provider here _ =>
          obtain ⟨s, rfl, -⟩ := Declaration.texts_of_validate here name List.mem_cons_self
          have hshown : e.childSuggestion? path
              (.command (.text s) aliases description action subcommands provider) =
              some (e.commandSuggestion (path ++ " " ++ s) description) := rfl
          rw [List.filterMap_cons_some hshown] at hbelow
          cases hbelow with
          | cons hfirst hlater =>
              exact .cons (h.offers hapart hvim hfirst hstored) (ih hrest hothers hlater)

/-- Where no provider is asked, a command offers its family. -/
lemma Created.offers_family {path : String} {entry : Entry α β} (hget : e.registry.get? path = some entry)
    {menu : List Suggestion} (hmenu : e.entrySuggestions entry = .ok menu) :
    List.Forall₂ e.Offers entry.family menu := by
  obtain ⟨hvalid, hregistry, -⟩ := h.spec
  rw [entrySuggestions] at hmenu
  cases hown : e.commandSuggestion entry.name entry.description with
  | error fault => rw [hown] at hmenu; cases hmenu
  | ok own =>
      cases hmap : (entry.subcommands.filterMap (e.childSuggestion? entry.name)).mapM id with
      | error fault => rw [hown, hmap] at hmenu; cases hmenu
      | ok below =>
          rw [hown, hmap] at hmenu
          cases hmenu
          have hstored : ∀ relative ∈ entry.family, e.registry.get? relative.name = some relative := by
            rw [hregistry] at hget ⊢
            exact get?_family hvalid hapart hget
          obtain ⟨hself, hchildren⟩ := List.forall_mem_cons.mp hstored
          refine .cons (h.offers hapart hvim hown hself)
            (h.offers_children hapart hvim (fun child hchild => ?_) (fun child hchild => ?_)
              (forall₂_of_mapM hmap))
          · rw [hregistry] at hget
            exact valid_subcommands hvalid hget child hchild
          · have hchild := hchildren _ (List.mem_map_of_mem hchild)
            rwa [Declaration.entryAt_name] at hchild

/-- **When a path can be typed.**  An engine was created for a forest in which siblings share no name, and
motions are read.  A registered path behind what every command line starts with means its entry, without
arguments, exactly if the path is legible; so a path with a bracket is out of reach, but for one that the
catch-all bears.  The entries of the listing, behind its placeholder, and those that a command without a
provider offers have just these lines as their contents. -/
theorem Created.reaches_path_iff :
    (∀ path entry, e.registry.get? path = some entry →
      (e.Reaches (e.lead ++ path) entry ↔ e.Legible path)) ∧
      (∀ menu, e.listing = .ok menu → ∃ shown,
        menu = { content := "", description := e.config.input.emptyHint } :: shown ∧
          List.Forall₂ e.Offers e.unmatched shown) ∧
      ∀ path entry, e.registry.get? path = some entry → ∀ menu, e.entrySuggestions entry = .ok menu →
        List.Forall₂ e.Offers entry.family menu :=
  ⟨fun _ _ hget => h.reaches_iff_legible hapart hvim hget,
    fun _ hmenu => h.offers_listing hapart hvim hmenu,
    fun _ _ hget _ hmenu => h.offers_family hapart hvim hget hmenu⟩

end Created

/-- A command whose name holds brackets, and one below it. -/
def indexed : List (Declaration Unit Unit) :=
  [.command (.text "a[1]") [.text "first"] .null (.callable ())
    [.command (.text "b") [] .null .absent [] .absent] .absent]

lemma indexed_valid : ∀ d ∈ indexed, d.Valid :=
  List.forall_mem_singleton.mpr <| .command rfl <| List.forall_mem_singleton.mpr <| .command rfl (by simp)

lemma indexed_unambiguous : Unambiguous indexed :=
  ⟨List.pairwise_singleton _ _, List.forall_mem_singleton.mpr <| .command (List.pairwise_singleton _ _) <|
    List.forall_mem_singleton.mpr <| .command .nil (by simp)⟩

/-- An engine for these commands. -/
def indexedEngine : Engine Unit Unit := { registry := Registry.declared "*" indexed }

/-- The command is registered under its name, and the line of its name does not lead to it; the line of its
alias does. -/
theorem indexed_not_reached :
    indexedEngine.Created indexed ∧ Unambiguous indexed ∧
      (∃ entry, indexedEngine.registry.get? "a[1]" = some entry ∧ ¬ indexedEngine.Reaches "a[1]" entry) ∧
      ∃ entry, indexedEngine.registry.get? "first b" = some entry ∧
        indexedEngine.Reaches "first b" entry := by
  have hcreated : indexedEngine.Created indexed := created_of_valid rfl indexed_valid
  obtain ⟨hreaches, -, -⟩ := hcreated.reaches_path_iff indexed_unambiguous rfl
  refine ⟨hcreated, indexed_unambiguous, ?_, ?_⟩
  · obtain ⟨entry, hget⟩ := Option.isSome_iff_exists.mp
      (show (indexedEngine.registry.get? "a[1]").isSome = true by decide +kernel)
    refine ⟨entry, hget, fun h => ?_⟩
    rcases (hreaches "a[1]" entry hget).mp h with hplain | ⟨hdefault, -⟩
    · exact hplain (by decide)
    · revert hdefault
      decide
  · obtain ⟨entry, hget⟩ := Option.isSome_iff_exists.mp
      (show (indexedEngine.registry.get? "first b").isSome = true by decide +kernel)
    exact ⟨entry, hget, (hreaches "first b" entry hget).mpr (.inl (by decide))⟩

end Engine

end CommandPalette
