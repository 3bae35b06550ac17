import CommandPalette.Proofs.Command.LongestPath

/-!
# Resolution descends the declared tree

A registry searches a flat table; a host thinks of the tree that it declared.  Where no name is
shared by siblings the two agree: the line follows children as long as its next token calls one, and
means the node where this ends (**`resolve_register_fresh`**).

* `Unambiguous`: no two siblings share a name, at any level.
* `descent`: the nodes that a line leads through, by the tree alone.  `spellsIn_take_iff` compares
  them with the spellings of the line's tokens.
* `length_descent_le`: a descent meets every node at most once, so the depth of the root, which
  counts nodes, is never too small a bound for the search.
-/

namespace CommandPalette.Command

open CommandPalette.Text

variable {α β : Type}

/-- No two trees of a forest can be called by one name. -/
def Apart (forest : List (Declaration α β)) : Prop :=
  forest.Pairwise fun d e => ∀ s ∈ d.names, s ∉ e.names

/-- No two siblings of a forest share a name, at any level. -/
def Unambiguous (forest : List (Declaration α β)) : Prop :=
  Apart forest ∧ ∀ d ∈ forest, d.Every fun node => Apart node.children

/-- The nodes that tokens lead through: the root that the first one calls, and then children as long
as the next token calls one. -/
def descent (forest : List (Declaration α β)) : List String → List (Declaration α β)
  | [] => []
  | token :: rest => match forest.find? (·.names.contains token) with
    | none => []
    | some node => node :: descent node.children rest

/-! ## Descents and spellings -/

lemma Unambiguous.children {forest : List (Declaration α β)} (h : Unambiguous forest)
    {d : Declaration α β} (hd : d ∈ forest) : Unambiguous d.children :=
  ⟨(h.2 d hd).root, fun _ he => (h.2 d hd).child he⟩

/-- A name finds the one node that it calls. -/
lemma Apart.find?_eq {forest : List (Declaration α β)} (h : Apart forest) {d : Declaration α β}
    (hd : d ∈ forest) {s : String} (hs : s ∈ d.names) :
    forest.find? (·.names.contains s) = some d := by
  induction forest with
  | nil => simp at hd
  | cons e rest ih =>
      obtain ⟨hfirst, hrest⟩ := List.pairwise_cons.mp h
      rcases List.mem_cons.mp hd with rfl | hd
      · rw [List.find?_cons_of_pos (by simpa using hs)]
      · have he : s ∉ e.names := fun hse => hfirst d hd s hse hs
        rw [List.find?_cons_of_neg (by simpa using he), ih hrest hd]

lemma spellsIn_cons_iff {forest : List (Declaration α β)} (h : Apart forest) {d node : Declaration α β}
    {token : String} {path : List String} (hfind : forest.find? (·.names.contains token) = some d) :
    SpellsIn forest (token :: path) node ↔
      (path = [] ∧ node = d) ∨ SpellsIn d.children path node := by
  have hd : d ∈ forest := List.mem_of_find?_eq_some hfind
  have htoken : token ∈ d.names := by simpa using List.find?_some hfind
  constructor
  · rintro ⟨e, he, hspells⟩
    cases hspells with
    | here hs =>
        obtain rfl : node = d := Option.some.inj ((h.find?_eq he hs).symm.trans hfind)
        exact .inl ⟨rfl, rfl⟩
    | child hs hchild hbelow =>
        obtain rfl : e = d := Option.some.inj ((h.find?_eq he hs).symm.trans hfind)
        exact .inr ⟨_, hchild, hbelow⟩
  · rintro (⟨rfl, rfl⟩ | ⟨e, he, hbelow⟩)
    · exact ⟨node, hd, .here htoken⟩
    · exact ⟨d, hd, .child htoken he hbelow⟩

/-- **The tokens spell a path exactly as far as the descent goes, and lead to its nodes.** -/
lemma spellsIn_take_iff {forest : List (Declaration α β)} (h : Unambiguous forest)
    (tokens : List String) (n : ℕ) (node : Declaration α β) :
    n < tokens.length ∧ SpellsIn forest (tokens.take (n + 1)) node ↔
      (descent forest tokens)[n]? = some node := by
  induction tokens generalizing forest n with
  | nil => simp [descent]
  | cons token rest ih =>
      rw [descent, List.take_succ_cons, List.length_cons]
      cases hfind : forest.find? (·.names.contains token) with
      | none =>
          constructor
          · rintro ⟨-, d, hd, hspells⟩
            rw [h.1.find?_eq hd hspells.head_mem] at hfind
            cases hfind
          · intro hnone
            simp at hnone
      | some d =>
          rw [spellsIn_cons_iff h.1 hfind]
          cases n with
          | zero =>
              simp only [List.take_zero, true_and, List.getElem?_cons_zero, Option.some.injEq]
              constructor
              · rintro ⟨-, rfl | ⟨e, -, hnil⟩⟩
                · rfl
                · exact absurd rfl hnil.ne_nil
              · rintro rfl
                exact ⟨by omega, .inl rfl⟩
          | succ n =>
              rw [List.getElem?_cons_succ, ← ih (h.children (List.mem_of_find?_eq_some hfind))]
              constructor
              · rintro ⟨hlt, ⟨hnil, -⟩ | hbelow⟩
                · have hlength := congrArg List.length hnil
                  rw [List.length_take, List.length_nil] at hlength
                  omega
                · exact ⟨by omega, hbelow⟩
              · rintro ⟨hlt, hbelow⟩
                exact ⟨by omega, .inr hbelow⟩

/-- In a forest without shared names a path leads to one node. -/
lemma SpellsIn.unique {forest : List (Declaration α β)} (h : Unambiguous forest)
    {path : List String} {node other : Declaration α β} (hnode : SpellsIn forest path node)
    (hother : SpellsIn forest path other) : node = other := by
  obtain ⟨s, rest, rfl⟩ : ∃ s rest, path = s :: rest := by
    obtain ⟨d, -, hd⟩ := hnode
    exact List.exists_cons_of_ne_nil hd.ne_nil
  have htake : (s :: rest).take (rest.length + 1) = s :: rest := by simp
  have hlt : rest.length < (s :: rest).length := by simp
  have hleft := (spellsIn_take_iff h (s :: rest) rest.length node).mp ⟨hlt, by rwa [htake]⟩
  have hright := (spellsIn_take_iff h (s :: rest) rest.length other).mp ⟨hlt, by rwa [htake]⟩
  exact Option.some.inj (hleft.symm.trans hright)

/-- A descent meets every node at most once. -/
lemma length_descent_le {forest : List (Declaration α β)}
    {P : Declaration α β → Prop} (h : ∀ d ∈ forest, d.Every P) (tokens : List String) :
    (descent forest tokens).length ≤ Declaration.nodeCounts forest := by
  induction tokens generalizing forest with
  | nil => simp [descent]
  | cons token rest ih =>
      rw [descent]
      cases hfind : forest.find? (·.names.contains token) with
      | none => simp
      | some d =>
          have hd := List.mem_of_find?_eq_some hfind
          have hbelow := ih fun e he => (h d hd).child he
          have hcount := Declaration.nodeCount_eq (h d hd)
          have hle := Declaration.nodeCount_le_nodeCounts hd
          simp only [List.length_cons]
          omega

/-! ## The table of one registration -/

/-- The registry that one registration of a forest leads to. -/
abbrev Registry.declared (defaultName : String) (forest : List (Declaration α β)) : Registry α β :=
  (({ defaultName } : Registry α β).register forest).1

/-- After one registration of an unambiguous forest a path leads to the node that it spells. -/
lemma get?_declared (defaultName : String) {forest : List (Declaration α β)}
    (hvalid : ∀ d ∈ forest, d.Valid) (h : Unambiguous forest) {path : List String} (hne : path ≠ [])
    (hwords : ∀ s ∈ path, IsWord s) (entry : Entry α β) :
    (Registry.declared defaultName forest).get? (joinPath path) = some entry ↔
      ∃ node, SpellsIn forest path node ∧ entry = node.entryAt (joinPath path) := by
  have hlookup : (Registry.declared defaultName forest).get? (joinPath path) =
      ((spellings [] forest).map spellingWrite).reverse.lookup (joinPath path) := by
    rw [get?_register _ hvalid]
    exact Option.or_none
  -- a write under this path comes from a spelling of these very words
  have hwrite : ∀ found, ((spellings [] forest).map spellingWrite).reverse.lookup (joinPath path) =
      some found → ∃ node, SpellsIn forest path node ∧ found = node.entryAt (joinPath path) := by
    intro found hfound
    obtain ⟨⟨names, node⟩, hspelling, heq⟩ := List.mem_map.mp (mem_of_lookup_reverse hfound)
    obtain ⟨hpath, rfl⟩ := Prod.mk.inj heq
    have hspells := mem_spellings_iff.mp hspelling
    obtain ⟨d, hd, hnames⟩ := hspells
    obtain rfl : names = path :=
      joinPath_inj hnames.ne_nil hne (hnames.isWord (hvalid d hd)) hwords hpath
    exact ⟨node, ⟨d, hd, hnames⟩, rfl⟩
  rw [hlookup]
  constructor
  · exact hwrite entry
  · rintro ⟨node, hspells, rfl⟩
    have hsome : (((spellings [] forest).map spellingWrite).reverse.lookup (joinPath path)).isSome := by
      rw [List.lookup_isSome_iff]
      refine ⟨spellingWrite (path, node), ?_, by simp [spellingWrite]⟩
      exact List.mem_reverse.mpr (List.mem_map_of_mem (mem_spellings_iff.mpr hspells))
    obtain ⟨found, hfound⟩ := Option.isSome_iff_exists.mp hsome
    obtain ⟨other, hother, rfl⟩ := hwrite found hfound
    rw [hfound, hspells.unique h hother]

/-- The first tokens of a line spell a registered path as far as the descent goes. -/
lemma starts_declared_iff (defaultName : String) {forest : List (Declaration α β)}
    (hvalid : ∀ d ∈ forest, d.Valid) (h : Unambiguous forest) (text : String) (n : ℕ) :
    (Registry.declared defaultName forest).Starts (tokens text) n ↔
      1 ≤ n ∧ n ≤ (descent forest (tokens text)).length := by
  have hpath : ∀ m, m < (tokens text).length →
      (tokens text).take (m + 1) ≠ [] ∧ ∀ s ∈ (tokens text).take (m + 1), IsWord s :=
    fun m hm => ⟨take_tokens_ne_nil (Nat.succ_pos m) hm, fun s hs => isWord_of_mem_take hs⟩
  rcases n with _ | m
  · simp [Registry.Starts]
  · constructor
    · rintro ⟨hpos, hle, hsome⟩
      obtain ⟨entry, hentry⟩ := Option.isSome_iff_exists.mp hsome
      obtain ⟨node, hspells, -⟩ :=
        (get?_declared defaultName hvalid h (hpath m hle).1 (hpath m hle).2 entry).mp hentry
      have hnode := (spellsIn_take_iff h (tokens text) m node).mp ⟨hle, hspells⟩
      exact ⟨hpos, (List.getElem?_eq_some_iff.mp hnode).1⟩
    · rintro ⟨hpos, hlt⟩
      obtain ⟨node, hnode⟩ : ∃ node, (descent forest (tokens text))[m]? = some node :=
        ⟨_, List.getElem?_eq_getElem hlt⟩
      obtain ⟨hle, hspells⟩ := (spellsIn_take_iff h (tokens text) m node).mpr hnode
      refine ⟨hpos, hle, ?_⟩
      rw [(get?_declared defaultName hvalid h (hpath m hle).1 (hpath m hle).2 _).mpr
        ⟨node, hspells, rfl⟩]
      rfl

/-- A descent is no longer than the depth of the node at which it starts. -/
lemma length_descent_le_nodeCount {forest : List (Declaration α β)}
    (hvalid : ∀ d ∈ forest, d.Valid) {tokens : List String} {node : Declaration α β}
    (h : (descent forest tokens)[0]? = some node) :
    (descent forest tokens).length ≤ node.nodeCount := by
  cases tokens with
  | nil => simp [descent] at h
  | cons token rest =>
      rw [descent] at h ⊢
      cases hfind : forest.find? (·.names.contains token) with
      | none => simp
      | some d =>
          rw [hfind] at h
          obtain rfl : d = node := by simpa using h
          have hd := hvalid d (List.mem_of_find?_eq_some hfind)
          have hbelow := length_descent_le (fun e he => hd.child he) rest
          have hcount := Declaration.nodeCount_eq hd
          simp only [List.length_cons]
          omega

/-! ## The main result -/

/-- A line that no root is called by goes to the catch-all. -/
lemma resolve_of_descent_nil (defaultName : String) {forest : List (Declaration α β)}
    (hvalid : ∀ d ∈ forest, d.Valid) (h : Unambiguous forest) {text : String}
    (hnil : descent forest (tokens text) = []) :
    (Registry.declared defaultName forest).resolve text =
      { text
        command := (Registry.declared defaultName forest).get? defaultName
        args := tokens text
        consumed := 0 } := by
  have hdefault : (Registry.declared defaultName forest).default? =
      (Registry.declared defaultName forest).get? defaultName := by
    rw [Registry.default?, (register_of_valid _ hvalid).2.1]
  rw [Registry.resolve, ← hdefault]
  cases htokens : tokens text with
  | nil => rfl
  | cons root args =>
      have hroot : (Registry.declared defaultName forest).get? root = none := by
        by_contra hsome
        have hone : (Registry.declared defaultName forest).Starts (tokens text) 1 := by
          refine ⟨le_refl 1, by simp [htokens], ?_⟩
          rw [htokens, List.take_succ_cons, List.take_zero, joinPath_singleton]
          exact Option.isSome_iff_ne_none.mpr hsome
        have hle := ((starts_declared_iff defaultName hvalid h text 1).mp hone).2
        rw [hnil, List.length_nil] at hle
        omega
      rw [Registry.resolveTokens, hroot]
      rfl

/-- A line that a root is called by means the last node of its descent. -/
lemma resolve_of_descent_ne_nil (defaultName : String) {forest : List (Declaration α β)}
    (hvalid : ∀ d ∈ forest, d.Valid) (h : Unambiguous forest) {text : String}
    (hne : descent forest (tokens text) ≠ []) :
    (Registry.declared defaultName forest).resolve text =
      { text
        command := some (((descent forest (tokens text)).getLast hne).entryAt
          (joinPath ((tokens text).take (descent forest (tokens text)).length)))
        args := (tokens text).drop (descent forest (tokens text)).length
        consumed := (descent forest (tokens text)).length } := by
  have hstarts := starts_declared_iff defaultName hvalid h text
  have hpos : 1 ≤ (descent forest (tokens text)).length := List.length_pos_iff.mpr hne
  obtain ⟨root, args, htokens⟩ : ∃ root args, tokens text = root :: args := by
    cases htokens : tokens text with
    | nil => exact absurd (by rw [htokens]; rfl) hne
    | cons root args => exact ⟨root, args, rfl⟩
  obtain ⟨rootEntry, hroot⟩ :
      ∃ rootEntry, (Registry.declared defaultName forest).get? root = some rootEntry := by
    obtain ⟨-, -, hsome⟩ := (hstarts 1).mpr ⟨le_refl 1, hpos⟩
    rw [htokens, List.take_succ_cons, List.take_zero, joinPath_singleton] at hsome
    exact Option.isSome_iff_exists.mp hsome
  have hword : ∀ s ∈ tokens text, IsWord s := fun s hs => isWord_of_mem_tokens hs
  -- the root's entry allows the search to go as far as the descent does
  have hdepth : (descent forest (tokens text)).length ≤ rootEntry.depth := by
    obtain ⟨node, hspells, rfl⟩ := (get?_declared defaultName hvalid h (List.cons_ne_nil root [])
      (by simpa using hword root (by simp [htokens])) rootEntry).mp (by simpa using hroot)
    rw [Declaration.entryAt_depth]
    apply length_descent_le_nodeCount hvalid
    rw [← spellsIn_take_iff h, htokens]
    exact ⟨by simp, by simpa using hspells⟩
  obtain ⟨n, entry, hn, -, hlongest, hentry, hresolve⟩ :=
    Registry.resolve_of_root ((Registry.Sound.fresh defaultName).register forest) htokens hroot
  obtain rfl : n = (descent forest (tokens text)).length := by
    have hle := ((hstarts n).mp hn).2
    have hge := hlongest _ ((hstarts _).mpr ⟨hpos, le_refl _⟩) hdepth
    omega
  -- and what it finds there is the entry of the node at which the descent ends
  have hlast : (descent forest (tokens text))[(descent forest (tokens text)).length - 1]? =
      some ((descent forest (tokens text)).getLast hne) := by
    rw [← List.getLast?_eq_getElem?, List.getLast?_eq_some_getLast hne]
  obtain ⟨hlt, hspells⟩ := (spellsIn_take_iff h _ _ _).mpr hlast
  rw [Nat.sub_add_cancel hpos] at hspells
  obtain ⟨d, hd, hspelled⟩ := hspells
  have hfound := (get?_declared defaultName hvalid h hspelled.ne_nil
    (hspelled.isWord (hvalid d hd)) _).mpr ⟨_, ⟨d, hd, hspelled⟩, rfl⟩
  rw [hresolve, ← hentry, hfound]

/-- **Resolution agrees with the descent of the declared tree.**  One registration of a valid forest
without shared names succeeds.  A line whose first token calls no root goes to the catch-all, if
there is one, with all its tokens; any other means the entry of the node at which its descent ends,
under the path of the tokens that led there, and the tokens behind these are the arguments. -/
theorem resolve_register_fresh (defaultName : String) (forest : List (Declaration α β))
    (hvalid : ∀ d ∈ forest, d.Valid) (h : Unambiguous forest) (text : String) :
    (({ defaultName } : Registry α β).register forest).2.1 = none ∧
      (({ defaultName } : Registry α β).register forest).1.resolve text =
        match (descent forest (tokens text)).getLast? with
        | none =>
          { text
            command := (({ defaultName } : Registry α β).register forest).1.get? defaultName
            args := tokens text
            consumed := 0 }
        | some node =>
          let n := (descent forest (tokens text)).length
          { text
            command := some (node.entryAt (joinPath ((tokens text).take n)))
            args := (tokens text).drop n
            consumed := n } := by
  refine ⟨(register_of_valid _ hvalid).1, ?_⟩
  by_cases hnil : descent forest (tokens text) = []
  · rw [resolve_of_descent_nil defaultName hvalid h hnil, hnil, List.getLast?_nil]
  · rw [resolve_of_descent_ne_nil defaultName hvalid h hnil, List.getLast?_eq_some_getLast hnil]

/-! ### A forest with aliases at every level -/

/-- A command at the third level. -/
def hello : Declaration Unit Unit :=
  .command (.text "hello") [.text "h"] (.text "greet someone") (.callable ()) [] .absent

/-- A command at the second level. -/
def say : Declaration Unit Unit := .command (.text "say") [.text "s"] .null .absent [hello] .absent

/-- A root with two levels below it, and a catch-all. -/
def greetings : List (Declaration Unit Unit) :=
  [.command (.text "human") [] .null .absent [say] .absent,
    .command (.text "*") [] .null .absent [] .absent]

lemma greetings_valid : ∀ d ∈ greetings, d.Valid := by
  have hhello : hello.Valid := .command rfl (by simp)
  have hsay : say.Valid := .command rfl (List.forall_mem_singleton.mpr hhello)
  intro d hd
  simp only [greetings, List.mem_cons, List.not_mem_nil, or_false] at hd
  rcases hd with rfl | rfl
  · exact .command rfl (List.forall_mem_singleton.mpr hsay)
  · exact .command rfl (by simp)

lemma greetings_unambiguous : Unambiguous greetings := by
  have hhello : hello.Every fun node => Apart node.children := .command .nil (by simp)
  have hsay : say.Every fun node => Apart node.children :=
    .command (List.pairwise_singleton _ _) (List.forall_mem_singleton.mpr hhello)
  refine ⟨by simp [Apart, greetings, Declaration.names, Declaration.texts], ?_⟩
  intro d hd
  simp only [greetings, List.mem_cons, List.not_mem_nil, or_false] at hd
  rcases hd with rfl | rfl
  · exact .command (List.pairwise_singleton _ _) (List.forall_mem_singleton.mpr hsay)
  · exact .command .nil (by simp)

theorem resolve_greetings :
    (∀ d ∈ greetings, d.Valid) ∧ Unambiguous greetings ∧
      (Registry.declared "*" greetings).resolve "human s h Alice" =
        { text := "human s h Alice"
          command := some (hello.entryAt "human s h")
          args := ["Alice"]
          consumed := 3 } := by
  have htokens : tokens "human s h Alice" = ["human", "s", "h", "Alice"] := by decide +kernel
  have hdescent : ∃ human, descent greetings ["human", "s", "h", "Alice"] = [human, say, hello] := by
    refine ⟨.command (.text "human") [] .null .absent [say] .absent, ?_⟩
    simp [descent, greetings, say, hello, Declaration.children, Declaration.names,
      Declaration.texts]
  obtain ⟨human, hdescent⟩ := hdescent
  have hresolve :=
    (resolve_register_fresh "*" greetings greetings_valid greetings_unambiguous "human s h Alice").2
  rw [htokens, hdescent] at hresolve
  exact ⟨greetings_valid, greetings_unambiguous, hresolve⟩

end CommandPalette.Command
