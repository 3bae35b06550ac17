import CommandPalette.Command.Resolution
import CommandPalette.Proofs.Command.Registration
import Mathlib.Data.Nat.Basic
import Mathlib.Tactic.Set

/-!
# How far resolution looks

Resolution tries the paths that a line starts with, but no longer ones than the depth of the root's
entry allows.  Among these it finds the longest (`resolve_of_root`).  The bound is that of the tree
under which the root was registered last, while paths of earlier registrations stay in the table, so
the longest registered path of all is found exactly if the bound reaches it:
**`resolvesLongest_iff`**.

* `Registry.Starts`: the first tokens of a line spell a registered path.
* `Registry.ResolvesLongest`: the line means the entry of the longest such path, and its other tokens
  are the arguments.
-/

namespace CommandPalette.Command

open CommandPalette.Text

variable {α β : Type}

namespace Registry

/-- The first `n` tokens of a line spell a registered path. -/
def Starts (r : Registry α β) (tokens : List String) (n : ℕ) : Prop :=
  1 ≤ n ∧ n ≤ tokens.length ∧ (r.get? (joinPath (tokens.take n))).isSome = true

/-- A line means the entry of the longest registered path that its tokens start with. -/
def ResolvesLongest (r : Registry α β) (text : String) : Prop :=
  ∃ n, r.Starts (tokens text) n ∧ (∀ m, r.Starts (tokens text) m → m ≤ n) ∧
    (r.resolve text).command = r.get? (joinPath ((tokens text).take n))

/-! ## The search below a root -/

/-- The search goes through all paths up to its bound and keeps the longest. -/
lemma deepest_spec (r : Registry α β) {root : String} {rootEntry : Entry α β}
    (hroot : r.get? root = some rootEntry) (args : List String) (bound : ℕ) :
    ∃ k ≤ bound, r.get? (joinPath (root :: args.take k)) = some (r.deepest root rootEntry args bound) ∧
      ∀ j, k < j → j ≤ bound → r.get? (joinPath (root :: args.take j)) = none := by
  induction bound with
  | zero =>
      refine ⟨0, le_refl 0, ?_, fun j hj hj' => by omega⟩
      rw [List.take_zero, joinPath_singleton, deepest, hroot]
  | succ bound ih =>
      cases hnext : r.get? (joinPath (root :: args.take (bound + 1))) with
      | some entry =>
          refine ⟨bound + 1, le_refl _, ?_, fun j hj hj' => by omega⟩
          rw [hnext, deepest, hnext, Option.getD_some]
      | none =>
          obtain ⟨k, hk, hfound, hnone⟩ := ih
          refine ⟨k, by omega, ?_, ?_⟩
          · rw [hfound, deepest, hnext, Option.getD_none]
          · intro j hj hj'
            rcases Nat.lt_or_ge bound j with hlt | hle
            · obtain rfl : j = bound + 1 := by omega
              exact hnext
            · exact hnone j hj hle

/-- An entry found under the first tokens of a line takes as many tokens as its path has. -/
lemma tokenCount_of_get? {r : Registry α β} (h : r.Sound) {names : List String}
    (hne : names ≠ []) (hwords : ∀ s ∈ names, IsWord s) {entry : Entry α β}
    (hget : r.get? (joinPath names) = some entry) : entry.tokenCount = names.length := by
  rw [Entry.tokenCount, Entry.path, h.name_eq _ _ hget, splitPath_joinPath hne hwords]

/-- **A line whose first token is registered means the longest of the registered paths within the
depth of the root's entry.** -/
lemma resolve_of_root {r : Registry α β} (h : r.Sound) {text root : String} {args : List String}
    {rootEntry : Entry α β} (htokens : tokens text = root :: args)
    (hroot : r.get? root = some rootEntry) :
    ∃ n entry, r.Starts (tokens text) n ∧ n ≤ rootEntry.depth ∧
      (∀ m, r.Starts (tokens text) m → m ≤ rootEntry.depth → m ≤ n) ∧
      r.get? (joinPath ((tokens text).take n)) = some entry ∧
      r.resolve text =
        { text, command := some entry, args := (tokens text).drop n, consumed := n } := by
  have hdepth := h.depth_pos _ _ hroot
  rw [htokens]
  by_cases hone : rootEntry.depth = 1
  · have hget : r.get? (joinPath ((root :: args).take 1)) = some rootEntry := by simpa using hroot
    refine ⟨1, rootEntry, ⟨le_refl 1, by simp, by rw [hget]; rfl⟩, hdepth, ?_, hget, ?_⟩
    · intro m _ hm
      omega
    · rw [resolve, htokens, resolveTokens]
      simp [hroot, hone]
  · obtain ⟨k, hk, hfound, hnone⟩ :=
      deepest_spec r hroot args (min (rootEntry.depth - 1) args.length)
    set entry := r.deepest root rootEntry args (min (rootEntry.depth - 1) args.length) with hentry
    have htake : (root :: args).take (k + 1) = root :: args.take k := List.take_succ_cons
    have hcount : entry.tokenCount = k + 1 := by
      rw [tokenCount_of_get? h (by simp) ?_ hfound]
      · rw [List.length_cons, List.length_take]
        omega
      · intro s hs
        have hmem : s ∈ tokens text := by
          rw [htokens]
          exact List.mem_of_mem_take (htake ▸ hs)
        exact isWord_of_mem_tokens hmem
    refine ⟨k + 1, entry, ⟨by omega, by rw [List.length_cons]; omega, ?_⟩, by omega, ?_, ?_, ?_⟩
    · rw [htake, hfound]
      rfl
    · rintro (_ | m) ⟨hpos, hlength, hm⟩ hbound
      · omega
      · rw [List.length_cons] at hlength
        by_contra hlt
        rw [List.take_succ_cons, hnone m (by omega) (by omega)] at hm
        cases hm
    · rw [htake, hfound]
    · rw [resolve, htokens, resolveTokens]
      simp only [hroot, hone, if_false, ← hentry, hcount]
      rw [List.drop_succ_cons, Nat.add_sub_cancel]

/-- A line whose first token is the name of no root goes to the catch-all with all its tokens. -/
lemma resolve_of_no_root {r : Registry α β} {text : String}
    (h : ∀ root ∈ (tokens text).head?, r.get? root = none) :
    r.resolve text = r.unresolved text (tokens text) := by
  rw [resolve]
  cases htokens : tokens text with
  | nil => rfl
  | cons root args =>
      have hroot : r.get? root = none := h root (by simp [htokens])
      simp only [resolveTokens, hroot]

/-- A line has a token that names a root in front, or it has not. -/
lemma root_cases (r : Registry α β) (text : String) :
    (∀ root ∈ (tokens text).head?, r.get? root = none) ∨
      ∃ root args rootEntry, tokens text = root :: args ∧ r.get? root = some rootEntry := by
  cases tokens text with
  | nil => exact .inl (by simp)
  | cons root args =>
      cases hroot : r.get? root with
      | none => exact .inl (by simpa using hroot)
      | some rootEntry => exact .inr ⟨root, args, rootEntry, rfl, hroot⟩

/-- A line goes to the catch-all with all its tokens, or to a path that its first tokens spell. -/
lemma resolve_cases {r : Registry α β} (h : r.Sound) (text : String) :
    (r.resolve text = r.unresolved text (tokens text) ∧
        ∀ root ∈ (tokens text).head?, r.get? root = none) ∨
      ∃ n entry, 1 ≤ n ∧ n ≤ (tokens text).length ∧
        r.get? (joinPath ((tokens text).take n)) = some entry ∧
        r.resolve text = { text, command := some entry, args := (tokens text).drop n, consumed := n } := by
  rcases r.root_cases text with hnone | ⟨root, args, rootEntry, htokens, hroot⟩
  · exact .inl ⟨resolve_of_no_root hnone, hnone⟩
  · obtain ⟨n, entry, hstarts, -, -, hget, hresolve⟩ := resolve_of_root h htokens hroot
    exact .inr ⟨n, entry, hstarts.1, hstarts.2.1, hget, hresolve⟩

/-- Apart from the line that it records, the meaning of a line depends on its tokens alone. -/
lemma resolve_congr (r : Registry α β) {text other : String} (h : tokens other = tokens text) :
    r.resolve other = { r.resolve text with text := other } := by
  rw [resolve, resolve, h]
  cases tokens text with
  | nil => rfl
  | cons root args =>
      simp only [resolveTokens]
      cases r.get? root with
      | none => rfl
      | some rootEntry =>
          by_cases hone : rootEntry.depth = 1
          · simp only [hone, if_true]
          · simp only [hone, if_false]

/-! ## The bound and the longest path -/

/-- Under two registered paths that a line starts with there are two different entries. -/
lemma starts_inj {r : Registry α β} (h : r.Sound) {text : String} {m n : ℕ}
    (hm : r.Starts (tokens text) m) (hn : r.Starts (tokens text) n)
    (heq : r.get? (joinPath ((tokens text).take m)) = r.get? (joinPath ((tokens text).take n))) :
    m = n := by
  obtain ⟨hmpos, hmle, hmsome⟩ := hm
  obtain ⟨hnpos, hnle, -⟩ := hn
  obtain ⟨entry, hentry⟩ := Option.isSome_iff_exists.mp hmsome
  have hpath : joinPath ((tokens text).take m) = joinPath ((tokens text).take n) := by
    rw [← h.name_eq _ _ hentry, h.name_eq _ _ (heq ▸ hentry)]
  have htake := joinPath_inj (take_tokens_ne_nil hmpos hmle) (take_tokens_ne_nil hnpos hnle)
    (fun s hs => isWord_of_mem_take hs) (fun s hs => isWord_of_mem_take hs) hpath
  have hlength := congrArg List.length htake
  rw [List.length_take, List.length_take] at hlength
  omega

/-- **The longest registered path is found exactly if the depth of the root's entry reaches it.**
Whatever the history of the registry, a line whose first token is registered means the longest path
within that depth; a longer one that an earlier registration left in the table is overlooked. -/
theorem resolvesLongest_iff {r : Registry α β} (h : r.Reached) {text root : String}
    {args : List String} {rootEntry : Entry α β} (htokens : tokens text = root :: args)
    (hroot : r.get? root = some rootEntry) :
    (r.ResolvesLongest text ↔ ∀ m, r.Starts (tokens text) m → m ≤ rootEntry.depth) ∧
      ∃ n, r.Starts (tokens text) n ∧ n ≤ rootEntry.depth ∧
        (∀ m, r.Starts (tokens text) m → m ≤ rootEntry.depth → m ≤ n) ∧
        (r.resolve text).command = r.get? (joinPath ((tokens text).take n)) := by
  obtain ⟨n, entry, hstarts, hn, hlongest, hget, hresolve⟩ :=
    resolve_of_root h.sound htokens hroot
  have hcommand : (r.resolve text).command = r.get? (joinPath ((tokens text).take n)) := by
    rw [hresolve, hget]
  refine ⟨⟨?_, ?_⟩, n, hstarts, hn, hlongest, hcommand⟩
  · rintro ⟨n', hstarts', hlongest', hcommand'⟩ m hm
    obtain rfl : n' = n := starts_inj h.sound hstarts' hstarts (hcommand'.symm.trans hcommand)
    exact le_trans (hlongest' m hm) hn
  · intro hall
    exact ⟨n, hstarts, fun m hm => hlongest m hm (hall m hm), hcommand⟩

/-- A registry in which a root was declared again, without the commands that it had below it. -/
def shrunk : Registry Unit Unit :=
  let named (name : String) (below : List (Declaration Unit Unit)) : Declaration Unit Unit :=
    .command (.text name) [] .null .absent below .absent
  let whole := (({} : Registry Unit Unit).register
    [named "git" [named "remote" [named "add" []]]]).1
  (whole.register [named "git" []]).1

/-- The path of the first declaration is still there, and no line finds it. -/
theorem shrunk_overlooks_path :
    (shrunk.get? "git remote add").isSome = true ∧ ¬ shrunk.ResolvesLongest "git remote add" := by
  have hdepth : (shrunk.get? "git").map Entry.depth = some 1 := by decide +kernel
  obtain ⟨rootEntry, hroot, hone⟩ := Option.map_eq_some_iff.mp hdepth
  have htokens : tokens "git remote add" = ["git", "remote", "add"] := by decide +kernel
  have hpath : (shrunk.get? "git remote add").isSome = true := by decide +kernel
  refine ⟨hpath, fun hlongest => ?_⟩
  have hbound := (resolvesLongest_iff (.register (.register (.fresh "*") _) _) htokens hroot).1.mp
    hlongest 3 ⟨by decide, by decide +kernel, by decide +kernel⟩
  omega

end Registry

end CommandPalette.Command
