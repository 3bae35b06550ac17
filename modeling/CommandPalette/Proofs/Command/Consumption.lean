import CommandPalette.Proofs.Command.Growth
import CommandPalette.Proofs.Command.LongestPath

/-!
# The tokens of a line

The meaning of a line has to account for every token: those of the command come first, and the arguments
are all the others.  How many tokens the command takes is read off the path that its entry bears, while
the arguments are cut off the line.  The two fit because an entry bears the path under which it is found,
and this path was spelled by tokens of the line.

* `Registry.Accounts`: a meaning accounts for the tokens of a line.
* **`Registry.resolve_accounts`**: resolution does so in every registry, whatever was registered before
  and wherever that was cut off; and it looks at nothing of the line but its tokens.
-/

namespace CommandPalette.Command

open CommandPalette.Text

variable {α β : Type}

namespace Registry

/-- A meaning accounts for the tokens of a line, given what the registry holds. -/
structure Accounts (r : Registry α β) (tokens : List String) (meaning : Resolution α β) : Prop where
  /-- The command takes no more tokens than there are. -/
  consumed_le : meaning.consumed ≤ tokens.length
  /-- No token is lost, and none is moved. -/
  split : tokens = tokens.take meaning.consumed ++ meaning.args
  /-- The tokens taken are the path of the command, and the registry has it there. -/
  spelled : 0 < meaning.consumed → ∃ entry, meaning.command = some entry ∧
    joinPath (tokens.take meaning.consumed) = entry.name ∧ r.get? entry.name = some entry
  /-- None is taken exactly if the first is not the name of a root. -/
  unspelled : meaning.consumed = 0 ↔ ∀ root ∈ tokens.head?, r.get? root = none
  /-- Then the command is the catch-all, or there is none. -/
  catchAll : meaning.consumed = 0 →
    meaning.command = r.default? ∧ ∀ entry ∈ meaning.command, r.isDefault entry = true

lemma accounts_unresolved {r : Registry α β} (h : r.Sound) (text : String) {tokens : List String}
    (hnone : ∀ root ∈ tokens.head?, r.get? root = none) : r.Accounts tokens (r.unresolved text tokens) where
  consumed_le := Nat.zero_le _
  split := rfl
  spelled hpos := absurd hpos (Nat.lt_irrefl 0)
  unspelled := iff_of_true rfl hnone
  catchAll _ := ⟨rfl, fun _ hentry => beq_iff_eq.mpr (h.name_eq _ _ hentry)⟩

lemma accounts_spelled {r : Registry α β} (h : r.Sound) {text root : String} {args : List String}
    {rootEntry : Entry α β} (htokens : tokens text = root :: args)
    (hroot : r.get? root = some rootEntry) : r.Accounts (tokens text) (r.resolve text) := by
  obtain ⟨n, entry, ⟨hpos, hle, -⟩, -, -, hget, hresolve⟩ := resolve_of_root h htokens hroot
  have hname : entry.name = joinPath ((tokens text).take n) := h.name_eq _ _ hget
  rw [hresolve]
  exact {
    consumed_le := hle
    split := (List.take_append_drop n _).symm
    spelled := fun _ => ⟨entry, rfl, hname.symm, hname ▸ hget⟩
    unspelled := by
      refine iff_of_false (Nat.ne_of_gt hpos) fun hnone => ?_
      rw [hnone root (by simp [htokens])] at hroot
      cases hroot
    catchAll := fun hzero => absurd hzero (Nat.ne_of_gt hpos) }

/-- **Resolution accounts for every token of a line**, in every registry that registrations lead to, also
those that took the place of entries or ended in a fault.  Of the line it looks at the tokens alone, and
it records the line. -/
theorem resolve_accounts {r : Registry α β} (h : r.Reached) (text : String) :
    r.Accounts (tokens text) (r.resolve text) ∧ (r.resolve text).text = text ∧
      ∀ other, tokens other = tokens text → r.resolve other = { r.resolve text with text := other } := by
  refine ⟨?_, ?_, fun other => resolve_congr r⟩
  · rcases r.root_cases text with hnone | ⟨root, args, rootEntry, htokens, hroot⟩
    · rw [resolve_of_no_root hnone]
      exact accounts_unresolved h.sound text hnone
    · exact accounts_spelled h.sound htokens hroot
  · rw [resolve_congr r (rfl : tokens text = tokens text)]

/-- A registry of which the last registration took the place of two entries and ended in a fault. -/
def patched : Registry Unit Unit :=
  ((({} : Registry Unit Unit).register
    [.command (.text "git") [] .null .absent
      [.command (.text "add") [] .null .absent [.command (.text "all") [] .null .absent [] .absent]
        .absent] .absent]).1.register cutOff).1

/-- The last registration was cut off below `git`, and the path of three names is left from before; a line
finds it however its tokens are set apart. -/
theorem patched_accounts :
    (∃ entry, (patched.resolve "git add all x").command = some entry ∧ entry.name = "git add all" ∧
        patched.get? entry.name = some entry) ∧
      (patched.resolve "git add all x").args = ["x"] ∧
      patched.resolve " git  add\tall x" =
        { patched.resolve "git add all x" with text := " git  add\tall x" } := by
  have hreached : patched.Reached := .register (.register (.fresh "*") _) _
  have htokens : tokens "git add all x" = ["git", "add", "all", "x"] := by decide +kernel
  have hconsumed : (patched.resolve "git add all x").consumed = 3 := by decide +kernel
  obtain ⟨haccounts, -, hcongr⟩ := resolve_accounts hreached "git add all x"
  refine ⟨?_, ?_, hcongr _ (by decide +kernel)⟩
  · obtain ⟨entry, hcommand, hname, hget⟩ := haccounts.spelled (by rw [hconsumed]; decide)
    rw [hconsumed, htokens] at hname
    exact ⟨entry, hcommand, hname.symm, hget⟩
  · have hsplit := haccounts.split
    rw [hconsumed, htokens] at hsplit
    have hcut : ["git", "add", "all"] ++ ["x"] =
        ["git", "add", "all"] ++ (patched.resolve "git add all x").args := hsplit
    exact (List.append_cancel_left hcut).symm

end Registry

end CommandPalette.Command
