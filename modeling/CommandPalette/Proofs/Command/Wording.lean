import CommandPalette.Proofs.Command.LongestPath
import CommandPalette.Proofs.Table

/-!
# Commands that can be shown

A description may be a value of any type, and an integer of too many digits has no text.  Registration
does not ask for one, so it is asked for here: `Declaration.Worded` is a valid tree whose descriptions
have a text.  What is registered from such trees has one as well, wherever it is found.

* `Registry.Declared`: the registries that are built from such trees.
* **`Registry.Declared.worded`**: all that is in them can be shown.
-/

namespace CommandPalette

lemma Value.write_of_isWritable {v : Value} (h : v.isWritable = true) : v.write = .ok v.plain := by
  rw [write, plain?, if_pos h]

namespace Command

variable {α β : Type}

/-! ## Trees -/

namespace Declaration

/-- The description of a node has a text. -/
def HasWording : Declaration α β → Prop
  | command _ _ description .. => description.isWritable = true
  | other _ => False

/-- A valid tree whose descriptions have a text. -/
def Worded (d : Declaration α β) : Prop :=
  d.Every fun node => node.validate = .ok () ∧ node.HasWording

lemma Worded.valid {d : Declaration α β} (h : d.Worded) : d.Valid := by
  induction h with
  | command here _ ih => exact .command here.1 ih

end Declaration

/-- An entry with a text for its description, and for those below it. -/
structure Entry.Worded (entry : Entry α β) : Prop where
  description : entry.description.isWritable = true
  below : ∀ child ∈ entry.subcommands, child.Worded

lemma Declaration.Worded.entryAt {d : Declaration α β} (h : d.Worded) (path : String) :
    (d.entryAt path).Worded := by
  cases h with
  | @command name aliases description action subcommands provider here below =>
      refine ⟨?_, below⟩
      show (if description.truthy then description else .text "").isWritable = true
      split
      · exact here.2
      · rfl

/-! ## Registries -/

namespace Registry

/-- Everything in a registry can be shown. -/
def Worded (r : Registry α β) : Prop := ∀ w ∈ r.table.entries, w.2.Worded

/-- The registries that are built from valid trees whose descriptions have a text. -/
inductive Declared : Registry α β → Prop
  | fresh (defaultName : String) : Declared { defaultName }
  | register {r : Registry α β} (h : Declared r) {forest : List (Declaration α β)}
      (worded : ∀ d ∈ forest, d.Worded) : Declared (r.register forest).1

lemma Declared.reached {r : Registry α β} (h : r.Declared) : r.Reached := by
  induction h with
  | fresh defaultName => exact .fresh defaultName
  | register _ _ ih => exact .register ih _

/-- **What is built from trees that can be shown can be shown.** -/
lemma Declared.worded {r : Registry α β} (h : r.Declared) : r.Worded := by
  induction h with
  | fresh defaultName => exact nofun
  | @register r _ forest worded ih =>
      intro w hw
      rw [(register_of_valid r fun d hd => (worded d hd).valid).2.2] at hw
      rcases Table.mem_insertAll hw with hwrite | hold
      · obtain ⟨⟨path, node⟩, hspelling, rfl⟩ := List.mem_map.mp hwrite
        obtain ⟨d, hd, hspells⟩ := mem_spellings_iff.mp hspelling
        exact Declaration.Worded.entryAt (hspells.every (worded d hd)) _
      · exact ih w hold

lemma Worded.of_resolve {r : Registry α β} (h : r.Worded) (hsound : r.Sound) {text : String}
    {entry : Entry α β} (hcommand : (r.resolve text).command = some entry) : entry.Worded := by
  rcases resolve_cases hsound text with ⟨hresolve, -⟩ | ⟨n, found, -, -, hget, hresolve⟩
  · rw [hresolve] at hcommand
    exact h _ (Table.mem_of_get? hcommand)
  · rw [hresolve] at hcommand
    obtain rfl : found = entry := Option.some.inj hcommand
    exact h _ (Table.mem_of_get? hget)

end Registry

end Command

end CommandPalette
