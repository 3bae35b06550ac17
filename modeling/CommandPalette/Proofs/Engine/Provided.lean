import CommandPalette.Proofs.Arrangement
import CommandPalette.Proofs.Engine.Run
import CommandPalette.Proofs.Guard

/-!
# What a provider's answer comes to

A provider may answer in three ways that matter: with suggestions, with a failure, which its guard
turns into a rejection, and with what is no failure, which interrupts the call.

* `Item.Unfit`: the items that stand for no suggestion, `Item.suggestion?_eq_error_iff`.
* `isFailure_of_suggestions?`: a value that is no list of suggestions is a failure of the provider.
* **`concluded_cases`**: the three ways.
* `interrupts_iff`: what interrupts a call is what its provider raised.
-/

namespace CommandPalette

/-! ## Values that are no suggestions -/

/-- An item stands for no suggestion, and what is wrong with it. -/
inductive Item.Unfit : Item → Fault → Prop
  /-- It is neither a suggestion nor a mapping. -/
  | other {v : Value} (noMapping : ∀ entries, v ≠ .table entries) :
      Unfit (.value v) (.notSuggestion v.typeName)
  /-- It is a mapping without a content. -/
  | bare {entries : List (Value × Value)} (missing : Value.lookup? (.text "content") entries = none) :
      Unfit (.value (.table entries)) (.missingKey "content")
  /-- Its content or its description has no text. -/
  | unwritable {entries : List (Value × Value)} {content : Value}
      (found : Value.lookup? (.text "content") entries = some content)
      (long : content.isWritable = false ∨
        ((Value.lookup? (.text "description") entries).getD (.text "")).isWritable = false) :
      Unfit (.value (.table entries)) .longInteger

/-- What a mapping with a content stands for. -/
lemma Item.suggestion?_of_content {entries : List (Value × Value)} {content : Value}
    (found : Value.lookup? (.text "content") entries = some content) :
    let description := (Value.lookup? (.text "description") entries).getD (.text "")
    (Item.value (.table entries)).suggestion? =
      if content.isWritable && description.isWritable then
        .ok { content := content.plain, description := description.plain }
      else .error .longInteger := by
  have hwrite : ∀ v : Value, v.write = if v.isWritable then .ok v.plain else .error .longInteger := by
    intro v
    cases hwritable : v.isWritable <;> simp [Value.write, Value.plain?, hwritable]
  intro description
  simp only [suggestion?, found]
  show (content.write >>= fun text => description.write >>= fun shown =>
    Except.ok ({ content := text, description := shown } : Suggestion)) = _
  rw [hwrite, hwrite]
  cases content.isWritable with
  | false => rfl
  | true => cases description.isWritable <;> rfl

/-- An item stands for no suggestion exactly if it is unfit. -/
lemma Item.suggestion?_eq_error_iff {item : Item} {fault : Fault} :
    item.suggestion? = .error fault ↔ item.Unfit fault := by
  constructor
  · intro h
    cases item with
    | suggestion s => cases h
    | value v => cases v with
      | table entries =>
          cases hcontent : Value.lookup? (.text "content") entries with
          | none =>
              simp only [suggestion?, hcontent] at h
              obtain rfl := Except.error.inj h
              exact .bare hcontent
          | some content =>
              rw [suggestion?_of_content hcontent] at h
              split at h
              · cases h
              · rename_i hlong
                obtain rfl := Except.error.inj h
                rw [Bool.and_eq_true, not_and_or, Bool.not_eq_true, Bool.not_eq_true] at hlong
                exact .unwritable hcontent hlong
      | _ =>
          obtain rfl := Except.error.inj h
          exact .other fun entries h => by cases h
  · intro h
    cases h with
    | @other v noMapping => cases v with
      | table entries => exact absurd rfl (noMapping entries)
      | _ => rfl
    | bare missing => simp only [suggestion?, missing]
    | unwritable found long =>
        rw [suggestion?_of_content found, if_neg]
        rwa [Bool.and_eq_true, not_and_or, Bool.not_eq_true, Bool.not_eq_true]

/-- An item stands for a suggestion exactly if nothing is wrong with it. -/
lemma Item.exists_suggestion?_iff {item : Item} :
    (∃ s, item.suggestion? = .ok s) ↔ ∀ fault, ¬ item.Unfit fault := by
  simp only [← suggestion?_eq_error_iff]
  cases item.suggestion? with
  | ok s => simp
  | error fault => simp

/-- A value cannot be gone through exactly if it is not empty and of a type without items. -/
lemma Provided.items?_eq_error_iff {provided : Provided} {fault : Fault} :
    provided.items? = .error fault ↔ ∃ v, provided = .value v ∧ v.truthy = true ∧ v.items? = none ∧
      fault = .notIterable v.typeName := by
  constructor
  · intro h
    cases provided with
    | items list => cases h
    | value v =>
        rw [items?] at h
        split at h
        · cases h
        · rename_i hfull
          split at h
          · cases h
          · rename_i hclosed
            exact ⟨v, rfl, by simpa using hfull, hclosed, (Except.error.inj h).symm⟩
  · rintro ⟨v, rfl, hfull, hclosed, rfl⟩
    simp only [items?, hfull, hclosed, Bool.not_true, Bool.false_eq_true, if_false]

/-- Whatever is wrong with an item is a failure of its provider. -/
lemma Item.isFailure_of_suggestion? {item : Item} {fault : Fault}
    (h : item.suggestion? = .error fault) : fault.isFailure = true := by
  cases suggestion?_eq_error_iff.mp h with
  | other | bare | unwritable => rfl

lemma Provided.isFailure_of_suggestions? {provided : Provided} {fault : Fault}
    (h : provided.suggestions? = .error fault) : fault.isFailure = true := by
  rcases error_of_bind h with hitems | ⟨items, -, h⟩
  · obtain ⟨v, -, -, -, rfl⟩ := items?_eq_error_iff.mp hitems
    rfl
  · obtain ⟨-, item, -, hitem, -⟩ := mapM_eq_error_iff.mp h
    exact Item.isFailure_of_suggestion? hitem

namespace Engine

/-! ## Answers -/

/-- What is raised where an answer is awaited is a failure if it was one before. -/
lemma awaited_error (fault : Fault) :
    ∃ raised, (Guard.awaited (.error fault) : Except Fault Provided) = .error raised ∧
      raised.isFailure = fault.isFailure ∧ (fault.isFailure = false → raised = fault) := by
  rw [Guard.awaited]
  by_cases hstop : fault.isExhausted = true
  · have hfailure : fault.isFailure = true := by
      rw [Fault.isFailure, eq_of_beq hstop]
      decide
    rw [if_pos hstop, hfailure]
    exact ⟨_, rfl, rfl, fun h => by cases h⟩
  · rw [if_neg hstop]
    exact ⟨fault, rfl, rfl, fun _ => rfl⟩

/-- What is no failure passes the guard. -/
lemma concluded_of_stop {fault : Fault} (h : fault.isFailure = false) :
    concluded (.error fault) = .error fault := by
  obtain ⟨raised, hraised, -, hsame⟩ := awaited_error fault
  rw [hsame h] at hraised
  rw [concluded, hraised]
  show (providerGuard.finish (.error fault)).outcome = _
  rw [providerGuard, Guard.finish_awaitedProvider, h]
  rfl

/-- The rejection of a failure: itself if it is a rejection, or else one that tells what has brought it
about. -/
def rejectionOf (fault : Fault) : Fault :=
  if fault.isRejection then fault else .providerRejected "suggestion_provider" fault

lemma isRejection_rejectionOf (fault : Fault) : (rejectionOf fault).isRejection = true := by
  rw [rejectionOf]
  split
  · assumption
  · rfl

/-- The guard makes a rejection of a failure. -/
lemma finish_of_failure {fault : Fault} (h : fault.isFailure = true) :
    (providerGuard.finish (.error fault) : Call (List Suggestion)).outcome =
      .error (rejectionOf fault) := by
  rw [providerGuard, Guard.finish_awaitedProvider, h, rejectionOf]
  cases fault.isRejection <;> rfl

/-- **What a provider's answer comes to**: suggestions, a rejection, or what interrupts the call as it
was raised. -/
lemma concluded_cases (outcome : Except Fault Provided) :
    (∃ suggestions, concluded outcome = .ok suggestions) ∨
      (∃ rejection, concluded outcome = .error rejection ∧ rejection.isRejection = true) ∨
      ∃ fault, outcome = .error fault ∧ fault.isFailure = false := by
  cases outcome with
  | ok provided =>
      have hconcluded : concluded (.ok provided) =
          (providerGuard.finish provided.suggestions?).outcome := rfl
      rw [hconcluded]
      cases hsuggestions : provided.suggestions? with
      | ok suggestions => exact .inl ⟨suggestions, rfl⟩
      | error fault =>
          exact .inr (.inl ⟨_, finish_of_failure (Provided.isFailure_of_suggestions? hsuggestions),
            isRejection_rejectionOf fault⟩)
  | error fault =>
      cases hfailure : fault.isFailure with
      | false => exact .inr (.inr ⟨fault, rfl, hfailure⟩)
      | true =>
          obtain ⟨raised, hraised, hkind, -⟩ := awaited_error fault
          rw [concluded, hraised]
          exact .inr (.inl ⟨_, finish_of_failure (hkind.trans hfailure),
            isRejection_rejectionOf raised⟩)

/-- What interrupts a call is what was raised, and no failure. -/
lemma interrupts_iff {outcome : Except Fault Provided} {fault : Fault} :
    Interrupts outcome fault ↔ outcome = .error fault ∧ fault.isFailure = false := by
  constructor
  · rintro ⟨hconcluded, hrejection⟩
    rcases concluded_cases outcome with ⟨suggestions, hok⟩ | ⟨other, hother, hrejected⟩ |
      ⟨other, rfl, hfailure⟩
    · cases hok.symm.trans hconcluded
    · obtain rfl := Except.error.inj (hother.symm.trans hconcluded)
      cases hrejected.symm.trans hrejection
    · obtain rfl := Except.error.inj ((concluded_of_stop hfailure).symm.trans hconcluded)
      exact ⟨rfl, hfailure⟩
  · rintro ⟨rfl, hfailure⟩
    refine ⟨concluded_of_stop hfailure, ?_⟩
    cases hrejection : fault.isRejection with
    | false => rfl
    | true => cases (Fault.isFailure_of_isRejection hrejection).symm.trans hfailure

end Engine

end CommandPalette
