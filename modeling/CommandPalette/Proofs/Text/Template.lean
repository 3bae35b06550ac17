import CommandPalette.Text.Template
import Mathlib.Data.Nat.Basic
import Mathlib.Tactic.Lemma

/-!
# Templates that hold a plain field

A field that is a name alone shows the text of that name as it stands (`renderWithin_field`), and what
is no brace shows itself (`renderWithin_plain`).  **`render_bracketed`**: so a name in brackets takes
every text.  `render_unclosed`: a single brace behind the name takes none.
-/

namespace CommandPalette.Text.Template

/-- A character that is no brace shows itself. -/
lemma renderWithin_plain (texts : List (String × String)) (depth : ℕ) {c : Char} (rest : List Char)
    (hopen : c ≠ '{') (hclose : c ≠ '}') :
    renderWithin texts (depth + 1) (c :: rest) = (renderWithin texts (depth + 1) rest).map (c :: ·) := by
  rw [renderWithin]
  · cases renderWithin texts (depth + 1) rest <;> rfl
  all_goals simp [hopen, hclose]

/-- A field that is a name alone shows the text of that name. -/
lemma renderWithin_field {texts : List (String × String)} {depth : ℕ} {name rest more : List Char}
    {text : List Char} (hscan : Field.scan rest = .ok (⟨name, none, []⟩, more))
    (hname : lookUp texts name = .ok (.text text)) (hrest : rest ≠ [])
    (hopen : ∀ tail, rest ≠ '{' :: tail) :
    renderWithin texts (depth + 1) ('{' :: rest) =
      (renderWithin texts (depth + 1) more).map (text ++ ·) := by
  rw [renderWithin]
  · split
    · rename_i hscan'
      rw [hscan] at hscan'
      cases hscan'
    · rename_i hscan'
      rw [hscan] at hscan'
      cases hscan'
      simp only [hname, convert, layOut, Facet.plain, bind, Except.bind, pure, Except.pure,
        List.contains_nil, Bool.false_eq_true, if_false, List.isEmpty_nil, if_true]
      cases renderWithin texts (depth + 1) more <;> rfl
  · exact fun tail => hopen tail
  · exact hrest

lemma lookUp_key (text : String) :
    lookUp [("key", text)] ['k', 'e', 'y'] = .ok (.text text.toList) := by
  have hwhole : wholeNumber? ['k', 'e', 'y'] = .ok none := by decide
  have hkey : List.lookup (String.ofList ['k', 'e', 'y']) [("key", text)] = some text := rfl
  simp [lookUp, hwhole, hkey, pick, bind, Except.bind]

/-- **A name in brackets takes every text.** -/
lemma render_bracketed (text : String) :
    render [("key", text)] "[\x7bkey\x7d]" = .ok ("[" ++ text ++ "]") := by
  have hfield : renderWithin [("key", text)] 2 ['{', 'k', 'e', 'y', '}', ']'] =
      (renderWithin [("key", text)] 2 [']']).map (text.toList ++ ·) :=
    renderWithin_field rfl (lookUp_key text) (List.cons_ne_nil _ _) (by simp)
  have hclosing : renderWithin [("key", text)] 2 [']'] = .ok [']'] := by
    rw [renderWithin_plain _ _ _ (by decide) (by decide), renderWithin]
    rfl
  rw [render, show "[\x7bkey\x7d]".toList = '[' :: ['{', 'k', 'e', 'y', '}', ']'] from rfl,
    renderWithin_plain _ _ _ (by decide) (by decide), hfield, hclosing]
  show Except.ok (String.ofList ('[' :: (text.toList ++ [']']))) = _
  apply congrArg Except.ok
  apply String.toList_inj.mp
  simp

/-- A brace behind the name spoils it for every text. -/
lemma render_unclosed (text : String) :
    render [("key", text)] "\x7bkey\x7d\x7b" = .error (.singleBrace '{') := by
  have hfield : renderWithin [("key", text)] 2 ['{', 'k', 'e', 'y', '}', '{'] =
      (renderWithin [("key", text)] 2 ['{']).map (text.toList ++ ·) :=
    renderWithin_field rfl (lookUp_key text) (List.cons_ne_nil _ _) (by simp)
  rw [render, show "\x7bkey\x7d\x7b".toList = ['{', 'k', 'e', 'y', '}', '{'] from rfl, hfield,
    renderWithin]
  rfl

end CommandPalette.Text.Template
