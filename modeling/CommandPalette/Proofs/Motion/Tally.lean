import CommandPalette.Motion.Node
import CommandPalette.Proofs.Motion.Token
import Mathlib.Tactic.Ring

/-!
# The meaning of a motion

A chain is linked from the right, so that a count can scale the step behind it, and its offset is summed up
from the left.  One pass over the tokens from the left does the same, if it keeps the count that stands
right before.

* `Tally`: how far such a pass has come; `Tally.step`, `Tally.run`: the pass.
* `total_run`: a count that is kept is one that has been scaled into the rest of the chain.
* **`offset_parse`**: the offset of a motion is what the pass comes to.  A count and a letter stand for that
  many letters, and what stands before a jump does not count.
-/

namespace CommandPalette.Motion

/-! ## One pass over tokens -/

/-- How far a pass over the tokens of a motion has come. -/
@[ext]
structure Tally where
  /-- The offset so far. -/
  total : Int := 0
  /-- The count that stands right before. -/
  factor : Option Nat := none
  deriving DecidableEq, Repr, Inhabited

namespace Tally

/-- The pass over one token.  A count is kept for the token right after it; only a vertical letter makes
use of it. -/
def step (keymap : Keymap) (t : Tally) : Token → Tally
  | .number digits => { t with factor := some (readDigits (digits.take maxCountDigits)) }
  | .letter c => match direction? c with
    | some (.vertical, distance) => { total := t.total + distance * t.factor.getD 1 }
    | _ => { total := t.total }
  | .code name => match keymap.indexFor? name with
    | some index => { total := index }
    | none => { total := t.total }

/-- The pass over several tokens, from left to right. -/
def run (keymap : Keymap) (t : Tally) (tokens : List Token) : Tally := tokens.foldl (step keymap) t

variable (keymap : Keymap)

lemma run_append (t : Tally) (first second : List Token) :
    run keymap t (first ++ second) = run keymap (run keymap t first) second :=
  List.foldl_append

/-- Behind a token that is no count, no count is kept. -/
lemma factor_run_concat (t : Tally) (tokens : List Token) {last : Token}
    (h : ∀ digits, last ≠ .number digits) : (run keymap t (tokens ++ [last])).factor = none := by
  rw [run_append]
  show (step keymap (run keymap t tokens) last).factor = none
  cases last with
  | number digits => exact absurd rfl (h digits)
  | letter c =>
      rw [step]
      split <;> rfl
  | code name =>
      rw [step]
      split <;> rfl

/-- A letter that is repeated moves its distance each time. -/
lemma run_replicate {c : Char} {distance : Int} (hc : direction? c = some (.vertical, distance)) (m : ℕ)
    (total : Int) :
    run keymap { total } (List.replicate m (.letter c)) = { total := total + distance * m } := by
  induction m generalizing total with
  | zero => simp [run]
  | succ m ih =>
      have hstep : step keymap { total } (.letter c) = { total := total + distance } := by
        simp [step, hc]
      rw [List.replicate_succ, ← List.singleton_append, run_append]
      show run keymap (step keymap { total } (.letter c)) _ = _
      rw [hstep, ih]
      congr 1
      push_cast
      ring

/-- A count in front of a letter stands for that many letters. -/
lemma run_counted {c : Char} {distance : Int} (hc : direction? c = some (.vertical, distance))
    {digits : List Char} (hdigits : digits.length ≤ maxCountDigits) (total : Int) :
    run keymap { total } [.number digits, .letter c] =
      run keymap { total } (List.replicate (readDigits digits) (.letter c)) := by
  rw [run_replicate keymap hc]
  simp [run, step, hc, List.take_of_length_le hdigits]

end Tally

/-! ## Chains -/

/-- A chain whose first step is scaled. -/
def scale (factor : Nat) : List Node → List Node
  | .step letter axis distance :: rest => .step letter axis (distance * factor) :: rest
  | chain => chain

lemma scale_one (chain : List Node) : scale 1 chain = chain := by
  unfold scale
  split <;> simp

lemma link_count (digits : List Char) (factor : Nat) (chain : List Node) :
    link (.count digits factor) chain = .count digits factor :: scale factor chain := by
  unfold link scale
  split <;> rename_i h <;> simp_all

/-- **The offset of a chain is what a pass over its tokens comes to.**  The induction is on the tokens; a
count that is kept has been scaled into the rest of the chain already. -/
lemma total_run (keymap : Keymap) (tokens : List Token) (total : Int) (factor : Option Nat) :
    (Tally.run keymap { total, factor } tokens).total =
      ((scale (factor.getD 1) ((tokens.map (Token.node keymap)).foldr link [])).map Node.move).foldl
        Move.apply total := by
  induction tokens generalizing total factor with
  | nil => rfl
  | cons token rest ih =>
      rw [List.map_cons, List.foldr_cons]
      show (Tally.run keymap (Tally.step keymap _ token) rest).total = _
      cases token with
      | number digits =>
          rw [Token.node, link_count, Tally.step, ih]
          show _ = (List.map Node.move (scale _ _)).foldl Move.apply (total + 0)
          rw [Int.add_zero, Option.getD_some]
      | letter c =>
          rw [Tally.step, Token.node]
          rcases direction? c with _ | ⟨axis, distance⟩
          · exact (ih total none).trans (by rw [Option.getD_none, scale_one]; rfl)
          · cases axis with
            | horizontal => exact (ih total none).trans (by rw [Option.getD_none, scale_one]; rfl)
            | vertical => exact (ih _ none).trans (by rw [Option.getD_none, scale_one]; rfl)
      | code name =>
          rw [Tally.step, Token.node]
          cases keymap.indexFor? name with
          | none => exact (ih total none).trans (by rw [Option.getD_none, scale_one]; rfl)
          | some index => exact (ih index none).trans (by rw [Option.getD_none, scale_one]; rfl)

/-- The offset of a motion is what one pass over its tokens comes to. -/
lemma offset_parse_eq (keymap : Keymap) (s : List Char) :
    offset (parse keymap s) = (Tally.run keymap {} (tokenize s)).total := by
  rw [total_run, Option.getD_none, scale_one]
  rfl

/-! ## The meaning of a motion -/

lemma tokenize_replicate_letter {c : Char} (hc : isMotionLetter c = true) (m : ℕ) (v : List Char) :
    tokenize (List.replicate m c ++ v) = List.replicate m (Token.letter c) ++ tokenize v := by
  induction m with
  | zero => rfl
  | succ m ih =>
      rw [List.replicate_succ, List.cons_append, ← List.nil_append (c :: _), tokenize_append_letter hc,
        ih, tokenize]
      rfl

/-- Letters that stand in the place of a count and a letter are tokens of their own. -/
lemma tokenize_repeated {s digits : List Char} {c : Char} {before after : List Token}
    (h : Munch s (before ++ .number digits :: .letter c :: after)) {m : ℕ} (hm : 0 < m) :
    tokenize ((before ++ List.replicate m (Token.letter c) ++ after).flatMap Token.text) =
      before ++ List.replicate m (.letter c) ++ after := by
  obtain ⟨m, rfl⟩ := Nat.exists_eq_add_one.mpr hm
  have hc : isMotionLetter c = true := h.proper (.letter c) (by simp)
  have hafter : Munch (after.flatMap Token.text) after := by
    have hfront : Munch s ((before ++ [.number digits, .letter c]) ++ after) := by simpa using h
    exact hfront.right
  have hletters (n : ℕ) : (List.replicate n (Token.letter c)).flatMap Token.text = List.replicate n c := by
    simp [List.flatMap_replicate, Token.text]
  rw [List.flatMap_append, List.flatMap_append, hletters, List.append_assoc, List.replicate_succ,
    List.cons_append, tokenize_append_letter hc, tokenize_replicate_letter hc, hafter.tokenize_eq,
    h.left.tokenize_eq, List.replicate_succ, List.append_assoc, List.cons_append]

/-- A count does not stand behind another count. -/
lemma factor_run_before (keymap : Keymap) {s digits : List Char} {before after : List Token}
    (h : Munch s (before ++ .number digits :: after)) : (Tally.run keymap {} before).factor = none := by
  rcases List.eq_nil_or_concat before with rfl | ⟨front, last, rfl⟩
  · rfl
  · rw [List.concat_eq_append] at h ⊢
    refine Tally.factor_run_concat keymap {} front fun digits' => ?_
    rintro rfl
    rw [List.append_assoc] at h
    obtain ⟨hne, hdigits⟩ : (Token.number digits).Proper := h.proper _ (by simp)
    obtain ⟨c, rest, rfl⟩ := List.exists_cons_of_ne_nil hne
    have hc := h.right.whole c rfl
    rw [Token.extends?, hdigits c List.mem_cons_self] at hc
    cases hc

/-- **What a motion means.**  Every motion is cut into one list of tokens, each as long as it can be, and
one pass over them from left to right comes to its offset.  In the tokens, a count and a vertical letter
behind it stand for that many letters; and what stands before a code that is in the keymap does not
count. -/
theorem offset_parse (keymap : Keymap) (s : List Char) :
    ∃ tokens, (∀ ts, Munch s ts ↔ ts = tokens) ∧
      offset (parse keymap s) = (Tally.run keymap {} tokens).total ∧
      (∀ before digits c distance after, tokens = before ++ .number digits :: .letter c :: after →
        digits.length ≤ maxCountDigits → direction? c = some (.vertical, distance) →
        let repeated := before ++ List.replicate (readDigits digits) (Token.letter c) ++ after
        offset (parse keymap s) = (Tally.run keymap {} repeated).total ∧
        (0 < readDigits digits →
          offset (parse keymap s) = offset (parse keymap (repeated.flatMap Token.text)))) ∧
      ∀ before name index after, tokens = before ++ .code name :: after →
        keymap.indexFor? name = some index →
        offset (parse keymap s) = (Tally.run keymap { total := index } after).total := by
  refine ⟨tokenize s, fun ts => munch_iff, offset_parse_eq keymap s, ?_, ?_⟩
  · intro before digits c distance after htokens hdigits hc repeated
    have hmunch : Munch s (before ++ .number digits :: .letter c :: after) := munch_iff.mpr htokens.symm
    have hbefore : Tally.run keymap {} before = { total := (Tally.run keymap {} before).total } :=
      Tally.ext rfl (factor_run_before keymap hmunch)
    have hrun : offset (parse keymap s) = (Tally.run keymap {} repeated).total := by
      rw [offset_parse_eq, htokens, Tally.run_append, Tally.run_append, Tally.run_append, hbefore,
        ← Tally.run_counted keymap hc hdigits, ← Tally.run_append]
      rfl
    refine ⟨hrun, fun hpos => ?_⟩
    rw [hrun, offset_parse_eq, tokenize_repeated hmunch hpos]
  · intro before name index after htokens hname
    rw [offset_parse_eq, htokens, Tally.run_append]
    show (Tally.run keymap (Tally.step keymap _ (.code name)) after).total = _
    rw [Tally.step, hname]

/-- Two steps up are one step taken twice; and they do not count, since a jump stands behind them. -/
theorem offset_two_up_and_jump :
    offset (parse (.generate 20) "2ka3f".toList) = offset (parse (.generate 20) "kka3f".toList) ∧
      offset (parse (.generate 20) "2ka3f".toList) = 15 := by
  obtain ⟨tokens, hcut, -, hcount, hjump⟩ := offset_parse (.generate 20) "2ka3f".toList
  have htokens : [.number ['2'], .letter 'k', .code ['a'], .number ['3'], .letter 'f'] = tokens :=
    (hcut _).mp (munch_iff.mpr (by decide +kernel))
  constructor
  · exact (hcount [] ['2'] 'k' (-1) _ htokens.symm (by decide) rfl).2 (by decide)
  · have hpass := hjump [.number ['2'], .letter 'k'] ['a'] 0 [.number ['3'], .letter 'f'] htokens.symm
      (by decide +kernel)
    exact hpass.trans (by decide)

end CommandPalette.Motion
