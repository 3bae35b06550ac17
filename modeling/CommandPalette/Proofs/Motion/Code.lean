import CommandPalette.Motion.Node
import CommandPalette.Proofs.Motion.Token
import CommandPalette.Proofs.Table
import Mathlib.Data.List.GetD
import Mathlib.Data.List.Nodup
import Mathlib.Data.Nat.Basic
import Mathlib.Logic.Function.Basic
import Mathlib.Tactic.Lemma
import Mathlib.Tactic.Ring

/-!
# Jump codes lead back to their entries

A jump code is typed among motions, so it has to be read as one token, and the keymap it was taken
from has to lead back to the entry that it was shown on.

* `codeOf_of_lt`, `codeOf_block`: what the two loops that find a code come to: a letter, or the code of a
  block and a letter.
* `isCodeChar_of_mem_codeOf`: no letter of a code is a digit or a motion letter, so a code is one
  token (`tokenize_codeOf`).
* `codeOf_injective`: two entries have two codes.
* **`indexFor?_generate_eq_some_iff`**: in a keymap, the code of an entry leads to that entry.
* `offset_parse_codeOf`: so a motion that is a code goes to its entry.
-/

namespace CommandPalette.Motion

/-! ## Letters -/

/-- A letter of a code is a lower-case letter that moves nothing. -/
lemma of_mem_alphabet : ∀ c ∈ alphabet, c.isAlphanum = true ∧ isCodeChar c = true := by
  have hall : alphabet.all (fun c => c.isAlphanum && isCodeChar c) = true := by decide
  intro c hc
  exact Bool.and_eq_true_iff.mp (List.all_eq_true.mp hall c hc)

lemma letterAt_mem (i : ℕ) : letterAt i ∈ alphabet := by
  rw [letterAt, List.getD_eq_getElem?_getD]
  cases h : alphabet[i]? with
  | none => decide
  | some c => exact List.mem_of_getElem? h

/-- The letters are different from each other. -/
lemma letterAt_inj {i j : ℕ} (hi : i < base) (hj : j < base) (h : letterAt i = letterAt j) :
    i = j := by
  have hnodup : alphabet.Nodup := by decide
  rw [← length_alphabet] at hi hj
  rw [letterAt, letterAt, List.getD_eq_getElem _ _ hi, List.getD_eq_getElem _ _ hj] at h
  exact (List.Nodup.getElem_inj_iff hnodup).mp h

/-! ## The two loops -/

namespace Search

lemma run_of_lt {s : Search} (h : s.index < s.block) : s.run = s := by
  rw [run, if_neg (Int.not_le.mpr h)]

lemma run_of_le {s : Search} (h : s.block ≤ s.index) : s.run = s.longer.run := by
  rw [run, if_pos h]

/-- The search that one among the codes of a block is, where the given one is for the block. -/
def inside (s : Search) (r : ℕ) : Search where
  index := base * s.index + r
  length := s.length + 1
  block := s.block * base
  block_pos := s.block_mul_pos

lemma longer_inside (s : Search) (r : ℕ) : (s.inside r).longer = s.longer.inside r := by
  simp only [longer, inside, mk.injEq, Nat.cast_mul, and_self, and_true]
  ring

/-- A search among the codes of a block goes on as long as the one for the block itself. -/
lemma block_le_inside_iff {s : Search} {r : ℕ} (h : r < base) :
    (s.inside r).block ≤ (s.inside r).index ↔ s.block ≤ s.index := by
  simp only [inside, Nat.cast_mul, base] at h ⊢
  omega

lemma run_inside {r : ℕ} (h : r < base) (s : Search) : (s.inside r).run = s.run.inside r := by
  induction s using run.induct with
  | case1 s hle ih => rw [run_of_le hle, run_of_le ((block_le_inside_iff h).mpr hle), longer_inside, ih]
  | case2 s hlt =>
      rw [run_of_lt (Int.not_le.mp hlt), run_of_lt]
      exact Int.not_le.mp ((block_le_inside_iff h).not.mpr hlt)

end Search

lemma mem_alphabet_of_mem_lastLetters {length : ℕ} {index : ℤ} {c : Char}
    (h : c ∈ lastLetters length index) : c ∈ alphabet := by
  induction length generalizing index with
  | zero => simp [lastLetters] at h
  | succ length ih =>
      rcases List.mem_cons.mp h with rfl | h
      · exact letterAt_mem _
      · exact ih h

lemma length_lastLetters (length : ℕ) (index : ℤ) : (lastLetters length index).length = length := by
  induction length generalizing index with
  | zero => rfl
  | succ length ih => rw [lastLetters, List.length_cons, ih]

/-! ## Codes -/

lemma codeOf_of_lt {i : ℕ} (h : i < base) : codeOf i = [letterAt i] := by
  have hshort : ((i : ℕ) : ℤ) < (base : ℕ) := by exact_mod_cast h
  have hrun : Search.run { index := i } = { index := i } := Search.run_of_lt hshort
  have hplace : ((i : ℤ) % base).toNat = i := by
    rw [← Int.natCast_mod, Int.toNat_natCast, Nat.mod_eq_of_lt h]
  simp only [codeOf, codeOfInt, hrun, lastLetters, hplace, List.reverse_singleton]

/-- **Codes come in blocks.**  Behind the single letters, the codes of a block have the code of the block
in front, and their last letter counts them. -/
lemma codeOf_block (j : ℕ) {r : ℕ} (h : r < base) :
    codeOf (base * (j + 1) + r) = codeOf j ++ [letterAt r] := by
  have hle : ((base : ℕ) : ℤ) ≤ (base * (j + 1) + r : ℕ) := by
    exact_mod_cast Nat.le_add_right_of_le (Nat.le_mul_of_pos_right base (Nat.succ_pos j))
  have hlonger : Search.longer { index := (base * (j + 1) + r : ℕ) } =
      Search.inside { index := j } r := by
    simp only [Search.longer, Search.inside, Search.mk.injEq, and_self, and_true]
    push_cast
    ring
  have hrun : Search.run { index := (base * (j + 1) + r : ℕ) } =
      (Search.run { index := j }).inside r := by
    rw [Search.run_of_le hle, hlonger, Search.run_inside h]
  have hplace (x : ℤ) : ((base * x + r) % base).toNat = r := by
    rw [Int.mul_add_emod_self_left, ← Int.natCast_mod, Int.toNat_natCast, Nat.mod_eq_of_lt h]
  have hblock (x : ℤ) : (base * x + r) / base = x := by
    rw [Int.mul_add_ediv_left _ _ (by decide), Int.ediv_eq_zero_of_lt (Int.natCast_nonneg r)
      (by exact_mod_cast h), Int.add_zero]
  simp only [codeOf, codeOfInt, hrun]
  simp only [Search.inside, lastLetters, hplace, hblock, List.reverse_cons]

/-- Induction along the blocks. -/
lemma block_induction {motive : ℕ → Prop} (letter : ∀ r < base, motive r)
    (block : ∀ j r, r < base → motive j → motive (base * (j + 1) + r)) (i : ℕ) : motive i := by
  induction i using Nat.strong_induction_on with
  | _ i ih =>
      rcases Nat.lt_or_ge i base with hi | hi
      · exact letter i hi
      · have hone := (Nat.le_div_iff_mul_le base_pos).mpr (show 1 * base ≤ i by omega)
        have hless : i / base - 1 < i := (Nat.sub_lt hone one_pos).trans_le (Nat.div_le_self i base)
        have h := block _ (i % base) (Nat.mod_lt i base_pos) (ih _ hless)
        rwa [Nat.sub_add_cancel hone, Nat.div_add_mod] at h

lemma codeOf_ne_nil (i : ℕ) : codeOf i ≠ [] := by
  induction i using block_induction with
  | letter r hr => rw [codeOf_of_lt hr]; exact List.cons_ne_nil _ _
  | block j r hr _ => rw [codeOf_block j hr]; exact List.concat_ne_nil _ _

/-- A code is built from the letters of the alphabet. -/
lemma mem_alphabet_of_mem_codeOf {i : ℕ} {c : Char} (h : c ∈ codeOf i) : c ∈ alphabet :=
  mem_alphabet_of_mem_lastLetters (List.mem_reverse.mp h)

lemma isAlphanum_of_mem_codeOf {i : ℕ} {c : Char} (h : c ∈ codeOf i) : c.isAlphanum = true :=
  (of_mem_alphabet c (mem_alphabet_of_mem_codeOf h)).1

lemma isCodeChar_of_mem_codeOf {i : ℕ} {c : Char} (h : c ∈ codeOf i) : isCodeChar c = true :=
  (of_mem_alphabet c (mem_alphabet_of_mem_codeOf h)).2

/-- A single letter is no code of a block. -/
lemma codeOf_block_ne (j : ℕ) {r i : ℕ} (hr : r < base) (hi : i < base) :
    codeOf (base * (j + 1) + r) ≠ codeOf i := by
  intro h
  have hpos := List.length_pos_iff.mpr (codeOf_ne_nil j)
  have hlength := congrArg List.length h
  rw [codeOf_block j hr, codeOf_of_lt hi, List.length_append, List.length_singleton,
    List.length_singleton] at hlength
  omega

/-- **Two entries have two codes.**  The last letter tells the places within a block apart, and the
letters before it the blocks. -/
lemma codeOf_injective : Function.Injective codeOf := by
  intro i
  induction i using block_induction with
  | letter r hr =>
      intro j h
      induction j using block_induction with
      | letter r' hr' =>
          rw [codeOf_of_lt hr, codeOf_of_lt hr', List.cons.injEq] at h
          exact letterAt_inj hr hr' h.1
      | block b r' hr' _ => exact absurd h.symm (codeOf_block_ne b hr' hr)
  | block a r hr ih =>
      intro j h
      induction j using block_induction with
      | letter r' hr' => exact absurd h (codeOf_block_ne a hr hr')
      | block b r' hr' _ =>
          rw [codeOf_block a hr, codeOf_block b hr'] at h
          obtain ⟨hblock, hletter⟩ := List.append_inj' h rfl
          rw [ih hblock, letterAt_inj hr hr' (List.cons.inj hletter).1]

/-! ## Keymaps -/

namespace Keymap

lemma generate_toNat (size : ℤ) : generate (size.toNat : ℤ) = generate size := rfl

lemma keyFor_assign (k : Keymap) (i : ℕ) (index : ℤ) :
    (k.assign i).keyFor index = if index = i then codeOf i else k.keyFor index := by
  simp only [keyFor, assign, Table.lookup_insertEntry]
  split <;> rfl

lemma indexFor?_assign (k : Keymap) (i : ℕ) (code : List Char) :
    (k.assign i).indexFor? code = if code = codeOf i then some i else k.indexFor? code :=
  Table.lookup_insertEntry _ _ _ _

/-- The codes stand in the order of their entries: no entry is given a code twice. -/
lemma codeAt_generate (n : ℕ) :
    (generate n).codeAt = (List.range n).map fun i : ℕ => ((i : ℤ), codeOf i) := by
  induction n with
  | zero => rfl
  | succ n ih =>
      have hnew : (n : ℤ) ∉ (generate n).codeAt.map (·.1) := by
        rw [ih]
        simp
      rw [generate_succ, assign, Table.insertEntry_of_notMem hnew, ih, List.range_succ, List.map_append]
      rfl

lemma codes_generate (n : ℕ) : (generate n).codes = (List.range n).map codeOf := by
  rw [codes, codeAt_generate, List.map_map]
  rfl

lemma size_generate (n : ℕ) : (generate n).size = n := by
  rw [size, codeAt_generate, List.length_map, List.length_range]

lemma keyFor_generate {n i : ℕ} (h : i < n) : (generate n).keyFor i = codeOf i := by
  induction n with
  | zero => exact absurd h (Nat.not_lt_zero i)
  | succ n ih =>
      rw [generate_succ, keyFor_assign]
      split
      · rename_i heq
        rw [Int.natCast_inj.mp heq]
      · rename_i hne
        exact ih (by omega)

/-- Outside the menu there are no codes. -/
lemma keyFor_generate_of_outside {n : ℕ} {i : ℤ} (h : i < 0 ∨ n ≤ i) : (generate n).keyFor i = [] := by
  induction n with
  | zero => rfl
  | succ n ih =>
      rw [generate_succ, keyFor_assign, if_neg (by omega)]
      exact ih (by omega)

/-- **In a keymap, the code of an entry leads to that entry**, and no other text leads to it. -/
lemma indexFor?_generate_eq_some_iff {n i : ℕ} {s : List Char} :
    (generate n).indexFor? s = some i ↔ i < n ∧ codeOf i = s := by
  induction n with
  | zero => simp [generate, indexFor?]
  | succ n ih =>
      rw [generate_succ, indexFor?_assign]
      split
      · rename_i heq
        subst heq
        rw [Option.some.injEq]
        constructor
        · rintro rfl
          exact ⟨n.lt_succ_self, rfl⟩
        · exact fun h => (codeOf_injective h.2).symm
      · rename_i hne
        rw [ih]
        refine and_congr_left fun hcode => ?_
        have hi : i ≠ n := by
          rintro rfl
          exact hne hcode.symm
        omega

lemma indexFor?_generate {n i : ℕ} (h : i < n) : (generate n).indexFor? (codeOf i) = some i :=
  indexFor?_generate_eq_some_iff.mpr ⟨h, rfl⟩

end Keymap

/-! ## Codes among motions -/

/-- A code is one token. -/
lemma tokenize_codeOf (i : ℕ) : tokenize (codeOf i) = [.code (codeOf i)] :=
  (munch_text (t := .code _) ⟨codeOf_ne_nil i, fun _ => isCodeChar_of_mem_codeOf⟩).tokenize_eq

/-- A motion that is the code of an entry goes to that entry. -/
lemma offset_parse_codeOf {n i : ℕ} (h : i < n) : offset (parse (.generate n) (codeOf i)) = i := by
  have hparse : parse (.generate n) (codeOf i) = [.jump (codeOf i) (some i)] := by
    rw [parse, lex, tokenize_codeOf, List.map_singleton, Token.node, Keymap.indexFor?_generate h]
    rfl
  rw [hparse]
  rfl

end CommandPalette.Motion
