import CommandPalette.Proofs.Motion.Code
import Mathlib.Algebra.BigOperators.Ring.Finset
import Mathlib.Algebra.Order.BigOperators.Group.Finset
import Mathlib.Data.List.Shortlex
import Mathlib.Data.Set.Card
import Mathlib.Order.Interval.Finset.Nat

/-!
# The order of jump codes

Codes are numbered by their length first and then in the order of the alphabet.  The first loop that finds
a code counts off the shorter ones (`Search.Counts`), so it ends with the least length for which there are
codes enough.  What the second loop spells is shown block by block (`block_induction`).

* `IsCode`: what is a code; every code is the code of an index (`exists_codeOf`).
* `Before`: the order of codes; earlier indices have earlier codes (`before_codeOf_iff`).
* `firstCodes`: the first codes in this order.
* **`codes_in_order`**: what the codes of indices are, and what a keymap makes of them.
-/

namespace CommandPalette.Motion

/-! ## Places of letters -/

/-- The place of a letter in the alphabet. -/
def placeOf (c : Char) : ℕ := alphabet.idxOf c

lemma placeOf_lt {c : Char} (h : c ∈ alphabet) : placeOf c < base :=
  length_alphabet ▸ List.idxOf_lt_length_of_mem h

lemma letterAt_placeOf {c : Char} (h : c ∈ alphabet) : letterAt (placeOf c) = c := by
  rw [letterAt, placeOf, List.getD_eq_getElem _ _ (List.idxOf_lt_length_of_mem h), List.getElem_idxOf]

lemma placeOf_letterAt {i : ℕ} (h : i < base) : placeOf (letterAt i) = i :=
  letterAt_inj (placeOf_lt (letterAt_mem i)) h (letterAt_placeOf (letterAt_mem i))

/-! ## Every code is a code of an index -/

/-- A code is a text of letters of the alphabet, and not empty. -/
def IsCode (s : List Char) : Prop := s ≠ [] ∧ ∀ c ∈ s, c ∈ alphabet

lemma isCode_codeOf (i : ℕ) : IsCode (codeOf i) :=
  ⟨codeOf_ne_nil i, fun _ => mem_alphabet_of_mem_codeOf⟩

lemma exists_codeOf {s : List Char} (h : IsCode s) : ∃ i, codeOf i = s := by
  induction s using List.reverseRecOn with
  | nil => exact absurd rfl h.1
  | append_singleton front c ih =>
      obtain ⟨hfront, hc⟩ := List.forall_mem_append.mp h.2
      have hc : c ∈ alphabet := hc c List.mem_cons_self
      by_cases hne : front = []
      · exact ⟨placeOf c, by rw [hne, codeOf_of_lt (placeOf_lt hc), letterAt_placeOf hc]; rfl⟩
      · obtain ⟨j, hj⟩ := ih ⟨hne, hfront⟩
        exact ⟨base * (j + 1) + placeOf c, by rw [codeOf_block j (placeOf_lt hc), hj, letterAt_placeOf hc]⟩

/-! ## Lengths -/

/-- How many codes there are up to a length. -/
def codesUpTo (length : ℕ) : ℕ := ∑ k ∈ Finset.range length, base ^ (k + 1)

lemma codesUpTo_mono : Monotone codesUpTo := fun _ _ h =>
  Finset.sum_le_sum_of_subset (Finset.range_subset_range.mpr h)

/-- What the first loop keeps: the codes counted off the index are the shorter ones, and the block is as
large as the number of codes of the length that is tried. -/
structure Search.Counts (s : Search) (i : ℕ) : Prop where
  one_le : 1 ≤ s.length
  counted : codesUpTo (s.length - 1) + s.index = i
  nonneg : 0 ≤ s.index
  block_eq : s.block = base ^ s.length

namespace Search

lemma Counts.start (i : ℕ) : Counts { index := i } i :=
  ⟨le_rfl, by simp [codesUpTo], Int.natCast_nonneg i, (pow_one base).symm⟩

lemma Counts.codesUpTo_length {s : Search} {i : ℕ} (h : s.Counts i) :
    codesUpTo s.length = codesUpTo (s.length - 1) + s.block := by
  obtain ⟨n, hn⟩ := Nat.exists_eq_add_of_le' h.one_le
  rw [h.block_eq, hn, Nat.add_sub_cancel, codesUpTo, Finset.sum_range_succ, codesUpTo]

lemma Counts.longer {s : Search} {i : ℕ} (h : s.Counts i) (hle : s.block ≤ s.index) :
    s.longer.Counts i where
  one_le := Nat.le_add_left 1 s.length
  counted := by
    have hcounted := h.counted
    have hnext := h.codesUpTo_length
    simp only [Search.longer, Nat.add_sub_cancel]
    omega
  nonneg := Int.sub_nonneg.mpr hle
  block_eq := (congrArg (· * base) h.block_eq).trans (pow_succ base s.length).symm

/-- The first loop ends with the length for which there are codes enough. -/
lemma Counts.run {s : Search} {i : ℕ} (h : s.Counts i) : s.run.Counts i ∧ s.run.index < s.run.block := by
  induction s using run.induct with
  | case1 s hle ih =>
      rw [run_of_le hle]
      exact ih (h.longer hle)
  | case2 s hlt =>
      rw [run_of_lt (Int.not_le.mp hlt)]
      exact ⟨h, Int.not_le.mp hlt⟩

end Search

lemma length_codeOf_bounds (i : ℕ) :
    codesUpTo ((codeOf i).length - 1) ≤ i ∧ i < codesUpTo (codeOf i).length := by
  obtain ⟨h, hlt⟩ := (Search.Counts.start i).run
  rw [codeOf, codeOfInt, List.length_reverse, length_lastLetters]
  generalize Search.run { index := i } = found at h hlt
  have hcounted := h.counted
  have hnonneg := h.nonneg
  have hnext := h.codesUpTo_length
  omega

/-- **The code of an index is as short as the number of codes allows.** -/
lemma isLeast_length_codeOf (i : ℕ) : IsLeast {length | i < codesUpTo length} (codeOf i).length := by
  obtain ⟨hle, hlt⟩ := length_codeOf_bounds i
  refine ⟨hlt, fun length hlength => ?_⟩
  by_contra hshort
  have hmono := codesUpTo_mono (show length ≤ (codeOf i).length - 1 by omega)
  exact absurd (hlength.trans_le hmono) (Nat.not_lt.mpr hle)

example : [17, 18, 341, 342].map (fun i => String.ofList (codeOf i)) = ["z", "aa", "zz", "aaa"] := by
  decide +kernel

/-! ## The order of codes -/

/-- A code comes before another one if it is shorter, or of the same length and the first letter in
which they differ has an earlier place in the alphabet. -/
def Before (s t : List Char) : Prop := List.Shortlex (· < ·) (s.map placeOf) (t.map placeOf)

/-- What stands behind two texts of one length does not matter if the texts differ. -/
lemma Before.append {s t u v : List Char} (h : Before s t) (hlength : u.length = v.length) :
    Before (s ++ u) (t ++ v) := by
  rw [Before, List.map_append, List.map_append]
  rcases List.shortlex_def.mp h with hlt | ⟨heq, hlex⟩
  · refine .of_length_lt ?_
    simp only [List.length_append, List.length_map] at hlt ⊢
    omega
  · refine .of_lex (by simpa [hlength] using heq) ?_
    generalize s.map placeOf = s' at hlex heq
    generalize t.map placeOf = t' at hlex heq
    induction hlex with
    | nil => simp at heq
    | cons _ ih => exact .cons (ih (by simpa using heq))
    | rel hlt => exact .rel hlt

/-- **A code comes before the codes of later indices.**  The block decides, and within a block the last
letter. -/
lemma before_codeOf_of_lt {i j : ℕ} (h : i < j) : Before (codeOf i) (codeOf j) := by
  induction i using block_induction generalizing j with
  | letter r hr =>
      induction j using block_induction with
      | letter r' hr' =>
          rw [codeOf_of_lt hr, codeOf_of_lt hr']
          simpa [Before, placeOf_letterAt hr, placeOf_letterAt hr'] using h
      | block b r' hr' _ =>
          have hpos := List.length_pos_iff.mpr (codeOf_ne_nil b)
          rw [codeOf_of_lt hr, codeOf_block b hr']
          exact .of_length_lt (by simpa using hpos)
  | block a r hr ih =>
      induction j using block_induction with
      | letter r' hr' =>
          have hle : base * 1 ≤ base * (a + 1) := Nat.mul_le_mul_left base (Nat.succ_pos a)
          omega
      | block b r' hr' _ =>
          rw [codeOf_block a hr, codeOf_block b hr']
          rcases Nat.lt_or_ge a b with hab | hba
          · exact (ih hab).append rfl
          · have hmul : base * (b + 1) ≤ base * (a + 1) := Nat.mul_le_mul_left base (Nat.succ_le_succ hba)
            obtain rfl : a = b := by
              by_contra hne
              have hnext : base * (b + 1) + base * 1 ≤ base * (a + 1) := by
                rw [← Nat.mul_add]
                exact Nat.mul_le_mul_left base (by omega)
              omega
            refine .of_lex (by simp) ?_
            rw [List.map_append, List.map_append]
            refine .append_left _ (.rel ?_) _
            rw [placeOf_letterAt hr, placeOf_letterAt hr']
            omega

lemma Before.asymm {s t : List Char} (h : Before s t) : ¬ Before t s :=
  List.Shortlex.asymm.asymm _ _ h

lemma before_codeOf_iff {i j : ℕ} : Before (codeOf i) (codeOf j) ↔ i < j := by
  refine ⟨fun h => ?_, before_codeOf_of_lt⟩
  by_contra hge
  rcases Nat.lt_or_eq_of_le (Nat.not_lt.mp hge) with hlt | rfl
  · exact h.asymm (before_codeOf_of_lt hlt)
  · exact h.asymm h

/-! ## The codes of a menu -/

/-- The first codes: those that fewer than the given number come before. -/
def firstCodes (n : ℤ) : Set (List Char) :=
  {s | IsCode s ∧ {t | IsCode t ∧ Before t s}.encard < n.toNat}

lemma codes_before (i : ℕ) : {t | IsCode t ∧ Before t (codeOf i)} = codeOf '' Set.Iio i := by
  ext t
  constructor
  · rintro ⟨hcode, hbefore⟩
    obtain ⟨j, rfl⟩ := exists_codeOf hcode
    exact ⟨j, before_codeOf_iff.mp hbefore, rfl⟩
  · rintro ⟨j, hj, rfl⟩
    exact ⟨isCode_codeOf j, before_codeOf_of_lt hj⟩

/-- The first codes are those of the first indices. -/
lemma mem_firstCodes_iff {n : ℤ} {s : List Char} :
    s ∈ firstCodes n ↔ ∃ i : ℕ, i < n ∧ codeOf i = s := by
  have hcard (i : ℕ) : {t | IsCode t ∧ Before t (codeOf i)}.encard = i := by
    rw [codes_before, codeOf_injective.encard_image, Set.encard_eq_coe_toFinset_card]
    simp
  constructor
  · rintro ⟨hcode, hfew⟩
    obtain ⟨i, rfl⟩ := exists_codeOf hcode
    rw [hcard, Nat.cast_lt] at hfew
    exact ⟨i, by omega, rfl⟩
  · rintro ⟨i, hi, rfl⟩
    refine ⟨isCode_codeOf i, ?_⟩
    rw [hcard, Nat.cast_lt]
    omega

namespace Keymap

variable {n : ℤ}

lemma keyFor_of_lt {i : ℕ} (h : i < n) : (generate n).keyFor i = codeOf i := by
  rw [← generate_toNat]
  exact keyFor_generate (by omega)

lemma indexFor?_eq_some_iff {s : List Char} {i : ℕ} :
    (generate n).indexFor? s = some i ↔ i < n ∧ codeOf i = s := by
  rw [← generate_toNat, indexFor?_generate_eq_some_iff, Int.lt_toNat]

/-- Outside the menu there are no codes. -/
lemma keyFor_of_outside {i : ℤ} (h : i < 0 ∨ n ≤ i) : (generate n).keyFor i = [] := by
  rw [← generate_toNat]
  exact keyFor_generate_of_outside (by omega)

lemma bijOn_keyFor (n : ℤ) : Set.BijOn (generate n).keyFor {i | 0 ≤ i ∧ i < n} (firstCodes n) := by
  have hkey {i : ℤ} (h : 0 ≤ i ∧ i < n) : (generate n).keyFor i = codeOf i.toNat := by
    obtain ⟨j, rfl⟩ := Int.eq_ofNat_of_zero_le h.1
    exact keyFor_of_lt h.2
  refine ⟨fun i hi => ?_, fun i hi j hj heq => ?_, fun s hs => ?_⟩
  · rw [hkey hi]
    exact mem_firstCodes_iff.mpr ⟨i.toNat, by rw [Int.toNat_of_nonneg hi.1]; exact hi.2, rfl⟩
  · rw [hkey hi, hkey hj] at heq
    have hnat := codeOf_injective heq
    rw [← Int.toNat_of_nonneg hi.1, hnat, Int.toNat_of_nonneg hj.1]
  · obtain ⟨i, hi, rfl⟩ := mem_firstCodes_iff.mp hs
    exact ⟨i, ⟨Int.natCast_nonneg i, hi⟩, keyFor_of_lt hi⟩

end Keymap

/-- **Codes are numbered by length and then in the order of the alphabet.**  Every code is the code of
one index; earlier indices have earlier codes, so a code is as short as it can be; and the codes of a
menu are the first ones, with look-ups that undo each other. -/
theorem codes_in_order :
    Set.BijOn codeOfInt {i | 0 ≤ i} {s | IsCode s} ∧
    (∀ i j : ℕ, i < j ↔ Before (codeOfInt i) (codeOfInt j)) ∧
    (∀ i : ℕ, IsLeast {length | i < ∑ k ∈ Finset.range length, base ^ (k + 1)} (codeOfInt i).length) ∧
    ∀ n : ℤ,
      Set.BijOn (Keymap.generate n).keyFor {i | 0 ≤ i ∧ i < n} (firstCodes n) ∧
      (∀ i : ℕ, i < n → (Keymap.generate n).indexFor? ((Keymap.generate n).keyFor i) = some i) ∧
      (∀ s (i : ℕ), (Keymap.generate n).indexFor? s = some i ↔ i < n ∧ codeOfInt i = s) ∧
      ∀ i : ℤ, i < 0 ∨ n ≤ i → (Keymap.generate n).keyFor i = [] := by
  refine ⟨⟨fun i hi => ?_, fun i hi j hj heq => ?_, fun s hs => ?_⟩, fun i j => before_codeOf_iff.symm,
    isLeast_length_codeOf, fun n => ⟨Keymap.bijOn_keyFor n, fun i hi => ?_,
      fun s i => Keymap.indexFor?_eq_some_iff, fun i => Keymap.keyFor_of_outside⟩⟩
  · obtain ⟨j, rfl⟩ := Int.eq_ofNat_of_zero_le hi
    exact isCode_codeOf j
  · obtain ⟨k, rfl⟩ := Int.eq_ofNat_of_zero_le hi
    obtain ⟨l, rfl⟩ := Int.eq_ofNat_of_zero_le hj
    exact congrArg Nat.cast (codeOf_injective heq)
  · obtain ⟨i, rfl⟩ := exists_codeOf hs
    exact ⟨i, Int.natCast_nonneg i, rfl⟩
  · rw [Keymap.keyFor_of_lt hi]
    exact Keymap.indexFor?_eq_some_iff.mpr ⟨hi, rfl⟩

end CommandPalette.Motion
