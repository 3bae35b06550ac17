import CommandPalette.Fault
import CommandPalette.Proofs.Value
import Mathlib.Algebra.Order.Field.Rat
import Mathlib.Tactic.Linarith
import Mathlib.Tactic.Positivity

/-!
# What keys are known by

Values can be looked up under, except for lists and tables.  Two keys count as the same if they are known by
the same.  A number is known by what it denotes, whatever its type; not-a-number is known by nothing, so it is
never found.

* `Identity`, `Value.identity?`: what a key is known by.
* **`Value.same_iff`**: keys count as the same exactly if they are known by the same.
* **`Value.lookup?_insert`**: what is written under a key is read back under every key that is known by the
  same, and nothing else is touched.
-/

namespace CommandPalette

open Number

/-! ## What doubles denote -/

namespace Number.Binary64

/-- What a finite double denotes. -/
def toRat (negative : Bool) (mantissa : Nat) (exponent : Int) : ℚ :=
  let q : ℚ := (magnitude mantissa exponent).1 / (magnitude mantissa exponent).2
  if negative then -q else q

lemma magnitude_snd_pos (mantissa : Nat) (exponent : Int) : 0 < (magnitude mantissa exponent).2 := by
  rw [magnitude]
  split
  · exact Nat.pow_pos (by decide)
  · exact Nat.one_pos

/-- A double denotes an integer exactly if its value is one. -/
lemma toInt?_eq_some_iff {negative : Bool} {mantissa : Nat} {exponent n : Int} :
    (finite negative mantissa exponent).toInt? = some n ↔ toRat negative mantissa exponent = n := by
  have hden := magnitude_snd_pos mantissa exponent
  rw [toInt?, toRat]
  generalize magnitude mantissa exponent = fraction at hden
  obtain ⟨num, den⟩ := fraction
  dsimp only at hden ⊢
  have hden' : (den : ℚ) ≠ 0 := by exact_mod_cast hden.ne'
  by_cases hdvd : num % den = 0
  · obtain ⟨q, rfl⟩ := Nat.dvd_of_mod_eq_zero hdvd
    rw [if_pos hdvd, Nat.mul_div_cancel_left q hden, Nat.cast_mul, mul_div_cancel_left₀ _ hden',
      Option.some.injEq]
    cases negative with
    | false => simp only [Bool.false_eq_true, if_false]; norm_cast
    | true => simp only [if_true]; norm_cast
  · rw [if_neg hdvd]
    refine ⟨nofun, fun heq => absurd ?_ hdvd⟩
    -- The value is an integer, so the denominator divides.
    have hquotient : (num : ℚ) / den = ((if negative then -n else n : Int) : ℚ) := by
      cases negative with
      | false => simpa using heq
      | true => simpa [neg_eq_iff_eq_neg] using heq
    rw [div_eq_iff hden'] at hquotient
    have hproduct : (num : Int) = (if negative then -n else n) * den := by exact_mod_cast hquotient
    exact Nat.mod_eq_zero_of_dvd (Int.natCast_dvd_natCast.mp ⟨_, hproduct.trans (mul_comm _ _)⟩)

/-- Finite doubles count as the same exactly if they have the same value. -/
lemma same_finite_iff {a b : Bool} {m n : Nat} {e f : Int} :
    (finite a m e).same (finite b n f) = true ↔ toRat a m e = toRat b n f := by
  have hden := magnitude_snd_pos m e
  have hden' := magnitude_snd_pos n f
  rw [same, toRat, toRat]
  generalize magnitude m e = fraction at hden
  generalize magnitude n f = fraction' at hden'
  obtain ⟨num, den⟩ := fraction
  obtain ⟨num', den'⟩ := fraction'
  dsimp only at hden hden' ⊢
  have hpos : (0 : ℚ) < den := by exact_mod_cast hden
  have hpos' : (0 : ℚ) < den' := by exact_mod_cast hden'
  have hcross : (num : ℚ) / den = num' / den' ↔ num * den' = num' * den := by
    rw [div_eq_div_iff hpos.ne' hpos'.ne']
    exact_mod_cast Iff.rfl
  -- Numbers of different signs are the same only if both are zero.
  have hopposite : (num : ℚ) / den = -(num' / den') ↔ num * den' = num' * den ∧ num = 0 := by
    have hnonneg : (0 : ℚ) ≤ num / den := by positivity
    have hnonneg' : (0 : ℚ) ≤ num' / den' := by positivity
    constructor
    · intro heq
      have hzero : (num : ℚ) / den = 0 := by linarith
      have hzero' : (num' : ℚ) / den' = 0 := by linarith
      refine ⟨hcross.mp (hzero.trans hzero'.symm), ?_⟩
      simpa [hpos.ne'] using hzero
    · rintro ⟨heq, rfl⟩
      rw [← hcross.mpr heq]
      simp
  cases a <;> cases b <;>
    simp only [Bool.and_eq_true, Bool.or_eq_true, beq_iff_eq, reduceCtorEq, true_or, false_or, and_true,
      Bool.false_eq_true, if_true, if_false, neg_inj]
  · exact hcross.symm
  · exact hopposite.symm
  · rw [neg_eq_iff_eq_neg]
    exact hopposite.symm
  · exact hcross.symm

end Number.Binary64

/-! ## What keys are known by -/

/-- What a key is known by. -/
inductive Identity where
  | null
  | number (q : ℚ)
  | infinity (negative : Bool)
  | text (s : String)
  | foreign (type quoted : String)
  deriving DecidableEq

namespace Value

/-- What a key is known by.  Not-a-number is known by nothing, and lists and tables are no keys. -/
def identity? : Value → Option Identity
  | null => some .null
  | bool b => some (.number (ofBool b))
  | int n => some (.number n)
  | float .nan => none
  | float (.infinite negative) => some (.infinity negative)
  | float (.finite negative mantissa exponent) => some (.number (Binary64.toRat negative mantissa exponent))
  | text s => some (.text s)
  | foreign type _ quoted => some (.foreign type quoted)
  | list _ | table _ => none

/-- Whether a value can be looked up under. -/
def isKey (v : Value) : Bool := v.checkKey.isOk

lemma sameNumber_finite_iff {n : Int} {negative : Bool} {mantissa : Nat} {exponent : Int} :
    sameNumber n (.finite negative mantissa exponent) = true ↔
      Binary64.toRat negative mantissa exponent = n := by
  rw [sameNumber, beq_iff_eq, Binary64.toInt?_eq_some_iff]

lemma sameNumber_nan (n : Int) : sameNumber n .nan = false := rfl

lemma sameNumber_infinite (n : Int) (negative : Bool) : sameNumber n (.infinite negative) = false := rfl

/-- **Keys count as the same exactly if they are known by the same.** -/
lemma same_iff {k l : Value} (h : k.isKey = true ∨ l.isKey = true) :
    k.same l = true ↔ ∃ i, k.identity? = some i ∧ l.identity? = some i := by
  -- Doubles are taken apart as well, since only the finite ones are numbers.
  rcases k with _ | a | a | (_ | a | ⟨a, m, e⟩) | a | a | a | ⟨a, _, p⟩ <;>
    rcases l with _ | b | b | (_ | b | ⟨b, n, f⟩) | b | b | b | ⟨b, _, q⟩ <;>
    simp [same, identity?, sameNumber_finite_iff, sameNumber_nan, sameNumber_infinite, Binary64.same,
      isKey, checkKey, Except.isOk, Except.toBool] at h ⊢
  case bool.bool => cases a <;> cases b <;> decide
  case float.finite.float.finite =>
    simpa [Binary64.same] using Binary64.same_finite_iff.trans (eq_comm (a := Binary64.toRat a m e))
  case foreign.foreign => rw [eq_comm, eq_comm (a := p)]
  all_goals exact eq_comm

section Same

variable {k l m : Value}

lemma isKey_of_identity? {i : Identity} (h : k.identity? = some i) : k.isKey = true := by
  cases k with
  | list | table => cases h
  | _ => rfl

lemma identity?_of_same (h : k.isKey = true ∨ l.isKey = true) (hsame : k.same l = true) :
    k.isKey = true ∧ l.isKey = true ∧ k.identity? = l.identity? := by
  obtain ⟨i, hk, hl⟩ := (same_iff h).mp hsame
  exact ⟨isKey_of_identity? hk, isKey_of_identity? hl, hk.trans hl.symm⟩

/-- Keys that count as the same are the same keys to all others. -/
lemma same_congr (h : k.isKey = true ∨ l.isKey = true) (hsame : k.same l = true) :
    k.same m = l.same m ∧ m.same k = m.same l := by
  obtain ⟨hk, hl, hidentity⟩ := identity?_of_same h hsame
  simp only [Bool.eq_iff_iff, same_iff (.inl hk), same_iff (.inl hl), same_iff (.inr hk),
    same_iff (.inr hl), hidentity, and_self]

lemma same_comm (h : k.isKey = true ∨ l.isKey = true) : k.same l = l.same k := by
  simp only [Bool.eq_iff_iff, same_iff h, same_iff h.symm, and_comm]

end Same

/-! ## Reading after writing -/

section Lookup

variable {key other value : Value} {entries : List (Value × Value)}

lemma lookup?_congr (h : key.isKey = true) (hsame : key.same other = true) :
    lookup? key entries = lookup? other entries := by
  simp only [lookup?, (same_congr (.inl h) hsame).2]

/-- **What is written under a key is read back** under the keys that count as the same, and nothing else is
touched. -/
lemma lookup?_insert (h : key.isKey = true) :
    lookup? other (insert key value entries) =
      if key.same other = true then some value else lookup? other entries := by
  induction entries with
  | nil => exact lookup?_cons other key value []
  | cons entry rest ih =>
      obtain ⟨k, v⟩ := entry
      rw [insert]
      split
      · rename_i hsame
        rw [lookup?_cons, lookup?_cons, (same_congr (.inr h) hsame).1]
        split <;> rfl
      · rename_i hother
        rw [lookup?_cons, lookup?_cons, ih]
        by_cases hkey : key.same other = true
        · have hk : ¬ k.same other = true := by rwa [← (same_congr (.inl h) hkey).2]
          rw [if_neg hk, if_pos hkey, if_pos hkey]
        · rw [if_neg hkey, if_neg hkey]

/-- Writing what is there already changes nothing. -/
lemma insert_eq_self (h : lookup? key entries = some value) : insert key value entries = entries := by
  induction entries with
  | nil => cases h
  | cons entry rest ih =>
      obtain ⟨k, v⟩ := entry
      rw [lookup?_cons] at h
      rw [insert]
      split
      · rename_i hsame
        rw [if_pos hsame] at h
        rw [Option.some.inj h]
      · rename_i hother
        rw [if_neg hother] at h
        rw [ih h]

end Lookup

end Value

end CommandPalette
