import CommandPalette.Proofs.Arrangement
import Mathlib.Data.Int.ModEq

/-!
# Turning a menu

A menu is a ring, and turning it is counting on round the ring: two turns are one turn by their sum, and
turns that end at the same place are one and the same.  So nothing is ever lost by turning a menu, and
whatever was turned can be turned back.

* `ringIndex_congr`, `ringIndex_add_ringIndex`: places that lie whole rounds apart are one place.
* `rotate_rotate`, `rotate_congr`, `rotate_back`: the laws of turning, from those of the places.
* **`rotate_action`**: the integers act on menus by turning them, and this says which entry comes where.
-/

namespace CommandPalette

/-! ## Counting round the ring -/

/-- Offsets that differ by whole rounds lead to one place. -/
lemma ringIndex_congr {n : ℕ} {a b : Int} (h : a ≡ b [ZMOD n]) : ringIndex a n = ringIndex b n :=
  congrArg Int.toNat h

lemma ringIndex_modEq {n : ℕ} (hpos : 0 < n) (a : Int) : (ringIndex a n : Int) ≡ a [ZMOD n] := by
  rw [natCast_ringIndex hpos]
  exact Int.mod_modEq a n

/-- Counting on from a place leads where counting the sum does. -/
lemma ringIndex_add_ringIndex {n : ℕ} (hpos : 0 < n) (a b : Int) :
    (ringIndex a n + ringIndex b n) % n = ringIndex (a + b) n := by
  calc (ringIndex a n + ringIndex b n) % n = ringIndex (b + ringIndex a n) n :=
        (ringIndex_add hpos b (ringIndex a n)).symm
    _ = ringIndex (a + b) n := by
        refine ringIndex_congr ?_
        rw [Int.add_comm a b]
        exact (ringIndex_modEq hpos a).add_left b

section Rotate

variable {α : Type _}

/-! ## The laws of turning -/

lemma rotate_congr {items : List α} {a b : Int} (h : a ≡ b [ZMOD items.length]) :
    rotate items a = rotate items b := by
  rw [rotate_eq, rotate_eq, ringIndex_congr h]

/-- **Two turns are one turn by their sum.** -/
lemma rotate_rotate (items : List α) (a b : Int) :
    rotate (rotate items a) b = rotate items (a + b) := by
  rcases items.eq_nil_or_concat with rfl | ⟨rest, last, rfl⟩
  · simp
  · set items := rest.concat last with hitems
    have hpos : 0 < items.length := by simp [hitems]
    rw [rotate_eq (rotate items a), length_rotate, rotate_eq items a, List.rotate_rotate, rotate_eq,
      ← ringIndex_add_ringIndex hpos, List.rotate_mod]

/-- Turning a menu to a place and then on by what is left of the round turns it back. -/
lemma rotate_back (items : List α) (a : Int) :
    rotate (rotate items a) ((items.length - a) % items.length) = items := by
  have hround : a + (items.length - a) % items.length ≡ 0 [ZMOD items.length] := by
    calc a + (items.length - a) % items.length ≡ a + (items.length - a) [ZMOD items.length] :=
          (Int.mod_modEq _ _).add_left a
      _ = items.length := by omega
      _ ≡ 0 [ZMOD items.length] := Int.modEq_zero_iff_dvd.mpr (dvd_refl _)
  rw [rotate_rotate, rotate_congr hround, rotate_zero]

lemma rotate_isRotated (items : List α) (a : Int) : rotate items a ~r items := by
  rw [rotate_eq]
  exact List.IsRotated.forall items _

lemma rotateAt_int (items : List α) (a : Int) : rotateAt items (.int a) = .ok (rotate items a) := by
  unfold rotateAt
  cases items with
  | nil => simp
  | cons first rest =>
      have hround : a % (first :: rest).length ≡ a [ZMOD (first :: rest).length] := Int.mod_modEq _ _
      exact congrArg Except.ok (rotate_congr hround)

/-- **The integers act on menus by turning them.**  Two turns are one by their sum, no turn changes
nothing, and turns that lie whole rounds apart are the same; so every turn can be turned back.  All
entries stay, in the same cyclic order: the one that an offset leads to comes first and the others follow
it round the ring.  An offset that is given as a value turns the menu likewise. -/
theorem rotate_action (items : List α) :
    (∀ a b, rotate (rotate items a) b = rotate items (a + b)) ∧
      rotate items 0 = items ∧
      (∀ a b, a ≡ b [ZMOD items.length] → rotate items a = rotate items b) ∧
      (∀ a, rotate (rotate items a) ((items.length - a) % items.length) = items) ∧
      (∀ a, (rotate items a).Perm items ∧ rotate items a ~r items) ∧
      (∀ a, ∀ i < items.length,
        (rotate items a)[i]? = items[((a + i) % items.length).toNat]?) ∧
      (∀ a, rotate ([] : List α) a = []) ∧
      ∀ a, rotateAt items (.int a) = .ok (rotate items a) :=
  ⟨rotate_rotate items, rotate_zero items, fun _ _ => rotate_congr, rotate_back items,
    fun a => ⟨(rotate_isRotated items a).perm, rotate_isRotated items a⟩,
    fun a _ h => getElem?_rotate h a, rotate_nil, rotateAt_int items⟩

/-- Nine places on is five places back in a menu of seven. -/
theorem rotate_action_seven :
    let items := [0, 1, 2, 3, 4, 5, 6]
    9 ≡ -5 [ZMOD items.length] ∧ rotate items 9 = rotate items (-5) ∧
      rotate items 9 = [2, 3, 4, 5, 6, 0, 1] := by
  intro items
  have hround : 9 ≡ -5 [ZMOD items.length] := by decide
  obtain ⟨-, -, hcongr, -⟩ := rotate_action items
  exact ⟨hround, hcongr 9 (-5) hround, by decide⟩

end Rotate

end CommandPalette
