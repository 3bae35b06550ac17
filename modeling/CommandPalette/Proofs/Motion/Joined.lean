import CommandPalette.Proofs.Motion.Line

/-!
# Lines one behind the other

A line may be cut wherever no motion is cut in two, and then its motions are those of the two parts; and a
motion means the same before and after its closing bracket is typed.

* `EndsOpen`: lines that end within a motion.
* `scan_join`: a scan of two lines, one behind the other, finds what a scan of each of them finds.
* `scan_closed`: a closing bracket at the end of a line changes nothing.
* **`read_joined`**: what the motions of two lines, one behind the other, come to.
-/

namespace CommandPalette.Motion

/-! ## Where a line may be cut -/

/-- Whether a line ends within a motion that may still go on. -/
def EndsOpen (s : List Char) : Prop :=
  ∃ front inner, s = front ++ '[' :: inner ∧ ∀ c ∈ inner, c.isAlphanum = true

lemma EndsOpen.append {s : List Char} (h : EndsOpen s) (front : List Char) : EndsOpen (front ++ s) := by
  obtain ⟨more, inner, rfl, hinner⟩ := h
  exact ⟨front ++ more, inner, (List.append_assoc _ _ _).symm, hinner⟩

/-- **Two lines, one behind the other, are scanned apart.**  The induction is along the parts of the first
line; only its last motion can have to do with the second one. -/
lemma scan_join {s r : List Char}
    (h : ¬ EndsOpen s ∨ ∀ c ∈ r.head?, c.isAlphanum = false ∧ c ≠ ']') :
    scan (s ++ r) = scan s ++ scan r := by
  have hparts := of_partsOf s
  generalize partsOf s = p at hparts
  induction p using Parts.inductionOn generalizing s with
  | nil =>
      obtain rfl : [] = s := hparts.line_eq
      rw [scan]
      rfl
  | cons c p ih =>
      obtain ⟨hc, rest, rfl, hrest⟩ := Parts.of_cons_iff.mp hparts
      have hcut := h.imp_left (mt fun hopen : EndsOpen rest => hopen.append [c])
      rw [List.cons_append, scan_cons_of_ne hc, scan_cons_of_ne hc, ih hcut hrest, List.cons_append]
  | push m p ih =>
      obtain ⟨hinner, rest, rfl, hwhole, hrest⟩ := Parts.of_push_iff.mp hparts
      have hcut := h.imp_left (mt fun hopen : EndsOpen rest => hopen.append m.text)
      have hwhole' : m.closed = false → ∀ c ∈ (rest ++ r).head?, c.isAlphanum = false ∧ c ≠ ']' := by
        intro hclosed
        cases rest with
        | cons d rest => exact hwhole hclosed
        | nil =>
            have hopen : EndsOpen (m.text ++ []) :=
              ⟨[], m.inner, by simp [Bracketed.text, hclosed], hinner⟩
            exact h.resolve_left (not_not.mpr hopen)
      rw [List.append_assoc, scan_text hinner hwhole', scan_text hinner hwhole, ih hcut hrest, List.cons_append]

/-- A motion at the end of a line is the same without its closing bracket. -/
lemma scan_closed (s : List Char) {inner : List Char} (hinner : ∀ c ∈ inner, c.isAlphanum = true) :
    scan (s ++ '[' :: inner) = scan (s ++ '[' :: (inner ++ [']'])) := by
  have hopen : scan ('[' :: inner) = [.motion inner] := by
    have h := scan_text (m := ⟨inner, false⟩) (s := []) hinner (by simp)
    simpa [Bracketed.text, scan] using h
  have hclosed : scan ('[' :: (inner ++ [']'])) = [.motion inner] := by
    have h := scan_text (m := ⟨inner, true⟩) (s := []) hinner (by simp)
    simpa [Bracketed.text, scan] using h
  have hbracket (t : List Char) : ∀ c ∈ ('[' :: t).head?, c.isAlphanum = false ∧ c ≠ ']' := by
    intro c hc
    obtain rfl : '[' = c := Option.some.inj hc
    decide
  rw [scan_join (.inr (hbracket _)), scan_join (.inr (hbracket _)), hopen, hclosed]

/-! ## What the motions come to -/

variable (keymap : Keymap)

/-- Offsets add up part by part. -/
lemma foldl_add_append (first second : List Int) :
    (first ++ second).foldl (· + ·) 0 = first.foldl (· + ·) 0 + second.foldl (· + ·) 0 := by
  rw [List.foldl_append]
  calc second.foldl (· + ·) (first.foldl (· + ·) 0)
      = second.foldl (· + ·) (first.foldl (· + ·) 0 + 0) := by rw [Int.add_zero]
    _ = first.foldl (· + ·) 0 + second.foldl (· + ·) 0 := List.foldl_assoc

lemma position_read (s : List Char) :
    (read keymap s).position = { y := ((read keymap s).chains.map offset).foldl (· + ·) 0 } := rfl

lemma chains_join {s r : List Char} (h : scan (s ++ r) = scan s ++ scan r) :
    (read keymap (s ++ r)).chains = (read keymap s).chains ++ (read keymap r).chains := by
  rw [read, read, read, segments, segments, segments, h, List.filterMap_append, List.map_append]

/-- **Motions are read where they stand.**  Of two lines, one behind the other, the motions are those of the
first and then those of the second one, and their offsets add up, unless the second line would go on with a
motion at the end of the first one.  And a motion at the end of a line is read while it is typed: its
closing bracket changes nothing. -/
theorem read_joined :
    (∀ s r : List Char, ¬ EndsOpen s ∨ (∀ c ∈ r.head?, c.isAlphanum = false ∧ c ≠ ']') →
      (read keymap (s ++ r)).chains = (read keymap s).chains ++ (read keymap r).chains ∧
      (read keymap (s ++ r)).position =
        { x := 0, y := (read keymap s).position.y + (read keymap r).position.y }) ∧
    ∀ s inner : List Char, (∀ c ∈ inner, c.isAlphanum = true) →
      read keymap (s ++ '[' :: inner) = read keymap (s ++ '[' :: (inner ++ [']'])) := by
  refine ⟨fun s r h => ?_, fun s inner hinner => ?_⟩
  · have hchains := chains_join keymap (scan_join h)
    refine ⟨hchains, ?_⟩
    rw [position_read, hchains, List.map_append, foldl_add_append]
    rfl
  · rw [read, read, segments, segments, stripSegments, stripSegments, scan_closed s hinner]

/-- Another opening bracket ends a motion that is still being typed. -/
theorem read_bracket_behind_open :
    (∀ c ∈ "[k".toList.head?, c.isAlphanum = false ∧ c ≠ ']') ∧
      (read (.generate 20) ("go [2j".toList ++ "[k".toList)).position = { x := 0, y := 2 + -1 } ∧
      read (.generate 20) "go [2j".toList = read (.generate 20) "go [2j]".toList := by
  have hbracket : ∀ c ∈ "[k".toList.head?, c.isAlphanum = false ∧ c ≠ ']' := by simp
  obtain ⟨hjoin, htyped⟩ := read_joined (.generate 20)
  refine ⟨hbracket, ?_, htyped "go ".toList "2j".toList (by simp)⟩
  exact (hjoin "go [2j".toList "[k".toList (.inr hbracket)).2.trans (by decide +kernel)

end CommandPalette.Motion
