/-!
# Runs at the front of a text

Readers take the longest run of a class of characters and go on with what is left.  What is left is
never longer than the text, and shorter once a character has been taken, so a reader that repeats
this ends.
-/

namespace CommandPalette.Text

variable {α : Type _}

theorem length_dropWhile_le (p : α → Bool) (s : List α) : (s.dropWhile p).length ≤ s.length :=
  (List.dropWhile_sublist p).length_le

theorem length_lt_of_dropWhile_eq_cons {p : α → Bool} {s r : List α} {a : α}
    (h : s.dropWhile p = a :: r) : r.length < s.length := by
  have := length_dropWhile_le p s
  rw [h, List.length_cons] at this
  omega

/-- The pieces of a text between separators; there is one piece more than there are separators. -/
def pieces (separates : α → Bool) : List α → List (List α)
  | [] => [[]]
  | a :: rest => match separates a, pieces separates rest with
    | true, ps => [] :: ps
    | false, [] => [[a]]
    | false, p :: ps => (a :: p) :: ps

/-- Whether a text holds another one. -/
def holds (part : List Char) : List Char → Bool
  | [] => part.isEmpty
  | c :: rest => part.isPrefixOf (c :: rest) || holds part rest

end CommandPalette.Text
