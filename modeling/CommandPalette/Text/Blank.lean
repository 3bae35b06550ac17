/-!
# Blanks, trimming and words

The blanks of the input line are the white space of every script together with the four information
separators `U+001C` to `U+001F`; a zero-width space or a byte-order mark is not a blank.

* `isBlank`: the class.
* `trim`: a text without the blanks at its two ends.
* `words`: the maximal runs without a blank, in order.

Everything is defined on lists of characters; `strip` and `tokens` are the same on strings.
-/

namespace CommandPalette.Text

/-- White space of every script and the information separators. -/
def isBlank (c : Char) : Bool :=
  let n := c.toNat
  (0x09 ≤ n && n ≤ 0x0d) || (0x1c ≤ n && n ≤ 0x20) || n == 0x85 || n == 0xa0 || n == 0x1680 ||
    (0x2000 ≤ n && n ≤ 0x200a) || n == 0x2028 || n == 0x2029 || n == 0x202f || n == 0x205f ||
    n == 0x3000

/-- A text without the blanks in front. -/
def trimLeft (s : List Char) : List Char := s.dropWhile isBlank

/-- A text without the blanks behind. -/
def trimRight (s : List Char) : List Char := (s.reverse.dropWhile isBlank).reverse

/-- A text without the blanks at its two ends. -/
def trim (s : List Char) : List Char := trimRight (trimLeft s)

/-- Puts a character in front of a list of words: it joins the first of them unless a blank, or the
end of the text, stands between the two (`apart`). -/
def prepend (c : Char) (apart : Bool) : List (List Char) → List (List Char)
  | [] => [[c]]
  | word :: rest => if apart then [c] :: word :: rest else (c :: word) :: rest

/-- The maximal runs of characters that are no blanks, in order. -/
def words : List Char → List (List Char)
  | [] => []
  | c :: rest =>
    if isBlank c then words rest else prepend c (rest.head?.all isBlank) (words rest)

/-- `trim` on strings. -/
def strip (s : String) : String := String.ofList (trim s.toList)

/-- `words` on strings: the tokens of a line. -/
def tokens (s : String) : List String := (words s.toList).map String.ofList

/-! ## No word is empty, and no word holds a blank -/

theorem prepend_ne_nil (c : Char) (apart : Bool) (ws : List (List Char)) :
    prepend c apart ws ≠ [] := by
  cases ws with
  | nil => simp [prepend]
  | cons w rest => cases apart <;> simp [prepend]

theorem mem_prepend {c : Char} {apart : Bool} {ws : List (List Char)} {w : List Char}
    (h : w ∈ prepend c apart ws) : w = [c] ∨ w ∈ ws ∨ ∃ v ∈ ws, w = c :: v := by
  cases ws with
  | nil => simp [prepend] at h; exact .inl h
  | cons v rest =>
    cases apart with
    | true =>
      rcases List.mem_cons.1 h with h | h
      · exact .inl h
      · exact .inr (.inl h)
    | false =>
      rcases List.mem_cons.1 h with h | h
      · exact .inr (.inr ⟨v, List.mem_cons_self, h⟩)
      · exact .inr (.inl (List.mem_cons_of_mem _ h))

/-- Every word has a character, and none of its characters is a blank. -/
theorem ne_nil_of_mem_words {s : List Char} {w : List Char} (h : w ∈ words s) :
    w ≠ [] ∧ ∀ c ∈ w, isBlank c = false := by
  induction s generalizing w with
  | nil => simp [words] at h
  | cons c rest ih =>
    rw [words] at h
    split at h
    · exact ih h
    · rename_i blank
      have hc : isBlank c = false := by simpa using blank
      rcases mem_prepend h with rfl | h | ⟨v, hv, rfl⟩
      · simp [hc]
      · exact ih h
      · refine ⟨by simp, ?_⟩
        intro d hd
        rcases List.mem_cons.1 hd with rfl | hd
        · exact hc
        · exact (ih hv).2 d hd

end CommandPalette.Text
