import CommandPalette.Log.Timer
import CommandPalette.Motion.Direction
import CommandPalette.Table

/-!
# Jump codes

Every entry of a menu has a short code that jumps to it.  Codes are built from the letters that are
no motion letters, so that a code typed among motions is read as one token.  The first eighteen
entries have one letter, the next `18 · 18` have two, and so on: codes are counted by length first
and then in the order of the alphabet.

* `alphabet`: the letters of codes.
* `Search.run`, `lastLetters`: the two loops that find a code, one for its length and one for its
  letters.
* `codeOf`: the code of an index.
* `Keymap`: the codes of a menu of a given size, with look-ups in both directions.
-/

namespace CommandPalette.Motion

/-- The letters of jump codes. -/
def alphabet : List Char := letters.filter fun c => !isMotionLetter c

/-- How many letters codes are built from. -/
def base : Nat := 18

theorem length_alphabet : alphabet.length = base := by decide

theorem base_pos : 0 < base := by decide

/-- A letter of the alphabet. -/
def letterAt (i : Nat) : Char := alphabet.getD i 'a'

/-- A search for the length of a code. -/
structure Search where
  /-- What is left of the index when the codes that are too short are counted off. -/
  index : Int
  /-- The length that is tried. -/
  length : Nat := 1
  /-- How many codes have this length. -/
  block : Nat := base
  /-- There are codes of every length. -/
  block_pos : 0 < block := by exact base_pos

theorem Search.block_mul_pos (s : Search) : 0 < s.block * base := Nat.mul_pos s.block_pos base_pos

/-- Goes on to the codes with one letter more. -/
def Search.longer (s : Search) : Search where
  index := s.index - s.block
  length := s.length + 1
  block := s.block * base
  block_pos := s.block_mul_pos

/-- Looks for the length: the codes of a length are counted off as long as the index lies behind them. -/
def Search.run (s : Search) : Search := if s.block ≤ s.index then s.longer.run else s
termination_by s.index.toNat
decreasing_by
  have := s.block_pos
  simp only [Search.longer]
  omega

/-- Splits so many letters off an index, the last letter of the code first.  Counting back from the
first entry goes round the alphabet. -/
def lastLetters : Nat → Int → List Char
  | 0, _ => []
  | length + 1, index => letterAt (index % base).toNat :: lastLetters length (index / base)

/-- The code of any integer. -/
def codeOfInt (index : Int) : List Char :=
  let found := Search.run { index }
  (lastLetters found.length found.index).reverse

/-- The code of an index. -/
def codeOf (i : Nat) : List Char := codeOfInt i

/-- The codes of a menu. -/
structure Keymap where
  /-- The entry that each code jumps to. -/
  entryOf : List (List Char × Nat) := []
  /-- The code of each entry. -/
  codeAt : List (Int × List Char) := []
  deriving DecidableEq, Repr, Inhabited

namespace Keymap

/-- How many entries have a code. -/
def size (k : Keymap) : Nat := k.codeAt.length

/-- The codes, in the order in which the entries came by theirs. -/
def codes (k : Keymap) : List (List Char) := k.codeAt.map (·.2)

/-- The code of an entry, and the empty text outside the menu. -/
def keyFor (k : Keymap) (index : Int) : List Char := (k.codeAt.lookup index).getD []

/-- The entry that a code jumps to. -/
def indexFor? (k : Keymap) (code : List Char) : Option Nat := k.entryOf.lookup code

/-- Gives an entry its code. -/
def assign (k : Keymap) (i : Nat) : Keymap where
  entryOf := Table.insertEntry (codeOf i) i k.entryOf
  codeAt := Table.insertEntry (i : Int) (codeOf i) k.codeAt

/-- The codes of a menu with `size` entries; a size below zero is that of the empty menu. -/
def generate (size : Int) : Keymap := (List.range size.toNat).foldl assign {}

/-- The lines that generating a keymap writes to the log. -/
def remarks : List Log.Entry :=
  Log.Timer.instant "omnicli.motion.keymap" "keymap generation" true

/-! ## What is generated -/

theorem generate_succ (n : Nat) : generate (n + 1 : Nat) = (generate n).assign n := by
  simp only [generate, Int.toNat_natCast, List.range_succ, List.foldl_append, List.foldl_cons,
    List.foldl_nil]

end Keymap

end CommandPalette.Motion
