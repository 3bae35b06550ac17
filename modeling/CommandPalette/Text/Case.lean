import CommandPalette.Text.Case.Table

/-!
# Letter case

Whole-text case mapping.  Most letters map one by one; the exceptions are the letters whose capital
form has several letters, the dotted capital `I`, and the capital sigma, whose lower-case form
depends on whether a word ends there.

* `Case.lower`, `Case.upper`: the mappings on strings.
-/

namespace CommandPalette.Text.Case

/-- Whether a range of the table holds the character. -/
def within (ranges : Array (Nat × Nat)) (c : Char) : Bool :=
  ranges.any fun (low, high) => low ≤ c.toNat && c.toNat ≤ high

/-- A letter with case that does not join onto its neighbours. -/
def isCased (c : Char) : Bool := within casedRanges c

/-- A character that is passed over when the neighbours of a sigma are looked at. -/
def isIgnorable (c : Char) : Bool := within caseIgnorableRanges c

/-- The image of a character under the runs of a table, which is itself where no run holds it. -/
def shift (runs : Array (Nat × Nat × Nat × Int)) (c : Char) : Char :=
  match runs.find? fun (first, last, step, _) =>
      first ≤ c.toNat && c.toNat ≤ last && (c.toNat - first) % step == 0 with
  | some (_, _, _, offset) => Char.ofNat ((c.toNat : Int) + offset).toNat
  | none => c

/-- The lower-case form of a letter other than the capital sigma. -/
def lowerLetter (c : Char) : List Char :=
  if c.toNat < 0x80 then [c.toLower]
  else if c.toNat = 0x130 then ['i', Char.ofNat 0x307]
  else [shift lowerRuns c]

/-- The upper-case form of a letter. -/
def upperLetter (c : Char) : List Char :=
  if c.toNat < 0x80 then [c.toUpper]
  else match upperSequences.find? fun (letter, _) => letter == c.toNat with
    | some (_, letters) => letters.map Char.ofNat
    | none => [shift upperRuns c]

/-- Whether the next character that counts is a letter with case. -/
def opensWithLetter : List Char → Bool
  | [] => false
  | c :: rest => if isIgnorable c then opensWithLetter rest else isCased c

/-- Lower case from left to right; `afterLetter` says whether the last character that counts was a
letter with case, so that a sigma between it and the end of the word is written as a final one. -/
def lowerFrom (afterLetter : Bool) : List Char → List Char
  | [] => []
  | c :: rest =>
    let here :=
      if c.toNat = 0x3a3 then [if afterLetter && !opensWithLetter rest then 'ς' else 'σ']
      else lowerLetter c
    here ++ lowerFrom (if isIgnorable c then afterLetter else isCased c) rest

/-- The lower-case form of a text. -/
def lower (s : String) : String :=
  if s.toList.all (·.toNat < 0x80) then String.ofList (s.toList.map Char.toLower)
  else String.ofList (lowerFrom false s.toList)

/-- The upper-case form of a text. -/
def upper (s : String) : String := String.ofList (s.toList.flatMap upperLetter)

end CommandPalette.Text.Case
