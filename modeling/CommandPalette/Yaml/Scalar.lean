import CommandPalette.Number.Arithmetic
import CommandPalette.Number.Reader
import CommandPalette.Text.Run
import CommandPalette.Value.Show
import CommandPalette.Yaml.Quoted
import CommandPalette.Yaml.Tag

/-!
# The values of scalars

* `readInteger`, `readDecimal`: the numbers that scalars denote.
* `scalarValue`: the value of a scalar by its tag.
-/

namespace CommandPalette.Yaml

open CommandPalette.Number CommandPalette.Text

/-! ## Numbers -/

/-- A scalar that does not denote a value of its tag. -/
def noValue {α : Type} (className words : String) : Except Fault α :=
  .error (.value (.foreign className words))

/-- A text that is no integer. -/
def noInteger {α : Type} (base : Nat) (s : List Char) : Except Fault α :=
  noValue "ValueError" s!"invalid literal for int() with base {base}: {quote (String.ofList s)}"

/-- The integer that digits denote in a base; there has to be a digit. -/
def readBase (base : Nat) (s : List Char) : Except Fault Nat :=
  if !s.isEmpty && s.all fun c => isHexDigit c && hexValue c < base then
    .ok (ofDigits base (s.map hexValue))
  else noInteger base s

/-- The integer that decimal digits denote. -/
def readTens (s : List Char) : Except Fault Int :=
  match readInt? s with
  | some n => .ok n
  | none =>
    if s.all Char.isDigit && maxIntDigits < s.length then .error (.value (longNumeral s.length))
    else noInteger 10 s

/-- Splits the sign off a scalar without its underscores; nothing else may be missing. -/
def splitScalar (s : List Char) : Except Fault (Bool × List Char) :=
  match splitSign (s.filter (· ≠ '_')) with
  | (_, []) => noValue "IndexError" "string index out of range"
  | parts => .ok parts

/-- The integer that a scalar denotes. -/
def readInteger (s : List Char) : Except Fault Int := do
  let (negative, body) ← splitScalar s
  let size : Int ← match body with
    | ['0'] => pure 0
    | '0' :: 'b' :: digits => do pure (Int.ofNat (← readBase 2 digits))
    | '0' :: 'x' :: digits => do pure (Int.ofNat (← readBase 16 digits))
    | '0' :: _ => do pure (Int.ofNat (← readBase 8 body))
    | _ => do
      let groups ← (pieces (· = ':') body).mapM readTens
      pure (groups.foldl (fun n group => n * 60 + group) 0)
  return if negative then -size else size

/-- The sum of groups of sixty, the last one first, rounded after each step.  The factors of the groups
have to be doubles too. -/
def sumSixties (sum : Binary64) (factor : Int) : List Binary64 → Except Fault Binary64
  | [] => .ok sum
  | group :: rest =>
    if (Binary64.ofInt factor).isSpecial then
      noValue "OverflowError" "int too large to convert to float"
    else sumSixties (sum.add (group.mul (.ofInt factor))) (factor * 60) rest

/-- A double with the other sign. -/
def negated : Binary64 → Binary64
  | .finite negative m e => .finite (!negative) m e
  | .infinite negative => .infinite (!negative)
  | .nan => .nan

/-- The double that a group of digits denotes. -/
def readGroup (s : List Char) : Except Fault Binary64 :=
  match readFloat? s with
  | some x => .ok x
  | none =>
    noValue "ValueError" s!"could not convert string to float: {quote (String.ofList s)}"

/-- The double that a scalar denotes. -/
def readDecimal (s : List Char) : Except Fault Binary64 := do
  let (negative, body) ← splitScalar (s.map Char.toLower)
  let size ←
    if body = ".inf".toList then pure (.infinite false)
    else if body = ".nan".toList then pure .nan
    else match pieces (· = ':') body with
      | [group] => readGroup group
      | groups => do
        let groups ← groups.mapM readGroup
        sumSixties (.ofInt 0) 1 groups.reverse
  return if negative then negated size else size

/-! ## Scalars -/

/-- The value of a scalar. -/
def scalarValue (tag : Tag) (s : String) : Except Fault Value :=
  match tag with
  | .null => .ok .null
  | .flag =>
    let word := String.ofList (s.toList.map Char.toLower)
    match flagWords.lookup word with
    | some b => .ok (.bool b)
    | none => .error (.value (.missingKey word))
  | .integer => do return .int (← readInteger s.toList)
  | .decimal => do return .float (← readDecimal s.toList)
  | .text => .ok (.text s)
  | .moment => match moment? s.toList with
    | some m => m.value
    | none => .error (.value (.noField "NoneType" "groupdict"))
  | _ => .error (.structural "the tag of a scalar is not known")

end CommandPalette.Yaml
