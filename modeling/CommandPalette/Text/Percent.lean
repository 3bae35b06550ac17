import CommandPalette.Number.Scientific
import CommandPalette.Value.Show

/-!
# Percent templates

The text of a log line may have directives that start with a percent sign, as in `read %d of %s`.  A
directive has an optional key, flags, a width, a precision and a letter for the conversion; it takes
the next argument, or the one with its key.

* `Directive`: the parts of a directive.
* `Percent.Fault`: what can be wrong with a template or its arguments.
* `Percent.render`: a template filled in.
-/

namespace CommandPalette.Text.Percent

open CommandPalette.Number

/-! ## Faults -/

/-- What can be wrong with a template or its arguments. -/
inductive Fault where
  | incomplete
  | incompleteKey
  | needsMapping
  | missingKey (key : String)
  | tooFew
  | tooMany
  | starNeedsInteger
  | tooBig (what : String)
  | unsupported (c : Char) (index : Nat)
  | notReal (letter : Char) (type : String)
  | notInteger (letter : Char) (type : String)
  | notNumber (type : String)
  | notCharacter
  | noSuchCharacter
  | infinite
  | noNumber
  | tooLarge
  | longInteger
  /-- A width or a precision that no size can have. -/
  | noSize (type : String)
  /-- A precision that no integer is written with. -/
  | noPrecision
  /-- A text that is longer than the memory. -/
  | noMemory
  /-- A key was looked up in a list. -/
  | listKey
  deriving DecidableEq, Repr, Inhabited

namespace Fault

/-- The class under which a fault is known. -/
def className : Fault → String
  | incomplete | incompleteKey | unsupported .. | noNumber | tooBig _ | longInteger => "ValueError"
  | missingKey _ => "KeyError"
  | noSuchCharacter | infinite | tooLarge | noSize _ | noPrecision => "OverflowError"
  | noMemory => "MemoryError"
  | _ => "TypeError"

/-- A number in hexadecimal digits. -/
def hex (n : Nat) : String := String.ofList (Nat.toDigits 16 n)

/-- The wording of a fault. -/
def message : Fault → String
  | incomplete => "incomplete format"
  | incompleteKey => "incomplete format key"
  | needsMapping => "format requires a mapping"
  | missingKey key => quote key
  | tooFew => "not enough arguments for format string"
  | tooMany => "not all arguments converted during string formatting"
  | starNeedsInteger => "* wants int"
  | tooBig what => s!"{what} too big"
  | unsupported c index =>
    let shown := if 31 ≤ c.toNat && c.toNat ≤ 126 then c else '?'
    s!"unsupported format character '{shown}' (0x{hex c.toNat}) at index {index}"
  | notReal letter type => s!"%{letter} format: a real number is required, not {type}"
  | notInteger letter type => s!"%{letter} format: an integer is required, not {type}"
  | notNumber type => s!"must be real number, not {type}"
  | notCharacter => "%c requires int or char"
  | noSuchCharacter => "%c arg not in range(0x110000)"
  | infinite => "cannot convert float infinity to integer"
  | noNumber => "cannot convert float NaN to integer"
  | tooLarge => "int too large to convert to float"
  | longInteger =>
    s!"Exceeds the limit ({Value.maxDigits} digits) for integer string conversion; " ++
      "use sys.set_int_max_str_digits() to increase the limit"
  | noSize type => "Python int too large to convert to C " ++ type
  | noPrecision => "precision too large"
  | noMemory => ""
  | listKey => "list indices must be integers or slices, not str"

end Fault

/-! ## Arguments -/

/-- The arguments of a template. -/
structure Arguments where
  /-- The arguments that were not taken yet. -/
  rest : List Value
  /-- What keys are looked up in.  Arguments that are looked up need not be used. -/
  keyed : Option Value := none

/-- The argument that a single value is.  A table or a list may also be asked for its parts. -/
def Arguments.ofValue : Value → Arguments
  | .table entries => ⟨[.table entries], some (.table entries)⟩
  | .list items => ⟨[.list items], some (.list items)⟩
  | v => ⟨[v], none⟩

/-- The arguments that a list of values stands for: a single table that is not empty holds them by
their keys. -/
def Arguments.ofList : List Value → Arguments
  | [.table (entry :: entries)] => .ofValue (.table (entry :: entries))
  | values => ⟨values, none⟩

/-- Takes the next argument. -/
def Arguments.next (a : Arguments) : Except Fault (Value × Arguments) :=
  match a.rest with
  | [] => .error .tooFew
  | v :: rest => .ok (v, { a with rest })

/-- Takes an integer for a width or a precision. -/
def Arguments.nextInteger (a : Arguments) : Except Fault (Int × Arguments) := do
  match ← a.next with
  | (.int n, a) => return (n, a)
  | (.bool b, a) => return (Value.ofBool b, a)
  | _ => .error .starNeedsInteger

/-- Makes the argument with a key the next one. -/
def Arguments.select (a : Arguments) (key : String) : Except Fault Arguments :=
  match a.keyed with
  | none => .error .needsMapping
  | some (.table entries) => match Value.lookup? (.text key) entries with
    | none => .error (.missingKey key)
    | some v => .ok { a with rest := [v] }
  | some _ => .error .listKey

/-! ## Directives -/

/-- The parts of a directive. -/
structure Directive where
  left : Bool := false
  plus : Bool := false
  blank : Bool := false
  alternate : Bool := false
  zero : Bool := false
  width : Nat := 0
  precision : Option Nat := none
  letter : Char := 's'

/-- A flag of a directive. -/
def Directive.flag? (d : Directive) : Char → Option Directive
  | '-' => some { d with left := true }
  | '+' => some { d with plus := true }
  | ' ' => some { d with blank := true }
  | '#' => some { d with alternate := true }
  | '0' => some { d with zero := true }
  | _ => none

/-- Reads the flags of a directive. -/
def readFlags (d : Directive) : List Char → Directive × List Char
  | [] => (d, [])
  | c :: rest => match d.flag? c with
    | some d => readFlags d rest
    | none => (d, c :: rest)

/-- Reads a key up to the parenthesis that closes it. -/
def readKey (depth : Nat) : List Char → Except Fault (List Char × List Char)
  | [] => .error .incompleteKey
  | ')' :: rest => match depth with
    | 0 => .ok ([], rest)
    | depth + 1 => do
      let (key, rest) ← readKey depth rest
      return (')' :: key, rest)
  | c :: rest => do
    let (key, rest) ← readKey (if c = '(' then depth + 1 else depth) rest
    return (c :: key, rest)

/-- A number that a directive gives. -/
inductive Measure where
  | width
  | precision
  deriving DecidableEq, Repr, Inhabited

namespace Measure

/-- What a measure is called. -/
def name : Measure → String
  | width => "width"
  | precision => "precision"

/-- The type of a measure. -/
def type : Measure → String
  | width => "ssize_t"
  | precision => "int"

/-- A measure stays below this number. -/
def bound : Measure → Nat
  | width => twoTo 63
  | precision => twoTo 31

end Measure

/-- Reads the digits of a measure; the first digit that makes it too big is one too many. -/
def readDigits (m : Measure) (n : Nat) : List Char → Except Fault (Nat × List Char)
  | [] => .ok (n, [])
  | c :: rest =>
    if !c.isDigit then .ok (n, c :: rest)
    else
      let next := 10 * n + (c.toNat - '0'.toNat)
      if next < m.bound then readDigits m next rest else .error (.tooBig m.name)

/-- Reads a width or a precision: digits, or a star for an argument. -/
def readMeasure (m : Measure) (a : Arguments) (s : List Char) :
    Except Fault (Int × Arguments × List Char) :=
  match s with
  | '*' :: rest => do
    let (n, a) ← a.nextInteger
    if -m.bound ≤ n ∧ n < m.bound then return (n, a, rest) else .error (.noSize m.type)
  | _ => do
    let (n, rest) ← readDigits m 0 s
    return (n, a, rest)

/-- Reads a directive after its percent sign. -/
def readDirective (a : Arguments) (s : List Char) :
    Except Fault (Directive × Arguments × List Char) := do
  let (a, s) ← match s with
    | '(' :: rest => do
      if a.keyed.isNone then .error .needsMapping
      let (key, rest) ← readKey 0 rest
      pure (← a.select (String.ofList key), rest)
    | _ => pure (a, s)
  let (d, s) := readFlags {} s
  let (width, a, s) ← readMeasure .width a s
  let d := { d with left := d.left || width < 0, width := width.natAbs }
  let (d, a, s) ← match s with
    | '.' :: rest => do
      let (precision, a, rest) ← readMeasure .precision a rest
      pure ({ d with precision := some precision.toNat }, a, rest)
    | _ => pure (d, a, s)
  let s := match s with
    | 'h' :: rest | 'l' :: rest | 'L' :: rest => rest
    | _ => s
  match s with
  | [] => .error .incomplete
  | letter :: rest => return ({ d with letter }, a, rest)

/-! ## Conversions -/

/-- A text in its width. -/
def Directive.pad (d : Directive) (s : String) : String :=
  let fill := "".pushn ' ' (d.width - s.length)
  if d.left then s ++ fill else fill ++ s

/-- A number in its width: zeros stand between its sign and its digits. -/
def Directive.padNumber (d : Directive) (negative : Bool) (lead digits : String) : String :=
  let sign := if negative then "-" else if d.plus then "+" else if d.blank then " " else ""
  let head := sign ++ lead
  let zeros := if d.zero && !d.left then d.width - head.length - digits.length else 0
  d.pad (head ++ "".pushn '0' zeros ++ digits)

/-- The integer of an argument, for decimal digits. -/
def integerOf (letter : Char) : Value → Except Fault Int
  | .int n => .ok n
  | .bool b => .ok (Value.ofBool b)
  | .float .nan => .error .noNumber
  | .float (.infinite _) => .error .infinite
  | .float (.finite negative m e) =>
    let (num, den) := Binary64.magnitude m e
    let n : Int := (num / den : Nat)
    .ok (if negative then -n else n)
  | v => .error (.notReal letter v.typeName)

/-- The integer of an argument, for other digits. -/
def wholeOf (letter : Char) : Value → Except Fault Int
  | .int n => .ok n
  | .bool b => .ok (Value.ofBool b)
  | v => .error (.notInteger letter v.typeName)

/-- The double of an argument. -/
def doubleOf : Value → Except Fault Binary64
  | .float x => .ok x
  | .int n =>
    let x := Binary64.ofInt n
    if x.isSpecial then .error .tooLarge else .ok x
  | .bool b => .ok (.ofInt (Value.ofBool b))
  | v => .error (.notNumber v.typeName)

/-- The greatest precision that an integer is written with. -/
def maxPrecision : Nat := twoTo 31 - 4

/-- An integer in digits of a base. -/
def Directive.showInteger (d : Directive) (base : Nat) (lead : String) (n : Int) :
    Except Fault String := do
  if d.precision.any (maxPrecision < ·) then .error .noPrecision
  if base = 10 && Value.isLong n then .error .longInteger
  let digits := String.ofList (Nat.toDigits base n.natAbs)
  let digits := "".pushn '0' (d.precision.getD 1 - digits.length) ++ digits
  return d.padNumber (n < 0) (if d.alternate then lead else "") digits

/-- A double in the layout of a letter. -/
def Directive.showDouble (d : Directive) (x : Binary64) : String :=
  let precision := d.precision.getD 6
  match x with
  | .nan => d.padNumber false "" "nan"
  | .infinite negative => d.padNumber negative "" "inf"
  | .finite negative m e =>
    d.padNumber negative "" <| match d.letter.toLower with
      | 'e' => scientificDigits d.alternate precision m e
      | 'g' => generalDigits d.alternate precision m e
      | _ => fixedDigits d.alternate precision m e

/-- ASCII letters in upper case. -/
def upperAscii (s : String) : String := String.ofList (s.toList.map Char.toUpper)

/-- A text cut to the precision, in its width. -/
def Directive.showText (d : Directive) (s : String) : String :=
  d.pad (match d.precision with
    | some precision => String.ofList (s.toList.take precision)
    | none => s)

/-- The character of an argument. -/
def characterOf : Value → Except Fault String
  | .text s => if s.length = 1 then .ok s else .error .notCharacter
  | .int n =>
    if 0 ≤ n && n < 0x110000 then .ok (String.ofList [Char.ofNat n.toNat])
    else .error .noSuchCharacter
  | .bool b => .ok (String.ofList [Char.ofNat (Value.ofBool b).toNat])
  | _ => .error .notCharacter

/-- The text of a value in ASCII alone, if it has a text. -/
def asciiText? (v : Value) : Option String :=
  v.quoted?.map fun s => String.ofList (inAscii s.toList)

/-- The text of a value, if it has one. -/
def written : Option String → Except Fault String
  | some s => .ok s
  | none => .error .longInteger

/-- The widest text that there is room for. -/
def maxWidth : Nat := twoTo 36

/-- The text of an argument; `index` is where the letter stands in the template. -/
def Directive.convert (d : Directive) (index : Nat) (v : Value) : Except Fault String :=
  match d.letter with
  | 's' => (written v.plain?).map d.showText
  | 'r' => (written v.quoted?).map d.showText
  | 'a' => (written (asciiText? v)).map d.showText
  | 'c' => (characterOf v).map fun s => d.pad s
  | 'd' | 'i' | 'u' => do d.showInteger 10 "" (← integerOf d.letter v)
  | 'o' => do d.showInteger 8 "0o" (← wholeOf d.letter v)
  | 'x' => do d.showInteger 16 "0x" (← wholeOf d.letter v)
  | 'X' => do return upperAscii (← d.showInteger 16 "0x" (← wholeOf d.letter v))
  | 'e' | 'f' | 'g' => (doubleOf v).map d.showDouble
  | 'E' | 'F' | 'G' => (doubleOf v).map fun x => upperAscii (d.showDouble x)
  | letter => .error (.unsupported letter index)

/-- The text of an argument, where there is room for it. -/
def Directive.show (d : Directive) (index : Nat) (v : Value) : Except Fault String :=
  if d.width < maxWidth then d.convert index v
  else do
    let _ ← ({ d with width := 0 }).convert index v
    .error .noMemory

/-- Fills in the rest of a template; `index` is where it starts, and `fuel` bounds the number of
directives. -/
def renderFrom : Nat → Nat → Arguments → List Char → Except Fault (String × Arguments)
  | 0, _, _, _ => .error .incomplete
  | fuel + 1, index, a, s => do
    let plain := s.takeWhile (· != '%')
    let lead := String.ofList plain
    match s.dropWhile (· != '%') with
    | [] => return (lead, a)
    | _ :: '%' :: rest =>
      let (tail, a) ← renderFrom fuel (index + plain.length + 2) a rest
      return (lead ++ "%" ++ tail, a)
    | _ :: rest =>
      let (d, a, after) ← readDirective a rest
      let next := index + plain.length + 1 + (rest.length - after.length)
      let (v, a) ← a.next
      let shown ← d.show (next - 1) v
      let (tail, a) ← renderFrom fuel next a after
      return (lead ++ shown ++ tail, a)

/-- Fills in a template.  Arguments without keys have to be used up. -/
def render (template : String) (arguments : Arguments) : Except Fault String := do
  let (s, left) ← renderFrom (template.length + 1) 0 arguments template.toList
  if left.keyed.isNone && !left.rest.isEmpty then .error .tooMany else return s

end CommandPalette.Text.Percent
