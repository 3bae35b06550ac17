import CommandPalette.Yaml.Moment

/-!
# Tags

The tag of a node says what kind of value it stands for.  A plain scalar without a tag gets one by its
form: `yes` is a truth value, `010` an integer, and what has no such form is a text.

* `Tag`: the tags; `Tag.ofName` reads a full one.
* `isInteger`, `isDecimal`: the forms of numbers.
* `Tag.ofPlain`: the tag of a plain scalar.
-/

namespace CommandPalette.Yaml

/-- What kind of value a node stands for. -/
inductive Tag where
  | null
  | flag
  | integer
  | decimal
  | text
  | moment
  | sequence
  | mapping
  /-- The key under which the entries of other mappings are taken over. -/
  | merge
  /-- The key of a default value. -/
  | standard
  /-- A kind that is not known here. -/
  | other (name : String)
  deriving DecidableEq, Repr, Inhabited

/-- Whether a tag is that of lists or of mappings. -/
def Tag.isCollection : Tag → Bool
  | .sequence | .mapping => true
  | _ => false

/-- What the double mark stands for in tags. -/
def coreHandle : String := "tag:yaml.org,2002:"

/-- The short names of the tags. -/
def coreNames : List (String × Tag) :=
  [("null", .null), ("bool", .flag), ("int", .integer), ("float", .decimal), ("str", .text),
    ("timestamp", .moment), ("seq", .sequence), ("map", .mapping), ("merge", .merge),
    ("value", .standard)]

/-- The tag of a full name. -/
def Tag.ofName (name : String) : Tag :=
  match coreNames.find? fun (short, _) => coreHandle ++ short == name with
  | some (_, tag) => tag
  | none => .other name

/-! ## Forms of scalars -/

/-- A text without its sign. -/
def unsigned : List Char → List Char
  | '+' :: rest => rest
  | '-' :: rest => rest
  | s => s

/-- Whether a character is a digit or separates digits. -/
def isDigitOrMark (c : Char) : Bool := c.isDigit || c = '_'

/-- Whether a text consists of characters of a class, and of at least one. -/
def consists (p : Char → Bool) (s : List Char) : Bool := !s.isEmpty && s.all p

/-- Groups of at most two digits below sixty, each after a colon. -/
def isSixties : List Char → Bool
  | [] => true
  | ':' :: a :: b :: rest =>
    (a.isDigit && b.isDigit && a < '6' && isSixties rest) || (a.isDigit && isSixties (b :: rest))
  | [':', a] => a.isDigit
  | _ => false

/-- The form of an integer: binary, octal, decimal, hexadecimal, or in groups of sixty. -/
def isInteger (s : List Char) : Bool :=
  match unsigned s with
  | '0' :: 'b' :: rest => consists (among "01_") rest
  | '0' :: 'x' :: rest => consists (fun c => isHexDigit c || c = '_') rest
  | ['0'] => true
  | '0' :: rest => consists (among "01234567_") rest
  | c :: rest =>
    c.isDigit && isSixties (rest.dropWhile isDigitOrMark)
  | [] => false

/-- An exponent with its sign, or nothing. -/
def isExponent : List Char → Bool
  | [] => true
  | e :: sign :: digits => among "eE" e && among "+-" sign && consists Char.isDigit digits
  | _ => false

/-- The form of a decimal: with a dot, in groups of sixty, or one of the special values. -/
def isDecimal (s : List Char) : Bool :=
  let body := unsigned s
  let specials := [".inf", ".Inf", ".INF"].map String.toList
  let undefined := [".nan", ".NaN", ".NAN"].map String.toList
  specials.contains body || undefined.contains s ||
    match body with
    | '.' :: c :: rest => s = body && c.isDigit && isExponent (rest.dropWhile isDigitOrMark)
    | c :: rest =>
      c.isDigit &&
        match rest.dropWhile isDigitOrMark with
        | '.' :: fraction => isExponent (fraction.dropWhile isDigitOrMark)
        | groups =>
          groups.head? = some ':' && isSixties (groups.takeWhile (· ≠ '.')) &&
            match groups.dropWhile (· ≠ '.') with
            | '.' :: fraction => fraction.all isDigitOrMark
            | _ => false
    | [] => false

/-! ## Plain scalars -/

/-- The words for truth values. -/
def flagWords : List (String × Bool) :=
  [("yes", true), ("Yes", true), ("YES", true), ("true", true), ("True", true), ("TRUE", true),
    ("on", true), ("On", true), ("ON", true), ("no", false), ("No", false), ("NO", false),
    ("false", false), ("False", false), ("FALSE", false), ("off", false), ("Off", false),
    ("OFF", false)]

/-- The words for nothing. -/
def nullWords : List String := ["", "~", "null", "Null", "NULL"]

/-- The tag of a plain scalar. -/
def Tag.ofPlain (s : String) : Tag :=
  if (flagWords.lookup s).isSome then .flag
  else if isDecimal s.toList then .decimal
  else if isInteger s.toList then .integer
  else if s == "<<" then .merge
  else if nullWords.contains s then .null
  else if (moment? s.toList).isSome then .moment
  else if s == "=" then .standard
  else .text

end CommandPalette.Yaml
