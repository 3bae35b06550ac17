import CommandPalette.Text.Digit
import CommandPalette.Text.Facet
import CommandPalette.Text.Run

/-!
# Templates with replacement fields

A template is a text in which `{name}` stands for the text of that name.  Doubled braces stand for a
single brace.  A field may pick one character (`{name[0]}`) or another facet of the text, convert it
to its quoted form (`{name!r}`), and lay it out in a given width (`{name:>5}`); the layout may itself
contain fields.

Fields are filled in from left to right, so the first fault of a template is the one reported even
when a later part of it could not be read at all.  A width that no memory holds is not refused.

* `Template.Fault`: everything that can be wrong with a template.
* `Template.Layout`: fill, alignment, width and precision of a field.
* `Template.render`: the filled-in text.
-/

namespace CommandPalette.Text.Template

/-- What is wrong with a template, or with a field for the texts at hand. -/
inductive Fault where
  | singleBrace (brace : Char)
  | fieldOpen
  | braceInName
  | conversionMissing
  | conversionFollowed
  | layoutOpen
  | tooDeep
  | unknownName (name : String)
  | noPosition (index : Nat)
  | tooManyDigits
  | emptyAttribute
  | bracketOpen
  | afterBracket
  | noItem (refusal : Facet.Refusal)
  | noAttribute (owner name : String)
  | unknownConversion (c : Char)
  | bothSeparators
  | precisionMissing
  | layoutInvalid (layout : String)
  | separatorWith (separator kind : Char)
  | unknownKind (kind : Char)
  | spaceNotAllowed
  | signNotAllowed
  | zeroNotAllowed
  | alternateNotAllowed
  | innerAlignment
  | noLayout (type : String)
  deriving DecidableEq, Repr

/-- A character in a message: as it stands between the space and `last`, and otherwise by its code
point. -/
def showKind (last : Nat) (c : Char) : String :=
  if 0x20 < c.toNat && c.toNat ≤ last then String.ofList [c]
  else "\\x" ++ String.ofList (Nat.toDigits 16 c.toNat)

namespace Fault

/-- The wording of a fault. -/
def message : Fault → String
  | singleBrace brace => s!"Single '{brace}' encountered in format string"
  | fieldOpen => "expected '\x7d' before end of string"
  | braceInName => "unexpected '\x7b' in field name"
  | conversionMissing => "end of string while looking for conversion specifier"
  | conversionFollowed => "expected ':' after conversion specifier"
  | layoutOpen => "unmatched '\x7b' in format spec"
  | tooDeep => "Max string recursion exceeded"
  | unknownName name => quote name
  | noPosition index => s!"Replacement index {index} out of range for positional args tuple"
  | tooManyDigits => "Too many decimal digits in format string"
  | emptyAttribute => "Empty attribute in format string"
  | bracketOpen => "Missing ']' in format string"
  | afterBracket => "Only '.' or '[' may follow ']' in format field specifier"
  | noItem refusal => refusal.message
  | noAttribute owner name => s!"{owner} has no attribute '{name}'"
  | unknownConversion c => "Unknown conversion specifier " ++ showKind 0x7e c
  | bothSeparators => "Cannot specify both ',' and '_'."
  | precisionMissing => "Format specifier missing precision"
  | layoutInvalid layout => s!"Invalid format specifier '{layout}' for object of type 'str'"
  | separatorWith separator kind => s!"Cannot specify '{separator}' with '{showKind 0x7f kind}'."
  | unknownKind kind => s!"Unknown format code '{showKind 0x7f kind}' for object of type 'str'"
  | spaceNotAllowed => "Space not allowed in string format specifier"
  | signNotAllowed => "Sign not allowed in string format specifier"
  | zeroNotAllowed => "Negative zero coercion (z) not allowed in string format specifier"
  | alternateNotAllowed => "Alternate form (#) not allowed in string format specifier"
  | innerAlignment => "'=' alignment not allowed in string format specifier"
  | noLayout type => s!"unsupported format string passed to {type}.__format__"

/-- The class under which a fault is reported. -/
def className : Fault → String
  | unknownName _ => "KeyError"
  | noPosition _ => "IndexError"
  | noItem refusal => refusal.className
  | noAttribute .. => "AttributeError"
  | noLayout _ => "TypeError"
  | _ => "ValueError"

end Fault

/-! ## Layout of a field -/

/-- How the text of a field is laid out. -/
structure Layout where
  /-- What fills the width. -/
  fill : Char := ' '
  /-- `<`, `>` or `^`; `=` is for numbers alone. -/
  alignment : Char := '<'
  /-- A sign option, which texts do not have. -/
  sign : Option Char := none
  /-- The option that makes a negative zero positive, which texts do not have. -/
  positiveZero : Bool := false
  /-- The alternate form, which texts do not have. -/
  alternate : Bool := false
  /-- The least count of characters. -/
  width : Option Nat := none
  /-- A separator of thousands, which texts do not have. -/
  separator : Option Char := none
  /-- The greatest count of characters taken from the text. -/
  precision : Option Nat := none
  /-- The kind of presentation; `s` is for texts. -/
  kind : Char := 's'

/-- The alignment characters. -/
def isAlignment (c : Char) : Bool := c == '<' || c == '>' || c == '=' || c == '^'

/-- The greatest index and width that can be written. -/
def maxIndex : Nat := 9223372036854775807

/-- The number at the front of a text, if a digit stands there. -/
def leadingNumber (s : List Char) : Except Fault (Option Nat × List Char) :=
  let digits := s.takeWhile fun c => (digitValue? c).isSome
  let n := digits.foldl (fun n c => 10 * n + (digitValue? c).getD 0) 0
  if digits.isEmpty then .ok (none, s)
  else if n > maxIndex then .error .tooManyDigits
  else .ok (some n, s.dropWhile fun c => (digitValue? c).isSome)

/-- Fill and alignment. -/
def Layout.takeAlignment (l : Layout) : List Char → Layout × List Char × Bool
  | c :: d :: rest =>
    if isAlignment d then ({ l with fill := c, alignment := d }, rest, true)
    else if isAlignment c then ({ l with alignment := c }, d :: rest, false)
    else (l, c :: d :: rest, false)
  | [c] => if isAlignment c then ({ l with alignment := c }, [], false) else (l, [c], false)
  | [] => (l, [], false)

/-- Sign, positive zero and alternate form. -/
def Layout.takeOptions (l : Layout) (s : List Char) : Layout × List Char :=
  let (l, s) := match s with
    | ' ' :: rest => ({ l with sign := some ' ' }, rest)
    | '+' :: rest => ({ l with sign := some '+' }, rest)
    | '-' :: rest => ({ l with sign := some '-' }, rest)
    | rest => (l, rest)
  let (l, s) := match s with
    | 'z' :: rest => ({ l with positiveZero := true }, rest)
    | rest => (l, rest)
  match s with
  | '#' :: rest => ({ l with alternate := true }, rest)
  | rest => (l, rest)

/-- Separators of thousands. -/
def Layout.takeSeparator (l : Layout) (s : List Char) : Except Fault (Layout × List Char) :=
  match s with
  | ',' :: '_' :: _ => .error .bothSeparators
  | '_' :: ',' :: _ => .error .bothSeparators
  | ',' :: rest => .ok ({ l with separator := some ',' }, rest)
  | '_' :: rest => .ok ({ l with separator := some '_' }, rest)
  | rest => .ok (l, rest)

/-- Precision. -/
def Layout.takePrecision (l : Layout) (s : List Char) : Except Fault (Layout × List Char) :=
  match s with
  | '.' :: rest => do
    match ← leadingNumber rest with
    | (some n, rest) => .ok ({ l with precision := some n }, rest)
    | (none, _) => .error .precisionMissing
  | rest => .ok (l, rest)

/-- Reads a layout. -/
def Layout.read (text : List Char) : Except Fault Layout := do
  let (l, s, filled) := Layout.takeAlignment {} text
  let (l, s) := l.takeOptions s
  let (l, s) := match s with
    | '0' :: rest => if filled then (l, s) else ({ l with fill := '0' }, rest)
    | rest => (l, rest)
  let (width, s) ← leadingNumber s
  let (l, s) ← Layout.takeSeparator { l with width } s
  let (l, s) ← l.takePrecision s
  let l ← match s with
    | [] => .ok l
    | [kind] => .ok { l with kind }
    | _ => .error (.layoutInvalid (String.ofList text))
  match l.separator with
  | none => return l
  | some separator =>
    if "defgEG%F\x00".toList.contains l.kind then return l
    else if separator == '_' && "boxX".toList.contains l.kind then return l
    else .error (.separatorWith separator l.kind)

/-- Lays a text out. -/
def Layout.apply (l : Layout) (s : List Char) : Except Fault (List Char) :=
  if l.kind != 's' then .error (.unknownKind l.kind)
  else if l.sign = some ' ' then .error .spaceNotAllowed
  else if l.sign.isSome then .error .signNotAllowed
  else if l.positiveZero then .error .zeroNotAllowed
  else if l.alternate then .error .alternateNotAllowed
  else if l.alignment = '=' then .error .innerAlignment
  else
    let s := match l.precision with
      | some n => s.take n
      | none => s
    let gap := l.width.getD 0 - s.length
    let before := if l.alignment = '>' then gap else if l.alignment = '^' then gap / 2 else 0
    .ok (List.replicate before l.fill ++ s ++ List.replicate (gap - before) l.fill)

/-! ## Fields -/

/-- Reads the name of a field up to the character that ends it.  Between brackets every character
belongs to the name. -/
def scanName (inBrackets : Bool) : List Char → Except Fault (List Char × Char × List Char)
  | [] => .error .fieldOpen
  | c :: rest =>
    if inBrackets then do
      let (name, stop, rest) ← scanName (c != ']') rest
      return (c :: name, stop, rest)
    else if c = '{' then .error .braceInName
    else if c = '}' || c = ':' || c = '!' then .ok ([], c, rest)
    else do
      let (name, stop, rest) ← scanName (c == '[') rest
      return (c :: name, stop, rest)

/-- How many braces are open after one more character. -/
def nesting (depth : Nat) (c : Char) : Nat :=
  if c = '{' then depth + 1 else if c = '}' then depth - 1 else depth

/-- Reads a layout up to the brace that closes the field; `depth` counts the braces open inside. -/
def scanLayout (depth : Nat) : List Char → Except Fault (List Char × List Char)
  | [] => .error .layoutOpen
  | c :: rest =>
    if c = '}' && depth = 0 then .ok ([], rest)
    else do
      let (layout, rest) ← scanLayout (nesting depth c) rest
      return (c :: layout, rest)

/-- A replacement field. -/
structure Field where
  /-- What is shown. -/
  name : List Char
  /-- How it is converted first. -/
  conversion : Option Char
  /-- How it is laid out. -/
  layout : List Char

/-- Reads a field whose opening brace has been read already. -/
def Field.scan (s : List Char) : Except Fault (Field × List Char) := do
  let (name, stop, rest) ← scanName false s
  if stop = '}' then return (⟨name, none, []⟩, rest)
  else if stop = ':' then
    let (layout, rest) ← scanLayout 0 rest
    return (⟨name, none, layout⟩, rest)
  else match rest with
    | [] => .error .conversionMissing
    | c :: '}' :: rest => return (⟨name, some c, []⟩, rest)
    | c :: ':' :: rest => do
      let (layout, rest) ← scanLayout 0 rest
      return (⟨name, some c, layout⟩, rest)
    | [_] => .error .layoutOpen
    | _ :: _ :: _ => .error .conversionFollowed

/-- A number written out in full, if the text is one. -/
def wholeNumber? (s : List Char) : Except Fault (Option Nat) := do
  match ← leadingNumber s with
  | (some n, []) => return some n
  | _ => return none

/-- Follows the part of a name after the text it starts from: an index in brackets picks an item,
and a name after a point picks another part. -/
def pick (value : Facet) (s : List Char) : Except Fault Facet :=
  match s with
  | [] => .ok value
  | '.' :: rest =>
    let name := rest.takeWhile fun c => c != '.' && c != '['
    if name.isEmpty then .error .emptyAttribute
    else match value.attribute? (String.ofList name) with
      | none => .error (.noAttribute value.owner (String.ofList name))
      | some part => pick part (rest.dropWhile fun c => c != '.' && c != '[')
  | '[' :: rest =>
    match _h : rest.dropWhile (· != ']') with
    | [] => .error .bracketOpen
    | _ :: more =>
      let index := rest.takeWhile (· != ']')
      if index.isEmpty then .error .emptyAttribute
      else match wholeNumber? index with
        | .error fault => .error fault
        | .ok index => match value.item index with
          | .error refusal => .error (.noItem refusal)
          | .ok part => pick part more
  | _ => .error .afterBracket
termination_by s.length
decreasing_by
  · have := length_dropWhile_le (fun c => c != '.' && c != '[') rest
    simp only [List.length_cons]
    omega
  · have := length_lt_of_dropWhile_eq_cons _h
    simp only [List.length_cons]
    omega

/-- What a field shows before it is converted. -/
def lookUp (texts : List (String × String)) (name : List Char) : Except Fault Facet := do
  let first := name.takeWhile fun c => c != '.' && c != '['
  let rest := name.dropWhile fun c => c != '.' && c != '['
  let position ← if first.isEmpty then pure (some 0) else wholeNumber? first
  match position with
  | some index => .error (.noPosition index)
  | none => match texts.lookup (String.ofList first) with
    | none => .error (.unknownName (String.ofList first))
    | some text => pick (.text text.toList) rest

/-- Converts what a field shows before it is laid out. -/
def convert (value : Facet) : Option Char → Except Fault Facet
  | none | some '\x00' => .ok value
  | some 's' => .ok (.text value.plain)
  | some 'r' => .ok (.text value.quoted.toList)
  | some 'a' => .ok (.text (inAscii value.quoted.toList))
  | some c => .error (.unknownConversion c)

/-- What a field shows, in its layout.  Only texts have one. -/
def layOut (value : Facet) (layout : List Char) : Except Fault (List Char) :=
  if layout.isEmpty then .ok value.plain
  else match value with
    | .text s => do (← Layout.read layout).apply s
    | value => .error (.noLayout value.typeName)

/-! ## A field is shorter than the template it stands in -/

theorem length_lt_of_scanName {inBrackets : Bool} {s name rest : List Char} {stop : Char}
    (h : scanName inBrackets s = .ok (name, stop, rest)) : rest.length < s.length := by
  induction s generalizing inBrackets name with
  | nil => simp [scanName] at h
  | cons c s ih =>
    have step : ∀ {b : Bool}, (do
        let (name, stop, rest) ← scanName b s
        return (c :: name, stop, rest) : Except Fault _) = .ok (name, stop, rest) →
        rest.length < (c :: s).length := by
      intro b hb
      match hs : scanName b s with
      | .error _ => rw [hs] at hb; cases hb
      | .ok (n, t, r) =>
        rw [hs] at hb
        cases hb
        exact Nat.lt_succ_of_lt (ih hs)
    rw [scanName] at h
    split at h
    · exact step h
    · split at h
      · cases h
      · split at h
        · cases h; simp
        · exact step h

theorem length_lt_of_scanLayout {depth : Nat} {s layout rest : List Char}
    (h : scanLayout depth s = .ok (layout, rest)) : rest.length < s.length := by
  induction s generalizing depth layout with
  | nil => simp [scanLayout] at h
  | cons c s ih =>
    rw [scanLayout] at h
    split at h
    · cases h; simp
    · match hs : scanLayout (nesting depth c) s with
      | .error _ => rw [hs] at h; cases h
      | .ok (n, r) =>
        rw [hs] at h
        cases h
        exact Nat.lt_succ_of_lt (ih hs)

theorem length_lt_of_scan {s rest : List Char} {field : Field}
    (h : Field.scan s = .ok (field, rest)) : rest.length < s.length := by
  rw [Field.scan] at h
  match hn : scanName false s with
  | .error _ => rw [hn] at h; cases h
  | .ok (name, stop, r) =>
    have short := length_lt_of_scanName hn
    rw [hn] at h
    have layout : ∀ {t : List Char} {c : Option Char}, t.length ≤ r.length → (do
        let (l, rest) ← scanLayout 0 t
        return ((⟨name, c, l⟩ : Field), rest) : Except Fault _) = .ok (field, rest) →
        rest.length < s.length := by
      intro t c ht hl
      match hs : scanLayout 0 t with
      | .error _ => rw [hs] at hl; cases hl
      | .ok (l, q) =>
        rw [hs] at hl
        cases hl
        have := length_lt_of_scanLayout hs
        omega
    simp only [bind, Except.bind] at h
    split at h
    · cases h; exact short
    · split at h
      · exact layout (Nat.le_refl _) h
      · split at h
        · cases h
        · cases h; simp only [List.length_cons] at short; omega
        · exact layout (by simp only [List.length_cons]; omega) h
        · cases h
        · cases h

/-! ## Filling in -/

/-- Fills in the fields of a template.  Layouts may contain fields down to `depth` levels. -/
def renderWithin (texts : List (String × String)) (depth : Nat) (s : List Char) :
    Except Fault (List Char) :=
  match depth with
  | 0 => .error .tooDeep
  | depth + 1 =>
    match s with
    | [] => .ok []
    | '{' :: '{' :: rest => return '{' :: (← renderWithin texts (depth + 1) rest)
    | '}' :: '}' :: rest => return '}' :: (← renderWithin texts (depth + 1) rest)
    | '}' :: _ => .error (.singleBrace '}')
    | ['{'] => .error (.singleBrace '{')
    | '{' :: rest =>
      match _h : Field.scan rest with
      | .error fault => .error fault
      | .ok (field, more) => do
        let value ← convert (← lookUp texts field.name) field.conversion
        let layout ←
          if field.layout.contains '{' then renderWithin texts depth field.layout
          else .ok field.layout
        let shown ← layOut value layout
        return shown ++ (← renderWithin texts (depth + 1) more)
    | c :: rest => return c :: (← renderWithin texts (depth + 1) rest)
termination_by (depth, s.length)
decreasing_by
  all_goals first
    | exact Prod.Lex.left _ _ (Nat.lt_succ_self _)
    | (apply Prod.Lex.right
       first
        | (have short := length_lt_of_scan _h; simp only [List.length_cons]; omega)
        | (simp only [List.length_cons]; omega))

/-- The filled-in text.  A field's layout may contain fields, and theirs may not. -/
def render (texts : List (String × String)) (template : String) : Except Fault String :=
  (renderWithin texts 2 template.toList).map String.ofList

end CommandPalette.Text.Template
