import CommandPalette.Number.Reader
import CommandPalette.Path
import CommandPalette.Settings.Problem
import CommandPalette.Text.Run

/-!
# Rules for the values of fields

Settings come from files, from the environment and from the host, so a rule is generous: an integer
may be given as a text, a truth value as a word.

* `Rule`: what a value has to be, and what it then means.
* `Rule.text`, `Rule.flag`, `Rule.level`, `Rule.count`: the types of fields.
* `Rule.oneToken`, `Rule.keyTemplate`, `Rule.filePath`: the rules of single fields.
* `field`: a field of a section by its rule.
-/

namespace CommandPalette.Settings

open CommandPalette.Number CommandPalette.Text

/-- What a value has to be, and what it then means. -/
abbrev Rule (α : Type) := Value → Checked α

namespace Rule

/-- A text. -/
def text : Rule String
  | .text s => .ok s
  | v => .complain .notText v

/-- A text that is not empty. -/
def someText : Rule String := fun v =>
  (text v).andThen fun s => if s.isEmpty then .complain .emptyText v else .ok s

/-- The words for true, and those for false. -/
def trueWords : List String := ["1", "on", "t", "true", "y", "yes"]

@[inherit_doc trueWords]
def falseWords : List String := ["0", "off", "f", "false", "n", "no"]

/-- The truth value of a word, whatever the case of its letters. -/
def readFlag? (s : String) : Option Bool :=
  let word := String.ofList (s.toList.map Char.toLower)
  if trueWords.contains word then some true
  else if falseWords.contains word then some false
  else none

/-- The truth value of a number. -/
def numberFlag? : Int → Option Bool
  | 0 => some false
  | 1 => some true
  | _ => none

/-- The bound on the integers that fit in one word of the machine. -/
def wordBound : Int := twoTo 63

/-- A truth value.  An integer that does not fit in a word is not taken for one. -/
def flag : Rule Bool
  | .bool b => .ok b
  | v@(.text s) => match readFlag? s with
    | some b => .ok b
    | none => .complain .unreadableFlag v
  | v@(.int n) => match numberFlag? n with
    | some b => .ok b
    | none => .complain (if -wordBound ≤ n ∧ n < wordBound then .unreadableFlag else .notFlag) v
  | v@(.float x) => match x.toInt? with
    | none => .complain .notFlag v
    | some n => match numberFlag? n with
      | some b => .ok b
      | none => .complain (if -wordBound < n ∧ n < wordBound then .unreadableFlag else .notFlag) v
  | v => .complain .notFlag v

/-- A level of the log. -/
def level : Rule Log.Level := fun v =>
  match v with
  | .text s => match Log.Level.ofName? s with
    | some level => .ok level
    | none => .complain .unknownLevel v
  | _ => .complain .unknownLevel v

/-! ## Integers as texts -/

/-- The integer that an optional minus sign and digits denote; no digit is a superfluous zero.  Signs
and digits beyond a number of characters are too many, whatever follows them. -/
def readStrict (s : List Char) : Except Complaint Int :=
  let (negative, body) := match s with
    | '-' :: rest => (true, rest)
    | _ => (false, s)
  let digits := body.takeWhile Char.isDigit
  let isPadded := digits.head? == some '0' && digits.length > 1
  if digits.isEmpty || isPadded then .error .unreadableInteger
  else if (if negative then 1 else 0) + digits.length > maxIntDigits then .error .longInteger
  else if digits.length < body.length then .error .unreadableInteger
  else
    let n : Int := ofDigits 10 (digits.map fun c => c.toNat - '0'.toNat)
    .ok (if negative then -n else n)

/-- A text without its leading zeros and the underscores among them.  One character of them stays
where nothing else would, and before a point. -/
def dropZeros : List Char → List Char
  | '0' :: rest =>
    match rest.dropWhile fun c => c == '0' || c == '_' with
    | [] => [rest.getLastD '0']
    | '.' :: fraction => (('0' :: rest).takeWhile (· != '.')).getLastD '0' :: '.' :: fraction
    | body => body
  | s => s

/-- A text without a fraction of zeros. -/
def dropFraction (s : List Char) : List Char :=
  match s.dropWhile (· != '.') with
  | '.' :: '0' :: fraction => if fraction.all (· == '0') then s.takeWhile (· != '.') else s
  | _ => s

/-- Whether every underscore of a text stands between two digits; `isAfterDigit` tells whether a
digit stands before the text. -/
def underscoresApart (isAfterDigit : Bool) : List Char → Bool
  | [] => true
  | '_' :: rest => isAfterDigit && rest.head?.any Char.isDigit && underscoresApart false rest
  | c :: rest => underscoresApart c.isDigit rest

/-- A text without its underscores, where each of them stands between two digits. -/
def dropUnderscores (s : List Char) : List Char :=
  if underscoresApart false s then s.filter (· != '_') else s

/-- A text without what does not matter in an integer: blanks around it, a plus sign, leading zeros,
a fraction of zeros and underscores. -/
def tidyInteger (s : List Char) : List Char :=
  let tidy := fun body => dropUnderscores (dropFraction (dropZeros body))
  match unpad s with
  | '+' :: '-' :: rest => '+' :: '-' :: rest
  | '+' :: rest => tidy rest
  | '-' :: rest => '-' :: tidy rest
  | body => tidy body

/-- The integer that a text denotes.  A text with too many digits is only told from one that is no
integer if it has nothing else in it. -/
def readInteger (s : String) : Except Complaint Int :=
  match readStrict s.toList with
  | .error .unreadableInteger =>
    (readStrict (tidyInteger s.toList)).mapError fun _ => .unreadableInteger
  | outcome => outcome

/-- An integer.  A double counts as one if it denotes an integer that fits in a word. -/
def integer : Rule Int
  | .int n => .ok n
  | .bool b => .ok (Value.ofBool b)
  | v@(.text s) => match readInteger s with
    | .ok n => .ok n
    | .error complaint => .complain complaint v
  | v@(.float x) => match x.toInt? with
    | some n => if -wordBound < n ∧ n < wordBound then .ok n else .complain .longInteger v
    | none => .complain (if x.isSpecial then .notFinite else .fractional) v
  | v => .complain .notInteger v

/-- An integer between two limits. -/
def count (least greatest : Int) : Rule Int := fun v =>
  (integer v).andThen fun n =>
    if n > greatest then .complain (.above greatest) v
    else if n < least then .complain (.below least) v
    else .ok n

/-! ## Single fields -/

/-- The name of the catch-all command: one token without blanks around it. -/
def oneToken : Rule String := fun v =>
  (someText v).andThen fun s =>
    if (tokens s).length = 1 && s == strip s then .ok s
    else .complain (.rule "default_command must be a single whitespace-free token") v

/-- The template of jump codes: the place of the code is in it. -/
def keyTemplate : Rule String := fun v =>
  (text v).andThen fun s =>
    if holds "\x7bkey\x7d".toList s.toList then .ok s
    else .complain (.rule "key_format must contain the '\x7bkey\x7d' placeholder") v

/-- The path of a file, or nothing; a leading tilde stands for the home directory. -/
def filePath (home : String) : Rule (Option String) := fun v =>
  match v with
  | .null => .ok none
  | _ => (text v).andThen fun s => match (Path.ofText s).expandHome home with
    | .ok path => .ok (some path.text)
    | .error (.foreign "ValueError" words) => .complain (.rule words) v
    | .error fault => .fault fault

end Rule

/-- A field of a section; a field that is not there has its default. -/
def field {α : Type} (entries : List (Value × Value)) (name : String) (rule : Rule α)
    (default : α) : Checked α :=
  match Value.lookup? (.text name) entries with
  | none => .ok default
  | some v => (rule v).within name

end CommandPalette.Settings
