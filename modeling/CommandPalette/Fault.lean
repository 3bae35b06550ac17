import CommandPalette.Value.Show
import CommandPalette.Text.Percent
import CommandPalette.Text.Template

/-!
# Faults

Everything that can go wrong between an input line and its answer.  Faults that input or a failing
callback brings about are values that the host receives; a malformed declaration is refused when it
is registered.  Every fault has a wording: faults that fail when they are put in words are left out, and so
are classes of a host that inherit from several others.

* `Fault.Kind`: the library's own kinds of fault.
* `Fault`: a fault by its cause.
* `Fault.className`, `Fault.message`, `Fault.details`, `Fault.cause?`: what the host sees of it.
* `Fault.rootName`: the class that decides how it is treated.
* `Fault.ofName`: the faults that callbacks raise, by name.
* `Value.write`, `Value.checkKey`: what values can be refused for.
-/

namespace CommandPalette

open CommandPalette.Text

namespace Fault

/-- The library's own kinds of fault. -/
inductive Kind where
  | general
  | prefixMismatch
  | noCommandMatched
  | providerRejected
  | malformedMotionToken
  | commandAction
  | configuration
  | validation
  deriving DecidableEq, Repr, Inhabited

/-- All kinds. -/
def Kind.all : List Kind :=
  [general, prefixMismatch, noCommandMatched, providerRejected, malformedMotionToken, commandAction,
    configuration, validation]

/-- The name of a kind. -/
def Kind.name : Kind → String
  | general => "OmniCLIError"
  | prefixMismatch => "PrefixMismatchError"
  | noCommandMatched => "NoCommandMatchedError"
  | providerRejected => "ProviderRejectedError"
  | malformedMotionToken => "MalformedMotionTokenError"
  | commandAction => "CommandActionError"
  | configuration => "ConfigurationError"
  | validation => "ValidationError"

/-- The kind of a name. -/
def Kind.ofName? (s : String) : Option Kind := all.find? (·.name == s)

end Fault

/-- What went wrong. -/
inductive Fault where
  /-- A fault of no kind of ours that a callback raised: its class and its text. -/
  | foreign (className text : String)
  /-- A fault in a source text that a callback raised: its class, and its text if it has one. -/
  | badSource (className : String) (text : Option String)
  /-- A fault of one of our kinds that a callback raised. -/
  | own (kind : Fault.Kind) (text : String)
  /-- A fault of a class that a host declared: the name of the class, and the fault that it is but for this
  name, whose class it inherits from. -/
  | derived (className : String) (parent : Fault)
  /-- The input lacks the text that every command line starts with. -/
  | prefixMismatch (expected text : String)
  /-- No registered path starts the input, and there is no catch-all. -/
  | noCommandMatched (text : String) (tokens : List String)
  /-- A suggestion provider failed. -/
  | providerRejected (operation : String) (reason : Fault)
  /-- An action failed. -/
  | actionFailed (operation : String) (reason : Fault)
  /-- A chain was read as one that starts with another kind of token. -/
  | malformedToken (first : String) (complaint : String)
  /-- A declaration was refused. -/
  | invalid (complaint : String)
  /-- A check of an input failed for another reason. -/
  | checkFailed (field : String) (reason : Fault)
  /-- Settings could not be loaded. -/
  | configuration (complaint : String) (reason : Option Fault)
  /-- A value that is no sequence was gone through. -/
  | notIterable (type : String)
  /-- A part was asked for that the value does not have. -/
  | noField (type field : String)
  /-- The length was asked for of a value that has none. -/
  | noLength (type : String)
  /-- A mapping lacks a key. -/
  | missingKey (key : String)
  /-- An item of a suggestion list is no suggestion. -/
  | notSuggestion (type : String)
  /-- An operation is not defined on values of two types. -/
  | noOperation (sign left right : String)
  /-- A value has no text, since an integer of it has too many digits. -/
  | longInteger
  /-- A template could not be filled in. -/
  | template (fault : Text.Template.Fault)
  /-- A text with directives could not be filled in. -/
  | percent (fault : Text.Percent.Fault)
  deriving Repr, Inhabited

namespace Fault

/-- The class under which the host sees a fault. -/
def className : Fault → String
  | foreign name _ => name
  | badSource name _ => name
  | own kind _ => kind.name
  | derived name _ => name
  | prefixMismatch .. => Kind.prefixMismatch.name
  | noCommandMatched .. => Kind.noCommandMatched.name
  | providerRejected .. => Kind.providerRejected.name
  | actionFailed .. => Kind.commandAction.name
  | malformedToken .. => Kind.malformedMotionToken.name
  | invalid _ | checkFailed .. => Kind.validation.name
  | configuration .. => Kind.configuration.name
  | notIterable _ | noLength _ | notSuggestion _ | noOperation .. => "TypeError"
  | noField .. => "AttributeError"
  | missingKey _ => "KeyError"
  | longInteger => "ValueError"
  | template fault => fault.className
  | percent fault => fault.className

/-- The class that the class of a fault inherits from, through any number of classes of a host. -/
def rootName : Fault → String
  | derived _ parent => parent.rootName
  | fault => fault.className

/-- The wording of a fault. -/
def message : Fault → String
  | foreign _ text => text
  | badSource _ text => text.getD "None"
  | own _ text => text
  | derived _ parent => parent.message
  | prefixMismatch expected _ => s!"the given input does not match the prefix '{expected}'"
  | noCommandMatched .. => "no command matched for the given input"
  | providerRejected operation reason => s!"{operation} failed: {reason.message}"
  | actionFailed operation reason => s!"{operation} failed: {reason.message}"
  | malformedToken first complaint => s!"'{first}' {complaint}"
  | invalid complaint => complaint
  | checkFailed field reason => s!"{field} validation failed: {reason.message}"
  | configuration complaint _ => complaint
  | notIterable type => s!"'{type}' object is not iterable"
  | noField type field => s!"'{type}' object has no attribute '{field}'"
  | noLength type => s!"object of type '{type}' has no len()"
  | missingKey key => quote key
  | notSuggestion type => s!"expected a Suggestion, got {type}"
  | noOperation sign left right =>
    s!"unsupported operand type(s) for {sign}: '{left}' and '{right}'"
  | longInteger =>
    s!"Exceeds the limit ({Value.maxDigits} digits) for integer string conversion; " ++
      "use sys.set_int_max_str_digits() to increase the limit"
  | template fault => fault.message
  | percent fault => fault.message

/-- What a fault records besides its wording. -/
def details : Fault → List (String × Value)
  | prefixMismatch expected text => [("text", .text text), ("prefix", .text expected)]
  | noCommandMatched text tokens => [("text", .text text), ("tokens", .list (tokens.map .text))]
  | providerRejected _ reason | actionFailed _ reason =>
    [("error_type", .text reason.className), ("original_error", .text reason.message)]
  | derived _ parent => parent.details
  | _ => []

/-- The fault that brought this one about. -/
def cause? : Fault → Option Fault
  | providerRejected _ reason | actionFailed _ reason | checkFailed _ reason => some reason
  | configuration _ reason => reason
  | derived _ parent => parent.cause?
  | _ => none

/-- Classes that stop a program or a call rather than report a failure; nothing here holds them
back. -/
def stopClasses : List String :=
  ["CancelledError", "KeyboardInterrupt", "SystemExit", "GeneratorExit", "BaseException",
    "BaseExceptionGroup"]

/-- Whether a fault reports a failure, so that it may be contained. -/
def isFailure (fault : Fault) : Bool := !stopClasses.contains fault.rootName

/-- Whether a fault says that the call was cancelled. -/
def isCancellation (fault : Fault) : Bool := fault.rootName == "CancelledError"

/-- Whether a fault says that an iterator is exhausted. -/
def isExhausted (fault : Fault) : Bool := fault.rootName == "StopIteration"

/-- Whether a fault is of one of our kinds. -/
def isOwn : Fault → Bool
  | own .. | prefixMismatch .. | noCommandMatched .. | providerRejected .. | actionFailed ..
  | malformedToken .. | invalid _ | checkFailed .. | configuration .. => true
  | derived _ parent => parent.isOwn
  | _ => false

/-- Whether a fault says that a provider was rejected. -/
def isRejection : Fault → Bool
  | own .providerRejected _ | providerRejected .. => true
  | derived _ parent => parent.isRejection
  | _ => false

/-- A fault in one line, as reports show it below the line that it belongs to; `name` is its class
with what stands before it there. -/
def report (fault : Fault) (name : String) : String :=
  match fault with
  | derived _ parent => parent.report name
  | badSource _ text =>
    name ++ ": " ++ (text.filter (!·.isEmpty)).getD "<no detail available>"
  | fault => if fault.message.isEmpty then name else name ++ ": " ++ fault.message

/-! ## Faults by name -/

/-- The classes of faults in a source text. -/
def sourceClasses : List String := ["SyntaxError", "IndentationError", "TabError"]

/-- The classes whose faults say more than a text can, with the start of the complaint about a text
alone. -/
def detailedClasses : List (String × String) :=
  [("UnicodeDecodeError", "function takes exactly 5"),
    ("UnicodeEncodeError", "function takes exactly 5"),
    ("UnicodeTranslateError", "function takes exactly 4"),
    ("ExceptionGroup", "BaseExceptionGroup.__new__() takes exactly 2"),
    ("BaseExceptionGroup", "BaseExceptionGroup.__new__() takes exactly 2")]

/-- The fault with a class and a text, or the fault that there is no such fault.  A missing key is
reported by its quoted form, as every missing key is. -/
def ofName (className : String) (text : Option String) : Except Fault Fault :=
  match Kind.ofName? className with
  | some kind => .ok (own kind (text.getD ""))
  | none =>
    if let some complaint := detailedClasses.lookup className then
      let given := if text.isSome then 1 else 0
      .error (foreign "TypeError" s!"{complaint} arguments ({given} given)")
    else if sourceClasses.contains className then .ok (badSource className text)
    else .ok <| match className, text with
      | "KeyError", some key => missingKey key
      | "IOError", text => foreign "OSError" (text.getD "")
      | "EnvironmentError", text => foreign "OSError" (text.getD "")
      | name, text => foreign name (text.getD "")

/-- The fault that comes of raising the one with a class and a text. -/
def raised (className : String) (text : Option String) : Fault :=
  match ofName className text with
  | .ok fault => fault
  | .error fault => fault

end Fault

namespace Value

/-- The text of a value by itself, or the fault that it has none. -/
def write (v : Value) : Except Fault String :=
  match v.plain? with
  | some s => .ok s
  | none => .error .longInteger

/-- Refuses a value that cannot be looked up, which a list or a table cannot. -/
def checkKey : Value → Except Fault Unit
  | v@(list _) | v@(table _) => .error (.foreign "TypeError" s!"unhashable type: '{v.typeName}'")
  | _ => .ok ()

end Value

end CommandPalette
