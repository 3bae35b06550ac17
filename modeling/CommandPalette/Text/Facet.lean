import CommandPalette.Text.Quoted

/-!
# What a text tells about itself

A field of a template may ask for more than a text: for its type, for what the type is documented
with, and for parts of those.  The parts that differ from one run to the next, such as the address of a
function, are left out.

* `Facet`: what a field can show.
* `Facet.attribute?`, `Facet.item`: the parts of a facet.
* `Facet.plain`, `Facet.quoted`: the text of a facet.
-/

namespace CommandPalette.Text

/-- What a field of a template can show. -/
inductive Facet where
  | text (s : List Char)
  /-- A type by its name. -/
  | type (name : String)
  /-- A function by its name, of one text or of all. -/
  | function (name : String) (owner : Option (List Char))
  /-- An operator by its name, of one text or of all. -/
  | operator (name : String) (owner : Option (List Char))
  | group (items : List Facet)
  | nothing
  deriving Inhabited, Repr

namespace Facet

/-- Why a facet has no such item. -/
inductive Refusal where
  /-- The index is beyond the last item. -/
  | beyond (kind : String)
  /-- An item was asked for by a name. -/
  | nameAsIndex (kind : String)
  /-- There are no items at all. -/
  | noItems (owner : String)
  deriving DecidableEq, Repr

/-- A refusal in words. -/
def Refusal.message : Refusal → String
  | beyond "str" => "string index out of range"
  | beyond kind => s!"{kind} index out of range"
  | nameAsIndex "str" => "string indices must be integers, not 'str'"
  | nameAsIndex kind => s!"{kind} indices must be integers or slices, not str"
  | noItems owner => s!"{owner} is not subscriptable"

/-- The class under which a refusal is known. -/
def Refusal.className : Refusal → String
  | beyond _ => "IndexError"
  | _ => "TypeError"

/-- The name of a facet's own type. -/
def typeName : Facet → String
  | text _ => "str"
  | type _ => "type"
  | function _ (some _) => "builtin_function_or_method"
  | function _ none => "method_descriptor"
  | operator _ (some _) => "method-wrapper"
  | operator _ none => "wrapper_descriptor"
  | group _ => "tuple"
  | nothing => "NoneType"

/-- What the types are documented with. -/
def typeTexts : List (String × String) :=
  [("str",
    "str(object='') -> str\nstr(bytes_or_buffer[, encoding[, errors]]) -> str\n\n" ++
    "Create a new string object from the given object. If encoding or\n" ++
    "errors is specified, then the object must expose a data buffer\n" ++
    "that will be decoded using the given encoding and error handler.\n" ++
    "Otherwise, returns the result of object.__str__() (if defined)\nor repr(object).\n" ++
    "encoding defaults to sys.getdefaultencoding().\nerrors defaults to 'strict'."),
  ("type",
    "type(object) -> the object's type\ntype(name, bases, dict, **kwds) -> a new type"),
  ("object",
    "The base class of the class hierarchy.\n\n" ++
    "When called, it accepts no arguments and returns a new featureless\n" ++
    "instance that has no instance attributes and cannot be given any.\n"),
  ("tuple",
    "Built-in immutable sequence.\n\nIf no argument is given, the constructor returns an empty tuple.\n" ++
    "If iterable is specified the tuple is initialized from iterable's items.\n\n" ++
    "If the argument is a tuple, the return value is the same object.")]

/-- What a type is documented with. -/
def documentation (typeName : String) : Facet :=
  match typeTexts.lookup typeName with
  | some s => text s.toList
  | none => nothing

/-- The functions of a text. -/
def functionNames : List String :=
  ["__dir__", "__format__", "__getnewargs__", "__getstate__", "__reduce__", "__reduce_ex__",
    "__sizeof__", "capitalize", "casefold", "center", "count", "encode", "endswith", "expandtabs",
    "find", "format", "format_map", "index", "isalnum", "isalpha", "isascii", "isdecimal",
    "isdigit", "isidentifier", "islower", "isnumeric", "isprintable", "isspace", "istitle",
    "isupper", "join", "ljust", "lower", "lstrip", "maketrans", "partition", "removeprefix",
    "removesuffix", "replace", "rfind", "rindex", "rjust", "rpartition", "rsplit", "rstrip", "split",
    "splitlines", "startswith", "strip", "swapcase", "title", "translate", "upper", "zfill"]

/-- The operators of a text. -/
def operatorNames : List String :=
  ["__add__", "__contains__", "__delattr__", "__eq__", "__ge__", "__getattribute__", "__getitem__",
    "__gt__", "__hash__", "__init__", "__iter__", "__le__", "__len__", "__lt__", "__mod__", "__mul__",
    "__ne__", "__repr__", "__rmod__", "__rmul__", "__setattr__", "__str__"]

/-- Functions and operators that not only texts have. -/
def generalNames : List String :=
  ["__delattr__", "__dir__", "__getstate__", "__init__", "__reduce__", "__reduce_ex__", "__setattr__"]

/-- The name of the type from which texts have a function or an operator. -/
def origin (name : String) : String := if generalNames.contains name then "object" else "str"

/-- The function or the operator of a name, of one text or of all. -/
def member? (name : String) (owner : Option (List Char)) : Option Facet :=
  if functionNames.contains name then some (function name owner)
  else if operatorNames.contains name then some (operator name owner)
  else none

/-- A name as a facet. -/
def ofName (s : String) : Facet := text s.toList

/-- The part of a facet with a name. -/
def attribute? (f : Facet) (name : String) : Option Facet :=
  match f, name with
  | type "type", "__class__" => some (type "type")
  | type "object", "__base__" => some nothing
  | type "object", "__bases__" => some (group [])
  | type "object", "__mro__" => some (group [type "object"])
  | type _, "__base__" => some (type "object")
  | type _, "__bases__" => some (group [type "object"])
  | type t, "__mro__" => some (group [type t, type "object"])
  | type t, "__name__" | type t, "__qualname__" => some (ofName t)
  | type _, "__module__" => some (ofName "builtins")
  | type t, "__doc__" => some (documentation t)
  | function t _, "__name__" | operator t _, "__name__" => some (ofName t)
  | function t (some _), "__qualname__" => some (ofName ("str." ++ t))
  | function t none, "__qualname__" | operator t _, "__qualname__" =>
    some (ofName (origin t ++ "." ++ t))
  | function t none, "__objclass__" | operator t _, "__objclass__" => some (type (origin t))
  | function _ (some s), "__self__" | operator _ (some s), "__self__" => some (text s)
  | function _ (some _), "__module__" => some nothing
  | function .., "__doc__" | operator .., "__doc__" => none
  | f, "__class__" => some (type f.typeName)
  | f, "__doc__" => some (documentation f.typeName)
  | text s, name => member? name (some s)
  | type "str", name => member? name none
  | _, _ => none

/-- A facet in a complaint about it. -/
def owner : Facet → String
  | type t => s!"type object '{t}'"
  | f => s!"'{f.typeName}' object"

/-- The item of a facet at an index; `none` stands for a name in place of an index. -/
def item (f : Facet) (index : Option Nat) : Except Refusal Facet :=
  let among (items : List Facet) : Except Refusal Facet :=
    match index with
    | none => .error (.nameAsIndex f.typeName)
    | some i => match items[i]? with
      | some f => .ok f
      | none => .error (.beyond f.typeName)
  match f with
  | text s => among (s.map fun c => text [c])
  | group items => among items
  | type t => .error (.noItems s!"type '{t}'")
  | f => .error (.noItems f.owner)

mutual

/-- The text of a facet inside another. -/
def quoted : Facet → String
  | text s => quote (String.ofList s)
  | type t => s!"<class '{t}'>"
  | function t (some _) => s!"<built-in method {t} of str object>"
  | function t none => s!"<method '{t}' of '{origin t}' objects>"
  | operator t (some _) => s!"<method-wrapper '{t}' of str object>"
  | operator t none => s!"<slot wrapper '{t}' of '{origin t}' objects>"
  | group [f] => "(" ++ quoted f ++ ",)"
  | group items => "(" ++ ", ".intercalate (quotedAll items) ++ ")"
  | nothing => "None"

/-- The texts of several facets. -/
def quotedAll : List Facet → List String
  | [] => []
  | f :: rest => quoted f :: quotedAll rest

end

/-- The text of a facet by itself. -/
def plain : Facet → List Char
  | text s => s
  | f => f.quoted.toList

end Facet

end CommandPalette.Text
