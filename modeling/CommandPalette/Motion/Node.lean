import CommandPalette.Fault
import CommandPalette.Log.Entry
import CommandPalette.Motion.Keymap
import CommandPalette.Motion.Token

/-!
# Chains of motions

A token means something only in its place: a count scales the step right after it, and a jump code
means an entry of the menu at hand.  A chain is the tokens of a motion with their meaning.

* `Node`: a token with its meaning.
* `parse`: the chain of a text.
* `offset`: how far a chain moves from the first entry of the menu.
* `NodeKind.read?`, `parseAs`: the first token of a given kind, and the chain of a text that has to start
  with one.
* `remarks`: the lines that reading a text writes to the log.
-/

namespace CommandPalette.Motion

open CommandPalette.Text

/-- A token with its meaning. -/
inductive Node where
  /-- A step along an axis. -/
  | step (letter : Char) (axis : Axis) (distance : Int)
  /-- A jump to an entry, or to nowhere if the menu has no such code. -/
  | jump (code : List Char) (target : Option Nat)
  /-- A count, which moves nothing itself. -/
  | count (digits : List Char) (factor : Nat)
  deriving DecidableEq, Repr, Inhabited

/-- The kinds of nodes. -/
inductive NodeKind where
  | directional
  | keymap
  | multiplier
  deriving DecidableEq, Repr, Inhabited

namespace NodeKind

/-- The name of a kind. -/
def name : NodeKind → String
  | directional => "directional"
  | keymap => "keymap"
  | multiplier => "multiplier"

/-- The name of a kind in capitals. -/
def title : NodeKind → String
  | directional => "DIRECTIONAL"
  | keymap => "KEYMAP"
  | multiplier => "MULTIPLIER"

/-- All kinds. -/
def all : List NodeKind := [directional, keymap, multiplier]

end NodeKind

namespace Node

/-- The kind of a node. -/
def kind : Node → NodeKind
  | step .. => .directional
  | jump .. => .keymap
  | count .. => .multiplier

/-- The characters of a node's token. -/
def text : Node → List Char
  | step letter .. => [letter]
  | jump code _ => code
  | count digits _ => digits

/-- What a node contributes by itself: the distance of a step, the entry of a jump. -/
def delta? : Node → Option Int
  | step _ _ distance => some distance
  | jump _ target => target.map Int.ofNat
  | count .. => some 0

/-- The axis of a step. -/
def axis? : Node → Option Axis
  | step _ axis _ => some axis
  | _ => none

/-- The factor of a count, and one for all other nodes. -/
def factor : Node → Nat
  | count _ factor => factor
  | _ => 1

/-- A node in a few words, without the chain it stands in. -/
def describe (node : Node) : String :=
  let delta := match node.delta? with
    | some d => toString d
    | none => "None"
  s!"MotionNode(key={quote (String.ofList node.text)}, delta={delta}, type={node.kind.title})"

end Node

/-- Counts of more digits are cut to this many leading digits. -/
def maxCountDigits : Nat := 18

/-- The number that decimal digits denote. -/
def readDigits (digits : List Char) : Nat :=
  digits.foldl (fun n c => 10 * n + (c.toNat - '0'.toNat)) 0

/-- The meaning of a token by itself. -/
def Token.node (keymap : Keymap) : Token → Node
  | number digits => .count digits (readDigits (digits.take maxCountDigits))
  | letter c =>
    let (axis, distance) := (direction? c).getD (.horizontal, 0)
    .step c axis distance
  | code name => .jump name (keymap.indexFor? name)

/-- The nodes of a text before they are linked. -/
def lex (keymap : Keymap) (s : List Char) : List Node := (tokenize s).map (Token.node keymap)

/-- Puts a node in front of a chain.  A count scales the step right after it, and nothing else. -/
def link (node : Node) (chain : List Node) : List Node :=
  match node, chain with
  | .count _ factor, .step letter axis distance :: rest =>
    node :: .step letter axis (distance * factor) :: rest
  | _, _ => node :: chain

/-- The chain of a text. -/
def parse (keymap : Keymap) (s : List Char) : List Node := (lex keymap s).foldr link []

/-- The token of the given kind at the front of a text, and what is left behind it. -/
def NodeKind.read? (kind : NodeKind) : List Char → Option (Token × List Char)
  | [] => none
  | c :: rest => match kind with
    | .directional => if isMotionLetter c then some (.letter c, rest) else none
    | .keymap =>
      if isCodeChar c then
        some (.code (c :: rest.takeWhile isCodeChar), rest.dropWhile isCodeChar)
      else none
    | .multiplier =>
      if c.isDigit then
        some (.number (c :: rest.takeWhile Char.isDigit), rest.dropWhile Char.isDigit)
      else none

/-- What is wrong with a text that does not start with a token of the given kind. -/
def NodeKind.missing : NodeKind → String
  | directional => "is not a motion letter"
  | keymap => "does not start a keymap code"
  | multiplier => "does not start a number"

/-- The chain of a text that has to start with a token of the given kind. -/
def parseAs (kind : NodeKind) (keymap : Keymap) (s : List Char) : Except Fault (List Node) :=
  match kind.read? s with
  | some (token, rest) => .ok (link (token.node keymap) (parse keymap rest))
  | none => .error (.malformedToken (String.ofList (s.take 1)) kind.missing)

/-! ## Offsets -/

/-- What a node does to the offset of the nodes before it. -/
inductive Move where
  | stay
  | shift (distance : Int)
  | goto (index : Int)
  deriving DecidableEq, Repr, Inhabited

/-- The offset after a move. -/
def Move.apply (total : Int) : Move → Int
  | stay => total
  | shift distance => total + distance
  | goto index => index

/-- The move of a node. -/
def Node.move : Node → Move
  | step _ .horizontal _ => .stay
  | step _ .vertical distance => .shift distance
  | jump _ (some index) => .goto index
  | jump _ none => .stay
  | count .. => .shift 0

/-- The offset that moves add up to, from left to right. -/
def total (moves : List Move) : Int := moves.foldl Move.apply 0

/-- How far a chain moves: steps add up, and a jump replaces what stands before it. -/
def offset (chain : List Node) : Int := total (chain.map Node.move)

/-! ## Log lines -/

/-- The channel of the lines about reading motions. -/
def channel : String := "omnicli.motion.parser"

/-- The line about a token that does not mean all it says. -/
def Token.remark? (keymap : Keymap) : Token → Option Log.Entry
  | number digits =>
    if digits.length > maxCountDigits then
      some (.debug channel
        s!"Multiplier of {digits.length} digits truncated to {maxCountDigits}")
    else none
  | letter _ => none
  | code name =>
    if (keymap.indexFor? name).isNone then
      some (.debug channel
        s!"Motion code '{String.ofList name}' is not in the keymap, ignoring it")
    else none

/-- The lines that reading a text writes. -/
def remarks (keymap : Keymap) (s : List Char) : List Log.Entry :=
  (tokenize s).filterMap (Token.remark? keymap)

end CommandPalette.Motion
