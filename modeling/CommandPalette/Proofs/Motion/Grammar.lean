import CommandPalette.Proofs.Motion.Lexing

/-!
# The grammar of motions

A motion is a token and the rest of the motion, and the only thing that goes from one to the other is a count,
which scales the step right behind it.

* `Chain`: the chains of a text, by this grammar.
* `parse_append`: a chain is linked from the right, and is still that of the first token and the rest.
* `chain_iff`: so a text has one chain by the grammar.
* `parseAs_append`, `parseAs_of_ne`: what a reader that asks for a kind of token does with a text.
* **`parse_grammar`**: every text that is not empty is read by one of these readers, which finds the chain of
  the text, and refused by the others.
-/

namespace CommandPalette.Motion

variable {keymap : Keymap}

/-! ## The grammar -/

/-- The chains of a text.  A token comes first, as long as it can be, and a chain of what is left behind it. -/
inductive Chain (keymap : Keymap) : List Char → List Node → Prop
  /-- There is nothing in an empty text. -/
  | nil : Chain keymap [] []
  /-- A motion letter is a step. -/
  | step {c : Char} {axis : Axis} {distance : Int} {s : List Char} {chain : List Node}
      (letter : direction? c = some (axis, distance)) (rest : Chain keymap s chain) :
      Chain keymap (c :: s) (.step c axis distance :: chain)
  /-- A run of characters of codes is a jump. -/
  | jump {name s : List Char} {chain : List Node} (run : (Token.code name).Proper)
      (whole : ∀ c ∈ s.head?, isCodeChar c = false) (rest : Chain keymap s chain) :
      Chain keymap (name ++ s) (.jump name (keymap.indexFor? name) :: chain)
  /-- A run of digits in front of a step is a count that multiplies the distance of that one step. -/
  | scaled {digits s : List Char} {letter : Char} {axis : Axis} {distance : Int} {chain : List Node}
      (run : (Token.number digits).Proper) (whole : ∀ c ∈ s.head?, c.isDigit = false)
      (rest : Chain keymap s (.step letter axis distance :: chain)) :
      Chain keymap (digits ++ s)
        (.count digits (readDigits (digits.take maxCountDigits)) ::
          .step letter axis (distance * readDigits (digits.take maxCountDigits)) :: chain)
  /-- A run of digits in front of anything else changes nothing. -/
  | count {digits s : List Char} {chain : List Node} (run : (Token.number digits).Proper)
      (whole : ∀ c ∈ s.head?, c.isDigit = false) (rest : Chain keymap s chain)
      (noStep : ∀ node ∈ chain.head?, node.kind ≠ .directional) :
      Chain keymap (digits ++ s) (.count digits (readDigits (digits.take maxCountDigits)) :: chain)

lemma link_count_of_noStep {digits : List Char} {factor : Nat} {chain : List Node}
    (h : ∀ node ∈ chain.head?, node.kind ≠ .directional) :
    link (.count digits factor) chain = .count digits factor :: chain := by
  cases chain with
  | nil => rfl
  | cons node rest =>
      cases node with
      | step letter axis distance => exact absurd rfl (h _ rfl)
      | jump code target => rfl
      | count digits factor => rfl

/-! ## Chains that are linked from the right -/

lemma parse_nil (keymap : Keymap) : parse keymap [] = [] := by
  rw [parse, lex, tokenize]
  rfl

/-- The chain of a text is that of its first token and of the rest. -/
lemma parse_append {t : Token} (ht : t.Proper) {s : List Char}
    (hs : ∀ c ∈ s.head?, t.extends? c = false) {chain : List Node} (hchain : parse keymap s = chain) :
    parse keymap (t.text ++ s) = link (t.node keymap) chain := by
  rw [← hchain, parse, lex, tokenize_append ht hs]
  rfl

/-- A chain by the grammar is the chain of the text. -/
lemma Chain.parse_eq {s : List Char} {chain : List Node} (h : Chain keymap s chain) :
    parse keymap s = chain := by
  induction h with
  | nil => exact parse_nil keymap
  | @step c axis distance s chain letter _ ih =>
      have hc : (Token.letter c).Proper := by rw [Token.Proper, isMotionLetter, letter]; rfl
      have hnode : (Token.letter c).node keymap = .step c axis distance := by rw [Token.node, letter]; rfl
      have hparse := parse_append hc (fun _ _ => rfl) ih
      rw [hnode] at hparse
      exact hparse
  | jump run whole _ ih => exact parse_append run whole ih
  | scaled run whole _ ih => exact parse_append run whole ih
  | count run whole _ noStep ih => exact (parse_append run whole ih).trans (link_count_of_noStep noStep)

/-- The chain of a text is one by the grammar.  The induction is on the tokens of the text; what a count does
depends on the chain behind it. -/
lemma Munch.chain {s : List Char} {ts : List Token} (h : Munch s ts) : Chain keymap s (parse keymap s) := by
  induction h with
  | nil => rw [parse_nil]; exact .nil
  | @cons t s ts proper whole _ ih =>
      rw [parse_append proper whole rfl]
      generalize parse keymap s = chain at ih
      cases t with
      | letter c =>
          have hletter : (direction? c).isSome = true := proper
          obtain ⟨⟨axis, distance⟩, hc⟩ := Option.isSome_iff_exists.mp hletter
          rw [Token.node, hc]
          exact .step hc ih
      | code name => exact .jump proper whole ih
      | number digits =>
          cases chain with
          | nil => exact .count proper whole ih (by simp)
          | cons node rest =>
              cases node with
              | step letter axis distance => exact .scaled proper whole ih
              | jump code target => exact .count proper whole ih (by simp [Node.kind])
              | count digits factor => exact .count proper whole ih (by simp [Node.kind])

/-- **A text has one chain by the grammar.** -/
lemma chain_iff {s : List Char} {chain : List Node} : Chain keymap s chain ↔ chain = parse keymap s :=
  ⟨fun h => h.parse_eq.symm, fun h => h ▸ (munch_tokenize s).chain⟩

/-! ## Readers that ask for a kind of token -/

lemma parseAs_append {t : Token} (ht : t.Proper) {s : List Char}
    (hs : ∀ c ∈ s.head?, t.extends? c = false) :
    parseAs t.kind keymap (t.text ++ s) = .ok (parse keymap (t.text ++ s)) := by
  rw [parseAs, read?_append ht hs, parse_append ht hs rfl]

lemma parseAs_of_ne {kind : NodeKind} {c : Char} (h : kindOf c ≠ kind) (rest : List Char) :
    parseAs kind keymap (c :: rest) = .error (.malformedToken (String.ofList [c]) kind.missing) := by
  rw [parseAs, read?_of_ne h]
  rfl

/-- A text that is not empty starts with a token, of the kind of its first character. -/
lemma exists_token (c : Char) (rest : List Char) :
    ∃ (t : Token) (s : List Char), t.Proper ∧ (∀ d ∈ s.head?, t.extends? d = false) ∧
      t.kind = kindOf c ∧ t.text ++ s = c :: rest := by
  have hmunch := munch_tokenize (c :: rest)
  generalize tokenize (c :: rest) = ts at hmunch
  generalize htext : c :: rest = text at hmunch
  cases hmunch with
  | nil => cases htext
  | cons proper whole _ =>
      obtain ⟨d, more, hcons, hd⟩ := proper.exists_head
      have hfirst := htext
      rw [hcons, List.cons_append, List.cons.injEq] at hfirst
      exact ⟨_, _, proper, whole, by rw [hfirst.1, hd], rfl⟩

/-- The reader that asks for the kind of the first character finds the chain of the text. -/
lemma parseAs_kindOf (c : Char) (rest : List Char) :
    parseAs (kindOf c) keymap (c :: rest) = .ok (parse keymap (c :: rest)) := by
  obtain ⟨t, s, ht, hs, hkind, htext⟩ := exists_token c rest
  rw [← hkind, ← htext]
  exact parseAs_append ht hs

/-- **Motions are read by a grammar.**  An empty text has no first token of any kind.  Of all readers one
accepts a text that is not empty, and it finds the chain of the text; the others name the character that
they do not take.  The chain is what the grammar says, and nothing else. -/
theorem parse_grammar (keymap : Keymap) :
    (∀ kind, parseAs kind keymap [] = .error (.malformedToken "" kind.missing)) ∧
    (∀ c rest, ∃ kind, ∀ asked, parseAs asked keymap (c :: rest) =
      if asked = kind then .ok (parse keymap (c :: rest))
      else .error (.malformedToken (String.ofList [c]) asked.missing)) ∧
    ∀ s chain, Chain keymap s chain ↔ chain = parse keymap s := by
  refine ⟨fun kind => rfl, fun c rest => ⟨kindOf c, fun asked => ?_⟩, fun s chain => chain_iff⟩
  split
  · subst asked
    exact parseAs_kindOf c rest
  · exact parseAs_of_ne (Ne.symm ‹_›) rest

/-- A count scales one step only. -/
example :
    parse {} "2jj".toList = [.count ['2'] 2, .step 'j' .vertical 2, .step 'j' .vertical 1] := by
  decide +kernel

end CommandPalette.Motion
