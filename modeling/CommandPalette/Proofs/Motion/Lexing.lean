import CommandPalette.Proofs.Motion.Code
import Mathlib.Data.List.Chain
import Mathlib.Logic.Function.Iterate

/-!
# Motions and their keys

What a motion means is read from its keys, the texts of its tokens, and every text is cut into keys in one
way.

* `NodeKind.IsKey`: what the keys of each kind are; they are the texts of tokens (`isKey_iff`).
* `kindOf`: the kind of the keys that a character stands in, so that a key is of one kind only.
* `Keys`: keys side by side of which none goes on with the one before it.  They are those of tokens that are
  as long as they can be (`Keys.munch`, `Munch.keys`).
* `readToken?`, `lexRound`: the reading of a text token by token; `iterate_lexRound`: how far it is after a
  number of rounds.
* **`lex_maximal_munch`**: the reading ends, and finds the one list of keys that the text can be cut into; a
  jump code is a key of its own among digits and motion letters.
-/

namespace CommandPalette.Motion

/-! ## Keys -/

/-- The motion letters. -/
def reserved : List Char := ['h', 'j', 'k', 'l', 'n', 'p', 'f', 'b']

lemma isMotionLetter_iff {c : Char} : isMotionLetter c = true ↔ c ∈ reserved := by
  unfold isMotionLetter direction?
  split
  case h_9 => simp_all [reserved]
  all_goals simp [reserved]

lemma isCodeChar_iff {c : Char} : isCodeChar c = true ↔ c.isDigit = false ∧ c ∉ reserved := by
  rw [isCodeChar, Bool.and_eq_true, Bool.not_eq_true', Bool.not_eq_true', ← isMotionLetter_iff,
    Bool.not_eq_true]

/-- What the keys of each kind are. -/
def NodeKind.IsKey : NodeKind → List Char → Prop
  | multiplier, key => key ≠ [] ∧ ∀ c ∈ key, c.isDigit = true
  | directional, key => ∃ c ∈ reserved, key = [c]
  | keymap, key => key ≠ [] ∧ ∀ c ∈ key, c.isDigit = false ∧ c ∉ reserved

/-- The kind of the node that a token becomes. -/
def Token.kind : Token → NodeKind
  | number _ => .multiplier
  | letter _ => .directional
  | code _ => .keymap

lemma Token.kind_node (keymap : Keymap) (t : Token) : (t.node keymap).kind = t.kind := by
  cases t <;> rfl

lemma Token.text_node (keymap : Keymap) (t : Token) : (t.node keymap).text = t.text := by
  cases t <;> rfl

/-- A key is the text of a token. -/
lemma isKey_iff {kind : NodeKind} {key : List Char} :
    kind.IsKey key ↔ ∃ t : Token, t.Proper ∧ t.kind = kind ∧ t.text = key := by
  constructor
  · intro h
    cases kind with
    | multiplier => exact ⟨.number key, h, rfl, rfl⟩
    | directional =>
        obtain ⟨c, hc, rfl⟩ := h
        exact ⟨.letter c, isMotionLetter_iff.mpr hc, rfl, rfl⟩
    | keymap => exact ⟨.code key, ⟨h.1, fun c hc => isCodeChar_iff.mpr (h.2 c hc)⟩, rfl, rfl⟩
  · rintro ⟨t, ht, rfl, rfl⟩
    cases t with
    | number digits => exact ht
    | letter c => exact ⟨c, isMotionLetter_iff.mp ht, rfl⟩
    | code name => exact ⟨ht.1, fun c hc => isCodeChar_iff.mp (ht.2 c hc)⟩

/-! ## The kind of a key is that of each of its characters -/

/-- The kind of the keys that a character stands in. -/
def kindOf (c : Char) : NodeKind :=
  if c.isDigit then .multiplier else if isMotionLetter c then .directional else .keymap

lemma Token.Proper.kindOf_eq {t : Token} (ht : t.Proper) {c : Char} (hc : c ∈ t.text) :
    kindOf c = t.kind := by
  cases t with
  | number digits => exact if_pos (ht.2 c hc)
  | letter l =>
      obtain rfl : c = l := List.mem_singleton.mp hc
      have hl : isMotionLetter c = true := ht
      rw [kindOf, if_neg (by simp [not_isDigit_of_isMotionLetter hl]), if_pos hl]
      rfl
  | code name =>
      have hcode := ht.2 c hc
      rw [isCodeChar, Bool.and_eq_true, Bool.not_eq_true', Bool.not_eq_true'] at hcode
      rw [kindOf, if_neg (by simp [hcode.1]), if_neg (by simp [hcode.2])]
      rfl

/-- A token starts with a character of its kind. -/
lemma Token.Proper.exists_head {t : Token} (ht : t.Proper) :
    ∃ c rest, t.text = c :: rest ∧ kindOf c = t.kind := by
  obtain ⟨c, rest, hcons⟩ := List.exists_cons_of_ne_nil ht.text_ne_nil
  exact ⟨c, rest, hcons, ht.kindOf_eq (hcons ▸ List.mem_cons_self)⟩

/-- A key is of one kind only. -/
lemma Token.Proper.kind_eq_of_isKey {t : Token} (ht : t.Proper) {kind : NodeKind}
    (h : kind.IsKey t.text) : t.kind = kind := by
  obtain ⟨u, hu, rfl, htext⟩ := isKey_iff.mp h
  obtain ⟨c, rest, hcons, hc⟩ := ht.exists_head
  rw [← hc, hu.kindOf_eq (by rw [htext, hcons]; exact List.mem_cons_self)]

/-- A token goes on with the characters of its kind, unless it is a motion letter. -/
lemma Token.extends?_iff {t : Token} {c : Char} :
    t.extends? c = true ↔ t.kind = kindOf c ∧ t.kind ≠ .directional := by
  cases t with
  | number digits => cases h : c.isDigit <;> simp [extends?, kind, kindOf, h]; split <;> simp
  | letter l => simp [extends?, kind]
  | code name =>
      cases h : c.isDigit <;> cases hl : isMotionLetter c <;>
        simp [extends?, kind, kindOf, isCodeChar, h, hl]

/-! ## Keys side by side -/

/-- Keys that stand side by side in a text: two neighbours of the same kind are motion letters. -/
structure Keys (keys : List (List Char)) : Prop where
  /-- Each of them is a key. -/
  isKey : ∀ key ∈ keys, ∃ kind : NodeKind, kind.IsKey key
  /-- No run is cut in two. -/
  whole : keys.IsChain fun key next =>
    ∀ kind : NodeKind, kind.IsKey key → kind.IsKey next → kind = .directional

/-- Tokens that are as long as they can be have such keys. -/
lemma Munch.keys {s : List Char} {ts : List Token} (h : Munch s ts) : Keys (ts.map Token.text) := by
  constructor
  · intro key hkey
    obtain ⟨t, ht, rfl⟩ := List.mem_map.mp hkey
    exact ⟨t.kind, isKey_iff.mpr ⟨t, h.proper t ht, rfl, rfl⟩⟩
  · induction h with
    | nil => exact .nil
    | @cons t s ts proper whole rest ih =>
        refine List.isChain_cons.mpr ⟨fun next hnext kind hkey hkey' => ?_, ih⟩
        cases rest with
        | nil => cases hnext
        | @cons u _ us properNext _ _ =>
            obtain rfl : u.text = next := Option.some.inj hnext
            obtain ⟨c, more, hcons, hc⟩ := properNext.exists_head
            have hstop : t.extends? c = false := whole c (by rw [hcons]; rfl)
            have hsame : t.kind = kindOf c := by
              rw [hc, proper.kind_eq_of_isKey hkey, properNext.kind_eq_of_isKey hkey']
            by_contra hne
            rw [Token.extends?_iff.mpr ⟨hsame, by rwa [proper.kind_eq_of_isKey hkey]⟩] at hstop
            cases hstop

/-- **Such keys are the keys of tokens that are as long as they can be.** -/
lemma Keys.munch {keys : List (List Char)} (h : Keys keys) :
    ∃ ts : List Token, Munch keys.flatten ts ∧ ts.map Token.text = keys := by
  induction keys with
  | nil => exact ⟨[], .nil, rfl⟩
  | cons key rest ih =>
      obtain ⟨⟨kind, hkey⟩, hrest⟩ := List.forall_mem_cons.mp h.isKey
      obtain ⟨hnext, hwhole⟩ := List.isChain_cons.mp h.whole
      obtain ⟨t, ht, rfl, rfl⟩ := isKey_iff.mp hkey
      obtain ⟨ts, hts, rfl⟩ := ih ⟨hrest, hwhole⟩
      refine ⟨t :: ts, .cons ht (fun c hc => ?_) hts, rfl⟩
      cases ts with
      | nil => cases hc
      | cons u us =>
          have hu : u.Proper := hts.proper u List.mem_cons_self
          obtain ⟨d, more, hcons, hd⟩ := hu.exists_head
          rw [List.map_cons, List.flatten_cons, hcons] at hc
          obtain rfl : d = c := Option.some.inj hc
          by_contra hext
          obtain ⟨hsame, hne⟩ := Token.extends?_iff.mp (Bool.not_eq_false _ ▸ hext)
          exact hne (hnext u.text rfl t.kind hkey (isKey_iff.mpr ⟨u, hu, by rw [hsame, hd], rfl⟩))

/-- The keys of a text are the texts of its tokens. -/
lemma keys_lex (keymap : Keymap) (s : List Char) :
    (lex keymap s).map Node.text = (tokenize s).map Token.text := by
  rw [lex, List.map_map]
  exact List.map_congr_left fun t _ => t.text_node keymap

/-! ## Reading token by token -/

/-- A reader takes no token off a text that starts with a character of another kind. -/
lemma read?_of_ne {kind : NodeKind} {c : Char} (h : kindOf c ≠ kind) (rest : List Char) :
    kind.read? (c :: rest) = none := by
  cases kind <;> refine if_neg fun hc => h ?_
  · exact Token.Proper.kindOf_eq (t := .letter c) hc List.mem_cons_self
  · exact Token.Proper.kindOf_eq (t := .code [c]) ⟨List.cons_ne_nil c [], by simpa using hc⟩
      List.mem_cons_self
  · exact Token.Proper.kindOf_eq (t := .number [c]) ⟨List.cons_ne_nil c [], by simpa using hc⟩
      List.mem_cons_self

/-- The reader of its kind takes a token off a text. -/
lemma read?_append {t : Token} (ht : t.Proper) {s : List Char}
    (hs : ∀ c ∈ s.head?, t.extends? c = false) : t.kind.read? (t.text ++ s) = some (t, s) := by
  cases t with
  | number digits =>
      obtain ⟨c, rest, rfl, hc, htake, hdrop⟩ := exists_run ht.1 ht.2 hs
      rw [Token.text, List.cons_append, Token.kind, NodeKind.read?, if_pos hc, htake, hdrop]
  | letter c => exact if_pos ht
  | code name =>
      obtain ⟨c, rest, rfl, hc, htake, hdrop⟩ := exists_run ht.1 ht.2 hs
      rw [Token.text, List.cons_append, Token.kind, NodeKind.read?, if_pos hc, htake, hdrop]

/-- The token at the front of a text, of the kind that its first character stands in, and what is left
behind it. -/
def readToken? : List Char → Option (Token × List Char)
  | [] => none
  | c :: rest => (kindOf c).read? (c :: rest)

lemma readToken?_append {t : Token} (ht : t.Proper) {s : List Char}
    (hs : ∀ c ∈ s.head?, t.extends? c = false) : readToken? (t.text ++ s) = some (t, s) := by
  have hread := read?_append ht hs
  obtain ⟨c, rest, hcons, hc⟩ := ht.exists_head
  rw [← hc, hcons] at hread
  rw [hcons]
  exact hread

/-- One round of reading: the token at the front of the text becomes a node. -/
def lexRound (keymap : Keymap) : List Node × List Char → List Node × List Char
  | (nodes, s) => match readToken? s with
    | some (t, rest) => (nodes ++ [t.node keymap], rest)
    | none => (nodes, s)

/-- **After some rounds as many tokens have become nodes, and the text of the others is left.** -/
lemma iterate_lexRound (keymap : Keymap) {s : List Char} {ts : List Token} (h : Munch s ts)
    (nodes : List Node) (rounds : ℕ) :
    (lexRound keymap)^[rounds] (nodes, s) =
      (nodes ++ (ts.take rounds).map (Token.node keymap), (ts.drop rounds).flatMap Token.text) := by
  induction h generalizing nodes rounds with
  | nil =>
      rw [Function.iterate_fixed rfl, List.take_nil, List.drop_nil, List.map_nil, List.append_nil]
      rfl
  | @cons t s ts proper whole rest ih =>
      cases rounds with
      | zero =>
          have hs : (t :: ts).flatMap Token.text = t.text ++ s := (Munch.cons proper whole rest).flatMap_text
          rw [Function.iterate_zero_apply, List.take_zero, List.drop_zero, List.map_nil, List.append_nil, hs]
      | succ rounds =>
          have hround : lexRound keymap (nodes, t.text ++ s) = (nodes ++ [t.node keymap], s) := by
            rw [lexRound, readToken?_append proper whole]
          rw [Function.iterate_succ_apply, hround, ih, List.take_succ_cons, List.drop_succ_cons,
            List.map_cons, List.append_assoc, List.singleton_append]

/-- There are no more tokens than characters. -/
lemma Munch.length_le {s : List Char} {ts : List Token} (h : Munch s ts) : ts.length ≤ s.length := by
  induction h with
  | nil => exact Nat.le_refl _
  | cons proper _ _ ih =>
      have hpos := List.length_pos_iff.mpr proper.text_ne_nil
      rw [List.length_cons, List.length_append]
      omega

/-- As long as there are tokens left, their text is not empty. -/
lemma Munch.flatMap_drop_ne_nil {s : List Char} {ts : List Token} (h : Munch s ts) {n : ℕ}
    (hn : n < ts.length) : (ts.drop n).flatMap Token.text ≠ [] := by
  rw [List.drop_eq_getElem_cons hn, List.flatMap_cons]
  exact List.append_ne_nil_of_left_ne_nil (h.proper _ (List.getElem_mem hn)).text_ne_nil _

/-! ## Maximal munch -/

/-- What stands around a code is no part of it if it is a digit or a motion letter. -/
lemma joins_code_eq_false {c d : Char} (hd : isCodeChar d = true) (hc : c.isDigit = true ∨ c ∈ reserved) :
    joins c d = false ∧ joins d c = false := by
  obtain ⟨hdigit, -⟩ := isCodeChar_iff.mp hd
  rcases hc with hc | hc
  · simp [joins, isCodeChar, hc, hdigit]
  · exact joins_of_isMotionLetter (isMotionLetter_iff.mpr hc) d

/-- Jump codes are built from characters of codes. -/
lemma isCodeChar_of_mem_codes {size : ℤ} {code : List Char} (h : code ∈ (Keymap.generate size).codes) :
    code ≠ [] ∧ ∀ c ∈ code, isCodeChar c = true := by
  rw [← Keymap.generate_toNat, Keymap.codes_generate] at h
  obtain ⟨i, -, rfl⟩ := List.mem_map.mp h
  exact ⟨codeOf_ne_nil i, fun c => isCodeChar_of_mem_codeOf⟩

/-- **A motion is read in one way.**  The reading token by token ends, after no more rounds than there are
characters; the keys that it finds are, one behind the other, the text, and each is as long as it can be;
and it finds again every list of such keys that is written one behind the other.  So a jump code is one
key where digits, motion letters or the ends of the motion stand around it. -/
theorem lex_maximal_munch (keymap : Keymap) (s : List Char) :
    (∃ rounds ≤ s.length, (lexRound keymap)^[rounds] ([], s) = (lex keymap s, []) ∧
      ∀ earlier < rounds, ((lexRound keymap)^[earlier] ([], s)).2 ≠ []) ∧
    ((lex keymap s).map Node.text).flatten = s ∧
    (∀ node ∈ lex keymap s, node.kind.IsKey node.text) ∧
    Keys ((lex keymap s).map Node.text) ∧
    (∀ keys, Keys keys → (lex keymap keys.flatten).map Node.text = keys) ∧
    ∀ (size : ℤ), ∀ code ∈ (Keymap.generate size).codes, ∀ before after : List Char,
      (∀ c ∈ before.getLast?, c.isDigit = true ∨ c ∈ reserved) →
      (∀ c ∈ after.head?, c.isDigit = true ∨ c ∈ reserved) →
      lex keymap (before ++ code ++ after) =
        lex keymap before ++ .jump code (keymap.indexFor? code) :: lex keymap after := by
  have hmunch := munch_tokenize s
  refine ⟨⟨(tokenize s).length, hmunch.length_le, ?_, fun earlier hearlier => ?_⟩, ?_, ?_, ?_, ?_, ?_⟩
  · rw [iterate_lexRound keymap hmunch, List.take_length, List.drop_length]
    rfl
  · rw [iterate_lexRound keymap hmunch]
    exact hmunch.flatMap_drop_ne_nil hearlier
  · rw [keys_lex, ← List.flatMap_def, flatMap_text_tokenize]
  · intro node hnode
    obtain ⟨t, ht, rfl⟩ := List.mem_map.mp hnode
    rw [t.kind_node, t.text_node]
    exact isKey_iff.mpr ⟨t, hmunch.proper t ht, rfl, rfl⟩
  · rw [keys_lex]
    exact hmunch.keys
  · intro keys hkeys
    obtain ⟨ts, hts, hmap⟩ := hkeys.munch
    rw [keys_lex, hts.tokenize_eq, hmap]
  · intro size code hcode before after hbefore hafter
    obtain ⟨hne, hchars⟩ := isCodeChar_of_mem_codes hcode
    have hjump : Munch code [.code code] := munch_text (t := .code code) ⟨hne, hchars⟩
    have hback := hjump.append (munch_tokenize after) fun c hc d hd =>
      (joins_code_eq_false (hchars c (List.mem_of_getLast? hc)) (hafter d hd)).2
    have hall := (munch_tokenize before).append hback fun c hc d hd => ?_
    · rw [lex, List.append_assoc, hall.tokenize_eq, List.map_append]
      rfl
    · rw [List.head?_append_of_ne_nil _ hne] at hd
      exact (joins_code_eq_false (hchars d (List.mem_of_mem_head? hd)) (hbefore c hc)).1

/-- A code of two letters between a count and a motion letter is one key. -/
theorem lex_counted_code :
    (lex (.generate 20) "12aaj".toList).map Node.text = ["12".toList, "aa".toList, "j".toList] ∧
      lex (.generate 20) "12aaj".toList =
        lex (.generate 20) "12".toList ++
          .jump "aa".toList ((Keymap.generate 20).indexFor? "aa".toList) :: lex (.generate 20) "j".toList := by
  obtain ⟨-, -, -, -, hkeys, hcode⟩ := lex_maximal_munch (.generate 20) "12aaj".toList
  have hmunch : Munch "12aaj".toList [.number "12".toList, .code "aa".toList, .letter 'j'] :=
    munch_iff.mpr (by decide +kernel)
  constructor
  · exact hkeys ["12".toList, "aa".toList, "j".toList] hmunch.keys
  · exact hcode 20 "aa".toList (by decide +kernel) "12".toList "j".toList (by simp) (by simp [reserved])

end CommandPalette.Motion
