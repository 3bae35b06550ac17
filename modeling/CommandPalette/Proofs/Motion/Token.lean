import CommandPalette.Motion.Token
import Mathlib.Data.List.Basic
import Mathlib.Data.List.TakeWhile
import Mathlib.Tactic.Lemma

/-!
# Texts and their tokens

A token is as long as it can be: what stands behind it would not make it longer.

* `Munch`: the tokens that a text is cut into in this way.
* **`munch_iff`**: every text is cut into one list of tokens, and `tokenize` finds it.
* `Munch.append`: a text may be cut between two characters that do not belong to one token; so it may be
  cut on both sides of a motion letter (`tokenize_append_letter`).
-/

namespace CommandPalette.Motion

/-! ## Tokens that are as long as they can be -/

namespace Token

/-- What the characters of a token are: digits, a motion letter, or characters of codes. -/
def Proper : Token → Prop
  | number digits => digits ≠ [] ∧ ∀ c ∈ digits, c.isDigit = true
  | letter c => isMotionLetter c = true
  | code name => name ≠ [] ∧ ∀ c ∈ name, isCodeChar c = true

/-- Whether a token would be longer if a character stood behind it. -/
def extends? : Token → Char → Bool
  | number _, c => c.isDigit
  | letter _, _ => false
  | code _, c => isCodeChar c

lemma Proper.text_ne_nil {t : Token} (h : t.Proper) : t.text ≠ [] := by
  cases t with
  | number digits => exact h.1
  | letter c => exact List.cons_ne_nil c []
  | code name => exact h.1

end Token

/-- A text is cut into tokens, and none of them would be longer with the character behind it. -/
inductive Munch : List Char → List Token → Prop
  | nil : Munch [] []
  | cons {t : Token} {s : List Char} {ts : List Token} (proper : t.Proper)
      (whole : ∀ c ∈ s.head?, t.extends? c = false) (rest : Munch s ts) : Munch (t.text ++ s) (t :: ts)

/-! ## A motion letter is a token -/

lemma not_isDigit_of_isMotionLetter {c : Char} (h : isMotionLetter c = true) : c.isDigit = false := by
  unfold isMotionLetter direction? at h
  split at h
  case h_9 => cases h
  all_goals rfl

/-- Whether two characters that stand side by side belong to one token. -/
def joins (c d : Char) : Bool := (c.isDigit && d.isDigit) || (isCodeChar c && isCodeChar d)

/-- A motion letter belongs to no token with what stands beside it. -/
lemma joins_of_isMotionLetter {c : Char} (h : isMotionLetter c = true) (d : Char) :
    joins c d = false ∧ joins d c = false := by
  simp [joins, isCodeChar, h, not_isDigit_of_isMotionLetter h]

/-- What would make a token longer is what belongs to one token with its characters. -/
lemma Token.Proper.extends?_eq {t : Token} (ht : t.Proper) {c : Char} (hc : c ∈ t.text) (d : Char) :
    t.extends? d = joins c d := by
  cases t with
  | number digits =>
      have hdigit : c.isDigit = true := ht.2 c hc
      simp [extends?, joins, isCodeChar, hdigit]
  | letter l =>
      obtain rfl : c = l := List.mem_singleton.mp hc
      exact (joins_of_isMotionLetter ht d).1.symm
  | code name =>
      have hcode : isCodeChar c = true := ht.2 c hc
      have hdigit : c.isDigit = false := by
        rw [isCodeChar, Bool.and_eq_true, Bool.not_eq_true'] at hcode
        exact hcode.1
      simp [extends?, joins, hcode, hdigit]

/-! ## Cutting a text -/

/-- A run in front of a character that does not go on with it. -/
lemma takeWhile_run {p : Char → Bool} {run s : List Char} (hrun : ∀ c ∈ run, p c = true)
    (hs : ∀ c ∈ s.head?, p c = false) :
    (run ++ s).takeWhile p = run ∧ (run ++ s).dropWhile p = s := by
  rw [List.takeWhile_append_of_pos hrun, List.dropWhile_append_of_pos hrun]
  cases s with
  | nil => simp
  | cons c rest => simp [hs c rfl]

/-- A run that is not empty, taken off a text by its first character and what goes on with it. -/
lemma exists_run {p : Char → Bool} {run s : List Char} (hne : run ≠ []) (hrun : ∀ c ∈ run, p c = true)
    (hs : ∀ c ∈ s.head?, p c = false) :
    ∃ c rest, run = c :: rest ∧ p c = true ∧ (rest ++ s).takeWhile p = rest ∧ (rest ++ s).dropWhile p = s := by
  obtain ⟨c, rest, rfl⟩ := List.exists_cons_of_ne_nil hne
  obtain ⟨hc, hrest⟩ := List.forall_mem_cons.mp hrun
  exact ⟨c, rest, rfl, hc, takeWhile_run hrest hs⟩

/-- The first token of a text that is cut. -/
lemma tokenize_append {t : Token} (ht : t.Proper) {s : List Char}
    (hs : ∀ c ∈ s.head?, t.extends? c = false) : tokenize (t.text ++ s) = t :: tokenize s := by
  cases t with
  | number digits =>
      obtain ⟨c, rest, rfl, hc, htake, hdrop⟩ := exists_run ht.1 ht.2 hs
      rw [Token.text, List.cons_append, tokenize, if_pos hc, htake, hdrop]
  | letter c =>
      rw [Token.text, List.singleton_append, tokenize,
        if_neg (by simp [not_isDigit_of_isMotionLetter ht]),
        if_pos (show isMotionLetter c = true from ht)]
  | code name =>
      obtain ⟨c, rest, rfl, hc, htake, hdrop⟩ := exists_run ht.1 ht.2 hs
      rw [isCodeChar, Bool.and_eq_true, Bool.not_eq_true', Bool.not_eq_true'] at hc
      rw [Token.text, List.cons_append, tokenize, if_neg (by simp [hc.1]), if_neg (by simp [hc.2]),
        htake, hdrop]

lemma Munch.tokenize_eq {s : List Char} {ts : List Token} (h : Munch s ts) : tokenize s = ts := by
  induction h with
  | nil => rw [tokenize]
  | cons proper whole _ ih => rw [tokenize_append proper whole, ih]

/-- What is left behind a run does not go on with it. -/
lemma not_head?_dropWhile {p : Char → Bool} {s : List Char} :
    ∀ c ∈ (s.dropWhile p).head?, p c = false := by
  intro c hc
  have h := List.head?_dropWhile_not p s
  rw [Option.mem_def.mp hc] at h
  exact h

/-- A run at the front of a text is cut off as a token. -/
lemma munch_tokenize (s : List Char) : Munch s (tokenize s) := by
  fun_induction tokenize s with
  | case1 => exact .nil
  | case2 c rest digit ih =>
      have hdigits : ∀ d ∈ c :: rest.takeWhile Char.isDigit, d.isDigit = true :=
        List.forall_mem_cons.mpr ⟨digit, fun _ => List.mem_takeWhile_imp⟩
      have h := Munch.cons (t := .number _) ⟨List.cons_ne_nil _ _, hdigits⟩
        (not_head?_dropWhile (p := Char.isDigit)) ih
      rwa [Token.text, List.cons_append, List.takeWhile_append_dropWhile] at h
  | case3 c rest digit letter ih => exact .cons (t := .letter c) letter (fun _ _ => rfl) ih
  | case4 c rest digit letter ih =>
      have hc : isCodeChar c = true := by simp [isCodeChar, digit, letter]
      have hname : ∀ d ∈ c :: rest.takeWhile isCodeChar, isCodeChar d = true :=
        List.forall_mem_cons.mpr ⟨hc, fun _ => List.mem_takeWhile_imp⟩
      have h := Munch.cons (t := .code _) ⟨List.cons_ne_nil _ _, hname⟩
        (not_head?_dropWhile (p := isCodeChar)) ih
      rwa [Token.text, List.cons_append, List.takeWhile_append_dropWhile] at h

/-- **Every text is cut into one list of tokens.** -/
lemma munch_iff {s : List Char} {ts : List Token} : Munch s ts ↔ ts = tokenize s :=
  ⟨fun h => h.tokenize_eq.symm, fun h => h ▸ munch_tokenize s⟩

lemma Munch.flatMap_text {s : List Char} {ts : List Token} (h : Munch s ts) :
    ts.flatMap Token.text = s := by
  rw [← h.tokenize_eq, flatMap_text_tokenize]

/-- The text of a token is cut into that token. -/
lemma munch_text {t : Token} (ht : t.Proper) : Munch t.text [t] := by
  have h : Munch (t.text ++ []) [t] := .cons ht nofun .nil
  rwa [List.append_nil] at h

/-- **A text may be cut between two characters that do not belong to one token.** -/
lemma Munch.append {u v : List Char} {ts us : List Token} (hu : Munch u ts) (hv : Munch v us)
    (hcut : ∀ c ∈ u.getLast?, ∀ d ∈ v.head?, joins c d = false) : Munch (u ++ v) (ts ++ us) := by
  induction hu with
  | nil => exact hv
  | @cons t s ts proper whole _ ih =>
      rw [List.append_assoc, List.cons_append]
      cases s with
      | nil =>
          refine .cons proper (fun d hd => ?_) (ih nofun)
          rw [proper.extends?_eq (List.getLast_mem proper.text_ne_nil)]
          refine hcut _ ?_ d hd
          rw [List.append_nil]
          exact List.getLast?_eq_some_getLast proper.text_ne_nil
      | cons e more =>
          refine .cons proper whole (ih fun c hc => hcut c ?_)
          rw [List.getLast?_append_cons]
          exact hc

/-- What stands behind a motion letter has nothing to do with what stands before it. -/
lemma tokenize_append_letter {c : Char} (hc : isMotionLetter c = true) (u v : List Char) :
    tokenize (u ++ c :: v) = tokenize u ++ .letter c :: tokenize v := by
  have hletter : Munch (c :: v) (.letter c :: tokenize v) :=
    .cons (t := .letter c) hc (fun _ _ => rfl) (munch_tokenize v)
  refine ((munch_tokenize u).append hletter fun d _ e he => ?_).tokenize_eq
  obtain rfl : c = e := Option.some.inj he
  exact (joins_of_isMotionLetter hc d).2

lemma Munch.proper {s : List Char} {ts : List Token} (h : Munch s ts) : ∀ t ∈ ts, t.Proper := by
  induction h with
  | nil => simp
  | cons proper _ _ ih => exact List.forall_mem_cons.mpr ⟨proper, ih⟩

lemma Munch.whole {s : List Char} {t : Token} {ts : List Token} (h : Munch s (t :: ts)) :
    ∀ c ∈ (ts.flatMap Token.text).head?, t.extends? c = false := by
  cases h with
  | cons _ whole rest => rwa [rest.flatMap_text]

lemma Munch.right {s : List Char} {ts us : List Token} (h : Munch s (ts ++ us)) :
    Munch (us.flatMap Token.text) us := by
  induction ts generalizing s with
  | nil =>
      rw [List.nil_append] at h
      rwa [h.flatMap_text]
  | cons t ts ih =>
      cases h with
      | cons _ _ rest => exact ih rest

lemma Munch.left {s : List Char} {ts us : List Token} (h : Munch s (ts ++ us)) :
    Munch (ts.flatMap Token.text) ts := by
  induction ts generalizing s with
  | nil => exact .nil
  | cons t ts ih =>
      cases h with
      | @cons _ s _ proper whole rest =>
          refine .cons proper (fun c hc => whole c ?_) (ih rest)
          have hs : (ts ++ us).flatMap Token.text = s := rest.flatMap_text
          rw [← hs, List.flatMap_append]
          exact List.mem_head?_append_of_mem_head? hc

end CommandPalette.Motion
