import CommandPalette.Proofs.Motion.Segment

/-!
# A line and its parts

A line is taken apart at its opening brackets: behind each of them stands a motion, and what stands between
the motions is the command line.

* `Bracketed`: a motion with its brackets; `Parts`: the texts and motions of a line.
* `Parts.Of`: what the parts of a line are; **`of_iff`**: every line is taken apart in one way, by `partsOf`.
* `segments_eq`, `shown_eq`: a scan of the line finds the same motions and texts.
* **`line_taken_apart`**: what the motions and the command line are in terms of the parts.
-/

namespace CommandPalette.Motion

open CommandPalette.Text

/-! ## Parts of a line -/

/-- A motion as it stands in a line. -/
structure Bracketed where
  /-- What stands behind the opening bracket. -/
  inner : List Char
  /-- Whether a closing bracket follows. -/
  closed : Bool
  deriving DecidableEq, Repr

/-- The characters of a motion with its brackets. -/
def Bracketed.text (m : Bracketed) : List Char := '[' :: (m.inner ++ if m.closed then [']'] else [])

/-- The texts and motions of a line, in turns. -/
structure Parts where
  /-- What stands before the first motion. -/
  lead : List Char
  /-- The motions, each with the text behind it. -/
  motions : List (Bracketed × List Char)
  deriving DecidableEq, Repr

namespace Parts

/-- The line that is made of parts. -/
def line (p : Parts) : List Char := p.lead ++ p.motions.flatMap fun m => m.1.text ++ m.2

/-- The texts around the motions. -/
def texts (p : Parts) : List (List Char) := p.lead :: p.motions.map Prod.snd

/-- The parts of a line.  Every opening bracket starts a motion, which goes on with as many letters and digits
as there are, and takes a closing bracket that follows at once. -/
structure Of (p : Parts) (raw : List Char) : Prop where
  /-- Together they are the line. -/
  line_eq : p.line = raw
  /-- The texts have no opening bracket. -/
  plain : ∀ t ∈ p.texts, '[' ∉ t
  /-- The motions are of letters and digits. -/
  inner : ∀ m ∈ p.motions, ∀ c ∈ m.1.inner, c.isAlphanum = true
  /-- What stands behind a motion without a closing bracket does not go on with it. -/
  whole : ∀ m ∈ p.motions, m.1.closed = false → ∀ c ∈ m.2.head?, c.isAlphanum = false ∧ c ≠ ']'

/-- Parts with a character in front. -/
def cons (c : Char) (p : Parts) : Parts := ⟨c :: p.lead, p.motions⟩

/-- Parts with a motion in front. -/
def push (m : Bracketed) (p : Parts) : Parts := ⟨[], (m, p.lead) :: p.motions⟩

/-- Induction from the right end of a line. -/
lemma inductionOn {motive : Parts → Prop} (nil : motive ⟨[], []⟩)
    (cons : ∀ c p, motive p → motive (cons c p)) (push : ∀ m p, motive p → motive (push m p))
    (p : Parts) : motive p := by
  obtain ⟨lead, motions⟩ := p
  induction motions generalizing lead with
  | nil =>
      induction lead with
      | nil => exact nil
      | cons c lead ih => exact cons c ⟨lead, []⟩ ih
  | cons m more ih =>
      induction lead with
      | nil => exact push m.1 ⟨m.2, more⟩ (ih m.2)
      | cons c lead ih => exact cons c ⟨lead, m :: more⟩ ih

variable {p : Parts} {s : List Char}

lemma of_cons_iff {c : Char} : (cons c p).Of s ↔ c ≠ '[' ∧ ∃ rest, s = c :: rest ∧ p.Of rest := by
  constructor
  · rintro ⟨rfl, hplain, hinner, hwhole⟩
    obtain ⟨hlead, hplain⟩ := List.forall_mem_cons.mp hplain
    obtain ⟨hc, hlead⟩ := not_or.mp (List.mem_cons.not.mp hlead)
    exact ⟨Ne.symm hc, p.line, rfl, rfl, List.forall_mem_cons.mpr ⟨hlead, hplain⟩, hinner, hwhole⟩
  · rintro ⟨hc, rest, rfl, rfl, hplain, hinner, hwhole⟩
    obtain ⟨hlead, hplain⟩ := List.forall_mem_cons.mp hplain
    refine ⟨rfl, List.forall_mem_cons.mpr ⟨?_, hplain⟩, hinner, hwhole⟩
    exact List.mem_cons.not.mpr (not_or.mpr ⟨Ne.symm hc, hlead⟩)

lemma line_push (m : Bracketed) : (push m p).line = m.text ++ p.line := by
  rw [line, push, List.flatMap_cons, List.nil_append, List.append_assoc, line]

/-- What stands at the front of a line is that of its first text, or an opening bracket. -/
lemma mem_head?_line {c : Char} (h : c ∈ p.line.head?) : c ∈ p.lead.head? ∨ c = '[' := by
  obtain ⟨lead, motions⟩ := p
  cases lead with
  | cons d lead => exact .inl h
  | nil =>
      cases motions with
      | nil => cases h
      | cons m more => exact .inr (Option.some.inj h).symm

lemma of_push_iff {m : Bracketed} :
    (push m p).Of s ↔ (∀ c ∈ m.inner, c.isAlphanum = true) ∧ ∃ rest, s = m.text ++ rest ∧
      (m.closed = false → ∀ c ∈ rest.head?, c.isAlphanum = false ∧ c ≠ ']') ∧ p.Of rest := by
  constructor
  · rintro ⟨rfl, hplain, hinner, hwhole⟩
    obtain ⟨hm, hinner⟩ := List.forall_mem_cons.mp hinner
    obtain ⟨hstop, hwhole⟩ := List.forall_mem_cons.mp hwhole
    refine ⟨hm, p.line, line_push m, fun hopen c hc => ?_, rfl, (List.forall_mem_cons.mp hplain).2,
      hinner, hwhole⟩
    rcases mem_head?_line hc with hc | rfl
    · exact hstop hopen c hc
    · decide
  · rintro ⟨hm, rest, rfl, hstop, rfl, hplain, hinner, hwhole⟩
    refine ⟨line_push m, List.forall_mem_cons.mpr ⟨List.not_mem_nil, hplain⟩,
      List.forall_mem_cons.mpr ⟨hm, hinner⟩, List.forall_mem_cons.mpr ⟨fun hopen c hc => ?_, hwhole⟩⟩
    exact hstop hopen c (List.mem_head?_append_of_mem_head? hc)

end Parts

/-! ## There is one way to take a line apart -/

/-- Takes a line apart. -/
def partsOf (s : List Char) : Parts :=
  match s with
  | [] => ⟨[], []⟩
  | c :: rest =>
    if c = '[' then
      (partsOf (dropClosing (rest.dropWhile Char.isAlphanum))).push
        ⟨rest.takeWhile Char.isAlphanum, (rest.dropWhile Char.isAlphanum).head? = some ']'⟩
    else (partsOf rest).cons c
termination_by s.length
decreasing_by
  · have := length_dropWhile_le Char.isAlphanum rest
    have := length_dropClosing_le (rest.dropWhile Char.isAlphanum)
    simp only [List.length_cons]
    omega
  · simp

lemma dropClosing_of_ne {s : List Char} (h : s.head? ≠ some ']') : dropClosing s = s := by
  unfold dropClosing
  split
  · exact absurd rfl h
  · rfl

lemma dropClosing_spec (s : List Char) :
    (if s.head? = some ']' then [']'] else []) ++ dropClosing s = s := by
  split
  · next h =>
      obtain ⟨rest, rfl⟩ := List.head?_eq_some_iff.mp h
      rfl
  · next h => exact dropClosing_of_ne h

/-- The text of the motion at an opening bracket, and what is left behind it. -/
lemma text_append_dropClosing (rest : List Char) :
    Bracketed.text ⟨rest.takeWhile Char.isAlphanum, (rest.dropWhile Char.isAlphanum).head? = some ']'⟩ ++
      dropClosing (rest.dropWhile Char.isAlphanum) = '[' :: rest := by
  simp only [Bracketed.text, decide_eq_true_eq]
  rw [List.cons_append, List.append_assoc, dropClosing_spec, List.takeWhile_append_dropWhile]

lemma of_partsOf (s : List Char) : (partsOf s).Of s := by
  fun_induction partsOf s with
  | case1 => exact ⟨rfl, by simp [Parts.texts], nofun, nofun⟩
  | case2 rest ih =>
      refine Parts.of_push_iff.mpr ⟨fun c => List.mem_takeWhile_imp, _, (text_append_dropClosing rest).symm,
        fun hopen c hc => ?_, ih⟩
      have hne := of_decide_eq_false hopen
      rw [dropClosing_of_ne hne] at hc
      refine ⟨not_head?_dropWhile c hc, ?_⟩
      rintro rfl
      exact hne hc
  | case3 c rest hc ih => exact Parts.of_cons_iff.mpr ⟨hc, rest, rfl, ih⟩

section Front

variable {m : Bracketed} (hinner : ∀ c ∈ m.inner, c.isAlphanum = true) {s : List Char}
  (hwhole : m.closed = false → ∀ c ∈ s.head?, c.isAlphanum = false ∧ c ≠ ']')

include hinner hwhole

/-- A motion at the front of a line goes as far as its letters and digits, and as its closing bracket. -/
lemma text_append :
    ∃ rest, m.text ++ s = '[' :: rest ∧ rest.takeWhile Char.isAlphanum = m.inner ∧
      decide ((rest.dropWhile Char.isAlphanum).head? = some ']') = m.closed ∧
      dropClosing (rest.dropWhile Char.isAlphanum) = s := by
  obtain ⟨inner, closed⟩ := m
  cases closed with
  | true =>
      have hstop : ∀ c ∈ (']' :: s).head?, c.isAlphanum = false := by
        intro c hc
        obtain rfl : ']' = c := Option.some.inj hc
        decide
      obtain ⟨htake, hdrop⟩ := takeWhile_run hinner hstop
      refine ⟨inner ++ ']' :: s, ?_, htake, by rw [hdrop]; rfl, by rw [hdrop]; rfl⟩
      rw [Bracketed.text, if_pos rfl, List.cons_append, List.append_assoc, List.singleton_append]
  | false =>
      obtain ⟨htake, hdrop⟩ := takeWhile_run hinner fun c hc => (hwhole rfl c hc).1
      have hne : s.head? ≠ some ']' := fun h => (hwhole rfl ']' h).2 rfl
      refine ⟨inner ++ s, ?_, htake, by rw [hdrop, decide_eq_false hne],
        by rw [hdrop, dropClosing_of_ne hne]⟩
      rw [Bracketed.text, if_neg Bool.false_ne_true, List.cons_append, List.append_nil]

/-- It is cut off as the first part of the line. -/
lemma partsOf_text : partsOf (m.text ++ s) = (partsOf s).push m := by
  obtain ⟨rest, htext, htake, hclosed, hdrop⟩ := text_append hinner hwhole
  rw [htext, partsOf, if_pos rfl, htake, hclosed, hdrop]

/-- It is the first thing that a scan finds. -/
lemma scan_text : scan (m.text ++ s) = .motion m.inner :: scan s := by
  obtain ⟨rest, htext, htake, -, hdrop⟩ := text_append hinner hwhole
  rw [htext, scan_bracket, htake, hdrop]

end Front

/-- **There is one way to take a line apart.** -/
lemma of_iff {p : Parts} {s : List Char} : p.Of s ↔ p = partsOf s := by
  refine ⟨fun h => ?_, fun h => h ▸ of_partsOf s⟩
  induction p using Parts.inductionOn generalizing s with
  | nil =>
      obtain rfl : [] = s := h.line_eq
      rw [partsOf]
  | cons c p ih =>
      obtain ⟨hc, rest, rfl, hrest⟩ := Parts.of_cons_iff.mp h
      rw [partsOf, if_neg hc, ← ih hrest]
  | push m p ih =>
      obtain ⟨hinner, rest, rfl, hwhole, hrest⟩ := Parts.of_push_iff.mp h
      rw [partsOf_text hinner hwhole, ← ih hrest]

/-! ## What a scan finds -/

/-- A motion has one opening bracket. -/
lemma count_text {m : Bracketed} (hinner : ∀ c ∈ m.inner, c.isAlphanum = true) : m.text.count '[' = 1 := by
  have hcount : m.inner.count '[' = 0 := by
    refine List.count_eq_zero.mpr fun h => ?_
    have hbracket := hinner _ h
    cases hbracket
  rw [Bracketed.text, List.count_cons_self, List.count_append, hcount]
  split <;> rfl

/-- There are as many motions as opening brackets. -/
lemma length_motions (s : List Char) : (partsOf s).motions.length = s.count '[' := by
  fun_induction partsOf s with
  | case1 => rfl
  | case2 rest ih =>
      rw [← text_append_dropClosing rest, List.count_append, count_text fun c => List.mem_takeWhile_imp,
        ← ih, Nat.add_comm]
      rfl
  | case3 c rest hc ih =>
      rw [List.count_cons_of_ne hc]
      exact ih

/-- The motions of a line are those of its parts. -/
lemma segments_eq (s : List Char) : segments s = (partsOf s).motions.map fun m => m.1.inner := by
  fun_induction partsOf s with
  | case1 => rw [segments, scan]; rfl
  | case2 rest ih =>
      rw [segments, scan_bracket]
      exact congrArg (rest.takeWhile Char.isAlphanum :: ·) ih
  | case3 c rest hc ih =>
      rw [segments, scan_cons_of_ne hc]
      exact ih

/-- A blank stands in the place of each motion. -/
lemma shown_eq (s : List Char) : (scan s).map Piece.shown = [' '].intercalate (partsOf s).texts := by
  fun_induction partsOf s with
  | case1 => rw [scan]; rfl
  | case2 rest ih =>
      rw [scan_bracket, List.map_cons, ih]
      show _ = [' '].intercalate ([] :: _ :: _)
      rw [List.intercalate_cons_cons]
      rfl
  | case3 c rest hc ih =>
      rw [scan_cons_of_ne hc, List.map_cons, ih]
      exact List.intercalate_cons_cons_left.symm

/-! ## Brackets around a motion -/

/-- Whether a character is a bracket. -/
def isBracket (c : Char) : Bool := c == '[' || c == ']'

/-- A text without the brackets at its two ends. -/
def unbracket (s : List Char) : List Char :=
  ((s.dropWhile isBracket).reverse.dropWhile isBracket).reverse

lemma not_isBracket_of_isAlphanum {c : Char} (h : c.isAlphanum = true) : isBracket c = false := by
  cases hc : isBracket c with
  | false => rfl
  | true =>
      rw [isBracket, Bool.or_eq_true, beq_iff_eq, beq_iff_eq] at hc
      rcases hc with rfl | rfl <;> cases h

/-- A motion is what stands between its brackets. -/
lemma unbracket_text {m : Bracketed} (hinner : ∀ c ∈ m.inner, c.isAlphanum = true) :
    unbracket m.text = m.inner := by
  have hclosing : ∀ c ∈ if m.closed then [']'] else [], isBracket c = true := by
    split <;> simp [isBracket]
  have hstop : ∀ c ∈ m.inner, isBracket c = false := fun c hc => not_isBracket_of_isAlphanum (hinner c hc)
  rw [unbracket, Bracketed.text, List.dropWhile_cons_of_pos (by decide)]
  by_cases hnil : m.inner = []
  · rw [hnil, List.nil_append, List.dropWhile_eq_nil_iff.mpr hclosing]
    rfl
  · obtain ⟨c, rest, hcons⟩ := List.exists_cons_of_ne_nil hnil
    have hc : isBracket c = false := hstop c (hcons ▸ List.mem_cons_self)
    have hopening : (m.inner ++ if m.closed then [']'] else []).dropWhile isBracket =
        m.inner ++ if m.closed then [']'] else [] := by
      rw [hcons, List.cons_append]
      exact List.dropWhile_cons_of_neg (by simp [hc])
    have hback := takeWhile_run (s := m.inner.reverse) (fun c hc => hclosing c (List.mem_reverse.mp hc))
      fun c hc => hstop c (List.mem_reverse.mp (List.mem_of_mem_head? hc))
    rw [hopening, List.reverse_append, hback.2, List.reverse_reverse]

/-- **A line and its motions.**  There is one way to take a line apart, with as many motions as the line has
opening brackets.  The motions that are found are those between the brackets; the command line is the texts
around them with a blank between each two, trimmed at the ends, and its words are theirs.  It has no motion any
more, so that taking its motions out changes nothing; and the line speaks of motion exactly if it has a
bracket. -/
theorem line_taken_apart (raw : List Char) :
    ∃ parts : Parts, (∀ other : Parts, other.Of raw ↔ other = parts) ∧
      parts.motions.length = raw.count '[' ∧
      segments raw = parts.motions.map (fun m => m.1.inner) ∧
      segments raw = parts.motions.map (fun m => unbracket m.1.text) ∧
      stripSegments raw = trim ([' '].intercalate parts.texts) ∧
      words (stripSegments raw) = parts.texts.flatMap words ∧
      '[' ∉ stripSegments raw ∧
      segments (stripSegments raw) = [] ∧
      stripSegments (stripSegments raw) = stripSegments raw ∧
      ∀ keymap, (read keymap raw).isVimMode = true ↔ '[' ∈ raw := by
  have hstrip : stripSegments raw = trim ([' '].intercalate (partsOf raw).texts) := by
    rw [stripSegments, shown_eq]
  have hplain : '[' ∉ stripSegments raw := fun h =>
    not_mem_shown raw ((trim_sublist _).mem h)
  refine ⟨partsOf raw, fun other => of_iff, length_motions raw, segments_eq raw, ?_, hstrip, ?_, hplain,
    segments_eq_nil_iff.mpr hplain, ?_, fun keymap => ?_⟩
  · rw [segments_eq]
    exact List.map_congr_left fun m hm => (unbracket_text ((of_partsOf raw).inner m hm)).symm
  · rw [hstrip, words_trim, words_intercalate (by decide)]
  · rw [stripSegments_of_not_mem hplain, stripSegments, trim_trim]
  · rw [isVimMode_read, decide_eq_true_iff]

/-- A motion may still be open, and a closing bracket may stand anywhere. -/
example :
    partsOf "a[jk]] [2f".toList =
      ⟨['a'], [(⟨['j', 'k'], true⟩, [']', ' ']), (⟨['2', 'f'], false⟩, [])]⟩ := by
  decide +kernel

end CommandPalette.Motion
