import CommandPalette.Proofs.Key
import CommandPalette.Settings.Layer
import Mathlib.Data.List.Basic

/-!
# Tables over tables

A table is laid over another one entry by entry, and what stands under a key of both is laid over each other in
turn (`lookup?_overlay`).  So it is known for every path what comes to stand at it.

* `Value.at?`: what stands at a path.
* `KeysApart`, `Keyed`: the keys of a table tell its entries apart, in a table and in all tables inside it.
* `Found`: every key is found, so none of them is not-a-number.
* `Blocked`: a path meets something on the way that is no table.
* **`at?_overlayValue`**: what stands at a path where one value is laid over another one.
* **`overlay_by_paths`**: the same for tables, with what follows for the empty table, for a table that is laid
  over twice, and for the keys.
-/

namespace CommandPalette

namespace Value

/-! ## Paths -/

/-- What stands at a path; every key of it leads into a table. -/
def at? : List Value → Value → Option Value
  | [], v => some v
  | key :: path, table entries => (lookup? key entries).bind (at? path)
  | _ :: _, _ => none

/-- A value that is a table. -/
def IsTable (v : Value) : Prop := ∃ entries, v = table entries

@[simp] lemma isTable_table (entries : List (Value × Value)) : (table entries).IsTable := ⟨entries, rfl⟩

@[simp] lemma at?_nil (v : Value) : at? [] v = some v := rfl

@[simp] lemma at?_cons (key : Value) (path : List Value) (entries : List (Value × Value)) :
    at? (key :: path) (table entries) = (lookup? key entries).bind (at? path) := rfl

lemma at?_cons_of_not_isTable {v : Value} (h : ¬ v.IsTable) (key : Value) (path : List Value) :
    at? (key :: path) v = none := by
  cases v with
  | table entries => exact absurd ⟨entries, rfl⟩ h
  | _ => rfl

end Value

namespace Settings

open Value

variable {base layer below above entries rest : List (Value × Value)} {key value v : Value}

/-! ## Keys of tables -/

/-- The keys of a table tell its entries apart. -/
structure KeysApart (entries : List (Value × Value)) : Prop where
  keys : ∀ e ∈ entries, e.1.isKey = true
  apart : entries.Pairwise fun earlier later => earlier.1.same later.1 = false

/-- The same for all tables in a value. -/
def Keyed (v : Value) : Prop := ∀ path entries, v.at? path = some (.table entries) → KeysApart entries

/-- Every key of all tables in a value is found.  Not-a-number would not be. -/
def Found (v : Value) : Prop :=
  ∀ path entries, v.at? path = some (.table entries) → ∀ e ∈ entries, e.1.same e.1 = true

lemma Keyed.keysApart (h : Keyed (.table entries)) : KeysApart entries := h [] entries rfl

lemma Keyed.of_lookup? (h : Keyed (.table entries)) (hv : lookup? key entries = some v) : Keyed v :=
  fun path inner hinner => h (key :: path) inner (by rw [at?_cons, hv]; exact hinner)

lemma Found.of_lookup? (h : Found (.table entries)) (hv : lookup? key entries = some v) : Found v :=
  fun path inner hinner => h (key :: path) inner (by rw [at?_cons, hv]; exact hinner)

/-- In a value that is no table there are no tables. -/
lemma forall_at?_of_not_isTable (h : ¬ v.IsTable) (P : List (Value × Value) → Prop) :
    ∀ path entries, v.at? path = some (.table entries) → P entries := by
  intro path entries hentries
  cases path with
  | nil => exact absurd ⟨entries, Option.some.inj hentries⟩ h
  | cons key path => rw [at?_cons_of_not_isTable h] at hentries; cases hentries

lemma keyed_of_not_isTable (h : ¬ v.IsTable) : Keyed v := forall_at?_of_not_isTable h _

lemma found_of_not_isTable (h : ¬ v.IsTable) : Found v := forall_at?_of_not_isTable h _

lemma mem_of_lookup? (h : lookup? key entries = some v) : ∃ k, (k, v) ∈ entries := by
  obtain ⟨e, he, rfl⟩ := Option.map_eq_some_iff.mp h
  exact ⟨e.1, List.mem_of_find?_eq_some he⟩

/-- The tables in a table are the table itself and those in its values. -/
lemma forall_at?_table {P : List (Value × Value) → Prop} (h : P entries)
    (hvalues : ∀ e ∈ entries, ∀ path inner, e.2.at? path = some (.table inner) → P inner) :
    ∀ path inner, (Value.table entries).at? path = some (.table inner) → P inner := by
  intro path inner hinner
  cases path with
  | nil =>
      obtain rfl := Value.table.inj (Option.some.inj hinner)
      exact h
  | cons key path =>
      obtain ⟨v, hv, hinner⟩ := Option.bind_eq_some_iff.mp hinner
      obtain ⟨k, hmem⟩ := mem_of_lookup? hv
      exact hvalues _ hmem path inner hinner

/-- Different names keep entries apart. -/
lemma keyed_fields {fields : List (String × Value)} (h : (fields.map (·.1)).Nodup)
    (hvalues : ∀ e ∈ fields, Keyed e.2) : Keyed (.table (table fields)) := by
  refine forall_at?_table ⟨fun e he => ?_, ?_⟩ fun e he => ?_
  · obtain ⟨field, -, rfl⟩ := List.mem_map.mp he
    rfl
  · rw [List.Nodup, List.pairwise_map] at h
    rw [table, List.pairwise_map]
    refine h.imp fun {a b} hne => ?_
    rw [Bool.eq_false_iff]
    exact fun hsame => hne (Value.text.inj (same_text_iff.mp hsame))
  · obtain ⟨field, hfield, rfl⟩ := List.mem_map.mp he
    exact hvalues field hfield

/-- Names are found. -/
lemma found_fields {fields : List (String × Value)} (hvalues : ∀ e ∈ fields, Found e.2) :
    Found (.table (table fields)) := by
  refine forall_at?_table (fun e he => ?_) fun e he => ?_
  · obtain ⟨field, -, rfl⟩ := List.mem_map.mp he
    exact same_text_iff.mpr rfl
  · obtain ⟨field, hfield, rfl⟩ := List.mem_map.mp he
    exact hvalues field hfield

/-- A key that counts as the first one is not found in the rest. -/
lemma lookup?_eq_none_of_apart (hkey : value.isKey = true) (h : ∀ e ∈ rest, value.same e.1 = false)
    (hsame : value.same key = true) : lookup? key rest = none := by
  rw [lookup?, Option.map_eq_none_iff, List.find?_eq_none]
  intro e he heq
  change e.1.same key = true at heq
  rw [← (same_congr (.inl hkey) hsame).2, same_comm (.inr hkey), h e he] at heq
  cases heq

/-- What stands beside a key in a table is found under it, if the key is found at all. -/
lemma lookup?_of_mem (h : KeysApart entries) {e : Value × Value} (he : e ∈ entries)
    (hfound : e.1.same e.1 = true) : lookup? e.1 entries = some e.2 := by
  induction entries with
  | nil => cases he
  | cons first rest ih =>
      obtain ⟨hkey, hkeys⟩ := List.forall_mem_cons.mp h.keys
      obtain ⟨hfirst, hrest⟩ := List.pairwise_cons.mp h.apart
      obtain ⟨k, v⟩ := first
      rw [lookup?_cons]
      rcases List.mem_cons.mp he with rfl | hlater
      · rw [if_pos hfound]
      · rw [if_neg (by simp [hfirst e hlater]), ih ⟨hkeys, hrest⟩ hlater]

/-! ## What is found under a key -/

lemma overlayValue_none (v : Value) : overlayValue none v = v := by
  cases v <;> rfl

lemma overlayValue_of_not_isTable {old : Option Value} (h : ¬ v.IsTable) : overlayValue old v = v := by
  cases v with
  | table entries => exact absurd ⟨entries, rfl⟩ h
  | _ => rfl

lemma overlayValue_table : overlayValue (some (.table below)) (.table above) = .table (overlay below above) :=
  rfl

/-- Over what is no table a table is laid as it is. -/
lemma overlayValue_table_of_forall {old : Option Value} (h : ∀ below, old ≠ some (.table below)) :
    overlayValue old (.table above) = .table above := by
  cases old with
  | none => rfl
  | some v => cases v with
    | table below => exact absurd rfl (h below)
    | _ => rfl

lemma overlay_cons :
    overlay base ((key, value) :: rest) =
      overlay (insert key (overlayValue (lookup? key base) value) base) rest := by
  rw [overlay]

/-- **What is found under a key** after a table was laid over another one. -/
lemma lookup?_overlay (h : KeysApart layer) :
    lookup? key (overlay base layer) =
      ((lookup? key layer).map (overlayValue (lookup? key base))).or (lookup? key base) := by
  induction layer generalizing base with
  | nil => rfl
  | cons first rest ih =>
      obtain ⟨hk, hkeys⟩ := List.forall_mem_cons.mp h.keys
      obtain ⟨hfirst, hrest⟩ := List.pairwise_cons.mp h.apart
      obtain ⟨k, v⟩ := first
      rw [overlay_cons, ih ⟨hkeys, hrest⟩, lookup?_insert hk, lookup?_cons]
      by_cases hsame : k.same key = true
      · rw [if_pos hsame, if_pos hsame, lookup?_eq_none_of_apart hk hfirst hsame, lookup?_congr hk hsame]
        rfl
      · rw [if_neg hsame, if_neg hsame]

/-! ## What stands at a path -/

/-- A path meets something on the way that is no table. -/
def Blocked (path : List Value) (v : Value) : Prop :=
  ∃ start w, start <+: path ∧ start ≠ path ∧ v.at? start = some w ∧ ¬ w.IsTable

lemma blocked_of_not_isTable (h : ¬ v.IsTable) (key : Value) (path : List Value) :
    Blocked (key :: path) v :=
  ⟨[], v, List.nil_prefix, by simp, rfl, h⟩

lemma blocked_cons_iff {path : List Value} :
    Blocked (key :: path) (.table entries) ↔ ∃ v, lookup? key entries = some v ∧ Blocked path v := by
  constructor
  · rintro ⟨start, w, hprefix, hne, hw, htable⟩
    cases start with
    | nil => exact absurd (Option.some.inj hw ▸ isTable_table entries) htable
    | cons k start =>
        obtain ⟨rfl, hstart⟩ := List.cons_prefix_cons.mp hprefix
        obtain ⟨v, hv, hw⟩ := Option.bind_eq_some_iff.mp hw
        exact ⟨v, hv, start, w, hstart, fun heq => hne (heq ▸ rfl), hw, htable⟩
  · rintro ⟨v, hv, start, w, hprefix, hne, hw, htable⟩
    refine ⟨key :: start, w, List.cons_prefix_cons.mpr ⟨rfl, hprefix⟩, by simpa using hne, ?_, htable⟩
    rw [at?_cons, hv]
    exact hw

/-- **What stands at a path** where a value is laid over another one that may be there. -/
lemma at?_overlayValue (path : List Value) (old : Option Value) (h : Keyed v) :
    (∀ w, v.at? path = some w →
      (overlayValue old v).at? path = some (overlayValue (old.bind (at? path)) w)) ∧
    (v.at? path = none →
      (Blocked path v → (overlayValue old v).at? path = none) ∧
      (¬ Blocked path v → (overlayValue old v).at? path = old.bind (at? path))) := by
  -- The induction is on the path; what lies under its first key is laid over what lay there.
  induction path generalizing old v with
  | nil =>
      refine ⟨fun w hw => ?_, nofun⟩
      obtain rfl := Option.some.inj hw
      cases old <;> rfl
  | cons key path ih =>
      by_cases htable : v.IsTable
      swap
      · rw [overlayValue_of_not_isTable htable, at?_cons_of_not_isTable htable]
        exact ⟨nofun, fun _ => ⟨fun _ => rfl, fun hfree =>
          absurd (blocked_of_not_isTable htable key path) hfree⟩⟩
      obtain ⟨layer, rfl⟩ := htable
      by_cases hold : ∃ base, old = some (.table base)
      · obtain ⟨base, rfl⟩ := hold
        rw [overlayValue_table, at?_cons, at?_cons, lookup?_overlay h.keysApart, blocked_cons_iff,
          Option.bind_some, at?_cons]
        cases hv : lookup? key layer with
        | none => simp
        | some v => simpa using ih (lookup? key base) (h.of_lookup? hv)
      · have hnone : old.bind (at? (key :: path)) = none := by
          cases old with
          | none => rfl
          | some w => exact at?_cons_of_not_isTable (fun ⟨base, hbase⟩ => hold ⟨base, by rw [hbase]⟩) _ _
        rw [overlayValue_table_of_forall fun base hbase => hold ⟨base, hbase⟩, hnone]
        exact ⟨fun w hw => by rw [hw, overlayValue_none], fun hw => ⟨fun _ => hw, fun _ => hw⟩⟩

/-! ## The empty table, and a table that is laid over twice -/

lemma lookup?_append (hnone : lookup? key base = none) :
    lookup? key (base ++ [(value, v)]) = if value.same key = true then some v else none := by
  rw [lookup?, Option.map_eq_none_iff] at hnone
  rw [lookup?, List.find?_append, hnone, Option.none_or]
  by_cases hsame : value.same key = true <;> simp [hsame]

lemma insert_of_lookup?_eq_none (h : lookup? key entries = none) :
    insert key value entries = entries ++ [(key, value)] := by
  induction entries with
  | nil => rfl
  | cons first rest ih =>
      obtain ⟨k, v⟩ := first
      rw [lookup?_cons] at h
      split at h
      · cases h
      · rename_i hother
        rw [Value.insert, if_neg hother, ih h]
        rfl

/-- Entries under new keys come at the end. -/
lemma overlay_eq_append (h : KeysApart layer) (hnew : ∀ e ∈ layer, lookup? e.1 base = none) :
    overlay base layer = base ++ layer := by
  induction layer generalizing base with
  | nil => rw [overlay, List.append_nil]
  | cons first rest ih =>
      obtain ⟨hk, hkeys⟩ := List.forall_mem_cons.mp h.keys
      obtain ⟨hfirst, hrest⟩ := List.pairwise_cons.mp h.apart
      obtain ⟨hnone, hothers⟩ := List.forall_mem_cons.mp hnew
      obtain ⟨k, v⟩ := first
      have hlater : ∀ e ∈ rest, lookup? e.1 (base ++ [(k, v)]) = none := by
        intro e he
        rw [lookup?_append (hothers e he), hfirst e he]
        rfl
      rw [overlay_cons, hnone, overlayValue_none, insert_of_lookup?_eq_none hnone,
        ih ⟨hkeys, hrest⟩ hlater, List.append_assoc]
      rfl

lemma overlay_nil_left (h : KeysApart layer) : overlay [] layer = layer :=
  overlay_eq_append h fun _ _ => rfl

/-- What is there already changes nothing. -/
lemma overlay_eq_self
    (h : ∀ e ∈ layer, lookup? e.1 base = some (overlayValue (lookup? e.1 base) e.2)) :
    overlay base layer = base := by
  induction layer with
  | nil => rw [overlay]
  | cons first rest ih =>
      obtain ⟨hfirst, hrest⟩ := List.forall_mem_cons.mp h
      rw [overlay_cons, insert_eq_self hfirst, ih hrest]

/-- **A table that is laid over twice** might as well be laid over once. -/
lemma overlay_overlay_self (base : List (Value × Value)) {layer : List (Value × Value)}
    (hkeyed : Keyed (.table layer)) (hfound : Found (.table layer)) :
    overlay (overlay base layer) layer = overlay base layer := by
  refine overlay_eq_self fun e he => ?_
  have hthere := lookup?_of_mem hkeyed.keysApart he (hfound [] layer rfl e he)
  rw [lookup?_overlay hkeyed.keysApart, hthere, Option.map_some, Option.some_or, Option.some.injEq]
  by_cases htable : e.2.IsTable
  swap
  · simp only [overlayValue_of_not_isTable htable]
  obtain ⟨above, habove⟩ := htable
  have hkeyedInner : Keyed (.table above) := habove ▸ hkeyed.of_lookup? hthere
  have hfoundInner : Found (.table above) := habove ▸ hfound.of_lookup? hthere
  have hsmaller : sizeOf above < sizeOf layer := by
    have hmem := List.sizeOf_lt_of_mem he
    have hentry : sizeOf e = 1 + sizeOf e.1 + sizeOf e.2 := rfl
    rw [habove, Value.table.sizeOf_spec] at hentry
    omega
  rw [habove]
  by_cases hold : ∃ below, lookup? e.1 base = some (.table below)
  · obtain ⟨below, hbelow⟩ := hold
    rw [hbelow, overlayValue_table, overlayValue_table, overlay_overlay_self _ hkeyedInner hfoundInner]
  · rw [overlayValue_table_of_forall fun below hbelow => hold ⟨below, hbelow⟩, overlayValue_table]
    -- The table was laid over nothing, which is laying it over the empty table.
    have hself := overlay_overlay_self [] hkeyedInner hfoundInner
    rw [overlay_nil_left hkeyedInner.keysApart] at hself
    rw [hself]
termination_by sizeOf layer

/-! ## The keys -/

lemma map_fst_insert :
    (insert key value entries).map (·.1) =
      entries.map (·.1) ++ if lookup? key entries = none then [key] else [] := by
  cases hold : lookup? key entries with
  | none => rw [insert_of_lookup?_eq_none hold, if_pos rfl, List.map_append]; rfl
  | some v =>
      rw [if_neg nofun, List.append_nil]
      induction entries with
      | nil => cases hold
      | cons first rest ih =>
          obtain ⟨k, w⟩ := first
          rw [lookup?_cons] at hold
          rw [Value.insert]
          split
          · rfl
          · rename_i hother
            rw [if_neg hother] at hold
            rw [List.map_cons, List.map_cons, ih hold]

/-- **The keys of both tables**, those of the lower one first. -/
lemma map_fst_overlay (h : KeysApart layer) :
    (overlay base layer).map (·.1) =
      base.map (·.1) ++ (layer.map (·.1)).filter fun key => (lookup? key base).isNone := by
  induction layer generalizing base with
  | nil => simp [overlay]
  | cons first rest ih =>
      obtain ⟨hk, hkeys⟩ := List.forall_mem_cons.mp h.keys
      obtain ⟨hfirst, hrest⟩ := List.pairwise_cons.mp h.apart
      obtain ⟨k, v⟩ := first
      -- The keys of the rest are other keys, so writing under the first one does not make them known.
      have hfilter (w : Value) : (rest.map (·.1)).filter (fun key => (lookup? key (insert k w base)).isNone) =
          (rest.map (·.1)).filter fun key => (lookup? key base).isNone := by
        refine List.filter_congr fun key hkey => ?_
        obtain ⟨e, he, rfl⟩ := List.mem_map.mp hkey
        rw [lookup?_insert hk, hfirst e he]
        rfl
      rw [overlay_cons, ih ⟨hkeys, hrest⟩, hfilter, map_fst_insert, List.map_cons, List.filter_cons,
        List.append_assoc]
      cases lookup? k base <;> rfl

/-! ## The main statement -/

/-- **Tables over tables, path by path.**  What the upper table has at a path comes to stand there, laid over
what the lower one has there where both are tables.  Where the upper table has nothing, what the lower one has
stays, unless the upper one has something on the way that is no table.

So the empty table over or under another one changes nothing, and neither does a table over itself or laid over
a second time.  The keys of two tables that meet are those of the lower one, and then the new ones. -/
theorem overlay_by_paths (hbase : Keyed (.table base)) (hlayer : Keyed (.table layer)) :
    let lower := Value.table base
    let upper := Value.table layer
    let merged := Value.table (overlay base layer)
    (∀ path v, upper.at? path = some v → ¬ v.IsTable → merged.at? path = some v) ∧
    (∀ path above, upper.at? path = some (.table above) →
      (∀ below, lower.at? path = some (.table below) →
        merged.at? path = some (.table (overlay below above)) ∧
        (overlay below above).map (·.1) =
          below.map (·.1) ++ (above.map (·.1)).filter fun key => (lookup? key below).isNone) ∧
      ((∀ below, lower.at? path ≠ some (.table below)) → merged.at? path = some (.table above))) ∧
    (∀ path, upper.at? path = none →
      (Blocked path upper → merged.at? path = none) ∧
      (¬ Blocked path upper → merged.at? path = lower.at? path)) ∧
    (overlay base [] = base ∧ overlay [] base = base) ∧
    (Found upper → overlay layer layer = layer ∧ overlay (overlay base layer) layer = overlay base layer) := by
  have hpath (path : List Value) := at?_overlayValue path (some (.table base)) hlayer
  simp only [overlayValue_table, Option.bind_some] at hpath
  refine ⟨fun path v hv htable => ?_, fun path above habove => ⟨fun below hbelow => ⟨?_, ?_⟩, fun hnone => ?_⟩,
    fun path hnone => (hpath path).2 hnone, ⟨by rw [overlay], overlay_nil_left hbase.keysApart⟩,
    fun hfound => ⟨?_, overlay_overlay_self base hlayer hfound⟩⟩
  · rw [(hpath path).1 v hv, overlayValue_of_not_isTable htable]
  · rw [(hpath path).1 _ habove, hbelow, overlayValue_table]
  · exact map_fst_overlay (hlayer path above habove)
  · rw [(hpath path).1 _ habove, overlayValue_table_of_forall hnone]
  · have hself := overlay_overlay_self [] hlayer hfound
    rwa [overlay_nil_left hlayer.keysApart] at hself

/-- Settings with a section that a text will replace. -/
def lowerSettings : List (Value × Value) :=
  table [("app", .table (table [("name", .text "Day"), ("debug", .bool true)])),
    ("vim", .table (table [("enabled", .bool true)]))]

/-- Settings with a text for a section and a section for a text. -/
def upperSettings : List (Value × Value) :=
  table [("app", .table (table [("name", .table (table [("short", .text "D")]))])), ("vim", .text "off")]

/-- A field that the upper table does not mention stays; where a text has replaced a section, there are no
fields any more.  The upper table might be laid over a second time. -/
theorem mixed_settings_by_paths :
    Keyed (.table lowerSettings) ∧ Keyed (.table upperSettings) ∧ Found (.table upperSettings) ∧
      let merged := Value.table (overlay lowerSettings upperSettings)
      merged.at? [.text "app", .text "debug"] = some (.bool true) ∧
      merged.at? [.text "app", .text "name", .text "short"] = some (.text "D") ∧
      merged.at? [.text "vim", .text "enabled"] = none ∧
      overlay (overlay lowerSettings upperSettings) upperSettings = overlay lowerSettings upperSettings := by
  have htext (s : String) : Keyed (.text s) := keyed_of_not_isTable nofun
  have hflag (b : Bool) : Keyed (.bool b) := keyed_of_not_isTable nofun
  have hlower : Keyed (.table lowerSettings) := by
    refine keyed_fields (by decide) (List.forall_mem_cons.mpr ⟨?_, List.forall_mem_singleton.mpr ?_⟩)
    · exact keyed_fields (by decide)
        (List.forall_mem_cons.mpr ⟨htext _, List.forall_mem_singleton.mpr (hflag _)⟩)
    · exact keyed_fields (by decide) (List.forall_mem_singleton.mpr (hflag _))
  have hupper : Keyed (.table upperSettings) := by
    refine keyed_fields (by decide) (List.forall_mem_cons.mpr ⟨?_, List.forall_mem_singleton.mpr (htext _)⟩)
    refine keyed_fields (by decide) (List.forall_mem_singleton.mpr ?_)
    exact keyed_fields (by decide) (List.forall_mem_singleton.mpr (htext _))
  have hfound : Found (.table upperSettings) := by
    have hname (s : String) : Found (.text s) := found_of_not_isTable nofun
    refine found_fields (List.forall_mem_cons.mpr ⟨?_, List.forall_mem_singleton.mpr (hname _)⟩)
    refine found_fields (List.forall_mem_singleton.mpr ?_)
    exact found_fields (List.forall_mem_singleton.mpr (hname _))
  have hfree : ¬ Blocked [.text "app", .text "debug"] (.table upperSettings) := by
    intro hblocked
    obtain ⟨app, happ, hblocked⟩ := blocked_cons_iff.mp hblocked
    obtain rfl : Value.table _ = app := Option.some.inj happ
    obtain ⟨debug, hdebug, -⟩ := blocked_cons_iff.mp hblocked
    cases hdebug
  obtain ⟨hvalue, -, hnone, -, htwice⟩ := overlay_by_paths hlower hupper
  refine ⟨hlower, hupper, hfound, ?_, ?_, ?_, (htwice hfound).2⟩
  · rw [(hnone [.text "app", .text "debug"] rfl).2 hfree]
    rfl
  · exact hvalue [.text "app", .text "name", .text "short"] (.text "D") rfl nofun
  · exact (hnone [.text "vim", .text "enabled"] rfl).1
      ⟨[.text "vim"], .text "off", by simp, by simp, rfl, nofun⟩

end Settings

end CommandPalette
