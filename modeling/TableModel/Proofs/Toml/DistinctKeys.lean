import Mathlib.Data.List.Nodup
import TableModel.Toml.Parser

/-!
# Keys of a document's tables

No table of a document has a key twice, at whatever depth it stands and however it came about: in
braces, under a header, or along dotted keys (`distinctMembers_of_parse?`). Each of the ways to add
to a table asks what stands under the key first, so each keeps the property, and the reader starts
from a table without members.
-/

namespace TableModel.Toml

/-- No table in the value has a key twice. Arrays may hold the same value several times, and each
value in them is distinct in this sense. -/
inductive Distinct : Toml → Prop
  | string (text : Text) : Distinct (.string text)
  | bool (b : Bool) : Distinct (.bool b)
  | number (literal : Text) : Distinct (.number literal)
  | dateTime (literal : Text) : Distinct (.dateTime literal)
  | array {items : List Toml} (h : ∀ item ∈ items, Distinct item) : Distinct (.array items)
  | table {form : TableForm} {members : Members} (hkeys : (members.map (·.1)).Nodup)
      (h : ∀ member ∈ members, Distinct member.2) : Distinct (.table form members)
  | tables {items : List Members} (hkeys : ∀ members ∈ items, (members.map (·.1)).Nodup)
      (h : ∀ members ∈ items, ∀ member ∈ members, Distinct member.2) : Distinct (.tables items)

/-- Neither the table of the members nor a table in it has a key twice: each key is there once, and
the values under the keys are distinct in the same sense. -/
structure DistinctMembers (members : Members) : Prop where
  nodup : (members.map (·.1)).Nodup
  values : ∀ member ∈ members, Distinct member.2

theorem distinct_table_iff {form : TableForm} {members : Members} :
    Distinct (.table form members) ↔ DistinctMembers members := by
  constructor
  · rintro (_ | _ | _ | _ | _ | ⟨hkeys, h⟩)
    exact ⟨hkeys, h⟩
  · rintro ⟨hkeys, h⟩
    exact .table hkeys h

theorem distinct_tables_iff {items : List Members} :
    Distinct (.tables items) ↔ ∀ members ∈ items, DistinctMembers members := by
  constructor
  · rintro (_ | _ | _ | _ | _ | _ | ⟨hkeys, h⟩) members hmem
    exact ⟨hkeys members hmem, h members hmem⟩
  · intro h
    exact .tables (fun members hmem => (h members hmem).nodup)
      fun members hmem => (h members hmem).values

/-! ### Adding to tables -/

theorem DistinctMembers.nil : DistinctMembers [] := ⟨List.nodup_nil, by simp⟩

theorem DistinctMembers.of_lookup {members : Members} (h : DistinctMembers members) {key : Text}
    {value : Toml} (hlookup : members.lookup key = some value) : Distinct value := by
  obtain ⟨front, back, rfl, -⟩ := List.lookup_eq_some_iff.mp hlookup
  exact h.values (key, value) (by simp)

theorem DistinctMembers.append {members : Members} (h : DistinctMembers members) {key : Text}
    (hkey : members.lookup key = none) {value : Toml} (hvalue : Distinct value) :
    DistinctMembers (members ++ [(key, value)]) := by
  have hnew : key ∉ members.map (·.1) := by
    intro hmem
    obtain ⟨member, hmember, rfl⟩ := List.mem_map.mp hmem
    simpa using List.lookup_eq_none_iff.mp hkey member hmember
  constructor
  · rw [List.map_append, List.map_singleton, List.nodup_append]
    refine ⟨h.nodup, List.nodup_singleton key, fun other hother new hmem heq => ?_⟩
    rw [heq, List.mem_singleton.mp hmem] at hother
    exact hnew hother
  · intro member hmem
    rcases List.mem_append.mp hmem with hmem | hmem
    · exact h.values member hmem
    · rw [List.mem_singleton.mp hmem]
      exact hvalue

theorem mem_keys_set {members : Members} {key other : Text} {value : Toml}
    (h : other ∈ (set key value members).map (·.1)) : other = key ∨ other ∈ members.map (·.1) := by
  induction members with
  | nil => simpa [set] using h
  | cons member rest ih =>
    by_cases hkey : member.1 = key
    · rw [set, if_pos hkey, List.map_cons, List.mem_cons] at h
      rcases h with h | h
      · exact .inl h
      · exact .inr (List.mem_cons_of_mem _ h)
    · rw [set, if_neg hkey, List.map_cons, List.mem_cons] at h
      rcases h with h | h
      · exact .inr (h ▸ List.mem_cons_self)
      · exact (ih h).imp_right (List.mem_cons_of_mem _)

theorem DistinctMembers.set {members : Members} (h : DistinctMembers members) (key : Text)
    {value : Toml} (hvalue : Distinct value) : DistinctMembers (set key value members) := by
  obtain ⟨hkeys, hvalues⟩ := h
  induction members with
  | nil => exact ⟨List.nodup_singleton key, by simpa [Toml.set] using hvalue⟩
  | cons member rest ih =>
    rw [List.map_cons, List.nodup_cons] at hkeys
    have hrest : ∀ other ∈ rest, Distinct other.2 := fun other hmem =>
      hvalues other (List.mem_cons_of_mem _ hmem)
    by_cases hkey : member.1 = key
    · rw [Toml.set, if_pos hkey]
      refine ⟨List.nodup_cons.mpr ⟨hkey ▸ hkeys.1, hkeys.2⟩, fun other hmem => ?_⟩
      rcases List.mem_cons.mp hmem with rfl | hmem
      · exact hvalue
      · exact hrest other hmem
    · rw [Toml.set, if_neg hkey]
      obtain ⟨hkeys', hvalues'⟩ := ih hkeys.2 hrest
      refine ⟨List.nodup_cons.mpr ⟨fun hmem => ?_, hkeys'⟩, fun other hmem => ?_⟩
      · rcases mem_keys_set hmem with heq | hmem
        · exact hkey heq
        · exact hkeys.1 hmem
      · rcases List.mem_cons.mp hmem with rfl | hmem
        · exact hvalues other List.mem_cons_self
        · exact hvalues' other hmem

/-- Changing the last of several tables keeps what the change keeps. -/
theorem distinctMembers_of_changeLast {change : Members → Option Members}
    (hchange : ∀ members members', DistinctMembers members → change members = some members' →
      DistinctMembers members') {items items' : List Members}
    (h : ∀ members ∈ items, DistinctMembers members) (hitems : changeLast change items = some items') :
    ∀ members ∈ items', DistinctMembers members := by
  induction items generalizing items' with
  | nil => simp [changeLast] at hitems
  | cons first rest ih =>
    cases rest with
    | nil =>
      obtain ⟨last, hlast, rfl⟩ := Option.map_eq_some_iff.mp hitems
      intro members hmem
      rw [List.mem_singleton.mp hmem]
      exact hchange first last (h first List.mem_cons_self) hlast
    | cons second rest =>
      obtain ⟨changed, hchanged, rfl⟩ := Option.map_eq_some_iff.mp hitems
      have hrest := ih (fun members hmem => h members (List.mem_cons_of_mem _ hmem)) hchanged
      intro members hmem
      rcases List.mem_cons.mp hmem with rfl | hmem
      · exact h members List.mem_cons_self
      · exact hrest members hmem

theorem DistinctMembers.of_bind_set {α : Type} {changed : Option α} {value : α → Toml} {key : Text}
    {members members' : Members} (h : DistinctMembers members)
    (hvalue : ∀ a, changed = some a → Distinct (value a))
    (hset : (changed.bind fun a => some (Toml.set key (value a) members)) = some members') :
    DistinctMembers members' := by
  obtain ⟨a, ha, heq⟩ := Option.bind_eq_some_iff.mp hset
  obtain rfl := Option.some.inj heq
  exact h.set key (hvalue a ha)

/-- A value under a dotted key leaves every key of every table there once. -/
theorem distinctMembers_of_putKey {key : Text} {value : Toml} (hvalue : Distinct value)
    {path : List Text} {members members' : Members} (h : DistinctMembers members)
    (hput : putKey key value path members = some members') : DistinctMembers members' := by
  induction path generalizing members members' with
  | nil =>
    rw [putKey] at hput
    split at hput
    · contradiction
    · rename_i hnew
      obtain rfl := Option.some.inj hput
      exact h.append (Option.not_isSome_iff_eq_none.mp hnew) hvalue
  | cons step path ih =>
    have htable {form : TableForm} {inner changed : Members} (hinner : DistinctMembers inner)
        (hchanged : putKey key value path inner = some changed) : Distinct (.table form changed) :=
      distinct_table_iff.mpr (ih hinner hchanged)
    rw [putKey] at hput
    -- The path goes on in a new table, in one that dotted keys or headers made, or in the last of
    -- several; nothing else may stand there.
    split at hput
    · rename_i hnew
      obtain ⟨inner, hinner, heq⟩ := Option.bind_eq_some_iff.mp hput
      obtain rfl := Option.some.inj heq
      exact h.append hnew (htable .nil hinner)
    · rename_i hold
      have hdistinct := distinct_table_iff.mp (h.of_lookup hold)
      exact h.of_bind_set (fun _ => htable hdistinct) hput
    · rename_i hold
      have hdistinct := distinct_table_iff.mp (h.of_lookup hold)
      split at hput
      · contradiction
      · exact h.of_bind_set (fun _ => htable hdistinct) hput
    · rename_i hold
      have hdistinct := distinct_tables_iff.mp (h.of_lookup hold)
      split at hput
      · contradiction
      · exact h.of_bind_set (fun _ hitems => distinct_tables_iff.mpr
          (distinctMembers_of_changeLast (fun _ _ => ih) hdistinct hitems)) hput
    · contradiction

theorem distinctMembers_of_putEntries {entries : List Entry}
    (hentries : ∀ entry ∈ entries, Distinct entry.value) {members members' : Members}
    (h : DistinctMembers members) (hput : putEntries entries members = some members') :
    DistinctMembers members' := by
  induction entries generalizing members with
  | nil =>
    obtain rfl := Option.some.inj hput
    exact h
  | cons entry rest ih =>
    obtain ⟨next, hnext, hrest⟩ := Option.bind_eq_some_iff.mp hput
    exact ih (fun other hmem => hentries other (List.mem_cons_of_mem _ hmem))
      (distinctMembers_of_putKey (hentries entry List.mem_cons_self) h hnext) hrest

/-- What a header makes of what stands at its path has no key twice. -/
def KeepsDistinct (change : Option Toml → Option Toml) : Prop :=
  ∀ old new, (∀ value, old = some value → Distinct value) → change old = some new → Distinct new

theorem keepsDistinct_openTable {entries : List Entry}
    (hentries : ∀ entry ∈ entries, Distinct entry.value) : KeepsDistinct (openTable entries) := by
  intro old new hold hnew
  rw [openTable.eq_def] at hnew
  split at hnew
  · obtain ⟨members, hput, rfl⟩ := Option.map_eq_some_iff.mp hnew
    exact distinct_table_iff.mpr (distinctMembers_of_putEntries hentries .nil hput)
  · obtain ⟨members, hput, rfl⟩ := Option.map_eq_some_iff.mp hnew
    have hdistinct := distinct_table_iff.mp (hold _ rfl)
    exact distinct_table_iff.mpr (distinctMembers_of_putEntries hentries hdistinct hput)
  · contradiction

theorem keepsDistinct_appendTable {entries : List Entry}
    (hentries : ∀ entry ∈ entries, Distinct entry.value) :
    KeepsDistinct (appendTable entries) := by
  intro old new hold hnew
  rw [appendTable.eq_def] at hnew
  split at hnew
  · obtain ⟨members, hput, rfl⟩ := Option.map_eq_some_iff.mp hnew
    refine distinct_tables_iff.mpr fun other hmem => ?_
    rw [List.mem_singleton.mp hmem]
    exact distinctMembers_of_putEntries hentries .nil hput
  · obtain ⟨members, hput, rfl⟩ := Option.map_eq_some_iff.mp hnew
    refine distinct_tables_iff.mpr fun other hmem => ?_
    rcases List.mem_append.mp hmem with hmem | hmem
    · exact distinct_tables_iff.mp (hold _ rfl) other hmem
    · rw [List.mem_singleton.mp hmem]
      exact distinctMembers_of_putEntries hentries .nil hput
  · contradiction

theorem distinctMembers_of_putSection {change : Option Toml → Option Toml}
    (hchange : KeepsDistinct change) {path : List Text} {members members' : Members}
    (h : DistinctMembers members) (hput : putSection change path members = some members') :
    DistinctMembers members' := by
  induction path generalizing members members' with
  | nil => contradiction
  | cons step path ih =>
    cases path with
    | nil =>
      obtain ⟨new, hnew, heq⟩ := Option.bind_eq_some_iff.mp hput
      obtain rfl := Option.some.inj heq
      exact h.set step (hchange _ new (fun _ hold => h.of_lookup hold) hnew)
    | cons next path =>
      have htable {form : TableForm} {inner changed : Members} (hinner : DistinctMembers inner)
          (hchanged : putSection change (next :: path) inner = some changed) :
          Distinct (.table form changed) :=
        distinct_table_iff.mpr (ih hinner hchanged)
      simp only [putSection] at hput
      -- As for a key, but any table except one in braces may be gone through.
      split at hput
      · exact h.of_bind_set (fun _ => htable .nil) hput
      · contradiction
      · rename_i hold
        have hdistinct := distinct_table_iff.mp (h.of_lookup hold)
        exact h.of_bind_set (fun _ => htable hdistinct) hput
      · rename_i hold
        have hdistinct := distinct_tables_iff.mp (h.of_lookup hold)
        exact h.of_bind_set (fun _ hitems => distinct_tables_iff.mpr
          (distinctMembers_of_changeLast (fun _ _ => ih) hdistinct hitems)) hput
      · contradiction

/-! ### Reading values -/

/-- What the three readers of values give at some number of steps has no key twice. Values, the
items of arrays and the members of inline tables are read by functions that call one another, hence
the three laws. -/
structure ReadsDistinct (steps : Nat) : Prop where
  value : ∀ {depth t value rest}, value? depth steps t = some (value, rest) → Distinct value
  items : ∀ {depth t items rest}, items? depth steps t = some (items, rest) →
    ∀ item ∈ items, Distinct item
  entries : ∀ {depth t entries rest}, entries? depth steps t = some (entries, rest) →
    ∀ entry ∈ entries, Distinct entry.value

/-- A value that is neither a string nor made of other values has no keys at all. -/
theorem distinct_of_scalar? {t rest : Text} {value : Toml} (h : scalar? t = some (value, rest)) :
    Distinct value := by
  rw [scalar?.eq_def] at h
  split at h
  · obtain ⟨_, -, heq⟩ := Option.bind_eq_some_iff.mp h
    obtain ⟨rfl, -⟩ := Prod.mk.inj (Option.some.inj heq)
    exact .dateTime _
  · split at h
    · obtain ⟨_, -, heq⟩ := Option.bind_eq_some_iff.mp h
      obtain ⟨rfl, -⟩ := Prod.mk.inj (Option.some.inj heq)
      exact .dateTime _
    · split at h
      · obtain ⟨rfl, -⟩ := Prod.mk.inj (Option.some.inj h)
        exact .bool true
      · obtain ⟨rfl, -⟩ := Prod.mk.inj (Option.some.inj h)
        exact .bool false
      · obtain ⟨_, -, heq⟩ := Option.map_eq_some_iff.mp h
        obtain ⟨rfl, -⟩ := Prod.mk.inj heq
        exact .number _

/-- A value that is read is made of what was read in fewer steps. -/
theorem ReadsDistinct.succ_value {steps : Nat} (ih : ReadsDistinct steps) {depth : Nat}
    {t rest : Text} {value : Toml} (h : value? depth (steps + 1) t = some (value, rest)) :
    Distinct value := by
  rw [value?.eq_def] at h
  simp only at h
  -- Strings, in either kind of quotes, arrays, tables in braces, and what has no parts.
  split at h
  · obtain ⟨_, -, heq⟩ := Option.map_eq_some_iff.mp h
    obtain ⟨rfl, -⟩ := Prod.mk.inj heq
    exact .string _
  · obtain ⟨_, -, heq⟩ := Option.map_eq_some_iff.mp h
    obtain ⟨rfl, -⟩ := Prod.mk.inj heq
    exact .string _
  · split at h
    · contradiction
    · obtain ⟨⟨items, _⟩, hitems, heq⟩ := Option.map_eq_some_iff.mp h
      obtain ⟨rfl, -⟩ := Prod.mk.inj heq
      exact .array (ih.items hitems)
  · split at h
    · contradiction
    · split at h
      · obtain ⟨rfl, -⟩ := Prod.mk.inj (Option.some.inj h)
        exact distinct_table_iff.mpr .nil
      · obtain ⟨⟨entries, _⟩, hentries, h⟩ := Option.bind_eq_some_iff.mp h
        obtain ⟨members, hput, heq⟩ := Option.bind_eq_some_iff.mp h
        obtain ⟨rfl, -⟩ := Prod.mk.inj (Option.some.inj heq)
        exact distinct_table_iff.mpr
          (distinctMembers_of_putEntries (ih.entries hentries) .nil hput)
  · exact distinct_of_scalar? h

theorem ReadsDistinct.succ_items {steps : Nat} (ih : ReadsDistinct steps) {depth : Nat}
    {t rest : Text} {items : List Toml} (h : items? depth (steps + 1) t = some (items, rest)) :
    ∀ item ∈ items, Distinct item := by
  rw [items?] at h
  obtain ⟨next, -, h⟩ := Option.bind_eq_some_iff.mp h
  split at h
  · obtain ⟨rfl, -⟩ := Prod.mk.inj (Option.some.inj h)
    simp
  · obtain ⟨⟨item, _⟩, hitem, h⟩ := Option.bind_eq_some_iff.mp h
    obtain ⟨next, -, h⟩ := Option.bind_eq_some_iff.mp h
    split at h
    · obtain ⟨⟨more, _⟩, hmore, heq⟩ := Option.bind_eq_some_iff.mp h
      obtain ⟨rfl, -⟩ := Prod.mk.inj (Option.some.inj heq)
      exact List.forall_mem_cons.mpr ⟨ih.value hitem, ih.items hmore⟩
    · obtain ⟨rfl, -⟩ := Prod.mk.inj (Option.some.inj h)
      exact List.forall_mem_singleton.mpr (ih.value hitem)
    · contradiction

theorem ReadsDistinct.succ_entries {steps : Nat} (ih : ReadsDistinct steps) {depth : Nat}
    {t rest : Text} {entries : List Entry}
    (h : entries? depth (steps + 1) t = some (entries, rest)) :
    ∀ entry ∈ entries, Distinct entry.value := by
  rw [entries?] at h
  obtain ⟨⟨key, _⟩, -, h⟩ := Option.bind_eq_some_iff.mp h
  obtain ⟨_, -, h⟩ := Option.bind_eq_some_iff.mp h
  obtain ⟨⟨value, _⟩, hvalue, h⟩ := Option.bind_eq_some_iff.mp h
  simp only at h
  split at h
  · obtain ⟨⟨more, _⟩, hmore, heq⟩ := Option.bind_eq_some_iff.mp h
    obtain ⟨rfl, -⟩ := Prod.mk.inj (Option.some.inj heq)
    exact List.forall_mem_cons.mpr ⟨ih.value hvalue, ih.entries hmore⟩
  · obtain ⟨rfl, -⟩ := Prod.mk.inj (Option.some.inj h)
    exact List.forall_mem_singleton.mpr (ih.value hvalue)
  · contradiction

/-- In any number of steps, no value is read in which a table has a key twice. -/
theorem readsDistinct (steps : Nat) : ReadsDistinct steps := by
  induction steps with
  | zero => exact ⟨fun h => by simp [value?] at h, fun h => by simp [items?] at h,
      fun h => by simp [entries?] at h⟩
  | succ steps ih => exact ⟨ih.succ_value, ih.succ_items, ih.succ_entries⟩

/-! ### Reading documents -/

theorem distinct_of_keyValue? {t rest : Text} {entry : Entry}
    (h : keyValue? t = some (.entry entry, rest)) : Distinct entry.value := by
  obtain ⟨⟨key, _⟩, -, h⟩ := Option.bind_eq_some_iff.mp h
  obtain ⟨_, -, h⟩ := Option.bind_eq_some_iff.mp h
  obtain ⟨⟨value, _⟩, hvalue, heq⟩ := Option.bind_eq_some_iff.mp h
  obtain ⟨hentry, -⟩ := Prod.mk.inj (Option.some.inj heq)
  obtain rfl := Line.entry.inj hentry
  exact (readsDistinct _).value hvalue

theorem header?_ne_entry {t rest : Text} {entry : Entry} :
    header? t ≠ some (.entry entry, rest) := by
  intro h
  rw [header?.eq_def] at h
  split at h
  · obtain ⟨⟨path, next⟩, -, h⟩ := Option.bind_eq_some_iff.mp h
    simp only at h
    split at h <;> simp at h
  · obtain ⟨⟨path, next⟩, -, h⟩ := Option.bind_eq_some_iff.mp h
    simp only at h
    split at h <;> simp at h
  · contradiction

/-- A line that says something stands in front of the lines that are read behind it. -/
theorem distinct_of_line? {steps : Nat} {read : Option (Line × Text)} {lines : List Line}
    (hread : ∀ entry rest, read = some (.entry entry, rest) → Distinct entry.value)
    (hrest : ∀ {t more}, lines? steps t = some more →
      ∀ entry, Line.entry entry ∈ more → Distinct entry.value)
    (h : (read.bind fun (line, t) => (lineEnd? t).bind fun t => (lines? steps t).bind fun more =>
      some (line :: more)) = some lines) :
    ∀ entry, Line.entry entry ∈ lines → Distinct entry.value := by
  obtain ⟨⟨line, next⟩, hline, h⟩ := Option.bind_eq_some_iff.mp h
  obtain ⟨_, -, h⟩ := Option.bind_eq_some_iff.mp h
  obtain ⟨more, hmore, heq⟩ := Option.bind_eq_some_iff.mp h
  obtain rfl := Option.some.inj heq
  intro entry hmem
  rcases List.mem_cons.mp hmem with rfl | hmem
  · exact hread entry next hline
  · exact hrest hmore entry hmem

/-- The entries among the lines of a document have no key twice in their values. -/
theorem distinct_of_lines? {steps : Nat} {t : Text} {lines : List Line}
    (h : lines? steps t = some lines) :
    ∀ entry, Line.entry entry ∈ lines → Distinct entry.value := by
  induction steps generalizing t lines with
  | zero =>
    rw [lines?] at h
    split at h
    · obtain rfl := Option.some.inj h
      simp
    · contradiction
  | succ steps ih =>
    rw [lines?] at h
    split at h
    · obtain rfl := Option.some.inj h
      simp
    -- Behind an empty line or a comment, behind a header, and behind an entry.
    split_ifs at h
    · obtain ⟨_, -, hrest⟩ := Option.bind_eq_some_iff.mp h
      exact ih hrest
    · exact distinct_of_line? (fun _ _ hline => absurd hline header?_ne_entry) ih h
    · exact distinct_of_line? (fun _ _ hline => distinct_of_keyValue? hline) ih h

theorem mem_of_mem_leadingEntries {lines : List Line} {entry : Entry}
    (h : entry ∈ (leadingEntries lines).1) : Line.entry entry ∈ lines := by
  induction lines with
  | nil => simp [leadingEntries] at h
  | cons line rest ih =>
    cases line with
    | entry first =>
      rcases List.mem_cons.mp h with rfl | h
      · exact List.mem_cons_self
      · exact List.mem_cons_of_mem _ (ih h)
    | header appends path => simp [leadingEntries] at h

theorem mem_of_mem_leadingEntries_snd {lines : List Line} {line : Line}
    (h : line ∈ (leadingEntries lines).2) : line ∈ lines := by
  induction lines with
  | nil => exact h
  | cons first rest ih =>
    cases first with
    | entry first => exact List.mem_cons_of_mem _ (ih h)
    | header appends path => exact h

theorem distinctMembers_of_putLines {steps : Nat} {lines : List Line}
    (hlines : ∀ entry, Line.entry entry ∈ lines → Distinct entry.value)
    {members members' : Members} (h : DistinctMembers members)
    (hput : putLines steps lines members = some members') : DistinctMembers members' := by
  induction steps generalizing lines members with
  | zero =>
    obtain rfl := Option.some.inj hput
    exact h
  | succ steps ih =>
    rw [putLines.eq_def] at hput
    simp only at hput
    split at hput
    · obtain rfl := Option.some.inj hput
      exact h
    · contradiction
    · rename_i appends path rest
      obtain ⟨next, hnext, hrest⟩ := Option.bind_eq_some_iff.mp hput
      have hentries : ∀ entry ∈ (leadingEntries rest).1, Distinct entry.value := fun entry hmem =>
        hlines entry (List.mem_cons_of_mem _ (mem_of_mem_leadingEntries hmem))
      have hchange : KeepsDistinct (if appends then appendTable (leadingEntries rest).1
          else openTable (leadingEntries rest).1) := by
        split
        · exact keepsDistinct_appendTable hentries
        · exact keepsDistinct_openTable hentries
      exact ih (fun entry hmem =>
          hlines entry (List.mem_cons_of_mem _ (mem_of_mem_leadingEntries_snd hmem)))
        (distinctMembers_of_putSection hchange h hnext) hrest

/-- **No table of a document has a key twice**, at any depth. -/
theorem distinctMembers_of_parse? {t : Text} {members : Members} (h : parse? t = some members) :
    DistinctMembers members := by
  obtain ⟨lines, hlines, h⟩ := Option.bind_eq_some_iff.mp h
  obtain ⟨front, hfront, hrest⟩ := Option.bind_eq_some_iff.mp h
  have hentries := distinct_of_lines? hlines
  have hdistinct := distinctMembers_of_putEntries
    (fun entry hmem => hentries entry (mem_of_mem_leadingEntries hmem)) .nil hfront
  exact distinctMembers_of_putLines
    (fun entry hmem => hentries entry (mem_of_mem_leadingEntries_snd hmem)) hdistinct hrest

end TableModel.Toml
