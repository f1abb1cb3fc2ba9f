import TableModel.Catalog
import TableModel.Proofs.Text.Order
import TableModel.Proofs.Text.Trim
import TableModel.Proofs.Unicode.LowerCase

/-!
# The last entry under a key holds

A catalog is a map from normal keys: what a look-up gives is what was written last under a key with
the same normal form (`lookup_table_insertAll`), in the strict table and in the nullable one alike.
The two tables are written separately, so the law is stated for either of them by a flag and proved
once.

A look-up appends its suffix to the lower-case name, while writing puts the whole key in lower case.
The two meet because the suffix begins with a space: it ends no word with a sigma in it
(`normalKey_append_unsigned`).
-/

namespace TableModel

/-! ### Tables -/

/-- What is found under a key: the first entry decides, or the others do. -/
theorem lookup_cons_eq_ite (entry : Text × Text) (table : TypeTable) (key : Text) :
    (entry :: table).lookup key = if key = entry.1 then some entry.2 else table.lookup key := by
  obtain ⟨k, t⟩ := entry
  rw [List.lookup_cons]
  by_cases h : key = k
  · simp [h]
  · simp [h, beq_false_of_ne h]

/-- Writing an entry changes what is found under its key and nothing else, whether an entry under
this key was there or not. No order of the entries is asked for: an entry in the wrong place is
still the first one under its key. -/
theorem lookup_insertEntry (key type other : Text) (table : TypeTable) :
    (insertEntry key type table).lookup other =
      if other = key then some type else table.lookup other := by
  induction table with
  | nil => rw [insertEntry, lookup_cons_eq_ite]
  | cons entry rest ih =>
    by_cases hkey : key = entry.1
    · rw [insertEntry, if_pos hkey, lookup_cons_eq_ite, lookup_cons_eq_ite, ← hkey]
      split_ifs <;> rfl
    by_cases hbefore : Text.before key entry.1
    · rw [insertEntry, if_neg hkey, if_pos hbefore, lookup_cons_eq_ite]
    · rw [insertEntry, if_neg hkey, if_neg hbefore, lookup_cons_eq_ite, ih, lookup_cons_eq_ite]
      by_cases hother : other = entry.1
      · have hne : other ≠ key := fun h => hkey (h.symm.trans hother)
        rw [if_pos hother, if_neg hne, if_pos hother]
      · rw [if_neg hother, if_neg hother]

/-- The order in which entries under different keys are written does not matter: where they meet,
the order of the keys says which comes first. -/
theorem insertEntry_comm {key key' : Text} (h : key ≠ key') (type type' : Text)
    (table : TypeTable) :
    insertEntry key' type' (insertEntry key type table) =
      insertEntry key type (insertEntry key' type' table) := by
  have htotal : key < key' ∨ key' < key := lt_or_gt_of_ne h
  induction table with
  | nil => grind [insertEntry, Text.before_iff_lt]
  | cons entry rest ih => grind [insertEntry, Text.before_iff_lt]

/-! ### Catalogs -/

def GoTypes.select (types : GoTypes) (isNotNull : Bool) : Text :=
  if isNotNull then types.strict else types.nullable

namespace Catalog

/-- The types that were written last under a key with the given normal form. Keys are compared in
their normal forms, so rows under `INT` and under ` int ` are rows under one key. -/
def lastWritten (rows : List (Text × GoTypes)) (key : Text) : Option GoTypes :=
  ((rows.filter fun row => normalKey row.1 = key).getLast?).map (·.2)

theorem lastWritten_append_singleton (rows : List (Text × GoTypes)) (row : Text × GoTypes)
    (key : Text) :
    lastWritten (rows ++ [row]) key =
      if normalKey row.1 = key then some row.2 else lastWritten rows key := by
  by_cases h : normalKey row.1 = key <;> simp [lastWritten, h]

theorem insertAll_append (catalog : Catalog) (rows more : List (Text × GoTypes)) :
    catalog.insertAll (rows ++ more) = (catalog.insertAll rows).insertAll more :=
  List.foldl_append

/-- Writing an entry changes what either table has under its normal key and nothing else. -/
theorem lookup_table_insert (catalog : Catalog) (key : Text) (types : GoTypes) (isNotNull : Bool)
    (other : Text) :
    ((catalog.insert key types).table isNotNull).lookup other =
      if other = normalKey key then some (types.select isNotNull)
      else (catalog.table isNotNull).lookup other := by
  cases isNotNull <;> exact lookup_insertEntry _ _ _ _

theorem lookup_table_insertAll (catalog : Catalog) (rows : List (Text × GoTypes))
    (isNotNull : Bool) (key : Text) :
    ((catalog.insertAll rows).table isNotNull).lookup key =
      match lastWritten rows key with
      | some types => some (types.select isNotNull)
      | none => (catalog.table isNotNull).lookup key := by
  induction rows using List.reverseRecOn with
  | nil => rfl
  | append_singleton rows row ih =>
    rw [insertAll_append, lastWritten_append_singleton]
    have hstep : (catalog.insertAll rows).insertAll [row] =
        (catalog.insertAll rows).insert row.1 row.2 := rfl
    rw [hstep, lookup_table_insert]
    by_cases h : key = normalKey row.1
    · rw [if_pos h, if_pos h.symm]
    · rw [if_neg h, if_neg (Ne.symm h), ih]

/-- Reading a catalog is a look-up in one of its tables. -/
theorem value_resolve (catalog : Catalog) (type : Text) (isUnsigned isNotNull : Bool) :
    (catalog.resolve type isUnsigned isNotNull).value =
      ((catalog.table isNotNull).lookup (columnKey type isUnsigned)).getD placeholder := by
  rw [resolve]
  cases (catalog.table isNotNull).lookup (columnKey type isUnsigned) <;> rfl

/-- Two catalogs that have the same under a column's key give the column the same, and report the
same. -/
theorem resolve_congr {catalog catalog' : Catalog} {type : Text} {isUnsigned isNotNull : Bool}
    (h : (catalog.table isNotNull).lookup (columnKey type isUnsigned) =
      (catalog'.table isNotNull).lookup (columnKey type isUnsigned)) :
    catalog.resolve type isUnsigned isNotNull = catalog'.resolve type isUnsigned isNotNull := by
  rw [resolve, resolve, h]

/-! ### Keys -/

theorem columnKey_true (type : Text) :
    columnKey type true = normalKey type ++ " unsigned".toList := rfl

theorem normalKey_append_unsigned {type : Text} (h : Text.trim type ≠ []) :
    normalKey (Text.trim type ++ " UNSIGNED".toList) = columnKey type true := by
  have htrim : Text.trim (Text.trim type ++ " UNSIGNED".toList) =
      Text.trim type ++ " UNSIGNED".toList :=
    Text.trim_append_of_getLast? (c := 'D') h rfl rfl
  have hword : Unicode.beginsCased " UNSIGNED".toList = false := Unicode.beginsCased_space _
  have hlt : ∀ c ∈ " UNSIGNED".toList, c.toNat < 128 := by simp
  rw [normalKey, htrim, Unicode.toLower_append_of_lt hword hlt]
  rfl

/-- A key that does not end in the suffix is no unsigned type's. -/
theorem columnKey_true_ne {type key : Text} (h : ¬ " unsigned".toList <:+ key) :
    columnKey type true ≠ key := by
  rintro rfl
  exact h (List.suffix_append _ _)

theorem columnKey_true_ne_normalKey (type : Text) : columnKey type true ≠ normalKey type := by
  intro h
  have hlength := congrArg List.length h
  simp [columnKey_true] at hlength

/-! ### The law of the last entry -/

/-- An entry under another key changes nothing that is read: neither the type nor what is reported
of a key that is missing. -/
theorem resolve_insert_of_ne (catalog : Catalog) {key : Text} (types : GoTypes) {type : Text}
    {isUnsigned : Bool} (isNotNull : Bool) (h : columnKey type isUnsigned ≠ normalKey key) :
    (catalog.insert key types).resolve type isUnsigned isNotNull =
      catalog.resolve type isUnsigned isNotNull :=
  resolve_congr (by rw [lookup_table_insert, if_neg h])

theorem value_resolve_insert (catalog : Catalog) {key : Text} (types : GoTypes) {type : Text}
    {isUnsigned : Bool} (isNotNull : Bool) (h : columnKey type isUnsigned = normalKey key) :
    ((catalog.insert key types).resolve type isUnsigned isNotNull).value =
      types.select isNotNull := by
  rw [value_resolve, lookup_table_insert, if_pos h, Option.getD_some]

/-- Entries under different normal keys may be written in either order. -/
theorem insert_comm (catalog : Catalog) {key key' : Text} (types types' : GoTypes)
    (h : normalKey key ≠ normalKey key') :
    (catalog.insert key types).insert key' types' =
      (catalog.insert key' types').insert key types := by
  simp only [insert, Catalog.mk.injEq]
  exact ⟨insertEntry_comm h _ _ _, insertEntry_comm h _ _ _⟩

/-- What a column gets from a catalog that rows were written to, one after the other. -/
theorem value_resolve_ofList_insertAll (rows overrides : List (Text × GoTypes)) (type : Text)
    (isUnsigned isNotNull : Bool) :
    (((ofList rows).insertAll overrides).resolve type isUnsigned isNotNull).value =
      match lastWritten (rows ++ overrides) (columnKey type isUnsigned) with
      | some types => types.select isNotNull
      | none => placeholder := by
  rw [ofList, ← insertAll_append, value_resolve, lookup_table_insertAll]
  cases lastWritten (rows ++ overrides) (columnKey type isUnsigned) with
  | some types => rfl
  | none => cases isNotNull <;> rfl

theorem lastWritten_eq_none {rows : List (Text × GoTypes)} {key : Text}
    (h : ∀ row ∈ rows, normalKey row.1 ≠ key) : lastWritten rows key = none := by
  have hnil : (rows.filter fun row => normalKey row.1 = key) = [] := by
    simpa [List.filter_eq_nil_iff] using h
  rw [lastWritten, hnil]
  rfl

/-- **A catalog is a map in which the last entry holds**, under the normal form of keys, for both
tables. An override is seen by exactly the columns whose key it has: one whose key does not carry
the suffix of unsigned types is seen by no unsigned column, an unsigned column never gets what
stands under the name alone, overrides under different keys commute, and the upper-case suffix
behind a trimmed name addresses the unsigned type. -/
theorem resolve_eq_last_written (rows overrides : List (Text × GoTypes)) :
    let catalog := (ofList rows).insertAll overrides
    (∀ type isUnsigned isNotNull, (catalog.resolve type isUnsigned isNotNull).value =
      match lastWritten (rows ++ overrides) (columnKey type isUnsigned) with
      | some types => if isNotNull then types.strict else types.nullable
      | none => "unknown".toList) ∧
    (∀ key types type isUnsigned isNotNull, columnKey type isUnsigned ≠ normalKey key →
      (catalog.insert key types).resolve type isUnsigned isNotNull =
        catalog.resolve type isUnsigned isNotNull) ∧
    (∀ key types type isNotNull, ¬ " unsigned".toList <:+ normalKey key →
      (catalog.insert key types).resolve type true isNotNull =
        catalog.resolve type true isNotNull) ∧
    (∀ type isNotNull,
      (∀ row ∈ rows ++ overrides, normalKey row.1 ≠ normalKey type ++ " unsigned".toList) →
      (catalog.resolve type true isNotNull).value = "unknown".toList) ∧
    (∀ type types isNotNull, (catalog.insert type types).resolve type true isNotNull =
      catalog.resolve type true isNotNull) ∧
    (∀ key key' types types', normalKey key ≠ normalKey key' →
      (catalog.insert key types).insert key' types' =
        (catalog.insert key' types').insert key types) ∧
    (∀ type types isNotNull, Text.trim type ≠ [] →
      ((catalog.insert (Text.trim type ++ " UNSIGNED".toList) types).resolve type true
        isNotNull).value = if isNotNull then types.strict else types.nullable) := by
  intro catalog
  refine ⟨fun type isUnsigned isNotNull => ?_, fun key types type isUnsigned isNotNull h => ?_,
    fun key types type isNotNull h => ?_, fun type isNotNull h => ?_,
    fun type types isNotNull => ?_, fun key key' types types' h => ?_,
    fun type types isNotNull h => ?_⟩
  · exact value_resolve_ofList_insertAll rows overrides type isUnsigned isNotNull
  · exact resolve_insert_of_ne catalog types isNotNull h
  · exact resolve_insert_of_ne catalog types isNotNull (columnKey_true_ne h)
  · rw [value_resolve_ofList_insertAll, columnKey_true, lastWritten_eq_none h]
    rfl
  · exact resolve_insert_of_ne catalog types isNotNull (columnKey_true_ne_normalKey type)
  · exact insert_comm catalog types types' h
  · exact value_resolve_insert catalog types isNotNull (normalKey_append_unsigned h).symm

/-- The law for a name with a signed and an unsigned entry, the latter under a padded key in mixed
case, and further overrides under each kind of key. -/
theorem resolve_eq_last_written_int :
    let types : GoTypes := ⟨"A".toList, "B".toList⟩
    let rows := [("INT".toList, (⟨"int".toList, "sql.NullInt64".toList⟩ : GoTypes))]
    let overrides := [(" Int UNSIGNED".toList, (⟨"uint".toList, "sql.NullInt64".toList⟩ : GoTypes))]
    let catalog := (ofList rows).insertAll overrides
    (catalog.resolve "int".toList true true).value = "uint".toList ∧
    (columnKey "int".toList true ≠ normalKey "INT".toList ∧
      (catalog.insert "INT".toList types).resolve "int".toList true true =
        catalog.resolve "int".toList true true) ∧
    (¬ " unsigned".toList <:+ normalKey "Year".toList ∧
      (catalog.insert "Year".toList types).resolve "year".toList true false =
        catalog.resolve "year".toList true false) ∧
    ((∀ row ∈ rows ++ overrides, normalKey row.1 ≠ normalKey "Year".toList ++ " unsigned".toList) ∧
      (catalog.resolve "Year".toList true true).value = "unknown".toList) ∧
    (normalKey "INT".toList ≠ normalKey "Year".toList ∧
      (catalog.insert "INT".toList types).insert "Year".toList types =
        (catalog.insert "Year".toList types).insert "INT".toList types) ∧
    (Text.trim " Year".toList ≠ [] ∧
      ((catalog.insert (Text.trim " Year".toList ++ " UNSIGNED".toList) types).resolve
        " Year".toList true false).value = "B".toList) := by
  intro types rows overrides catalog
  obtain ⟨hlast, hother, hsigned, hnone, -, hcomm, hsuffix⟩ :=
    resolve_eq_last_written rows overrides
  have hne : columnKey "int".toList true ≠ normalKey "INT".toList := by decide
  have hyear : ¬ " unsigned".toList <:+ normalKey "Year".toList := by decide
  have habsent : ∀ row ∈ rows ++ overrides,
      normalKey row.1 ≠ normalKey "Year".toList ++ " unsigned".toList := by decide
  have hkeys : normalKey "INT".toList ≠ normalKey "Year".toList := by decide
  have htrim : Text.trim " Year".toList ≠ [] := by decide
  exact ⟨(hlast "int".toList true true).trans (by decide), ⟨hne, hother _ types _ _ true hne⟩,
    ⟨hyear, hsigned _ types "year".toList false hyear⟩, ⟨habsent, hnone _ true habsent⟩,
    ⟨hkeys, hcomm _ _ types types hkeys⟩, ⟨htrim, hsuffix _ types false htrim⟩⟩

end Catalog

end TableModel
