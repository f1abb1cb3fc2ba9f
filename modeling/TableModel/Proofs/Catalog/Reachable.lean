import TableModel.Proofs.Catalog.Keys
import TableModel.Proofs.Text.Order

/-!
# The catalogs that can be reached

A catalog is made of rows and then changed by one override after another. Each such step writes both
tables under a key in its normal form and puts the entry where it belongs, so every catalog that can
be reached is well formed (`Reachable.wellFormed`): its two tables have the same keys, in order and
each once, and every key is in its normal form.

A key that is in its normal form is found by looking up itself. This is why the look-ups of columns
and those of keys agree, and why no column of a type without a name gets anything: the key that it is
looked up by begins with a blank (`Reachable.lookups_agree`).
-/

namespace TableModel.Catalog

/-- The catalogs that rows and overrides give. -/
inductive Reachable : Catalog → Prop
  | ofList (rows : List (Text × GoTypes)) : Reachable (ofList rows)
  | insert {catalog : Catalog} (h : Reachable catalog) (key : Text) (types : GoTypes) :
    Reachable (catalog.insert key types)

theorem reachable_builtin : builtin.Reachable := .ofList _

/-! ### Normal keys -/

theorem trim_normalKey (key : Text) : Text.trim (normalKey key) = normalKey key :=
  Unicode.trim_toLower (Text.trim_trim key)

theorem toLower_normalKey (key : Text) : Unicode.toLower (normalKey key) = normalKey key :=
  Unicode.toLower_toLower _

theorem normalKey_eq_self {key : Text} (htrim : Text.trim key = key)
    (hlower : Unicode.toLower key = key) : normalKey key = key := by
  rw [normalKey, htrim, hlower]

/-- The ASCII case of a key makes no difference to its normal form. -/
theorem normalKey_map_toLower (key : Text) : normalKey (key.map Char.toLower) = normalKey key := by
  rw [normalKey, normalKey, Text.trim_map Unicode.isBlank_toLower, Unicode.toLower_map_toLower]

/-- The suffix of unsigned types may be put behind a text before it is put in lower case or
after. -/
theorem toLower_append_unsigned (text : Text) :
    Unicode.toLower (text ++ " unsigned".toList) =
      Unicode.toLower text ++ " unsigned".toList := by
  have hword : Unicode.beginsCased " unsigned".toList = false := Unicode.beginsCased_space _
  have hlt : ∀ c ∈ " unsigned".toList, c.toNat < 128 := by simp
  rw [Unicode.toLower_append_of_lt hword hlt]
  rfl

/-- The suffix alone is the key of no entry: a column whose type has no name at all is looked up
under it, and the key of every entry is trimmed while the suffix begins with a space. -/
theorem normalKey_ne_columnKey {type : Text} (h : Text.trim type = []) (key : Text) :
    normalKey key ≠ columnKey type true := by
  intro heq
  have hblank : columnKey type true = " unsigned".toList := by
    rw [columnKey_true, normalKey, h]
    rfl
  have htrim := trim_normalKey key
  rw [heq, hblank] at htrim
  exact absurd htrim (by decide)

/-! ### Well-formed catalogs -/

/-- The tables of a catalog are in step: each is in the order of its keys with each key once, a key
of one is a key of the other, and every key is in its normal form, which is to say that it is
trimmed and in lower case. -/
structure WellFormed (catalog : Catalog) : Prop where
  ordered : ∀ isNotNull, KeysOrdered (catalog.table isNotNull)
  sameKeys : ∀ key, key ∈ catalog.nullable.map (·.1) ↔ key ∈ catalog.keys
  normal : ∀ key ∈ catalog.keys, Text.trim key = key ∧ Unicode.toLower key = key

theorem wellFormed_empty : empty.WellFormed where
  ordered isNotNull := by cases isNotNull <;> exact .nil
  sameKeys _ := Iff.rfl
  normal _ h := absurd h List.not_mem_nil

theorem WellFormed.insert {catalog : Catalog} (h : catalog.WellFormed) (key : Text)
    (types : GoTypes) : (catalog.insert key types).WellFormed where
  ordered isNotNull := by
    cases isNotNull with
    | true => exact keysOrdered_insertEntry _ _ (h.ordered true)
    | false => exact keysOrdered_insertEntry _ _ (h.ordered false)
  sameKeys other := by
    rw [keys, Catalog.insert, mem_keys_insertEntry, mem_keys_insertEntry]
    exact or_congr_right (h.sameKeys other)
  normal other hmem := by
    rcases mem_keys_insertEntry.mp hmem with rfl | hmem
    · exact ⟨trim_normalKey key, toLower_normalKey key⟩
    · exact h.normal other hmem

theorem WellFormed.insertAll {catalog : Catalog} (h : catalog.WellFormed)
    (rows : List (Text × GoTypes)) : (catalog.insertAll rows).WellFormed := by
  induction rows using List.reverseRecOn with
  | nil => exact h
  | append_singleton rows row ih =>
    rw [insertAll_append]
    exact ih.insert row.1 row.2

/-- Every catalog that can be reached is well formed, by induction on the way to it: the empty
tables are in step, and each row and each override writes both of them under the same key. -/
theorem Reachable.wellFormed {catalog : Catalog} (h : catalog.Reachable) : catalog.WellFormed := by
  induction h with
  | ofList rows => exact wellFormed_empty.insertAll rows
  | insert h key types ih => exact ih.insert key types

namespace WellFormed

variable {catalog : Catalog} (h : catalog.WellFormed)

include h

/-- Either table has an entry for exactly the keys, so it makes no difference which of the two
tables the keys are taken from. -/
theorem isSome_lookup_iff (key : Text) (isNotNull : Bool) :
    ((catalog.table isNotNull).lookup key).isSome ↔ key ∈ catalog.keys := by
  rw [← mem_keys_iff_isSome_lookup]
  cases isNotNull with
  | true => exact Iff.rfl
  | false => exact h.sameKeys key

/-- A column whose key is in the catalog gets what stands there. -/
theorem lookup_eq_some_resolve {type : Text} {isUnsigned : Bool}
    (hkey : columnKey type isUnsigned ∈ catalog.keys) (isNotNull : Bool) :
    (catalog.table isNotNull).lookup (columnKey type isUnsigned) =
      some (catalog.resolve type isUnsigned isNotNull).value := by
  obtain ⟨goType, hfound⟩ :=
    Option.isSome_iff_exists.mp ((h.isSome_lookup_iff _ isNotNull).mpr hkey)
  rw [value_resolve, hfound, Option.getD_some]

/-- A column whose key is not in the catalog gets the placeholder. -/
theorem value_resolve_of_notMem {type : Text} {isUnsigned : Bool}
    (hkey : columnKey type isUnsigned ∉ catalog.keys) (isNotNull : Bool) :
    (catalog.resolve type isUnsigned isNotNull).value = placeholder := by
  have hnone : (catalog.table isNotNull).lookup (columnKey type isUnsigned) = none := by
    rw [← Option.not_isSome_iff_eq_none, h.isSome_lookup_iff]
    exact hkey
  rw [value_resolve, hnone, Option.getD_none]

theorem columnKey_of_mem {key : Text} (hkey : key ∈ catalog.keys) : columnKey key false = key :=
  normalKey_eq_self (h.normal key hkey).1 (h.normal key hkey).2

/-- A key with the suffix is what an unsigned column of the type in front of it is looked up by. -/
theorem columnKey_of_append_mem {type : Text} (htrim : Text.trim type = type)
    (hkey : type ++ " unsigned".toList ∈ catalog.keys) :
    columnKey type true = type ++ " unsigned".toList := by
  have hlower := (h.normal _ hkey).2
  rw [toLower_append_unsigned, List.append_left_inj] at hlower
  rw [columnKey_true, normalKey_eq_self htrim hlower]

end WellFormed

/-- **The look-ups of a catalog agree** in every catalog that rows and overrides give. The keys are
those of either table; each is trimmed and in lower case, they are in the order of their bytes, each
once, and the size counts them. So a column of a type that is called like a key gets what stands
under that key, and an unsigned column what stands under the name of its type with the suffix. An
unsigned column of a type without a name gets the placeholder, since no entry can be written under
the key that it is looked up by. -/
theorem Reachable.lookups_agree {catalog : Catalog} (h : catalog.Reachable) :
    (∀ key, (catalog.strictType? key).isSome ↔ key ∈ catalog.keys) ∧
    (∀ key, (catalog.nullableType? key).isSome ↔ key ∈ catalog.keys) ∧
    (∀ key ∈ catalog.keys, Text.trim key = key ∧ Unicode.toLower key = key) ∧
    (catalog.keys.Pairwise fun key later => Text.bytes key < Text.bytes later) ∧
    catalog.size = catalog.keys.length ∧
    (catalog.isEmpty = true ↔ catalog.keys = []) ∧
    (∀ key ∈ catalog.keys,
      catalog.strictType? key = some (catalog.resolve key false true).value ∧
      catalog.nullableType? key = some (catalog.resolve key false false).value) ∧
    (∀ type, Text.trim type = type → type ++ " unsigned".toList ∈ catalog.keys →
      catalog.strictType? (type ++ " unsigned".toList) =
        some (catalog.resolve type true true).value ∧
      catalog.nullableType? (type ++ " unsigned".toList) =
        some (catalog.resolve type true false).value) ∧
    (∀ type, Text.trim type = [] →
      (∀ isNotNull, (catalog.resolve type true isNotNull).value = "unknown".toList) ∧
      ∀ key types, columnKey type true ∉ (catalog.insert key types).keys) := by
  have hformed := h.wellFormed
  have hordered : catalog.keys.Pairwise fun key later => Text.bytes key < Text.bytes later := by
    rw [keys, List.pairwise_map]
    exact (hformed.ordered true).imp Text.bytes_lt_bytes
  refine ⟨fun key => hformed.isSome_lookup_iff key true,
    fun key => hformed.isSome_lookup_iff key false, hformed.normal, hordered,
    (List.length_map _).symm, ?_, fun key hkey => ?_, fun type htrim hkey => ?_,
    fun type hblank => ?_⟩
  · rw [isEmpty, keys, List.isEmpty_iff, List.map_eq_nil_iff]
  · have hcolumn := hformed.columnKey_of_mem hkey
    have hlookup := fun isNotNull =>
      hformed.lookup_eq_some_resolve (hcolumn.symm ▸ hkey) isNotNull
    rw [hcolumn] at hlookup
    exact ⟨hlookup true, hlookup false⟩
  · have hcolumn := hformed.columnKey_of_append_mem htrim hkey
    have hlookup := fun isNotNull =>
      hformed.lookup_eq_some_resolve (hcolumn.symm ▸ hkey) isNotNull
    rw [hcolumn] at hlookup
    exact ⟨hlookup true, hlookup false⟩
  · have habsent : ∀ {catalog : Catalog}, catalog.WellFormed →
        columnKey type true ∉ catalog.keys := by
      intro catalog hformed hmem
      obtain ⟨htrim, hlower⟩ := hformed.normal _ hmem
      exact normalKey_ne_columnKey hblank _ (normalKey_eq_self htrim hlower)
    exact ⟨hformed.value_resolve_of_notMem (habsent hformed),
      fun key types => habsent (hformed.insert key types)⟩

/-- The built-in catalog with an unsigned type under a padded key in mixed case, and with an override
under a blank and the suffix: it is the key of no unsigned column. -/
theorem Reachable.lookups_agree_year :
    let types : GoTypes := ⟨"uint16".toList, "sql.NullInt32".toList⟩
    let catalog := (builtin.insert " Year UNSIGNED".toList types).insert "  unsigned".toList types
    catalog.Reachable ∧
    (Text.trim "year".toList = "year".toList ∧
      "year".toList ++ " unsigned".toList ∈ catalog.keys ∧
      catalog.strictType? "year unsigned".toList =
        some (catalog.resolve "year".toList true true).value) ∧
    ("unsigned".toList ∈ catalog.keys ∧
      catalog.nullableType? "unsigned".toList =
        some (catalog.resolve "unsigned".toList false false).value) ∧
    (Text.trim [' '] = [] ∧ (catalog.resolve [' '] true true).value = "unknown".toList) := by
  intro types catalog
  have hreachable : catalog.Reachable := (reachable_builtin.insert _ _).insert _ _
  obtain ⟨-, -, -, -, -, -, hkeys, hunsigned, hblank⟩ := Reachable.lookups_agree hreachable
  have hyear : "year".toList ++ " unsigned".toList ∈ catalog.keys := by decide +kernel
  have hword : "unsigned".toList ∈ catalog.keys := by decide +kernel
  have htrim : Text.trim "year".toList = "year".toList := by decide
  exact ⟨hreachable, ⟨htrim, hyear, (hunsigned _ htrim hyear).1⟩, ⟨hword, (hkeys _ hword).2⟩,
    ⟨by decide, (hblank [' '] (by decide)).1 true⟩⟩

end TableModel.Catalog
