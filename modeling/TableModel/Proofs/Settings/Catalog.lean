import Mathlib
import TableModel.Proofs.Catalog.Keys
import TableModel.Proofs.Settings.Types
import TableModel.Proofs.Text.Order

/-!
# The catalog of settings

Settings have their types in the order of the keys as they are written, and put them into the
built-in catalog in this order. A catalog knows keys by their normal form only, so of several keys
with one normal form the last one holds, which is the greatest as written. Nothing else about the
order matters: the settings of a document give one catalog, however its table of types is arranged
(`catalog_of_greatest_key`).
-/

namespace TableModel.Settings

/-- The catalog that is taken as it is without settings of types is what putting none into it gives,
so that there is no difference between the two ways. -/
theorem catalog_eq_insertAll (settings : Settings) :
    settings.catalog = Catalog.builtin.insertAll settings.rows := by
  rw [catalog]
  split_ifs with hnone
  · rw [rows, List.isEmpty_iff.mp hnone, List.map_nil, Catalog.insertAll, List.foldl_nil]
  · rfl

def normalKeys (settings : Settings) : List Text :=
  settings.types.map fun entry => Catalog.normalKey entry.1

theorem map_normalKey_rows (settings : Settings) :
    (settings.rows.map fun row => Catalog.normalKey row.1) = settings.normalKeys := by
  rw [rows, normalKeys, List.map_map]
  rfl

/-- Of the settings whose keys have the same normal form, the one with the greatest key is put into
the catalog last. -/
theorem exists_lastWritten_rows {settings : Settings} (h : settings.IsOrdered) {key : Text}
    (hkey : key ∈ settings.normalKeys) :
    ∃ entry ∈ settings.types, Catalog.normalKey entry.1 = key ∧
      (∀ other ∈ settings.types, Catalog.normalKey other.1 = key →
        other = entry ∨ other.1 < entry.1) ∧
      Catalog.lastWritten settings.rows key = some entry.2.goTypes := by
  set same := settings.types.filter fun entry => Catalog.normalKey entry.1 = key with hsame
  have hne : same ≠ [] := by
    obtain ⟨entry, hmem, hnormal⟩ := List.mem_map.mp hkey
    exact List.ne_nil_of_mem (List.mem_filter.mpr ⟨hmem, by simpa using hnormal⟩)
  have hlast : same.getLast? = some (same.getLast hne) := List.getLast?_eq_some_getLast hne
  obtain ⟨hmem, hnormal⟩ := List.mem_filter.mp (List.getLast_mem hne)
  refine ⟨same.getLast hne, hmem, by simpa using hnormal, fun other hother heq => ?_, ?_⟩
  · have hordered : KeysOrdered same := List.Pairwise.filter _ h
    exact hordered.lt_getLast? hlast (List.mem_filter.mpr ⟨hother, by simpa using heq⟩)
  · have hrows : (settings.rows.filter fun row => Catalog.normalKey row.1 = key) =
        same.map fun entry => (entry.1, entry.2.goTypes) := by
      rw [rows, List.filter_map]
      rfl
    rw [Catalog.lastWritten, hrows, List.getLast?_map, hlast]
    rfl

/-- What settings do not mention stays as it is built in. -/
theorem lastWritten_rows_eq_none {settings : Settings} {key : Text}
    (hkey : key ∉ settings.normalKeys) : Catalog.lastWritten settings.rows key = none := by
  refine Catalog.lastWritten_eq_none fun row hmem heq => hkey ?_
  rw [← map_normalKey_rows, ← heq]
  exact List.mem_map_of_mem hmem

theorem keysOrdered_table_builtin (isNotNull : Bool) :
    KeysOrdered (Catalog.builtin.table isNotNull) :=
  Catalog.keysOrdered_table_ofList _ isNotNull

theorem size_builtin : Catalog.builtin.size = 36 := by decide +kernel

/-- **Settings give one catalog.** Settings that are read have their types in order
(`isOrdered_of_ofToml?`). Their catalog has the built-in keys and the normal forms of the written
ones. A built-in key that no written key has for its normal form keeps its types; for every other
key the setting with the greatest written key, by its bytes, counts, and its strict type stands for
a nullable one that is left out. So two documents with the same members in their tables of types, in
whatever order, give the same catalog; the number of its keys is 36 and the number of normal forms
that are not built in; and without settings of types it is the built-in catalog, which is also what
putting none into it would give. -/
theorem catalog_of_greatest_key (settings : Settings) (h : settings.IsOrdered) :
    (∀ key, key ∈ settings.catalog.keys ↔
      key ∈ Catalog.builtin.keys ∨ ∃ entry ∈ settings.types, Catalog.normalKey entry.1 = key) ∧
    (∀ key, (∀ entry ∈ settings.types, Catalog.normalKey entry.1 ≠ key) →
      settings.catalog.strictType? key = Catalog.builtin.strictType? key ∧
      settings.catalog.nullableType? key = Catalog.builtin.nullableType? key) ∧
    (∀ key, (∃ entry ∈ settings.types, Catalog.normalKey entry.1 = key) →
      ∃ entry ∈ settings.types, Catalog.normalKey entry.1 = key ∧
        (∀ other ∈ settings.types, Catalog.normalKey other.1 = key →
          other = entry ∨ Text.bytes other.1 < Text.bytes entry.1) ∧
        settings.catalog.strictType? key = some entry.2.strict ∧
        settings.catalog.nullableType? key = some (entry.2.nullable.getD entry.2.strict)) ∧
    (∀ t t' document document' form form' members members' read read',
      Toml.parse? t = some document → Toml.parse? t' = some document' →
      document.lookup "types".toList = some (.table form members) →
      document'.lookup "types".toList = some (.table form' members') →
      members.Perm members' → ofToml? t = some read → ofToml? t' = some read' →
      read.catalog = read'.catalog) ∧
    settings.catalog.size = 36 +
      ((settings.types.map fun entry => Catalog.normalKey entry.1).toFinset \
        Catalog.builtin.keys.toFinset).card ∧
    (settings.types = [] → settings.catalog = Catalog.builtin ∧
      settings.catalog = Catalog.builtin.insertAll settings.rows) := by
  have hlookup (key : Text) (isNotNull : Bool) :=
    catalog_eq_insertAll settings ▸
      Catalog.lookup_table_insertAll Catalog.builtin settings.rows isNotNull key
  have hmem : ∀ {key}, (∃ entry ∈ settings.types, Catalog.normalKey entry.1 = key) ↔
      key ∈ settings.normalKeys := List.mem_map.symm
  refine ⟨fun key => ?_, fun key hkey => ?_, fun key hkey => ?_, ?_, ?_, fun hnil => ?_⟩
  · rw [hmem, catalog_eq_insertAll, Catalog.mem_keys_insertAll, map_normalKey_rows]
  · have hnone : Catalog.lastWritten settings.rows key = none :=
      lastWritten_rows_eq_none fun hmem' => by
        obtain ⟨entry, hentry, heq⟩ := hmem.mpr hmem'
        exact hkey entry hentry heq
    have htable := hlookup key
    rw [hnone] at htable
    exact ⟨htable true, htable false⟩
  · obtain ⟨entry, hentry, hnormal, hgreatest, hlast⟩ := exists_lastWritten_rows h (hmem.mp hkey)
    have htable := hlookup key
    rw [hlast] at htable
    refine ⟨entry, hentry, hnormal, fun other hother heq => ?_, htable true, htable false⟩
    exact (hgreatest other hother heq).imp_right Text.bytes_lt_iff.mpr
  · intro t t' document document' form form' members members' read read' hparse hparse' hfound
      hfound' hperm hread hread'
    have htypes := types_eq_of_perm hparse hparse' hfound hfound' hperm hread hread'
    rw [catalog_eq_insertAll, catalog_eq_insertAll, rows, rows, htypes]
  · rw [catalog_eq_insertAll, Catalog.size_insertAll keysOrdered_table_builtin, map_normalKey_rows,
      size_builtin, normalKeys]
  · exact ⟨if_pos (List.isEmpty_iff.mpr hnil), catalog_eq_insertAll settings⟩

/-- Settings with three spellings of one key and another strict type for bits: the last spelling
counts, in both tables, and bits that may be null get the other type as well. Two documents that
differ in the order of two spellings give one catalog. -/
theorem catalog_of_greatest_key_spellings :
    let settings : Settings :=
      ⟨.default, [(" json ".toList, ⟨"a".toList, none⟩), ("BIT".toList, ⟨"uint8".toList, none⟩),
        ("JSON".toList, ⟨"b".toList, some "c".toList⟩), ("json".toList, ⟨"d".toList, none⟩)], none⟩
    settings.IsOrdered ∧
      settings.catalog.strictType? "json".toList = some "d".toList ∧
      settings.catalog.nullableType? "json".toList = some "d".toList ∧
      settings.catalog.nullableType? "bit".toList = some "uint8".toList ∧
      settings.catalog.strictType? "int".toList = some "int".toList ∧
      settings.catalog.size = 37 ∧
      default.catalog = Catalog.builtin ∧
      ∃ read read',
        ofToml? "[types]\njson.strict = 'd'\nJSON.strict = 'b'".toList = some read ∧
        ofToml? "[types]\nJSON.strict = 'b'\njson.strict = 'd'".toList = some read' ∧
        read.catalog = read'.catalog := by
  intro settings
  have hordered : settings.IsOrdered := by
    simp only [IsOrdered, KeysOrdered, settings]
    decide
  obtain ⟨-, hkept, hgreatest, hperm, hsize, -⟩ := catalog_of_greatest_key settings hordered
  obtain ⟨-, -, -, -, -, hnone⟩ := catalog_of_greatest_key default isOrdered_default
  have hspelled : ∃ entry ∈ settings.types, Catalog.normalKey entry.1 = "json".toList := by
    decide +kernel
  have hbits : ∃ entry ∈ settings.types, Catalog.normalKey entry.1 = "bit".toList := by
    decide +kernel
  have hother : ∀ entry ∈ settings.types, Catalog.normalKey entry.1 ≠ "int".toList := by
    decide +kernel
  obtain ⟨json, hjson, -, hlast, hstrict, hnullable⟩ := hgreatest _ hspelled
  obtain ⟨bits, hbits, hnormal, -, -, hbit⟩ := hgreatest _ hbits
  have hgreater : ∀ entry ∈ settings.types,
      ¬ Text.bytes "json".toList < Text.bytes entry.1 := by
    decide +kernel
  have honly : ∀ entry ∈ settings.types, Catalog.normalKey entry.1 = "bit".toList →
      entry = ("BIT".toList, ⟨"uint8".toList, none⟩) := by
    decide +kernel
  obtain rfl := (hlast ("json".toList, ⟨"d".toList, none⟩) (by decide)
    (by decide +kernel)).resolve_right (hgreater json hjson)
  obtain rfl := honly bits hbits hnormal
  refine ⟨hordered, hstrict, hnullable, hbit, ?_, ?_, (hnone rfl).1, ?_⟩
  · rw [(hkept _ hother).1]
    decide +kernel
  · rw [hsize]
    decide +kernel
  · obtain ⟨read, hread⟩ : ∃ read,
        ofToml? "[types]\njson.strict = 'd'\nJSON.strict = 'b'".toList = some read :=
      Option.isSome_iff_exists.mp (by decide +kernel)
    obtain ⟨read', hread'⟩ : ∃ read,
        ofToml? "[types]\nJSON.strict = 'b'\njson.strict = 'd'".toList = some read :=
      Option.isSome_iff_exists.mp (by decide +kernel)
    have hdocument : Toml.parse? "[types]\njson.strict = 'd'\nJSON.strict = 'b'".toList =
        some [("types".toList, .table .header
          [("json".toList, .table .dotted [("strict".toList, .string "d".toList)]),
           ("JSON".toList, .table .dotted [("strict".toList, .string "b".toList)])])] := by
      cbv
    have hdocument' : Toml.parse? "[types]\nJSON.strict = 'b'\njson.strict = 'd'".toList =
        some [("types".toList, .table .header
          [("JSON".toList, .table .dotted [("strict".toList, .string "b".toList)]),
           ("json".toList, .table .dotted [("strict".toList, .string "d".toList)])])] := by
      cbv
    refine ⟨read, read', hread, hread', ?_⟩
    exact hperm _ _ _ _ _ _ _ _ _ _ hdocument hdocument' rfl rfl (.swap _ _ _) hread hread'

end TableModel.Settings
