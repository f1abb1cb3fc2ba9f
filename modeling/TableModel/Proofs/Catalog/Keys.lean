import Mathlib.Data.Finset.Card
import TableModel.Proofs.Catalog.LastWrite
import TableModel.Proofs.Text.Order

/-!
# The keys of a catalog

Both tables of a catalog are in the order of their keys, each key once, after any number of entries
(`keysOrdered_table_insertAll`). What is added under a key is in the catalog under its normal form,
and nothing is ever taken out (`mem_keys_insertAll`); so the number of keys grows by the normal forms
that are new (`size_insertAll`).
-/

namespace TableModel

/-! ### Tables -/

theorem mem_keys_iff_isSome_lookup (table : TypeTable) (key : Text) :
    key ∈ table.map (·.1) ↔ (table.lookup key).isSome := by
  rw [List.lookup_isSome_iff, List.mem_map]
  constructor
  · rintro ⟨entry, hmem, rfl⟩
    exact ⟨entry, hmem, beq_self_eq_true _⟩
  · rintro ⟨entry, hmem, heq⟩
    exact ⟨entry, hmem, (eq_of_beq heq).symm⟩

theorem mem_keys_insertEntry {key type other : Text} {table : TypeTable} :
    other ∈ (insertEntry key type table).map (·.1) ↔ other = key ∨ other ∈ table.map (·.1) := by
  rw [mem_keys_iff_isSome_lookup, mem_keys_iff_isSome_lookup, lookup_insertEntry]
  split_ifs with h <;> simp [h]

theorem keysOrdered_insertEntry (key type : Text) {table : TypeTable} (h : KeysOrdered table) :
    KeysOrdered (insertEntry key type table) := by
  induction table with
  | nil => exact .cons (by simp) .nil
  | cons entry rest ih =>
    obtain ⟨hfirst, hrest⟩ := h.of_cons
    by_cases hkey : key = entry.1
    · rw [insertEntry, if_pos hkey]
      exact .cons (fun other hmem => hkey ▸ hfirst other hmem) hrest
    by_cases hbefore : Text.before key entry.1 = true
    · rw [insertEntry, if_neg hkey, if_pos hbefore]
      exact .cons_of_lt (Text.before_iff_lt.mp hbefore) h
    · rw [insertEntry, if_neg hkey, if_neg hbefore]
      have hgt : entry.1 < key := Text.lt_of_not_before hkey hbefore
      refine .cons (fun other hmem => ?_) (ih hrest)
      rcases mem_keys_insertEntry.mp hmem with rfl | hmem
      · exact hgt
      · exact hfirst other hmem

/-! ### Catalogs -/

namespace Catalog

/-- Both tables of a catalog stay in the order of their keys. -/
theorem keysOrdered_table_insertAll {catalog : Catalog}
    (h : ∀ isNotNull, KeysOrdered (catalog.table isNotNull)) (rows : List (Text × GoTypes))
    (isNotNull : Bool) : KeysOrdered ((catalog.insertAll rows).table isNotNull) := by
  induction rows using List.reverseRecOn with
  | nil => exact h isNotNull
  | append_singleton rows row ih =>
    rw [insertAll_append]
    cases isNotNull <;> exact keysOrdered_insertEntry _ _ ih

theorem keysOrdered_table_ofList (rows : List (Text × GoTypes)) (isNotNull : Bool) :
    KeysOrdered ((ofList rows).table isNotNull) :=
  keysOrdered_table_insertAll (fun isNotNull => by cases isNotNull <;> exact .nil) rows isNotNull

/-- The keys of a catalog that rows were added to. -/
theorem mem_keys_insertAll (catalog : Catalog) (rows : List (Text × GoTypes)) (key : Text) :
    key ∈ (catalog.insertAll rows).keys ↔
      key ∈ catalog.keys ∨ key ∈ rows.map fun row => normalKey row.1 := by
  induction rows using List.reverseRecOn with
  | nil => simp [insertAll]
  | append_singleton rows row ih =>
    have hstep : key ∈ (catalog.insertAll (rows ++ [row])).keys ↔
        key = normalKey row.1 ∨ key ∈ (catalog.insertAll rows).keys := by
      rw [insertAll_append]
      exact mem_keys_insertEntry
    rw [hstep, ih, List.map_append, List.mem_append, List.map_singleton, List.mem_singleton,
      or_comm, or_assoc]

/-- What rows add to the number of keys is the number of normal forms that are new. -/
theorem size_insertAll {catalog : Catalog}
    (h : ∀ isNotNull, KeysOrdered (catalog.table isNotNull)) (rows : List (Text × GoTypes)) :
    (catalog.insertAll rows).size = catalog.size +
      ((rows.map fun row => normalKey row.1).toFinset \ catalog.keys.toFinset).card := by
  have hsize : ∀ {catalog : Catalog}, KeysOrdered (catalog.table true) →
      catalog.size = catalog.keys.toFinset.card := by
    intro catalog hordered
    have hnodup : catalog.keys.Nodup := hordered.nodup
    rw [List.toFinset_card_of_nodup hnodup, keys, List.length_map, size]
  have hkeys : (catalog.insertAll rows).keys.toFinset = catalog.keys.toFinset ∪
      ((rows.map fun row => normalKey row.1).toFinset \ catalog.keys.toFinset) := by
    ext key
    simp only [List.mem_toFinset, mem_keys_insertAll, Finset.mem_union, Finset.mem_sdiff]
    tauto
  rw [hsize (keysOrdered_table_insertAll h rows true), hsize (h true), hkeys,
    Finset.card_union_of_disjoint Finset.disjoint_sdiff]

end Catalog

end TableModel
