import TableModel.Proofs.Text.Order
import TableModel.Proofs.Toml.DistinctKeys
import TableModel.Settings

/-!
# The order of the settings of types

The settings of types are read one by one and put where their keys belong. As a document has each
key once, they end up in the order of their keys (`isOrdered_of_ofToml?`), and in which order the
document has them does not matter (`types_eq_of_perm`).
-/

namespace TableModel.Settings

/-- The settings of types are in the order of their keys, each key once. -/
def IsOrdered (settings : Settings) : Prop := KeysOrdered settings.types

theorem isOrdered_default : default.IsOrdered := KeysOrdered.nil

/-! ### Putting a setting where its key belongs -/

theorem perm_insertType (key : Text) (setting : TypeSetting) (types : List (Text × TypeSetting)) :
    (insertType key setting types).Perm ((key, setting) :: types) := by
  induction types with
  | nil => exact .refl _
  | cons entry rest ih =>
    rw [insertType]
    split
    · exact .refl _
    · exact (ih.cons entry).trans (.swap _ _ _)

theorem keysOrdered_insertType {key : Text} (setting : TypeSetting)
    {types : List (Text × TypeSetting)} (h : KeysOrdered types) (hnew : key ∉ types.map (·.1)) :
    KeysOrdered (insertType key setting types) := by
  induction types with
  | nil => exact .cons (by simp) .nil
  | cons entry rest ih =>
    obtain ⟨hfirst, hrest⟩ := h.of_cons
    rw [List.map_cons, List.mem_cons, not_or] at hnew
    by_cases hbefore : Text.before key entry.1 = true
    · rw [insertType, if_pos hbefore]
      exact .cons_of_lt (Text.before_iff_lt.mp hbefore) h
    · rw [insertType, if_neg hbefore]
      have hgt : entry.1 < key := Text.lt_of_not_before hnew.1 hbefore
      refine .cons (fun other hmem => ?_) (ih hrest hnew.2)
      have hkeys := ((perm_insertType key setting rest).map (·.1)).mem_iff.mp hmem
      rcases List.mem_cons.mp hkeys with rfl | hmem
      · exact hgt
      · exact hfirst other hmem

/-! ### Reading settings of types -/

/-- The setting of a type that a member of a document's table describes, under its key. -/
def described? (member : Text × Toml) : Option (Text × TypeSetting) :=
  (typeSetting? member.2).map (member.1, ·)

def addMember? (types : List (Text × TypeSetting)) (member : Text × Toml) :
    Option (List (Text × TypeSetting)) :=
  (typeSetting? member.2).map fun setting => insertType member.1 setting types

theorem types?_table (form : TableForm) (members : Toml.Members) :
    types? (.table form members) = members.foldlM addMember? [] := by
  have hstep : addMember? = fun types member => do
      return insertType member.1 (← typeSetting? member.2) types := by
    funext types member
    rw [addMember?]
    cases typeSetting? member.2 <;> rfl
  rw [hstep]
  rfl

/-- What is read is what the members describe, each by itself. The order is that of the keys and not
that of the document, so the two are permutations of each other and need not be the same. -/
theorem perm_of_foldlM {members : Toml.Members} {types types' : List (Text × TypeSetting)}
    (h : members.foldlM addMember? types = some types') :
    types'.Perm (members.filterMap described? ++ types) := by
  induction members generalizing types with
  | nil =>
    obtain rfl := Option.some.inj h
    exact .refl _
  | cons member rest ih =>
    obtain ⟨next, hnext, hrest⟩ := Option.bind_eq_some_iff.mp h
    obtain ⟨setting, hsetting, rfl⟩ := Option.map_eq_some_iff.mp hnext
    have hentry : described? member = some (member.1, setting) := by rw [described?, hsetting]; rfl
    rw [List.filterMap_cons_some hentry]
    have hinsert : (rest.filterMap described? ++ insertType member.1 setting types).Perm
        (rest.filterMap described? ++ (member.1, setting) :: types) :=
      (perm_insertType member.1 setting types).append_left _
    exact (ih hrest).trans (hinsert.trans List.perm_middle)

theorem keysOrdered_of_foldlM {members : Toml.Members} {types types' : List (Text × TypeSetting)}
    (hkeys : (members.map (·.1)).Nodup) (hnew : ∀ key ∈ members.map (·.1), key ∉ types.map (·.1))
    (h : KeysOrdered types) (hread : members.foldlM addMember? types = some types') :
    KeysOrdered types' := by
  -- The keys that are still to come are new at each step, as they are not repeated.
  induction members generalizing types with
  | nil =>
    obtain rfl := Option.some.inj hread
    exact h
  | cons member rest ih =>
    obtain ⟨next, hnext, hrest⟩ := Option.bind_eq_some_iff.mp hread
    obtain ⟨setting, -, rfl⟩ := Option.map_eq_some_iff.mp hnext
    rw [List.map_cons, List.nodup_cons] at hkeys
    have hmember := hnew member.1 List.mem_cons_self
    refine ih hkeys.2 (fun key hmem hold => ?_) (keysOrdered_insertType setting h hmember) hrest
    have hadded := ((perm_insertType member.1 setting types).map (·.1)).mem_iff.mp hold
    rcases List.mem_cons.mp hadded with rfl | hold
    · exact hkeys.1 hmem
    · exact hnew key (List.mem_cons_of_mem _ hmem) hold

theorem exists_table_of_types? {value : Toml} {types : List (Text × TypeSetting)}
    (h : types? value = some types) : ∃ form members, value = .table form members := by
  cases value with
  | table form members => exact ⟨form, members, rfl⟩
  | _ => contradiction

/-- The settings of types that a document's table describes are in the order of their keys. -/
theorem keysOrdered_of_types? {value : Toml} (hvalue : Toml.Distinct value)
    {types : List (Text × TypeSetting)} (h : types? value = some types) : KeysOrdered types := by
  obtain ⟨form, members, rfl⟩ := exists_table_of_types? h
  rw [types?_table] at h
  exact keysOrdered_of_foldlM (Toml.distinct_table_iff.mp hvalue).nodup (by simp) .nil h

/-! ### Documents -/

/-- The settings of types in a document are what stands under its key for them. -/
theorem optional_types_of_ofToml? {t : Text} {settings : Settings} (h : ofToml? t = some settings) :
    ∃ members, Toml.parse? t = some members ∧
      ∃ types, optional? types? (members.lookup "types".toList) = some types ∧
        settings.types = types.getD [] := by
  obtain ⟨members, hparse, h⟩ := Option.bind_eq_some_iff.mp h
  obtain ⟨options, -, h⟩ := Option.bind_eq_some_iff.mp h
  obtain ⟨types, htypes, h⟩ := Option.bind_eq_some_iff.mp h
  obtain ⟨logFilter, -, heq⟩ := Option.bind_eq_some_iff.mp h
  obtain rfl := Option.some.inj heq
  exact ⟨members, hparse, types, htypes, rfl⟩

theorem isOrdered_of_ofToml? {t : Text} {settings : Settings} (h : ofToml? t = some settings) :
    settings.IsOrdered := by
  obtain ⟨members, hparse, types, htypes, heq⟩ := optional_types_of_ofToml? h
  rw [IsOrdered, heq]
  cases hlookup : members.lookup "types".toList with
  | none =>
    rw [hlookup] at htypes
    obtain rfl := Option.some.inj htypes
    exact .nil
  | some value =>
    rw [hlookup] at htypes
    obtain ⟨read, hread, rfl⟩ := Option.map_eq_some_iff.mp htypes
    exact keysOrdered_of_types? ((Toml.distinctMembers_of_parse? hparse).of_lookup hlookup) hread

/-- Two documents that describe settings, with the same members in the table of types, in whatever
order, describe the same settings of types. -/
theorem types_eq_of_perm {t t' : Text} {document document' : Toml.Members}
    (hparse : Toml.parse? t = some document) (hparse' : Toml.parse? t' = some document')
    {form form' : TableForm} {members members' : Toml.Members}
    (hlookup : document.lookup "types".toList = some (.table form members))
    (hlookup' : document'.lookup "types".toList = some (.table form' members'))
    (hperm : members.Perm members') {settings settings' : Settings}
    (h : ofToml? t = some settings) (h' : ofToml? t' = some settings') :
    settings.types = settings'.types := by
  have hread : ∀ {t : Text} {document : Toml.Members} {form : TableForm} {members : Toml.Members}
      {settings : Settings}, Toml.parse? t = some document →
      document.lookup "types".toList = some (.table form members) → ofToml? t = some settings →
      settings.types.Perm (members.filterMap described?) := by
    intro t document form members settings hparse hlookup h
    obtain ⟨found, hfound, types, htypes, heq⟩ := optional_types_of_ofToml? h
    obtain rfl := Option.some.inj (hparse.symm.trans hfound)
    rw [hlookup] at htypes
    obtain ⟨read, hread, rfl⟩ := Option.map_eq_some_iff.mp htypes
    rw [types?_table] at hread
    rw [heq, Option.getD_some]
    simpa using perm_of_foldlM hread
  refine (isOrdered_of_ofToml? h).eq_of_perm (isOrdered_of_ofToml? h') ?_
  exact (hread hparse hlookup h).trans
    ((hperm.filterMap described?).trans (hread hparse' hlookup' h').symm)

end TableModel.Settings
