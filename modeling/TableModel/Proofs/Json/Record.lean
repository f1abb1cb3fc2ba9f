import Mathlib.Data.List.Perm.Basic
import TableModel.Json

/-!
# Records in JSON

An object stands for a record by its keys. If it has the members of a record, in any order and with
any others whose keys are no names of the record (`HasFields`), the record is read from it
(`record?_of_hasFields`).

`Faulty` are the values that are no record: objects with a name twice or without one that they have
to have, and arrays that have not as many values as there are names. What is read of them, if
anything, has no value for some name that needs one (`Faulty.exists_mem_zip`).
-/

namespace TableModel.Json

/-! ### The values of a key -/

variable {names : List String} {members : List (Option Text × Json)}

theorem valuesOf_append (key : Text) (members others : List (Option Text × Json)) :
    valuesOf key (members ++ others) = valuesOf key members ++ valuesOf key others :=
  List.filterMap_append

theorem length_valuesOf (key : Text) (members : List (Option Text × Json)) :
    (valuesOf key members).length = (members.map Prod.fst).count (some key) := by
  induction members with
  | nil => rfl
  | cons member members ih =>
    obtain ⟨k, value⟩ := member
    rw [valuesOf, List.filterMap_cons, List.map_cons, List.count_cons, ← ih]
    by_cases hk : k = some key <;> simp [hk, valuesOf]

theorem mem_valuesOf {key : Text} {value : Json} (h : (some key, value) ∈ members) :
    value ∈ valuesOf key members :=
  List.mem_filterMap.mpr ⟨_, h, if_pos rfl⟩

theorem head?_valuesOf {key : Text} {value : Json} (h : (some key, value) ∈ members)
    (honce : (members.map Prod.fst).count (some key) ≤ 1) :
    (valuesOf key members).head? = some value := by
  have hmem := mem_valuesOf h
  rw [← length_valuesOf] at honce
  rcases hvalues : valuesOf key members with _ | ⟨first, _ | ⟨second, more⟩⟩
  · simp [hvalues] at hmem
  · simpa [hvalues, eq_comm] using hmem
  · simp [hvalues] at honce

theorem valuesOf_eq_nil {key : Text} (h : some key ∉ members.map Prod.fst) :
    valuesOf key members = [] := by
  rw [← List.length_eq_zero_iff, length_valuesOf, List.count_eq_zero]
  exact h

/-! ### Objects with the fields of a record -/

def membersFor (fields : List (String × Json)) : List (Option Text × Json) :=
  fields.map fun field => (some field.1.toList, field.2)

/-- Whether the members are those for the fields, in any order and with others: the keys of the
others are texts and no names of the record. -/
def HasFields (names : List String) (fields : List (String × Json))
    (members : List (Option Text × Json)) : Prop :=
  ∃ others : List (Text × Json), (∀ other ∈ others, other.1 ∉ names.map String.toList) ∧
    members.Perm (membersFor fields ++ others.map fun other => (some other.1, other.2))

theorem HasFields.refl (names : List String) (fields : List (String × Json)) :
    HasFields names fields (membersFor fields) :=
  ⟨[], by simp, by rw [List.map_nil, List.append_nil]⟩

theorem valuesOf_membersFor {fields : List (String × Json)} (h : (fields.map Prod.fst).Nodup)
    (name : String) : valuesOf name.toList (membersFor fields) = (fields.lookup name).toList := by
  induction fields with
  | nil => rfl
  | cons field fields ih =>
    obtain ⟨key, value⟩ := field
    obtain ⟨hkey, hfields⟩ := List.nodup_cons.mp h
    have hcons : valuesOf name.toList (membersFor ((key, value) :: fields)) =
        (if key = name then [value] else []) ++ (fields.lookup name).toList := by
      rw [← ih hfields, membersFor, List.map_cons, valuesOf, List.filterMap_cons]
      by_cases heq : key = name <;> simp [heq, valuesOf, membersFor, String.toList_inj]
    rw [hcons, List.lookup_cons]
    by_cases heq : key = name
    · subst heq
      have hnone : fields.lookup key = none := by
        refine List.lookup_eq_none_iff.mpr fun field hfield => ?_
        have hmem : field.1 ∈ fields.map Prod.fst := List.mem_map_of_mem hfield
        have hne : key ≠ field.1 := fun hsame => hkey (hsame ▸ hmem)
        simpa using hne
      simp [hnone]
    · have hne : (name == key) = false := by simpa using fun hsame => heq hsame.symm
      simp [heq, hne]

theorem HasFields.valuesOf {fields : List (String × Json)} (h : HasFields names fields members)
    (hfields : (fields.map Prod.fst).Nodup) {name : String} (hname : name ∈ names) :
    valuesOf name.toList members = (fields.lookup name).toList := by
  obtain ⟨others, hothers, hperm⟩ := h
  have hnone :
      Json.valuesOf name.toList (others.map fun other => (some other.1, other.2)) = [] := by
    refine valuesOf_eq_nil fun hmem => ?_
    simp only [List.map_map, List.mem_map, Function.comp_apply, Option.some.injEq] at hmem
    obtain ⟨other, hother, hkey⟩ := hmem
    exact hothers other hother (hkey ▸ List.mem_map_of_mem hname)
  have hvalues : (Json.valuesOf name.toList members).Perm (fields.lookup name).toList := by
    have h := hperm.filterMap fun member =>
      if member.1 = some name.toList then some member.2 else none
    rwa [← Json.valuesOf, ← Json.valuesOf, valuesOf_append, hnone, List.append_nil,
      valuesOf_membersFor hfields] at h
  cases hlookup : fields.lookup name with
  | none => simpa [hlookup] using hvalues
  | some value => simpa [hlookup] using hvalues

/-- **A record is read from its members**, whatever their order and whatever else is there. -/
theorem record?_of_hasFields {fields : List (String × Json)} (h : HasFields names fields members)
    (hfields : (fields.map Prod.fst).Nodup) (complete : Bool) :
    record? names complete (.object members) =
      some (names.map fun name => fields.lookup name) := by
  have hkeys : members.any (·.1.isNone) = false := by
    obtain ⟨others, -, hperm⟩ := h
    refine List.any_eq_false.mpr fun member hmember => ?_
    have hmember := hperm.mem_iff.mp hmember
    simp only [membersFor, List.mem_append, List.mem_map] at hmember
    rcases hmember with ⟨_, -, rfl⟩ | ⟨_, -, rfl⟩ <;> simp
  have honce : (names.any fun name => 1 < (valuesOf name.toList members).length) = false := by
    refine List.any_eq_false.mpr fun name hname => ?_
    rw [h.valuesOf hfields hname]
    cases fields.lookup name <;> simp
  have hvalues : (names.map fun name => (valuesOf name.toList members).head?) =
      names.map fun name => fields.lookup name := by
    refine List.map_congr_left fun name hname => ?_
    rw [h.valuesOf hfields hname]
    cases fields.lookup name <;> rfl
  rw [record?, hkeys, honce, hvalues]
  rfl

/-- A record is read from the array of all its values. -/
theorem record?_array {items : List Json} (h : items.length = names.length) (complete : Bool) :
    record? names complete (.array items) = some (items.map some) := by
  simp [record?, h]

/-! ### Values that are no record -/

/-- Whether the value is no record with the names, of which only the optional ones may be left out
of an object. -/
inductive Faulty (names optional : List String) : Json → Prop
  | repeated {members : List (Option Text × Json)} {name : String} (hname : name ∈ names)
    (htwice : 2 ≤ (members.map Prod.fst).count (some name.toList)) :
    Faulty names optional (.object members)
  | missing {members : List (Option Text × Json)} {name : String} (hname : name ∈ names)
    (hrequired : name ∉ optional) (h : some name.toList ∉ members.map Prod.fst) :
    Faulty names optional (.object members)
  | incomplete {items : List Json} (h : items.length ≠ names.length) :
    Faulty names optional (.array items)

/-- What is read of an object, where no name is there twice. -/
theorem record?_object_eq_some {complete : Bool} {values : List (Option Json)}
    (h : record? names complete (.object members) = some values) :
    (∀ name ∈ names, (members.map Prod.fst).count (some name.toList) ≤ 1) ∧
      values = names.map fun name => (valuesOf name.toList members).head? := by
  rw [record?] at h
  split_ifs at h with hkeys htwice
  refine ⟨fun name hname => ?_, (Option.some.inj h).symm⟩
  rw [Bool.not_eq_true, List.any_eq_false] at htwice
  have hlength := htwice name hname
  rw [length_valuesOf] at hlength
  simpa using hlength

/-- What is read of a value that is no record lacks a value for a name that needs one. -/
theorem Faulty.exists_mem_zip {optional : List String} {json : Json}
    (h : Faulty names optional json) {values : List (Option Json)}
    (hrecord : json.record? names true = some values) :
    ∃ name, name ∉ optional ∧ (name, none) ∈ names.zip values := by
  cases h with
  | repeated hname htwice =>
    have honce := (record?_object_eq_some hrecord).1 _ hname
    omega
  | @missing members name hname hrequired h =>
    have hzip (f : String → Option Json) :
        names.zip (names.map f) = names.map fun name => (name, f name) := by
      rw [← List.zip_map', List.map_id']
    refine ⟨name, hrequired, ?_⟩
    rw [(record?_object_eq_some hrecord).2, hzip]
    exact List.mem_map.mpr ⟨name, hname, by rw [valuesOf_eq_nil h]; rfl⟩
  | incomplete h =>
    simp only [record?, Bool.true_and, Bool.or_eq_true, decide_eq_true_eq] at hrecord
    split_ifs at hrecord with hlength
    omega

end TableModel.Json
