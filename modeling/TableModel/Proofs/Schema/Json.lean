import TableModel.Proofs.Json.Printed
import TableModel.Proofs.Json.Record
import TableModel.Schema.Json

/-!
# Tables as JSON

A table can be said in JSON in many ways. `Table.Described` are the values that describe it: on both
levels, for the table and for each of its columns, an object may have its members in any order and
others beside them, the comment of a column may be left out where there is none, and an array of all
the values may stand for an object. Each text for such a value is read as the table
(`Table.ofJson?_of_described`), and what is written of a table is one of them, so nothing of a table
is lost.

What is no record is refused, whatever the rest is: a table that is none (`Table.ofJson?_of_faulty`)
and a table with a column that is none (`Table.ofJson?_of_faulty_column`). `Table.json_lossless`
says all this of texts.
-/

namespace TableModel

namespace Json

theorem optionalText?_ofOption (text : Option Text) :
    (ofOption text).optionalText? = some text := by
  cases text <;> rfl

end Json

/-! ### Columns -/

namespace Column

/-- The names of the fields of a column, in the order in which an array has their values. -/
def fieldNames : List String :=
  ["raw_name", "sql_type_name", "is_unsigned", "is_not_null", "comment"]

/-- The fields that have to be there. Only the comment may be missing, as it may be null. -/
def requiredFields (column : Column) : List (String × Json) :=
  [("raw_name", .ofText column.name), ("sql_type_name", .ofText column.type),
    ("is_unsigned", .bool column.isUnsigned), ("is_not_null", .bool column.isNotNull)]

def fields (column : Column) : List (String × Json) :=
  column.requiredFields ++ [("comment", .ofOption column.comment)]

/-- Whether the value describes the column. -/
inductive Described (column : Column) : Json → Prop
  | object {members : List (Option Text × Json)}
    (h : Json.HasFields fieldNames column.fields members) : Described column (.object members)
  | uncommented {members : List (Option Text × Json)} (hcomment : column.comment = none)
    (h : Json.HasFields fieldNames column.requiredFields members) :
    Described column (.object members)
  | array : Described column (.array (column.fields.map Prod.snd))

variable {column : Column} {json : Json}

theorem ofJson?_of_record? (comment : Option Json)
    (hrecord : json.record? fieldNames true =
      some (column.requiredFields.map (some ·.2) ++ [comment]))
    (hcomment : (comment.getD .null).optionalText? = some column.comment) :
    ofJson? json = some column := by
  rw [ofJson?, ← fieldNames, hrecord]
  simp [requiredFields, Json.ofText, Json.text?, Json.bool?, hcomment]

theorem ofJson?_of_described (h : column.Described json) : ofJson? json = some column := by
  cases h with
  | object h =>
    refine ofJson?_of_record? (some (.ofOption column.comment)) ?_ (Json.optionalText?_ofOption _)
    rw [Json.record?_of_hasFields h (show fieldNames.Nodup by decide)]
    rfl
  | uncommented hcomment h =>
    refine ofJson?_of_record? none ?_ (by rw [hcomment]; rfl)
    rw [Json.record?_of_hasFields h (show fieldNames.dropLast.Nodup by decide)]
    rfl
  | array =>
    refine ofJson?_of_record? (some (.ofOption column.comment)) ?_ (Json.optionalText?_ofOption _)
    rw [Json.record?_array rfl]
    rfl

/-- Where a column is read, there is a value under each name but that of the comment. -/
theorem exists_record?_of_ofJson? (h : ofJson? json = some column) :
    ∃ name type isUnsigned isNotNull comment, json.record? fieldNames true =
      some [some name, some type, some isUnsigned, some isNotNull, comment] := by
  rw [ofJson?, ← fieldNames] at h
  cases hrecord : json.record? fieldNames true with
  | none => simp [hrecord] at h
  | some values =>
    rw [hrecord] at h
    simp only [Option.bind_some, bind] at h
    split at h
    · exact ⟨_, _, _, _, _, rfl⟩
    · cases h

theorem ofJson?_of_faulty (h : json.Faulty fieldNames ["comment"]) : ofJson? json = none := by
  refine Option.eq_none_iff_forall_not_mem.mpr fun column hcolumn => ?_
  obtain ⟨name, type, isUnsigned, isNotNull, comment, hrecord⟩ := exists_record?_of_ofJson? hcolumn
  obtain ⟨missing, hrequired, hmissing⟩ := h.exists_mem_zip hrecord
  simp only [fieldNames, List.zip_cons_cons, List.zip_nil_left, List.mem_cons, Prod.mk.injEq,
    reduceCtorEq, and_false, false_or, List.not_mem_nil, or_false] at hmissing hrequired
  exact hrequired hmissing.1

theorem printable_toJson (column : Column) : column.toJson.Printable := by
  refine .ofMembers ?_
  simp only [List.forall_mem_cons]
  exact ⟨.text _, .text _, .bool _, .bool _, .ofOption _, List.forall_mem_nil _⟩

theorem described_toJson (column : Column) : column.Described column.toJson :=
  .object (.refl fieldNames column.fields)

end Column

/-! ### Tables -/

namespace Table

def fieldNames : List String := ["table_name", "columns"]

/-- Whether the value describes the table. -/
inductive Described (table : Table) : Json → Prop
  | object {columns : List Json} {members : List (Option Text × Json)}
    (hcolumns : List.Forall₂ Column.Described table.columns columns)
    (h : Json.HasFields fieldNames
      [("table_name", .ofText table.name), ("columns", .array columns)] members) :
    Described table (.object members)
  | array {columns : List Json} (hcolumns : List.Forall₂ Column.Described table.columns columns) :
    Described table (.array [.ofText table.name, .array columns])

/-- The value has the items as its columns, be they well formed or not: under their key, wherever it
stands among the members, or as the second item of an array. -/
inductive HasColumns (columns : List Json) : Json → Prop
  | object {members : List (Option Text × Json)}
    (h : (some "columns".toList, .array columns) ∈ members) : HasColumns columns (.object members)
  | array {name : Json} : HasColumns columns (.array [name, .array columns])

variable {table : Table} {json : Json}

/-- Columns are read one by one, and all of them have to be there. -/
theorem mapM_ofJson?_eq_some_iff {items : List Json} {columns : List Column} :
    items.mapM Column.ofJson? = some columns ↔ items.map Column.ofJson? = columns.map some := by
  induction items generalizing columns with
  | nil => cases columns <;> simp
  | cons item items ih =>
    rw [List.mapM_cons, List.map_cons]
    cases hitem : Column.ofJson? item with
    | none => cases columns <;> simp
    | some column =>
      cases hitems : items.mapM Column.ofJson? with
      | none => cases columns <;> simp [← ih, hitems]
      | some read => cases columns <;> simp [← ih, hitems]

theorem map_ofJson?_of_described {columns : List Column} {items : List Json}
    (h : List.Forall₂ Column.Described columns items) :
    items.map Column.ofJson? = columns.map some := by
  induction h with
  | nil => rfl
  | cons hcolumn _ ih => rw [List.map_cons, List.map_cons, Column.ofJson?_of_described hcolumn, ih]

/-- **A table is read from what describes it.** -/
theorem ofJson?_of_described (h : table.Described json) : ofJson? json = some table := by
  have hread {columns : List Json} (hcolumns : List.Forall₂ Column.Described table.columns columns)
      (hrecord : json.record? fieldNames true =
        some [some (.ofText table.name), some (.array columns)]) : ofJson? json = some table := by
    have hitems := mapM_ofJson?_eq_some_iff.mpr (map_ofJson?_of_described hcolumns)
    rw [ofJson?, ← fieldNames, hrecord]
    simp [Json.ofText, Json.text?, hitems]
  cases h with
  | object hcolumns h =>
    refine hread hcolumns ?_
    rw [Json.record?_of_hasFields h (show fieldNames.Nodup by decide)]
    rfl
  | array hcolumns =>
    refine hread hcolumns ?_
    rw [Json.record?_array rfl]
    rfl

/-- Where a table is read, there are both values of the record, and each column is read. -/
theorem exists_record?_of_ofJson? (h : ofJson? json = some table) :
    ∃ name columns, json.record? fieldNames true = some [some name, some (.array columns)] ∧
      columns.mapM Column.ofJson? = some table.columns := by
  rw [ofJson?, ← fieldNames] at h
  cases hrecord : json.record? fieldNames true with
  | none => simp [hrecord] at h
  | some values =>
    rw [hrecord] at h
    simp only [Option.bind_some, bind] at h
    split at h
    · next name columns =>
      refine ⟨_, _, rfl, ?_⟩
      cases hname : name.text? with
      | none => simp [hname] at h
      | some _ =>
        cases hcolumns : columns.mapM Column.ofJson? with
        | none => simp [hname, hcolumns] at h
        | some read =>
          simp only [hname, hcolumns, Option.bind_some, pure, Option.some.injEq] at h
          rw [← h]
    · cases h

/-- No table is read from what is no record. -/
theorem ofJson?_of_faulty (h : json.Faulty fieldNames []) : ofJson? json = none := by
  refine Option.eq_none_iff_forall_not_mem.mpr fun table htable => ?_
  obtain ⟨name, columns, hrecord, -⟩ := exists_record?_of_ofJson? htable
  obtain ⟨missing, -, hmissing⟩ := h.exists_mem_zip hrecord
  simp [fieldNames] at hmissing

theorem ofJson?_of_faulty_column {columns : List Json} (h : HasColumns columns json) {item : Json}
    (hitem : item ∈ columns) (hfaulty : item.Faulty Column.fieldNames ["comment"]) :
    ofJson? json = none := by
  refine Option.eq_none_iff_forall_not_mem.mpr fun table htable => ?_
  obtain ⟨name, read, hrecord, hcolumns⟩ := exists_record?_of_ofJson? htable
  have hread : read = columns := by
    cases h with
    | @object members h =>
      obtain ⟨honce, hvalues⟩ := Json.record?_object_eq_some hrecord
      have hfirst := Json.head?_valuesOf h (honce "columns" (by decide))
      simp only [fieldNames, List.map_cons, List.map_nil, hfirst, List.cons.injEq, and_true,
        Option.some.injEq, Json.array.injEq] at hvalues
      exact hvalues.2
    | array =>
      rw [Json.record?_array rfl] at hrecord
      simp only [List.map_cons, List.map_nil, Option.some.injEq, List.cons.injEq, Json.array.injEq,
        and_true] at hrecord
      exact hrecord.2.symm
  have hmem : Column.ofJson? item ∈ table.columns.map some :=
    mapM_ofJson?_eq_some_iff.mp hcolumns ▸ List.mem_map_of_mem (hread ▸ hitem)
  rw [Column.ofJson?_of_faulty hfaulty] at hmem
  simp at hmem

theorem printable_toJson (table : Table) : table.toJson.Printable := by
  refine .ofMembers ?_
  simp only [List.forall_mem_cons]
  exact ⟨.text _, .map Column.printable_toJson _, List.forall_mem_nil _⟩

theorem described_toJson (table : Table) : table.Described table.toJson := by
  have hcolumns : List.Forall₂ Column.Described table.columns
      (table.columns.map Column.toJson) :=
    List.forall₂_map_right_iff.mpr (List.forall₂_same.mpr fun column _ => column.described_toJson)
  exact .object hcolumns (.refl fieldNames _)

theorem Described.ne_number (h : table.Described json) (literal : Text) :
    json ≠ .number literal := by
  cases h <;> exact Json.noConfusion

/-- **JSON keeps tables.** What is written of a table describes the table, and each text for a
value that does is read as this table; with anything behind it that does not begin with a blank,
the text is refused. Refused as well is each text for an object that has a key of the record twice
or lacks one that it has to have, and for an array that has not all values, be it in the place of
the table or of one of its columns. -/
theorem json_lossless (table : Table) :
    (Json.Denotes (Json.pretty table.toJson) table.toJson ∧ table.Described table.toJson) ∧
    ofJsonText? (Json.pretty table.toJson) = some table ∧
    (∀ text json, Json.DenotesText text json → table.Described json →
      ofJsonText? text = some table ∧
      ∀ c rest, Json.isGap c = false → ofJsonText? (text ++ c :: rest) = none) ∧
    (∀ text json, Json.DenotesText text json → json.Faulty fieldNames [] →
      ofJsonText? text = none) ∧
    ∀ text json columns item, Json.DenotesText text json → HasColumns columns json →
      item ∈ columns → item.Faulty Column.fieldNames ["comment"] → ofJsonText? text = none := by
  have hread {text : Text} {json : Json} (htext : Json.DenotesText text json) :
      ofJsonText? text = ofJson? json := by
    rw [ofJsonText?, Json.parse?_of_denotes htext, Option.bind_some]
  have hwritten := table.printable_toJson
  refine ⟨⟨hwritten.denotes_write 0, table.described_toJson⟩, ?_,
    fun text json htext hjson => ⟨?_, fun c rest hc => ?_⟩, fun text json htext hjson => ?_,
    fun text json columns item htext hjson hitem hfaulty => ?_⟩
  · rw [hread hwritten.denotesText_pretty, ofJson?_of_described table.described_toJson]
  · rw [hread htext, ofJson?_of_described hjson]
  · rw [ofJsonText?, Json.parse?_append_eq_none htext hjson.ne_number hc, Option.bind_none]
  · rw [hread htext, ofJson?_of_faulty hjson]
  · rw [hread htext, ofJson?_of_faulty_column hjson hitem hfaulty]

/-- Members in another order, one that no column has, and a column as an array. Refused are the same
texts with a character behind them, with the name of the table once more, and without the type of
the first column. -/
theorem json_lossless_two_columns :
    let table : Table := ⟨"t".toList, [⟨"a".toList, "int".toList, true, false, none⟩,
      ⟨"b".toList, "text".toList, false, true, some "\"".toList⟩]⟩
    let first (type : List (String × Json)) : Json := .ofMembers
      ([("x", .array [.null]), ("is_not_null", .bool false), ("is_unsigned", .bool true)] ++ type ++
        [("raw_name", .ofText "a".toList)])
    let type : String × Json := ("sql_type_name", .ofText "int".toList)
    let second : Json := .array [.ofText "b".toList, .ofText "text".toList, .bool false, .bool true,
      .ofText "\"".toList]
    let form (first : Json) (name : List (String × Json)) : Json := .ofMembers
      (("columns", .array [first, second]) :: ("table_name", .ofText "t".toList) :: name)
    ofJsonText? (Json.pretty (form (first [type]) [])) = some table ∧
    ofJsonText? (Json.pretty (form (first [type]) []) ++ ['x']) = none ∧
    ofJsonText? (Json.pretty (form (first [type]) [("table_name", .null)])) = none ∧
    ofJsonText? (Json.pretty (form (first []) [])) = none := by
  intro table first type second form
  obtain ⟨-, -, hread, hfaulty, hcolumn⟩ := table.json_lossless
  have hfirst {type : List (String × Json)} (htype : ∀ member ∈ type, member.2.Printable) :
      (first type).Printable := by
    refine .ofMembers (List.forall_mem_append.mpr ⟨List.forall_mem_append.mpr ⟨?_, htype⟩, ?_⟩)
    · simp only [List.forall_mem_cons]
      exact ⟨.array (List.forall_mem_singleton.mpr .null), .bool _, .bool _, List.forall_mem_nil _⟩
    · exact List.forall_mem_singleton.mpr (.text _)
  have hsecond : second.Printable := by
    refine .array ?_
    simp only [List.forall_mem_cons]
    exact ⟨.text _, .text _, .bool _, .bool _, .text _, List.forall_mem_nil _⟩
  have htext {first : Json} (hfirst : first.Printable) {name : List (String × Json)}
      (hname : ∀ member ∈ name, member.2.Printable) :
      Json.DenotesText (Json.pretty (form first name)) (form first name) := by
    refine Json.Printable.denotesText_pretty (.ofMembers ?_)
    simp only [List.forall_mem_cons]
    exact ⟨.array (List.forall_mem_cons.mpr ⟨hfirst, List.forall_mem_singleton.mpr hsecond⟩),
      .text _, hname⟩
  have htype : (first [type]).Printable := hfirst (List.forall_mem_singleton.mpr (.text _))
  have hdescribed : table.Described (form (first [type]) []) := by
    have hcolumns : List.Forall₂ Column.Described table.columns [first [type], second] :=
      .cons (.uncommented rfl ⟨[("x".toList, .array [.null])], by decide,
        List.reverse_perm [_, _, _, _, _]⟩) (.cons .array .nil)
    exact .object hcolumns ⟨[], by simp, List.Perm.swap _ _ _⟩
  obtain ⟨hok, hrest⟩ := hread _ _ (htext htype (List.forall_mem_nil _)) hdescribed
  refine ⟨hok, hrest 'x' [] (by decide),
    hfaulty _ _ (htext htype (List.forall_mem_singleton.mpr .null)) ?_,
    hcolumn _ _ _ _ (htext (hfirst (List.forall_mem_nil _)) (List.forall_mem_nil _))
      (.object List.mem_cons_self) List.mem_cons_self ?_⟩
  · exact .repeated (show "table_name" ∈ fieldNames by decide) (by decide)
  · exact .missing (show "sql_type_name" ∈ Column.fieldNames by decide) (by decide) (by decide)

end Table

end TableModel
