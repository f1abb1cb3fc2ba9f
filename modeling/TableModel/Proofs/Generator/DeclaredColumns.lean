import TableModel.Proofs.Ddl.ColumnNames
import TableModel.Proofs.Generator.Events
import TableModel.Proofs.Schema.Declared

/-!
# No column of a text is dropped

A column called `KEY` is taken for the mark of an index and left out. In a table that was read from
SQL text there is no such column: as a word, `KEY` begins an index and never a column, and in quotes
it is kept with them, so that the name is longer than `KEY`. So the model of a text has a field for
each of its columns, and no report says that one was left out
(`Generator.modelOfSql_keeps_columns`).
-/

namespace TableModel

theorem toUpper_of_mem_keySpellings :
    ∀ spelling ∈ keySpellings, Unicode.toUpper spelling = "KEY".toList := by
  decide +kernel

/-- A name that a column can be declared under is written as something else than `KEY`. -/
theorem Ddl.Identifier.NamesColumn.write_notMem_keySpellings {name : Ddl.Identifier}
    (h : name.NamesColumn) : name.write ∉ keySpellings := by
  intro hmem
  cases h with
  | word hwords =>
    exact hwords "KEY" (by decide) (toUpper_of_mem_keySpellings _ hmem)
  | quoted text =>
    -- The name begins with a quote.
    obtain ⟨k, e, y, hname, hk, -⟩ := mem_keySpellings_iff.mp hmem
    obtain rfl : '\x60' = k := (List.cons.inj hname).1
    exact absurd hk (by decide)

/-- What is read from a text is the table of its only statement. A text with no statement or with
more than one is refused before any column is looked at. -/
theorem Table.exists_declaration_of_ofSql {sql : Text} {read : Logged Table}
    (h : Table.ofSql sql = .ok read) :
    ∃ declaration, Ddl.Statement.read sql = .ok [.table declaration] ∧
      read.value = Table.ofDeclaration declaration := by
  rw [ofSql] at h
  split at h
  · cases h
  · cases h
  · next declaration hread =>
    cases h
    exact ⟨declaration, hread, rfl⟩
  · cases h
  · cases h

/-- No column that is read from a text is called `KEY`. -/
theorem Table.name_notMem_keySpellings_of_ofSql {sql : Text} {read : Logged Table}
    (h : Table.ofSql sql = .ok read) :
    ∀ column ∈ read.value.columns, column.name ∉ keySpellings := by
  obtain ⟨declaration, hread, hvalue⟩ := Table.exists_declaration_of_ofSql h
  have hnames : Ddl.Statement.NamesColumns (.table declaration) :=
    Ddl.Statement.namesColumns_of_read hread _ (List.mem_singleton_self _)
  rw [hvalue]
  intro column hcolumn
  obtain ⟨definition, hdefinition, rfl⟩ := List.mem_map.mp hcolumn
  exact (hnames definition hdefinition).write_notMem_keySpellings

theorem keptColumns_of_forall {columns : List Column}
    (h : ∀ column ∈ columns, column.name ∉ keySpellings) : keptColumns columns = pure columns := by
  have hvalue : (keptColumns columns).value = columns := by
    rw [value_keptColumns, List.filter_eq_self]
    exact fun column hcolumn => decide_eq_true (h column hcolumn)
  have hevents : (keptColumns columns).events = [] := by
    rw [events_keptColumns, List.map_eq_nil_iff, List.filter_eq_nil_iff]
    exact fun column hcolumn => by simpa using h column hcolumn
  exact congrArg₂ Logged.mk hvalue hevents

namespace Generator

variable (generator : Generator)

theorem skippedColumn_notMem_events_field (name : Text) (column : Column) :
    .skippedColumn name ∉ (generator.field column).events := by
  rw [events_field]
  split_ifs <;> simp

/-- Making a model reports no column as left out if none is called `KEY`. -/
theorem skippedColumn_notMem_events_model {table : Table}
    (h : ∀ column ∈ table.columns, column.name ∉ keySpellings) (name : Text) :
    .skippedColumn name ∉ (generator.model table).events := by
  simp only [model, keptColumns_of_forall h]
  simp [skippedColumn_notMem_events_field]

/-- **No column of a text is dropped.** Of a table that is read from a text every column is kept, so
the model of the text has a field for each of them, in order, and nothing is reported as left out:
an item that begins with the word `KEY` is never a column, and one that begins with a name in
backquotes is a column whose name carries them. -/
theorem modelOfSql_keeps_columns :
    (∀ sql read, Table.ofSql sql = .ok read →
      keptColumns read.value.columns = pure read.value.columns ∧
      ∃ model, generator.modelOfSql sql = .ok model ∧
        model.value.fields = read.value.columns.map (fun column => (generator.field column).value) ∧
        ∀ name, .skippedColumn name ∉ model.events) ∧
    (∀ nested text rest item after, text ∈ keySpellings →
      Ddl.Parser.tableItem nested (.word text :: rest) = .ok (item, after) →
      item.column? = none) ∧
    (∀ nested text rest item after,
      Ddl.Parser.tableItem nested (.quotedName text :: rest) = .ok (item, after) →
      ∃ definition, item = .column definition ∧
        (Column.ofDefinition definition).name = Ddl.Quote.backquote.write text) := by
  refine ⟨fun sql read hread => ?_, fun nested text rest item after htext hitem => ?_,
    fun nested text rest item after hitem => ?_⟩
  · have hnames := Table.name_notMem_keySpellings_of_ofSql hread
    have hkept := keptColumns_of_forall hnames
    refine ⟨hkept, _, generator.modelOfSql_of_ok hread, ?_, fun name => ?_⟩
    · rw [fields_model, hkept, Logged.value_pure]
    · simp [skippedColumn_notMem_events_model generator hnames]
  · cases item with
    | constraint text => rfl
    | column definition =>
      obtain ⟨_, _, hcons, -, -, hwords⟩ := Ddl.Parser.tableItem_column nested hitem
      cases hcons
      have hkey : (Unicode.toUpper text == "KEY".toList) = false := hwords "KEY" (by decide)
      rw [toUpper_of_mem_keySpellings text htext] at hkey
      exact absurd hkey (by decide)
  · obtain ⟨definition, hcolumn, hname⟩ := Ddl.Parser.tableItem_quotedName nested hitem
    exact ⟨definition, hcolumn, by rw [Column.ofDefinition, hname]; rfl⟩

/-- A table with a quoted column of that name, an index and a number: two columns, two fields. -/
theorem modelOfSql_keeps_columns_quoted :
    let sql := "CREATE TABLE t (\x60key\x60 int, Key k (id), id int)".toList
    let index : List Ddl.Token :=
      [.word "k".toList, .symbol ['('], .word "id".toList, .symbol [')'], .symbol [',']]
    let column : List Ddl.Token := [.word "int".toList, .symbol [',']]
    (∃ read model, Table.ofSql sql = .ok read ∧
      read.value.columns.map Column.name = ["\x60key\x60".toList, "id".toList] ∧
      Generator.default.modelOfSql sql = .ok model ∧ model.value.fields.length = 2) ∧
    (∃ item after, "Key".toList ∈ keySpellings ∧
      Ddl.Parser.tableItem (.ofDepth 0) (.word "Key".toList :: index) = .ok (item, after) ∧
      item.column? = none) ∧
    ∃ item after,
      Ddl.Parser.tableItem (.ofDepth 0) (.quotedName "key".toList :: column) = .ok (item, after) ∧
      ∃ definition, item = .column definition ∧
        (Column.ofDefinition definition).name = "\x60key\x60".toList := by
  intro sql index column
  obtain ⟨hkeeps, hword, hquoted⟩ := Generator.default.modelOfSql_keeps_columns
  refine ⟨?_, ⟨_, _, by decide, rfl, hword (.ofDepth 0) "Key".toList index _ _
    (by decide) rfl⟩, ⟨_, _, rfl, hquoted (.ofDepth 0) "key".toList column _ _ rfl⟩⟩
  have hnames : (Table.ofSql sql).toOption.map (fun read => read.value.columns.map Column.name) =
      some ["\x60key\x60".toList, "id".toList] := by decide +kernel
  cases hread : Table.ofSql sql with
  | error error => rw [hread] at hnames; cases hnames
  | ok read =>
    rw [hread] at hnames
    have hcolumns : read.value.columns.map Column.name = ["\x60key\x60".toList, "id".toList] :=
      Option.some.inj hnames
    obtain ⟨-, model, hmodel, hfields, -⟩ := hkeeps sql read hread
    refine ⟨read, model, rfl, hcolumns, hmodel, ?_⟩
    rw [hfields, List.length_map, ← List.length_map Column.name, hcolumns]
    rfl

end Generator

end TableModel
