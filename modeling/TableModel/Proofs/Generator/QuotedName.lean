import TableModel.Proofs.Generator.Columns
import TableModel.Proofs.Naming.CleanName
import TableModel.Proofs.Schema.Declared

/-!
# Names from a declaration to its model

A name in a declaration stands in backquotes, with each backquote in it doubled. It is read as
written, with the quotes, and taken out of them for the model. The way there and back is the
identity for names without two backquotes in a row; and what is read is the spelling of the
declaration if, besides, no backquote stands behind a backslash
(`Generator.modelOfSql_quotedNames`).

A model has a field for each column of a declaration, since a name in backquotes never marks an
index (`keptColumns_declared`).
-/

namespace TableModel

open Ddl

/-! ### The parts of a model -/

theorem fillTag_placeholder (name : Text) : Naming.fillTag name "%s".toList = name := by
  simp [Naming.fillTag]

/-- A name in backquotes never marks an index. -/
theorem marksIndex_ofDefinition (column : DeclaredColumn) :
    (Column.ofDefinition column.definition).marksIndex = false := rfl

theorem keptColumns_declared (table : DeclaredTable) :
    (keptColumns table.table.columns).value = table.table.columns := by
  rw [value_keptColumns, List.filter_eq_self]
  intro column hmem
  obtain ⟨declared, -, rfl⟩ := List.mem_map.mp hmem
  rw [decide_eq_true_iff, ← Column.marksIndex_iff, marksIndex_ofDefinition]
  exact Bool.false_ne_true

/-! ### Names -/

/-- **Names from a declaration to its model.** A name is read as it is spelled exactly if no
backquote in it stands next to another one or behind a backslash. It is the name of the table, or
the tag of the field, in the model exactly if no backquote stands next to another one. -/
theorem Generator.modelOfSql_quotedNames (generator : Generator) (table : DeclaredTable)
    (htemplate : generator.options.tagTemplate = "%s".toList)
    (hname : Text.trim table.name = table.name)
    (hcolumns : ∀ column ∈ table.columns, Text.trim column.name = column.name) :
    ∃ read events model,
      Table.ofSql table.text = .ok ⟨read, events⟩ ∧
      generator.modelOfSql table.text = .ok model ∧
      (read.name = quoteName table.name ↔
        ¬ ['\x60', '\x60'] <:+: table.name ∧ ¬ ['\\', '\x60'] <:+: table.name) ∧
      (cleanName read.name = table.name ↔ ¬ ['\x60', '\x60'] <:+: table.name) ∧
      (model.value.tableName = table.name ↔ ¬ ['\x60', '\x60'] <:+: table.name) ∧
      List.Forall₂ (fun declared column =>
          (column.name = quoteName declared.name ↔
            ¬ ['\x60', '\x60'] <:+: declared.name ∧ ¬ ['\\', '\x60'] <:+: declared.name) ∧
          (cleanName column.name = declared.name ↔ ¬ ['\x60', '\x60'] <:+: declared.name))
        table.columns read.columns ∧
      List.Forall₂ (fun declared field =>
          field.tag = declared.name ↔ ¬ ['\x60', '\x60'] <:+: declared.name)
        table.columns model.value.fields := by
  have hread := Table.ofSql_text table
  refine ⟨_, _, _, hread, generator.modelOfSql_of_ofSql hread, write_backquote_eq_quoteName_iff table.name,
    cleanName_write_backquote_iff hname, ?_, ?_, ?_⟩
  · rw [Logged.value_bind, tableName_model]
    exact cleanName_write_backquote_iff hname
  · rw [DeclaredTable.table, List.forall₂_map_right_iff, List.forall₂_same]
    intro column hcolumn
    exact ⟨write_backquote_eq_quoteName_iff column.name,
      cleanName_write_backquote_iff (hcolumns column hcolumn)⟩
  · rw [Logged.value_bind, fields_model, keptColumns_declared, DeclaredTable.table, List.map_map,
      List.forall₂_map_right_iff, List.forall₂_same]
    intro column hcolumn
    rw [Function.comp_apply, tag_field, htemplate, fillTag_placeholder]
    exact cleanName_write_backquote_iff (hcolumns column hcolumn)

/-- Of two backquotes in a row one is lost. -/
theorem Generator.modelOfSql_quotedNames_pair :
    ∃ read events model,
      Table.ofSql (DeclaredTable.text ⟨none, "t".toList,
        [.column ⟨"a\x60\x60b".toList, .dateTime, []⟩], by simp⟩) = .ok ⟨read, events⟩ ∧
      Generator.modelOfSql ⟨⟨"%s".toList, false⟩, .builtin⟩ (DeclaredTable.text ⟨none, "t".toList,
        [.column ⟨"a\x60\x60b".toList, .dateTime, []⟩], by simp⟩) = .ok model ∧
      (∀ column ∈ read.columns, column.name ≠ "\x60a\x60\x60\x60\x60b\x60".toList) ∧
      ∀ field ∈ model.value.fields, field.tag ≠ "a\x60\x60b".toList := by
  obtain ⟨read, events, model, hread, hmodel, -, -, -, hcolumns, hfields⟩ :=
    Generator.modelOfSql_quotedNames ⟨⟨"%s".toList, false⟩, .builtin⟩
      ⟨none, "t".toList, [.column ⟨"a\x60\x60b".toList, .dateTime, []⟩], by simp⟩ rfl (by decide)
      (by decide)
  refine ⟨read, events, model, hread, hmodel, ?_, ?_⟩
  · generalize read.columns = columns at hcolumns
    cases hcolumns with
    | cons hcolumn hrest =>
      cases hrest
      intro column hmem
      obtain rfl := List.mem_singleton.mp hmem
      exact fun h => (hcolumn.1.mp h).1 (by decide)
  · generalize model.value.fields = fields at hfields
    cases hfields with
    | cons hfield hrest =>
      cases hrest
      intro field hmem
      obtain rfl := List.mem_singleton.mp hmem
      exact fun h => hfield.mp h (by decide)

end TableModel
