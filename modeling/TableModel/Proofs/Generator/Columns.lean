import Mathlib.Data.List.Basic
import TableModel.Generator
import TableModel.Proofs.Model.Draft
import TableModel.Proofs.Model.Template
import TableModel.Proofs.Unicode.AsciiCase

/-!
# A model is made column by column

Making a model filters the columns, makes a field of each that is left, and pushes the fields to a
draft one by one. Put together, the model is a function of the columns as a list
(`Generator.value_model`): its fields are those of the columns that are kept, in order, and each of
them depends on its own column only. So the fields of a list in two parts are those of the parts,
and columns called `KEY` may stand anywhere without a trace.

The source text is determined just as well: the struct with a line for each field, the method, and
the functions if they are wanted, all with the name of the same type in them
(`Generator.model_column_by_column`).
-/

namespace TableModel

/-! ### Columns that mark an index -/

/-- Two characters become the same lower-case letter: the letter itself and its capital. -/
theorem toLower_eq_iff (c lower upper : Char) (hlower : 97 ≤ lower.toNat ∧ lower.toNat ≤ 122)
    (hupper : upper.toNat + 32 = lower.toNat) : c.toLower = lower ↔ c = upper ∨ c = lower := by
  rw [← Char.toNat_inj, ← Char.toNat_inj, ← Char.toNat_inj, toNat_toLower]
  split_ifs <;> omega

/-- The text `KEY` in every ASCII casing, eight spellings in all. The test for an index folds ASCII
letters only, so that the Kelvin sign, which is a `k` in lower case, is no letter of a spelling. -/
def keySpellings : List Text :=
  ['K', 'k'].flatMap fun k => ['E', 'e'].flatMap fun e => ['Y', 'y'].map fun y => [k, e, y]

theorem mem_keySpellings_iff {name : Text} :
    name ∈ keySpellings ↔ ∃ k e y, name = [k, e, y] ∧ (k = 'K' ∨ k = 'k') ∧
      (e = 'E' ∨ e = 'e') ∧ (y = 'Y' ∨ y = 'y') := by
  simp only [keySpellings, List.mem_flatMap, List.mem_map, List.mem_cons, List.not_mem_nil,
    or_false]
  constructor
  · rintro ⟨k, hk, e, he, y, hy, rfl⟩
    exact ⟨k, e, y, rfl, hk, he, hy⟩
  · rintro ⟨k, e, y, rfl, hk, he, hy⟩
    exact ⟨k, hk, e, he, y, hy, rfl⟩

/-- A name marks an index exactly if it is a spelling of `KEY`. -/
theorem Column.marksIndex_iff (column : Column) :
    column.marksIndex = true ↔ column.name ∈ keySpellings := by
  have hk := fun c => toLower_eq_iff c 'k' 'K' (by decide) rfl
  have he := fun c => toLower_eq_iff c 'e' 'E' (by decide) rfl
  have hy := fun c => toLower_eq_iff c 'y' 'Y' (by decide) rfl
  rw [mem_keySpellings_iff, marksIndex, Text.sameFolded, beq_iff_eq,
    show "KEY".toList.map Char.toLower = ['k', 'e', 'y'] from rfl]
  constructor
  · intro h
    obtain ⟨k, e, y, hname⟩ : ∃ k e y, column.name = [k, e, y] :=
      List.length_eq_three.mp (by simpa using congrArg List.length h)
    simp only [hname, List.map_cons, List.map_nil, List.cons.injEq, hk, he, hy] at h
    exact ⟨k, e, y, hname, h.1, h.2.1, h.2.2.1⟩
  · rintro ⟨k, e, y, hname, h1, h2, h3⟩
    rw [hname, List.map_cons, List.map_cons, List.map_cons, List.map_nil, (hk k).mpr h1,
      (he e).mpr h2, (hy y).mpr h3]

theorem value_keptColumns (columns : List Column) :
    (keptColumns columns).value = columns.filter fun column => column.name ∉ keySpellings := by
  have hchecked : (id ∘ fun column : Column => column.checked.value) =
      Option.guard fun column => decide (column.name ∉ keySpellings) := by
    funext column
    by_cases h : column.name ∈ keySpellings
    · have hmarks : column.marksIndex = true := column.marksIndex_iff.mpr h
      simp [Column.checked, hmarks, Option.guard, h]
    · have hmarks : column.marksIndex = false := by simpa using mt column.marksIndex_iff.mp h
      simp [Column.checked, hmarks, h]
  rw [keptColumns, Logged.value_bind, Logged.value_pure, Logged.value_traverse,
    List.filterMap_map, hchecked, List.filterMap_eq_filter]

/-- A name that says more than `KEY`, say in quotes or with blanks around it, marks no index. -/
theorem append_notMem_keySpellings {before spelling after : Text} (h : spelling ∈ keySpellings)
    (hne : before ++ after ≠ []) : before ++ spelling ++ after ∉ keySpellings := by
  intro hmem
  obtain ⟨k, e, y, rfl, -⟩ := mem_keySpellings_iff.mp h
  obtain ⟨_, _, _, heq, -⟩ := mem_keySpellings_iff.mp hmem
  have hlength : (before ++ [k, e, y] ++ after).length = 3 := by rw [heq]; rfl
  have hpos : 0 < (before ++ after).length := List.length_pos_of_ne_nil hne
  simp only [List.length_append, List.length_cons, List.length_nil] at hlength hpos
  omega

/-! ### Models -/

namespace Generator

variable (generator : Generator)

def functionsFor (typeName : Text) : List Text :=
  if generator.options.withCruds then Crud.functions typeName else []

/-- The model for a table is a finished draft with a field for each column that is kept. -/
theorem value_model (table : Table) :
    (generator.model table).value =
      (Draft.mk (Naming.exportedName (cleanName table.name)) (cleanName table.name)
        ((keptColumns table.columns).value.map fun column => (generator.field column).value)
        (generator.functionsFor (Naming.exportedName (cleanName table.name)))).finish := by
  simp only [model, Logged.value_bind, Logged.value_traverse, Draft.fields_foldl_push,
    functionsFor]
  generalize Crud.functions _ = functions
  cases generator.options.withCruds <;> rfl

theorem tableName_model (table : Table) :
    (generator.model table).value.tableName = cleanName table.name := by
  rw [value_model]
  rfl

/-- The fields of a model are those of the columns that are kept. -/
theorem fields_model (table : Table) :
    (generator.model table).value.fields =
      (keptColumns table.columns).value.map fun column => (generator.field column).value := by
  rw [value_model]
  rfl

/-- The field for a column. -/
theorem value_field (column : Column) :
    (generator.field column).value =
      { name := Naming.exportedName (cleanName column.name)
        type := (generator.catalog.resolve column.type column.isUnsigned column.isNotNull).value
        tag := Naming.fillTag (cleanName column.name) generator.options.tagTemplate
        comment := Naming.lineComment column.comment } := by
  simp only [field, Logged.value_bind]
  split <;> rfl

/-- The tag of a field is the template filled with the clean name of the column. Nothing in the name
is escaped, so what the name holds the tag holds. -/
theorem tag_field (column : Column) :
    (generator.field column).value.tag =
      Naming.fillTag (cleanName column.name) generator.options.tagTemplate := by
  rw [value_field]

/-- Only the columns that are kept matter to a model: tables with the same name and the same columns
besides those called `KEY` have the same one. -/
theorem value_model_congr (name : Text) {columns columns' : List Column}
    (h : (columns.filter fun column => column.name ∉ keySpellings) =
      columns'.filter fun column => column.name ∉ keySpellings) :
    (generator.model ⟨name, columns⟩).value = (generator.model ⟨name, columns'⟩).value := by
  have hkept : (keptColumns columns).value = (keptColumns columns').value := by
    rw [value_keptColumns, value_keptColumns, h]
  rw [value_model, value_model, hkept]

theorem fields_model_append (name : Text) (xs ys : List Column) :
    (generator.model ⟨name, xs ++ ys⟩).value.fields =
      (generator.model ⟨name, xs⟩).value.fields ++ (generator.model ⟨name, ys⟩).value.fields := by
  simp only [fields_model, value_keptColumns, List.filter_append, List.map_append]

/-- **A model is made column by column.** Making it cannot fail: the texts of the functions can
always be filled. Its fields are those of the columns whose name is no spelling of `KEY`, one for
one and in order; the source text is the struct with the lines of these fields, the method, and the
functions if they are wanted, under one type name throughout. So the fields of columns in two parts
are those of the parts, tables that differ only in columns called `KEY` have the same model, and a
column whose name is a spelling of `KEY` with anything around it has its field. -/
theorem model_column_by_column :
    (∀ table,
      let tableName := cleanName table.name
      let typeName := Naming.exportedName tableName
      let fields := (table.columns.filter fun column => column.name ∉ keySpellings).map
        fun column => (generator.field column).value
      ∃ functions, Crud.functions? typeName = some functions ∧
        (generator.model table).value =
          { typeName := typeName
            tableName := tableName
            fields := fields
            source :=
              ("type ".toList ++ typeName ++ " struct \x7b\n".toList ++
                fields.flatMap Field.line ++ "\x7d\n".toList) ++
              '\n' :: ("func (m *".toList ++ typeName ++
                ") TableName() string \x7b\n\treturn \"".toList ++
                goStringBody tableName ++ "\"\n\x7d\n".toList) ++
              if generator.options.withCruds then
                '\n' :: Text.join ['\n'] (functions.map (· ++ ['\n'])) ++ ['\n']
              else [] }) ∧
    (∀ name xs ys,
      (generator.model ⟨name, xs ++ ys⟩).value.fields =
        (generator.model ⟨name, xs⟩).value.fields ++
          (generator.model ⟨name, ys⟩).value.fields) ∧
    (∀ name columns columns',
      (columns.filter fun column => column.name ∉ keySpellings) =
        (columns'.filter fun column => column.name ∉ keySpellings) →
      (generator.model ⟨name, columns⟩).value = (generator.model ⟨name, columns'⟩).value) ∧
    (∀ name xs column ys before spelling after, spelling ∈ keySpellings → before ++ after ≠ [] →
      column.name = before ++ spelling ++ after →
      (generator.model ⟨name, xs ++ column :: ys⟩).value.fields =
        (generator.model ⟨name, xs⟩).value.fields ++
          (generator.field column).value :: (generator.model ⟨name, ys⟩).value.fields) := by
  refine ⟨fun table => ?_, generator.fields_model_append,
    fun name _ _ h => generator.value_model_congr name h,
    fun name xs column ys before spelling after hspelling hne hname => ?_⟩
  · intro tableName typeName fields
    refine ⟨Crud.functions typeName, Crud.functions?_eq typeName, ?_⟩
    rw [value_model, value_keptColumns, Draft.finish, Draft.source_eq, functionsFor]
    cases generator.options.withCruds with
    | true =>
      simp only [if_true]
      rw [if_neg (Crud.functions_ne_nil typeName)]
      rfl
    | false => rfl
  · have hkept : column.name ∉ keySpellings := by
      rw [hname]
      exact append_notMem_keySpellings hspelling hne
    have hcolumn : (generator.model ⟨name, [column]⟩).value.fields =
        [(generator.field column).value] := by
      simp [fields_model, value_keptColumns, hkept]
    rw [← List.singleton_append, fields_model_append, fields_model_append, hcolumn,
      List.singleton_append]

/-- A table with a number, an index marker in mixed case on either side of it, and a quoted column
of that name. -/
theorem model_column_by_column_orders :
    let generator : Generator := ⟨⟨"%s".toList, false⟩, .empty⟩
    let number : Column := ⟨"id".toList, "int".toList, false, true, none⟩
    let marker : Column := ⟨"Key".toList, "int".toList, false, false, none⟩
    let quoted : Column := ⟨"\x60key\x60".toList, "int".toList, false, false, none⟩
    let name := "orders".toList
    (([marker, number, marker].filter fun column => column.name ∉ keySpellings) =
        ([number].filter fun column => column.name ∉ keySpellings) ∧
      (generator.model ⟨name, [marker, number, marker]⟩).value =
        (generator.model ⟨name, [number]⟩).value) ∧
    ("key".toList ∈ keySpellings ∧ "\x60".toList ++ "\x60".toList ≠ [] ∧
      quoted.name = "\x60".toList ++ "key".toList ++ "\x60".toList ∧
      (generator.model ⟨name, [number] ++ quoted :: [marker]⟩).value.fields =
        (generator.model ⟨name, [number]⟩).value.fields ++
          (generator.field quoted).value :: (generator.model ⟨name, [marker]⟩).value.fields) ∧
    (generator.model ⟨name, [marker, number]⟩).value.source =
      "type Orders struct \x7b\n\tID\tunknown\tid\n\x7d\n".toList ++
        "\nfunc (m *Orders) TableName() string \x7b\n\treturn \"orders\"\n\x7d\n".toList := by
  intro generator number marker quoted name
  obtain ⟨hmodel, -, hmarkers, hquoted⟩ := generator.model_column_by_column
  have hfilter : ([marker, number, marker].filter fun column => column.name ∉ keySpellings) =
      [number].filter fun column => column.name ∉ keySpellings := by decide
  have hspelling : "key".toList ∈ keySpellings := by decide
  have hne : "\x60".toList ++ "\x60".toList ≠ [] := by decide
  have hname : quoted.name = "\x60".toList ++ "key".toList ++ "\x60".toList := by decide
  refine ⟨⟨hfilter, hmarkers name _ _ hfilter⟩,
    ⟨hspelling, hne, hname, hquoted name [number] quoted [marker] _ _ _ hspelling hne hname⟩, ?_⟩
  obtain ⟨functions, hfunctions, hvalue⟩ := hmodel ⟨name, [marker, number]⟩
  rw [Crud.functions?_eq] at hfunctions
  obtain rfl := Option.some.inj hfunctions
  rw [hvalue]
  decide +kernel

end Generator

end TableModel
