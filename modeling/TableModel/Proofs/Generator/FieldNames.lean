import Mathlib.Data.List.Nodup
import TableModel.Proofs.Generator.Columns
import TableModel.Proofs.Naming.ExportedName

/-!
# When the fields of a model have different names

Nothing makes the names of fields different: each is made of the name of its own column, and columns
whose names have the same letters and numbers, up to case, may end in one field name. Other columns
never do (`Generator.fieldNames_nodup`). That names are different as names in a database is not
enough, be it for a separator, for the capitals of `ID` or for a letter beyond ASCII
(`Generator.fieldNames_collide`).
-/

namespace TableModel.Generator

variable (generator : Generator)

/-- The field names of a model are the exported names of the columns that are kept. -/
theorem map_name_fields_model (table : Table) :
    (generator.model table).value.fields.map Field.name =
      (keptColumns table.columns).value.map fun column =>
        Naming.exportedName (cleanName column.name) := by
  rw [fields_model, List.map_map]
  exact List.map_congr_left fun column _ => by rw [Function.comp_apply, value_field]

/-- **Names that differ in their letters and numbers give different fields.** If no two of the
columns that are kept have clean names with the same letters and numbers, up to case, then no two
fields of the model have the same name. This is the exact condition for fields whose names differ
in more than case. -/
theorem fieldNames_nodup (table : Table) :
    let fieldNames := (generator.model table).value.fields.map Field.name
    let letters := (keptColumns table.columns).value.map fun column =>
      Naming.letters (cleanName column.name)
    (letters.Nodup → fieldNames.Nodup) ∧
      ((fieldNames.map Unicode.toUpper).Nodup ↔ letters.Nodup) := by
  intro fieldNames letters
  have hupper : fieldNames.map Unicode.toUpper = letters := by
    simp only [fieldNames, letters, map_name_fields_model, List.map_map]
    exact List.map_congr_left fun column _ => Naming.toUpper_exportedName _
  rw [← hupper]
  exact ⟨List.Nodup.of_map Unicode.toUpper, .rfl⟩

/-- Names with separators, an initialism and a letter beyond ASCII. -/
theorem fieldNames_nodup_users :
    let column (name : String) : Column := ⟨name.toList, "int".toList, false, true, none⟩
    let table : Table := ⟨"users".toList, ["user_id", "createdAt", "größe"].map column⟩
    let letters := (keptColumns table.columns).value.map fun column =>
      Naming.letters (cleanName column.name)
    letters.Nodup ∧ ((Generator.default.model table).value.fields.map Field.name).Nodup := by
  intro column table letters
  have hletters : letters.Nodup := by decide +kernel
  exact ⟨hletters, (Generator.default.fieldNames_nodup table).1 hletters⟩

/-- Names that differ even when ASCII case is ignored, and fields that do not: for a separator, for
a word that is written in capitals, and for a letter beyond ASCII. -/
theorem fieldNames_collide :
    let column (name : String) : Column := ⟨name.toList, "int".toList, false, true, none⟩
    let table : Table := ⟨"t".toList, ["a_b", "a-b", "id", "i_d", "é", "É"].map column⟩
    let fieldNames := (Generator.default.model table).value.fields.map Field.name
    ((keptColumns table.columns).value.map fun column =>
      (cleanName column.name).map Char.toLower).Nodup ∧
    fieldNames = ["AB", "AB", "ID", "ID", "É", "É"].map String.toList ∧ ¬ fieldNames.Nodup := by
  intro column table fieldNames
  have hnames : fieldNames = ["AB", "AB", "ID", "ID", "É", "É"].map String.toList := by
    decide +kernel
  refine ⟨by decide +kernel, hnames, ?_⟩
  rw [hnames]
  decide

end TableModel.Generator
