import TableModel.Generator
import TableModel.Json.Parser
import TableModel.Json

/-!
# Tables, options and models as JSON

A table and its columns are records: objects with a key for each field, or arrays of all their
values. Only the comment of a column may be left out of an object. Options are a record in which
whatever is left out has its default. Models are written and not read.
-/

namespace TableModel

namespace Column

def toJson (column : Column) : Json :=
  .ofMembers [("raw_name", .ofText column.name), ("sql_type_name", .ofText column.type),
    ("is_unsigned", .bool column.isUnsigned), ("is_not_null", .bool column.isNotNull),
    ("comment", .ofOption column.comment)]

/-- The column that a JSON value describes. Of its members only the comment may be missing. -/
def ofJson? (json : Json) : Option Column := do
  match ← json.record? ["raw_name", "sql_type_name", "is_unsigned", "is_not_null", "comment"] true
    with
  | [some name, some type, some isUnsigned, some isNotNull, comment] =>
    return { name := ← name.text?
             type := ← type.text?
             isUnsigned := ← isUnsigned.bool?
             isNotNull := ← isNotNull.bool?
             comment := ← (comment.getD .null).optionalText? }
  | _ => none

end Column

namespace Table

def toJson (table : Table) : Json :=
  .ofMembers [("table_name", .ofText table.name),
    ("columns", .array (table.columns.map (·.toJson)))]

def ofJson? (json : Json) : Option Table := do
  match ← json.record? ["table_name", "columns"] true with
  | [some name, some (.array columns)] =>
    return ⟨← name.text?, ← columns.mapM Column.ofJson?⟩
  | _ => none

def ofJsonText? (t : Text) : Option Table := (Json.parse? t).bind ofJson?

end Table

namespace Options

/-- The options that a JSON value describes. Each of them has its default where it is missing. -/
def ofJson? (json : Json) : Option Options := do
  match ← json.record? ["tag_template", "include_cruds"] false with
  | [tagTemplate, withCruds] =>
    return { tagTemplate := ← (tagTemplate.getD (.ofText Options.default.tagTemplate)).text?
             withCruds := ← (withCruds.getD (.bool Options.default.withCruds)).bool? }
  | _ => none

def ofJsonText? (t : Text) : Option Options := (Json.parse? t).bind ofJson?

end Options

def Field.toJson (field : Field) : Json :=
  .ofMembers [("name", .ofText field.name), ("type_name", .ofText field.type),
    ("tag", .ofText field.tag), ("comment_text", .ofText field.comment)]

def Model.toJson (model : Model) : Json :=
  .ofMembers [("type_name", .ofText model.typeName), ("table_name", .ofText model.tableName),
    ("fields", .array (model.fields.map (·.toJson))), ("body_text", .ofText model.source)]

end TableModel
