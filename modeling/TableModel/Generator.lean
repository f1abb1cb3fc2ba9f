import TableModel.Catalog
import TableModel.Model
import TableModel.Model.Crud
import TableModel.Naming
import TableModel.Schema.Reader

/-!
# Generating a model

Each column of a table gives a field of the model, in order, except a column called `KEY`: such a
name marks an index. No column makes generating fail; one whose type is not in the catalog gets the
placeholder, and a warning is reported.
-/

namespace TableModel

/-- What can be chosen about a model: the template of its fields' tags, and whether functions on
rows are wanted. -/
structure Options where
  tagTemplate : Text
  withCruds : Bool
  deriving DecidableEq, Repr

def defaultTagTemplate : Text := "\x60gorm:\"column:%s\" json:\"%s\"\x60".toList

def Options.default : Options := ⟨defaultTagTemplate, true⟩

/-- Whether the column's name marks an index. Such a column stands for a line like
`KEY name (column)`; a name in quotes is not taken for one, since the quotes belong to it here. -/
def Column.marksIndex (column : Column) : Bool := Text.sameFolded column.name "KEY".toList

/-- The column if it is one of data, and nothing, with a report, if its name marks an index. -/
def Column.checked (column : Column) : Logged (Option Column) :=
  if column.marksIndex then do
    Logged.report (.skippedColumn column.name)
    return none
  else return some column

/-- The columns that hold data, in order; the others are reported. -/
def keptColumns (columns : List Column) : Logged (List Column) := do
  return (← Logged.traverse Column.checked columns).filterMap id

/-- What turns tables into models: what was chosen, and the Go types of the SQL types. -/
structure Generator where
  options : Options
  catalog : Catalog

namespace Generator

def default : Generator := ⟨.default, .builtin⟩

/-- The field for a column. The clean name of the column gives the name of the field and its tag,
and a type that the catalog does not know is told of under this name, with a warning. -/
def field (generator : Generator) (column : Column) : Logged Field := do
  let name := cleanName column.name
  let type ← generator.catalog.resolve column.type column.isUnsigned column.isNotNull
  if type = Catalog.placeholder then
    Logged.report (.placeholderType name column.type column.isUnsigned)
  return { name := Naming.exportedName name
           type := type
           tag := Naming.fillTag name generator.options.tagTemplate
           comment := Naming.lineComment column.comment }

/-- The model for a table. Functions on rows never fail to be made (`Crud.functions?_eq`), so there
is a model for every table. -/
def model (generator : Generator) (table : Table) : Logged Model := do
  let tableName := cleanName table.name
  let typeName := Naming.exportedName tableName
  let columns ← keptColumns table.columns
  let fields ← Logged.traverse generator.field columns
  let draft := fields.foldl Draft.push (Draft.start typeName tableName)
  let draft :=
    if generator.options.withCruds then draft.withFunctions (Crud.functions typeName) else draft
  let model := draft.finish
  Logged.report (.generatedModel model.tableName model.typeName model.fields.length
    generator.options.withCruds)
  return model

def modelOfSql (generator : Generator) (sql : Text) : Except ReadError (Logged Model) :=
  (Table.ofSql sql).map fun table => table >>= generator.model

theorem modelOfSql_of_ofSql (generator : Generator) {sql : Text} {table : Logged Table}
    (h : Table.ofSql sql = .ok table) :
    generator.modelOfSql sql = .ok (table >>= generator.model) := by
  rw [modelOfSql, h]
  rfl

end Generator

end TableModel
