import TableModel.Event
import TableModel.Text
import TableModel.Unicode.Lowercase

/-!
# Type catalogs

A catalog maps the name of an SQL type to two Go types: the strict one for columns that are never
null, and the nullable one for the others. Keys are trimmed and in lower case; an unsigned type has
a key of its own, and there is no falling back from it to the signed one. The two kinds of Go types
stand in a table each. The entries of a table are in the order of their keys, each key once, so that
two tables with the same mappings are equal. Writing an entry replaces one with the same key, in
both tables.
-/

namespace TableModel

/-- The Go types for an SQL type: the strict one is that of columns which are never null, the
nullable one that of all others. They may be the same. -/
structure GoTypes where
  strict : Text
  nullable : Text
  deriving DecidableEq, Repr

/-- A table of Go types by their keys. It is the form of a mapping in which the keys are in order
and each of them is there once, so that tables with the same mapping are equal. -/
abbrev TypeTable := List (Text × Text)

/-- The table with one more entry, in the order of the keys; it replaces an entry with the same
key. -/
def insertEntry (key type : Text) : TypeTable → TypeTable
  | [] => [(key, type)]
  | entry :: rest =>
    if key = entry.1 then (key, type) :: rest
    else if Text.before key entry.1 then (key, type) :: entry :: rest
    else entry :: insertEntry key type rest

/-- A catalog has one table for either kind of Go type. They are written together, so they have the
same keys. -/
structure Catalog where
  strict : TypeTable
  nullable : TypeTable
  deriving DecidableEq, Repr

namespace Catalog

def empty : Catalog := ⟨[], []⟩

/-- The form of a key: trimmed and in lower case. Entries are written under it, while looking one up
takes a key that is in this form already. -/
def normalKey (key : Text) : Text := Unicode.toLower (Text.trim key)

/-- The key that a column type is looked up by. A type that is unsigned has a key of its own, also
if it is one, like `varchar`, that never has a sign; the built-in catalog then does not know it. -/
def columnKey (type : Text) (isUnsigned : Bool) : Text :=
  if isUnsigned then normalKey type ++ " unsigned".toList else normalKey type

def table (catalog : Catalog) (isNotNull : Bool) : TypeTable :=
  if isNotNull then catalog.strict else catalog.nullable

/-- The strict type for a key. The key has to be in its normal form; any other one is not there. -/
def strictType? (catalog : Catalog) (key : Text) : Option Text := catalog.strict.lookup key

def nullableType? (catalog : Catalog) (key : Text) : Option Text := catalog.nullable.lookup key

/-- The catalog with one more entry in both tables, under the normal form of the key. -/
def insert (catalog : Catalog) (key : Text) (types : GoTypes) : Catalog :=
  ⟨insertEntry (normalKey key) types.strict catalog.strict,
   insertEntry (normalKey key) types.nullable catalog.nullable⟩

/-- The catalog with more entries. They are written one after another, so of several with the same
normal form the last one counts. -/
def insertAll (catalog : Catalog) (rows : List (Text × GoTypes)) : Catalog :=
  rows.foldl (fun catalog row => catalog.insert row.1 row.2) catalog

def ofList (rows : List (Text × GoTypes)) : Catalog := empty.insertAll rows

/-- The keys in the order of their code points. A table is the form of a mapping in which the keys are
in this order, so there is nothing to sort. -/
def keys (catalog : Catalog) : List Text := catalog.strict.map (·.1)

def size (catalog : Catalog) : Nat := catalog.strict.length

def isEmpty (catalog : Catalog) : Bool := catalog.strict.isEmpty

/-- What stands for the type of a column that the catalog does not know. It is no Go type, so the
source text cannot be compiled until someone puts the right type in its place. -/
def placeholder : Text := "unknown".toList

/-- The Go type for a column. A key that is missing is reported and gives the placeholder; the
signed form of the type is not tried instead. -/
def resolve (catalog : Catalog) (type : Text) (isUnsigned isNotNull : Bool) : Logged Text :=
  match (catalog.table isNotNull).lookup (columnKey type isUnsigned) with
  | some goType => return goType
  | none => do
    Logged.report (.missingType (columnKey type isUnsigned))
    return placeholder

/-- The Go types of the MySQL types. Bits and bytes have no nullable form of their own. -/
def builtinRows : List (String × String × String) :=
  [("int", "int", "sql.NullInt64"), ("integer", "int", "sql.NullInt64"),
   ("tinyint", "int8", "sql.NullInt32"), ("smallint", "int16", "sql.NullInt32"),
   ("mediumint", "int32", "sql.NullInt64"), ("bigint", "int64", "sql.NullInt64"),
   ("int unsigned", "uint", "sql.NullInt64"), ("integer unsigned", "uint", "sql.NullInt64"),
   ("tinyint unsigned", "uint8", "sql.NullInt64"), ("smallint unsigned", "uint16", "sql.NullInt64"),
   ("mediumint unsigned", "uint32", "sql.NullInt64"),
   ("bigint unsigned", "uint64", "sql.NullInt64"), ("bit", "byte", "byte"),
   ("bool", "bool", "sql.NullBool"), ("boolean", "bool", "sql.NullBool"),
   ("enum", "string", "sql.NullString"), ("set", "string", "sql.NullString"),
   ("varchar", "string", "sql.NullString"), ("char", "string", "sql.NullString"),
   ("tinytext", "string", "sql.NullString"), ("mediumtext", "string", "sql.NullString"),
   ("text", "string", "sql.NullString"), ("longtext", "string", "sql.NullString"),
   ("blob", "[]byte", "[]byte"), ("tinyblob", "[]byte", "[]byte"),
   ("mediumblob", "[]byte", "[]byte"), ("longblob", "[]byte", "[]byte"),
   ("binary", "[]byte", "[]byte"), ("varbinary", "[]byte", "[]byte"),
   ("date", "time.Time", "sql.NullTime"), ("datetime", "time.Time", "sql.NullTime"),
   ("timestamp", "time.Time", "sql.NullTime"), ("time", "time.Time", "sql.NullTime"),
   ("float", "float32", "sql.NullFloat64"), ("double", "float64", "sql.NullFloat64"),
   ("decimal", "float64", "sql.NullFloat64")]

def builtin : Catalog :=
  ofList (builtinRows.map fun (key, strict, nullable) =>
    (key.toList, ⟨strict.toList, nullable.toList⟩))

end Catalog

end TableModel
