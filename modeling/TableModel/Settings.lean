import TableModel.Generator
import TableModel.Toml.Parser

/-!
# Settings

Settings give options for the generator, Go types for SQL types, and a filter for log lines. They
are written as a TOML document in which everything may be left out and unknown keys do not matter.
The Go types are put into the built-in catalog in the order of their keys as written, so where two
keys have the same normal form, the greater one counts, whatever their order in the document.
-/

namespace TableModel

/-- The Go types that settings give to an SQL type. Without a nullable type the strict one counts
for all columns. -/
structure TypeSetting where
  strict : Text
  nullable : Option Text
  deriving DecidableEq, Repr

def TypeSetting.goTypes (setting : TypeSetting) : GoTypes :=
  ⟨setting.strict, setting.nullable.getD setting.strict⟩

/-- What a settings file holds: the options for the generator, Go types for SQL types by the keys as
they are written, in the order of these keys, and the filter for log lines, if there is one. -/
structure Settings where
  options : Options
  types : List (Text × TypeSetting)
  logFilter : Option Text
  deriving DecidableEq, Repr

namespace Settings

def default : Settings := ⟨.default, [], none⟩

def rows (settings : Settings) : List (Text × GoTypes) :=
  settings.types.map fun (key, setting) => (key, setting.goTypes)

/-- The built-in catalog with the settings' Go types. Without any it is taken as it is. -/
def catalog (settings : Settings) : Catalog :=
  if settings.types.isEmpty then .builtin else Catalog.builtin.insertAll settings.rows

def insertType (key : Text) (setting : TypeSetting) :
    List (Text × TypeSetting) → List (Text × TypeSetting)
  | [] => [(key, setting)]
  | entry :: rest =>
    if Text.before key entry.1 then (key, setting) :: entry :: rest
    else entry :: insertType key setting rest

/-! ### Reading settings from a document -/

/-- The fields of a record, in the order of their names: a table gives them by its keys, and an
array by position, where what is left over does not matter. A date or a time counts as a table with
no known key. -/
def fields? (names : List String) : Toml → Option (List (Option Toml))
  | .table _ members => some (names.map fun name => members.lookup name.toList)
  | .array items => some ((items.map some ++ names.map fun _ => none).take names.length)
  | .tables items =>
    some ((items.map (fun members => some (Toml.table .header members)) ++
      names.map fun _ => none).take names.length)
  | .dateTime _ => some (names.map fun _ => none)
  | _ => none

def text? : Toml → Option Text
  | .string t => some t
  | _ => none

def bool? : Toml → Option Bool
  | .bool b => some b
  | _ => none

/-- What a field of a record holds, if it is there: it has to be well formed then. -/
def optional? {α : Type} (read : Toml → Option α) : Option Toml → Option (Option α)
  | none => some none
  | some value => (read value).map some

def options? (value : Toml) : Option Options := do
  match ← fields? ["tag_template", "include_cruds"] value with
  | [tagTemplate, withCruds] =>
    return { tagTemplate := (← optional? text? tagTemplate).getD Options.default.tagTemplate
             withCruds := (← optional? bool? withCruds).getD Options.default.withCruds }
  | _ => none

def isArray : Toml → Bool
  | .array _ => true
  | _ => false

/-- The Go types that a value describes. An array has to have both. -/
def typeSetting? (value : Toml) : Option TypeSetting := do
  match ← fields? ["strict", "nullable"] value with
  | [some strict, nullable] =>
    if isArray value && nullable.isNone then none
    else return { strict := ← text? strict, nullable := ← optional? text? nullable }
  | _ => none

def types? : Toml → Option (List (Text × TypeSetting))
  | .table _ members =>
    members.foldlM (fun types (key, value) => do return insertType key (← typeSetting? value) types)
      []
  | _ => none

def ofMembers? (members : Toml.Members) : Option Settings := do
  let options ← optional? options? (members.lookup "generation".toList)
  let types ← optional? types? (members.lookup "types".toList)
  let logFilter ← optional? text? (members.lookup "log_level".toList)
  return ⟨options.getD .default, types.getD [], logFilter⟩

def ofToml? (t : Text) : Option Settings := (Toml.parse? t).bind ofMembers?

end Settings

end TableModel
