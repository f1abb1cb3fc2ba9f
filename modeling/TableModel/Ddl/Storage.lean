import TableModel.Ddl.Column
import TableModel.Ddl.Manipulation
import TableModel.Ddl.Nested

/-!
# How the rows of a table are stored

The form of a row in a file, the form and the place of the file, the properties of its reader, and
the columns whose values name parts of the table. Of several words on one matter the last one holds.
-/

namespace TableModel.Ddl

/-- The form of the files of a table. -/
inductive FileForm where
  /-- Nothing is said on it. -/
  | unsaid
  /-- A form by name. -/
  | named (text : Text)
  /-- What reads the file and what writes it. -/
  | readAndWritten (text : Text)

/-- How the rows of a table are stored: what is said on each matter, written. -/
structure Storage where
  rows : Text
  form : FileForm
  readerProperties : Text
  place : Text

def FileForm.writeReader : FileForm → Text
  | .readAndWritten text => "STORED AS " ++ text
  | _ => []

def FileForm.writeName : FileForm → Text
  | .named text => "STORED AS " ++ text
  | _ => []

def Storage.write (storage : Storage) : Text :=
  Text.phrase [storage.rows, storage.form.writeReader, storage.form.writeName,
    storage.readerProperties, storage.place]

/-- The written form of how the rows of an external table are stored: the properties of the reader
come before the name of the form. -/
def Storage.writeExternal (storage : Storage) : Text :=
  Text.phrase [storage.rows, storage.form.writeReader, storage.readerProperties,
    storage.form.writeName, storage.place]

namespace Parser

/-- The words on what ends or marks a part of a row, each with the words behind its first one. -/
def rowMarks : List (String × List String) :=
  [("FIELDS", ["TERMINATED", "BY"]), ("COLLECTION", ["ITEMS", "TERMINATED", "BY"]),
   ("MAP", ["KEYS", "TERMINATED", "BY"]), ("LINES", ["TERMINATED", "BY"]),
   ("NULL", ["DEFINED", "AS"])]

/-- What ends or marks the parts of a row, in at most the given number of steps. A first word that
the others do not follow is passed over, and nothing more is read after it. -/
def rowMarkSteps : Nat → Parser Text
  | 0 => return []
  | steps + 1 => do
    match ← oneOf (rowMarks.map (·.1)) with
    | none => return []
    | some word =>
      let mark ← part ((rowMarks.lookup word).getD []) writtenIdentifier
      if mark.isEmpty then return []
      else
        let escape ← if word == "FIELDS" then part ["ESCAPED", "BY"] writtenIdentifier else pure []
        return Text.phrase [word, mark, escape, ← rowMarkSteps steps]

def rowForm : Parser Text := do
  expectKeyword "FORMAT"
  if ← keyword "SERDE" then return "ROW FORMAT SERDE '" ++ (← literalText) ++ "'"
  else
    let _ ← keyword "DELIMITED"
    return Text.phrase ["ROW FORMAT DELIMITED", ← rowMarkSteps (← get).length]

def fileForm (nested : Nested) : Parser FileForm := do
  expectKeyword "AS"
  if ← keyword "INPUTFORMAT" then
    let input ← anyExpression nested
    expectKeyword "OUTPUTFORMAT"
    return .readAndWritten
      (Text.phrase ["INPUTFORMAT", input, "OUTPUTFORMAT", ← anyExpression nested])
  else return .named (← expectOneOf fileFormats)

def storageSteps (nested : Nested) (storage : Storage) : Nat → Parser Storage
  | 0 => return storage
  | steps + 1 => do
    if ← keyword "ROW" then storageSteps nested { storage with rows := ← rowForm } steps
    else if ← keyword "STORED" then
      storageSteps nested { storage with form := ← fileForm nested } steps
    else if ← keyword "LOCATION" then
      let place ← literalText
      storageSteps nested { storage with place := "LOCATION '" ++ place ++ "'" } steps
    else
      let properties ← part ["WITH", "SERDEPROPERTIES"] (properties nested)
      if properties.isEmpty then return storage
      else storageSteps nested { storage with readerProperties := properties } steps

def storage (nested : Nested) : Parser Storage := do
  storageSteps nested ⟨[], .unsaid, [], []⟩ (← get).length

def partitioning (nested : Nested) : Parser Text :=
  part ["PARTITIONED", "BY"] do
    let columns ← parenthesized (commaSeparated (columnDefinition nested))
    return listed (columns.map ColumnDefinition.write)

end Parser

end TableModel.Ddl
