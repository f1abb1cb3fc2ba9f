import TableModel.Ddl.Selection

/-!
# Changes of rows

Insertions, updates, deletions and merges are read into their written form, each from the word after
the one that names it. Insertions and updates may also stand where a query may.
-/

namespace TableModel.Ddl.Parser

def assignmentTarget : Parser Text := do
  if ← atSymbol "(" then return inParentheses (← parenthesized objectNames) else writtenName

def assignment (nested : Nested) : Parser Text := do
  let target ← assignmentTarget
  expectSymbol "="
  return Text.phrase [target, "=", ← anyExpression nested]

def assignments (nested : Nested) : Parser Text :=
  return Text.commaList (← commaSeparated (assignment nested))

def returning (nested : Nested) : Parser Text := part ["RETURNING"] (resultColumns nested)

/-- Columns of an insertion by name, in parentheses; they may be missing, and there may be none. -/
def insertedColumns : Parser Text := do
  if ← symbol "(" then
    let names ← commaSeparatedUpTo ")" identifier
    expectSymbol ")"
    return writeColumns names
  else return []

def insertedRows (nested : Nested) : Parser Text := do
  if ← keywords ["DEFAULT", "VALUES"] then return "DEFAULT VALUES"
  else
    let columns ← insertedColumns
    let partition ← part ["PARTITION"] (expressionsInParentheses nested)
    return Text.phrase [columns, partition, ← nested.query]

/-- The names that an insertion gives to the new row and its columns, after `AS`. -/
def newRowNames : Parser Text :=
  return Text.phrase [← writtenName, writeColumns (← optionalColumnNames)]

def conflictTarget : Parser Text := do
  if ← keywords ["ON", "CONSTRAINT"] then return " ON CONSTRAINT " ++ (← writtenName)
  else return writeColumns (← optionalColumnNames)

def conflictAction (nested : Nested) : Parser Text := do
  if ← keyword "CONFLICT" then
    let target ← conflictTarget
    expectKeyword "DO"
    if ← keyword "NOTHING" then return "CONFLICT" ++ target ++ " DO NOTHING"
    else
      expectKeywords ["UPDATE", "SET"]
      let values ← assignments nested
      return Text.phrase ["CONFLICT" ++ target, "DO UPDATE SET", values,
        ← part ["WHERE"] (anyExpression nested)]
  else
    expectKeywords ["DUPLICATE", "KEY", "UPDATE"]
    return "DUPLICATE KEY UPDATE " ++ (← assignments nested)

def fileFormats : List String :=
  ["AVRO", "JSONFILE", "ORC", "PARQUET", "RCFILE", "SEQUENCEFILE", "TEXTFILE"]

def tableInsertion (nested : Nested) : Parser Text := do
  let head := Text.phrase [← written ["TABLE"], ← writtenName, ← insertedRows nested]
  let names ← part ["AS"] newRowNames
  return Text.phrase [head, names, ← part ["ON"] (conflictAction nested), ← returning nested]

/-- An insertion after its first word, which may be `INSERT` or `REPLACE`. The word `LOCAL` says
nothing unless the rows go into a directory. -/
def insertion (nested : Nested) (verb : String) : Parser Text := do
  let priority ← oneWord ["LOW_PRIORITY", "DELAYED", "HIGH_PRIORITY"]
  let ignore ← written ["IGNORE"]
  let manner ← oneOf ["INTO", "OVERWRITE"]
  let alone ← written ["LOCAL"]
  if ← keyword "DIRECTORY" then
    let path ← literalText
    let format ← part ["STORED", "AS"] (expectOneOf fileFormats)
    return Text.phrase ["INSERT", wordsIf (manner == some "OVERWRITE") "OVERWRITE", alone,
      "DIRECTORY", "'" ++ path ++ "'", format, ← nested.query]
  else return Text.phrase [verb, priority, ignore, manner.getD "", ← tableInsertion nested]

/-- An update of rows after `UPDATE`. The word `FROM` says nothing. -/
def rowUpdate (nested : Nested) : Parser Text := do
  let table ← joinedTables nested
  expectKeyword "SET"
  let values ← assignments nested
  let _ ← keyword "FROM"
  return Text.phrase ["UPDATE", table, "SET", values, ← part ["WHERE"] (anyExpression nested),
    ← returning nested]

/-- The count of a limit. `ALL` is no limit at all, and is not written. -/
def limitCount (nested : Nested) : Parser (Option Text) := do
  if ← keyword "ALL" then return none else return some (← anyExpression nested)

def rowDeletion (nested : Nested) : Parser Text := do
  let targets ←
    if ← keyword "FROM" then pure []
    else do
      let names ← objectNames
      expectKeyword "FROM"
      pure names
  let head := Text.phrase ["DELETE", targets, "FROM", ← tableList nested,
    ← part ["USING"] (tableList nested), ← part ["WHERE"] (anyExpression nested),
    ← returning nested, ← part ["ORDER", "BY"] (orderKeys nested)]
  let limit ← if ← keyword "LIMIT" then limitCount nested else pure none
  return head ++ clause "LIMIT" limit

/-- What a merge does with the rows of a kind, after `THEN`; only rows that match none can be
inserted, and only others can be changed or deleted. -/
def mergeAction (nested : Nested) (inserts : Bool) : Parser Text := do
  match ← oneOf ["UPDATE", "INSERT", "DELETE"] with
  | some "INSERT" =>
    if inserts then
      let columns ← insertedColumns
      expectKeyword "VALUES"
      return Text.phrase ["INSERT", columns, ← valueRows nested]
    else reject
  | some "UPDATE" =>
    if inserts then reject
    else
      expectKeyword "SET"
      return "UPDATE SET " ++ (← assignments nested)
  | some "DELETE" => if inserts then reject else return "DELETE"
  | _ => reject

/-- The cases of a merge up to the end of the statement, in at most the given number of steps. -/
def mergeCases (nested : Nested) : Nat → Parser Text
  | 0 => return []
  | steps + 1 => do
    if (← peek).all (·.isSymbol ";") then return []
    else
      expectKeyword "WHEN"
      let kind ← expectAmong [["NOT", "MATCHED", "BY", "SOURCE"],
        ["NOT", "MATCHED", "BY", "TARGET"], ["NOT", "MATCHED"], ["MATCHED"]]
      let condition ← part ["AND"] (anyExpression nested)
      expectKeyword "THEN"
      let inserts := kind == "NOT MATCHED".toList || kind == "NOT MATCHED BY TARGET".toList
      return Text.phrase ["WHEN", kind, condition, "THEN", ← mergeAction nested inserts,
        ← mergeCases nested steps]

def merge (nested : Nested) : Parser Text := do
  let into ← written ["INTO"]
  let table ← singleTable nested
  expectKeyword "USING"
  let source ← singleTable nested
  expectKeyword "ON"
  let condition ← anyExpression nested
  let cases ← mergeCases nested ((← get).length + 1)
  return Text.phrase ["MERGE", into, table, "USING", source, "ON", condition] ++ ' ' :: cases

end TableModel.Ddl.Parser
