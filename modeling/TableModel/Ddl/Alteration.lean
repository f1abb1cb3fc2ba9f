import TableModel.Ddl.Privilege
import TableModel.Ddl.TableDeclaration

/-!
# Alterations

Changes of tables, views, indexes and policies. A change of a table is a list of operations.
-/

namespace TableModel.Ddl.Parser

def columnPlace : Parser Text := do
  if ← keyword "FIRST" then return "FIRST" else part ["AFTER"] writtenIdentifier

def partition (nested : Nested) : Parser Text :=
  return "PARTITION " ++ (← expressionsInParentheses nested)

/-- Parts of a table, each after the word `PARTITION`, in at most the given number of steps. -/
def partitionSteps (nested : Nested) : Nat → Parser Text
  | 0 => return []
  | steps + 1 => do
    if ← keyword "PARTITION" then
      return Text.phrase [← partition nested, ← partitionSteps nested steps]
    else return []

/-- What is added after `ADD`: a constraint, parts of the table or a column. The guard of a column
says nothing. -/
def addition (nested : Nested) : Parser Text := do
  match ← tableConstraint nested with
  | some text => return "ADD " ++ text
  | none =>
    let guard ← written ["IF", "NOT", "EXISTS"]
    let partitions ← partitionSteps nested (← get).length
    if !partitions.isEmpty then return Text.phrase ["ADD", guard, partitions]
    else
      let word ← written ["COLUMN"]
      let column ← columnDefinition nested
      return Text.phrase ["ADD", word, column.write, ← columnPlace]

def otherName : Parser Text := do
  if ← keyword "TO" then return "RENAME TO " ++ (← writtenName)
  else
    let _ ← keyword "COLUMN"
    let old ← writtenIdentifier
    expectKeyword "TO"
    return Text.phrase ["RENAME COLUMN", old, "TO", ← writtenIdentifier]

/-- What is put out of or into force after the word: the security of rows, or what one of the
phrases names. -/
def enforcement (word : String) (phrases : List (List String)) : Parser Text := do
  if ← keywords ["ROW", "LEVEL", "SECURITY"] then return word ++ " ROW LEVEL SECURITY"
  else
    let phrase ← expectAmong phrases
    return Text.phrase [word, phrase, ← writtenIdentifier]

/-- What is removed after `DROP`. The word `PROJECTION` in front of a column says nothing. -/
def partRemoval (nested : Nested) : Parser Text := do
  if ← keywords ["IF", "EXISTS", "PARTITION"] then
    return "DROP IF EXISTS " ++ (← partition nested)
  else if ← keyword "PARTITION" then return "DROP " ++ (← partition nested)
  else if ← keyword "CONSTRAINT" then
    return Text.phrase ["DROP CONSTRAINT", ← written ["IF", "EXISTS"], ← writtenIdentifier,
      ← written ["CASCADE"]]
  else if ← keywords ["PRIMARY", "KEY"] then return "DROP PRIMARY KEY"
  else
    let _ ← keyword "PROJECTION"
    let _ ← keyword "COLUMN"
    return Text.phrase ["DROP COLUMN", ← written ["IF", "EXISTS"], ← writtenIdentifier,
      ← written ["CASCADE"]]

def partitionRenaming (nested : Nested) : Parser Text := do
  let old ← partition nested
  expectKeywords ["RENAME", "TO", "PARTITION"]
  return Text.phrase [old, "RENAME TO", ← partition nested]

/-- The new definition of a column from its type on. -/
def columnChange (nested : Nested) : Parser Text := do
  let type ← dataType
  let options ← plainColumnOptions nested ((← get).length + 1)
  return Text.phrase [type.text, Text.phrase (options.map ColumnOption.write), ← columnPlace]

/-- The numbers in sequence that a column gets, after `ADD GENERATED`. -/
def columnNumbers : Parser Text := do
  let mode ← among [["ALWAYS"], ["BY", "DEFAULT"]]
  expectKeywords ["AS", "IDENTITY"]
  let options ←
    if ← symbol "(" then do
      let options ← sequenceOptions
      expectSymbol ")"
      pure (if options.isEmpty then "( )".toList else inParentheses (' ' :: (options ++ [' '])))
    else pure []
  return Text.phrase ["ADD GENERATED", mode.getD [], "AS IDENTITY", options]

def columnAlteration (nested : Nested) : Parser Text := do
  match ← among [["SET", "NOT", "NULL"], ["DROP", "NOT", "NULL"], ["DROP", "DEFAULT"]] with
  | some words => return words
  | none =>
    if ← keywords ["SET", "DEFAULT"] then return "SET DEFAULT " ++ (← anyExpression nested)
    else if ← keywords ["SET", "DATA", "TYPE"] then
      return "SET DATA TYPE " ++ (← dataType).text
    else
      expectKeywords ["ADD", "GENERATED"]
      columnNumbers

/-- One of the operations on a table that come after those that most tables have. Words on
projections in front of it say nothing. -/
def rareOperation (nested : Nested) : Parser Text := do
  let _ ← keywords ["CLEAR", "PROJECTION"]
  let _ ← keywords ["MATERIALIZE", "PROJECTION"]
  if ← keyword "DROP" then partRemoval nested
  else if ← keyword "PARTITION" then partitionRenaming nested
  else if ← keyword "CHANGE" then
    let _ ← keyword "COLUMN"
    return Text.phrase ["CHANGE COLUMN", ← writtenIdentifier, ← writtenIdentifier,
      ← columnChange nested]
  else if ← keyword "MODIFY" then
    let _ ← keyword "COLUMN"
    return Text.phrase ["MODIFY COLUMN", ← writtenIdentifier, ← columnChange nested]
  else if ← keyword "ALTER" then
    let _ ← keyword "COLUMN"
    return Text.phrase ["ALTER COLUMN", ← writtenIdentifier, ← columnAlteration nested]
  else if ← keyword "SWAP" then
    expectKeyword "WITH"
    return "SWAP WITH " ++ (← writtenName)
  else
    expectKeywords ["SET", "TBLPROPERTIES"]
    return "SET TBLPROPERTIES" ++ (← properties nested)

def tableOperation (nested : Nested) : Parser Text := do
  if ← keyword "ADD" then addition nested
  else if ← keyword "RENAME" then otherName
  else if ← keyword "DISABLE" then enforcement "DISABLE" [["RULE"], ["TRIGGER"]]
  else if ← keyword "ENABLE" then
    enforcement "ENABLE" [["ALWAYS", "RULE"], ["ALWAYS", "TRIGGER"], ["REPLICA", "RULE"],
      ["REPLICA", "TRIGGER"], ["RULE"], ["TRIGGER"]]
  else rareOperation nested

def tablePlace : Parser Text := do
  match ← among [["LOCATION"], ["SET", "LOCATION"]] with
  | some words => return Text.phrase [words, ← writtenIdentifier]
  | none => return []

def tableAlteration (nested : Nested) : Parser Text :=
  return Text.phrase ["ALTER TABLE", ← written ["IF", "EXISTS"], ← written ["ONLY"],
    ← writtenName, ← part ["ON", "CLUSTER"] writtenIdentifier,
    Text.commaList (← commaSeparated (tableOperation nested)), ← tablePlace]

/-- A change of a view after `ALTER VIEW`. The properties are written in front of the columns. -/
def viewAlteration (nested : Nested) : Parser Text := do
  let name ← writtenName
  let columns ← optionalColumnNames
  let properties ← part ["WITH"] (properties nested)
  expectKeyword "AS"
  return Text.phrase ["ALTER VIEW", name, properties, writeColumns columns, "AS", ← nested.query]

def indexAlteration : Parser Text := do
  let name ← writtenName
  expectKeywords ["RENAME", "TO"]
  return Text.phrase ["ALTER INDEX", name, "RENAME TO", ← writtenName]

def alteration (nested : Nested) : Parser Text := do
  if ← keyword "VIEW" then viewAlteration nested
  else if ← keyword "TABLE" then tableAlteration nested
  else if ← keyword "INDEX" then indexAlteration
  else
    expectKeyword "POLICY"
    policyAlteration nested

end TableModel.Ddl.Parser
