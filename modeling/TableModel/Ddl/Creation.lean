import TableModel.Ddl.Privilege
import TableModel.Ddl.Nested
import TableModel.Ddl.Literal

/-!
# Creations of other things than tables

Views, indexes, schemas, databases, roles, sequences, types and the like, each read from the word
after the one that names its kind.
-/

namespace TableModel.Ddl.Parser

/-- The guard that lets a creation pass where the thing is already there. -/
def creationGuard : Parser Text := written ["IF", "NOT", "EXISTS"]

def viewColumns : Parser Text := do
  if ← symbol "(" then
    let names ← commaSeparatedUpTo ")" identifier
    expectSymbol ")"
    return writeColumns names
  else return []

/-- The columns that the rows of a view are kept together by, of which there may be none. -/
def viewCluster : Parser Text := do
  if ← keyword "CLUSTER" then
    expectKeyword "BY"
    let columns ← optionalColumnNames
    return if columns.isEmpty then [] else "CLUSTER BY " ++ writeColumns columns
  else return []

/-- A view from the word `VIEW` on, where the words between `CREATE` and it are given. The
properties are written in front of the columns. -/
def view (nested : Nested) (modifiers : Text) : Parser Text := do
  expectKeyword "VIEW"
  let name ← writtenName
  let columns ← viewColumns
  let properties ← part ["WITH"] (properties nested)
  let cluster ← viewCluster
  expectKeyword "AS"
  return Text.phrase ["CREATE", modifiers, "VIEW", name, properties, columns, cluster, "AS",
    ← nested.query]

/-- Items in parentheses with commas but no spaces between them. -/
def writeTight (items : List Text) : Text := inParentheses (Text.join [','] items)

def nullDistinction : Parser Text := do
  if ← keyword "NULLS" then
    let negation ← written ["NOT"]
    expectKeyword "DISTINCT"
    return Text.phrase ["NULLS", negation, "DISTINCT"]
  else return []

/-- An index after `CREATE INDEX`, which may be unique. It needs no name. -/
def index (nested : Nested) (unique : Bool) : Parser Text := do
  let concurrently ← written ["CONCURRENTLY"]
  let guard ← creationGuard
  let name ←
    if ← provided guard.isEmpty (keyword "ON") then pure []
    else do
      let name ← writtenName
      expectKeyword "ON"
      pure name
  let table ← writtenName
  let method ← part ["USING"] writtenIdentifier
  let target := if method.isEmpty then table else Text.phrase [table, method] ++ [' ']
  let columns ← parenthesized (commaSeparated (orderKey nested))
  let included ← part ["INCLUDE"] do
    return writeTight ((← columnNames).map Identifier.write)
  return Text.phrase ["CREATE", wordsIf unique "UNIQUE", "INDEX", concurrently, guard, name, "ON",
    target ++ writeTight columns, included, ← nullDistinction,
    ← part ["WHERE"] (anyExpression nested)]

def schemaName : Parser Text := do
  if ← keyword "AUTHORIZATION" then return "AUTHORIZATION " ++ (← writtenIdentifier)
  else return Text.phrase [← writtenName, ← part ["AUTHORIZATION"] writtenIdentifier]

def schemaCreation : Parser Text :=
  return Text.phrase ["CREATE SCHEMA", ← creationGuard, ← schemaName]

/-- The places of a database in at most the given number of steps; of several the last one holds. -/
def databasePlaces (place managed : Text) : Nat → Parser Text
  | 0 => return Text.phrase [place, managed]
  | steps + 1 => do
    match ← oneOf ["LOCATION", "MANAGEDLOCATION"] with
    | none => return Text.phrase [place, managed]
    | some word =>
      let named := Text.phrase [word, "'" ++ (← literalText) ++ "'"]
      if word == "LOCATION" then databasePlaces named managed steps
      else databasePlaces place named steps

def databaseCreation : Parser Text := do
  return Text.phrase ["CREATE DATABASE", ← creationGuard, ← writtenName,
    ← databasePlaces [] [] (← get).length]

def roleCreation : Parser Text := do
  let roles := Text.phrase ["CREATE ROLE", ← creationGuard, ← objectNames]
  let _ ← keyword "WITH"
  return roles

/-- A sequence of numbers after `CREATE SEQUENCE`, which may be temporary. -/
def sequenceCreation (temporary : Bool) : Parser Text := do
  let guard ← creationGuard
  let name ← writtenName
  let type ← part ["AS"] (return (← dataType).text)
  let options ← sequenceOptions
  let owner ← part ["OWNED", "BY"] do
    if ← keyword "NONE" then return "NONE" else writtenName
  return Text.phrase ["CREATE", wordsIf temporary "TEMPORARY", "SEQUENCE", guard, name, type,
    options, owner]

def typeField : Parser Text :=
  return Text.phrase [← writtenIdentifier, (← dataType).text, ← part ["COLLATE"] writtenName]

/-- The fields of a composite type up to the closing parenthesis, in at most the given number of
steps. A comma may stand behind the last one. -/
def typeFieldSteps : Nat → Parser (List Text)
  | 0 => reject
  | steps + 1 => do
    let field ← typeField
    let comma ← symbol ","
    if ← symbol ")" then return [field]
    else if comma then return field :: (← typeFieldSteps steps)
    else reject

/-- A type after `CREATE TYPE`: an enumeration or a composite of fields, of which there may be
none. -/
def typeCreation : Parser Text := do
  let name ← writtenName
  expectKeyword "AS"
  let head := Text.phrase ["CREATE TYPE", name, "AS"]
  if ← keyword "ENUM" then
    expectSymbol "("
    let labels ← commaSeparatedUpTo ")" identifier
    expectSymbol ")"
    return Text.phrase [head, "ENUM", inParentheses (writeNames labels)]
  else if ← symbol "(" then
    if ← symbol ")" then return Text.phrase [head, "()"]
    else
      let fields ← typeFieldSteps ((← get).length + 1)
      return Text.phrase [head, inParentheses (Text.commaList fields)]
  else return Text.phrase [head, "()"]

def extensionCreation : Parser Text := do
  let head := Text.phrase ["CREATE EXTENSION", ← creationGuard, ← writtenIdentifier]
  if ← keyword "WITH" then
    let details := Text.phrase [← part ["SCHEMA"] writtenIdentifier,
      ← part ["VERSION"] writtenIdentifier, ← written ["CASCADE"]]
    return if details.isEmpty then head else Text.phrase [head, "WITH", details]
  else return head

def virtualTable : Parser Text := do
  expectKeyword "TABLE"
  let guard ← creationGuard
  let name ← writtenName
  expectKeyword "USING"
  return Text.phrase ["CREATE VIRTUAL TABLE", guard, name, "USING", ← writtenIdentifier,
    writeColumns (← optionalColumnNames)]

/-- The name of a secret and the storage it is kept in, before its parenthesis. -/
def secretPlace : Parser Text := do
  if ← atSymbol "(" then return []
  else
    let place ← part ["IN"] writtenIdentifier
    if !place.isEmpty then return place
    else return Text.phrase [← writtenIdentifier, ← part ["IN"] writtenIdentifier]

def secretEntry : Parser Text := return Text.phrase [← writtenIdentifier, ← writtenIdentifier]

/-- A secret after `CREATE SECRET`, where the words between these two are given. -/
def secretCreation (modifiers : Text) : Parser Text := do
  let guard ← creationGuard
  let place ← secretPlace
  expectSymbol "("
  expectKeyword "TYPE"
  let type ← writtenIdentifier
  let entries ← if ← symbol "," then commaSeparated secretEntry else pure []
  expectSymbol ")"
  return Text.phrase ["CREATE", modifiers, "SECRET", guard, place,
    "( TYPE " ++ Text.commaList (type :: entries) ++ " )"]

end TableModel.Ddl.Parser
