import TableModel.Ddl.Constraint
import TableModel.Ddl.Nested
import TableModel.Ddl.Storage

/-!
# Table declarations

What is read of `CREATE TABLE` is the table's name and its column definitions. Everything else
(constraints, options, a query the table is filled from) has to be well formed and is kept only as
part of the written form. The options stand in one order in a declaration and in another one in its
written form.
-/

namespace TableModel.Ddl

/-- A declared table: its name, the column definitions in order, and the written form of the whole
declaration, which only messages show. -/
structure TableDeclaration where
  name : ObjectName
  columns : List ColumnDefinition
  text : Text

/-- An item between the parentheses of a declaration: a column, or a constraint or an index, which
is kept as it is written. -/
inductive TableItem where
  | column (definition : ColumnDefinition)
  | constraint (text : Text)

def TableItem.column? : TableItem → Option ColumnDefinition
  | .column definition => some definition
  | .constraint _ => none

def TableItem.constraint? : TableItem → Option Text
  | .column _ => none
  | .constraint text => some text

/-- The written form of items in parentheses, or nothing where there are none: columns come first.
-/
def TableItem.writeAll (items : List TableItem) : Text :=
  listed ((items.filterMap TableItem.column?).map ColumnDefinition.write ++
    items.filterMap TableItem.constraint?)

/-- What is left after the name of a table to copy. The name may be broken off: then the token that
does not belong to it is taken as well. -/
def afterCopiedName : List Token → List Token
  | [] => []
  | token :: rest =>
    match token.identifier?, rest with
    | none, _ => rest
    | some _, point :: rest =>
      if point.isSymbol "." then afterCopiedName rest else point :: rest
    | some _, [] => []

/-- The options of a table that stand after its columns, each written; what is not said is empty.
There are two kinds of properties, those after `WITH` and those after `TBLPROPERTIES`, and at the
end there may be the query that the table is filled from. -/
structure TableOptions where
  withoutRowId : Text
  partitioning : Text
  storage : Storage
  withProperties : Text
  tableProperties : Text
  engine : Text
  nextNumber : Text
  ordering : Text
  charset : Text
  collation : Text
  onCommit : Text
  strict : Text
  comment : Text
  query : Text

def TableOptions.write (options : TableOptions) : Text :=
  Text.phrase [options.partitioning, options.storage.write, options.tableProperties,
    options.withProperties, options.engine, options.comment, options.nextNumber, options.ordering,
    options.charset, options.collation, options.onCommit, options.strict]

namespace Parser

def tableItem (nested : Nested) : Parser TableItem := do
  match ← tableConstraint nested with
  | some text => return .constraint text
  | none =>
    match ← peek with
    | some (.word _) | some (.quotedName _) => return .column (← columnDefinition nested)
    | _ => reject

/-- The items up to the closing parenthesis, in at most the given number of steps. -/
def tableItemSteps (nested : Nested) : Nat → Parser (List TableItem)
  | 0 => reject
  | steps + 1 => do
    let item ← tableItem nested
    if ← symbol "," then return item :: (← tableItemSteps nested steps)
    else if ← symbol ")" then return [item]
    else reject

/-- The items of a declaration; the parentheses may be empty or missing. -/
def tableItems (nested : Nested) : Parser (List TableItem) := do
  if ← symbol "(" then
    if ← symbol ")" then return []
    else tableItemSteps nested (← get).length
  else return []

/-- The name of a table to copy after one of the words, if one of them comes next, written after the
given word; a name that is broken off is not written. -/
def copiedTable (words : List String) (first : String) : Parser Text := do
  match ← oneOf words with
  | some _ =>
    let tokens ← get
    set (afterCopiedName tokens)
    match objectName tokens with
    | .ok (name, _) => return Text.phrase [first, name.write]
    | .error _ => return []
  | none => return []

def wordValue : Parser Text := do
  expectSymbol "="
  wordText

def engine : Parser Text := do
  let name ← wordValue
  return "ENGINE=" ++ name ++ writeColumns (← optionalColumnNames)

def nextNumber : Parser Text := do
  let _ ← symbol "="
  return Text.ofNat (← natural 0x100000000)

def rowOrder (nested : Nested) : Parser Text := do
  if ← symbol "(" then
    let keys ← commaSeparatedUpTo ")" (anyExpression nested)
    expectSymbol ")"
    return inParentheses (Text.commaList keys)
  else anyExpression nested

/-- A word after the given ones and an equality sign. -/
def wordOption (words : List String) : Parser Text := do
  if ← keywords words then
    return Text.phrase (words.map String.toList) ++ '=' :: (← wordValue)
  else return []

def tableComment : Parser Text := do
  let sign ← symbol "="
  return Text.phrase [wordsIf sign "=", "'" ++ (← singleQuoted) ++ "'"]

/-- The options of a table, each of which may be missing, and the query that the table is filled
from, in the order of a declaration. -/
def tableOptions (nested : Nested) : Parser TableOptions := do
  return {
    withoutRowId := ← written ["WITHOUT", "ROWID"]
    partitioning := ← partitioning nested
    storage := ← storage nested
    withProperties := ← part ["WITH"] (properties nested)
    tableProperties := ← part ["TBLPROPERTIES"] (properties nested)
    engine := ← if ← keyword "ENGINE" then engine else pure []
    nextNumber := ← part ["AUTO_INCREMENT"] nextNumber
    ordering := ← part ["ORDER", "BY"] (rowOrder nested)
    charset := ← wordOption ["DEFAULT", "CHARSET"]
    collation := ← wordOption ["COLLATE"]
    onCommit := ← part ["ON", "COMMIT"]
      (expectAmong [["DELETE", "ROWS"], ["PRESERVE", "ROWS"], ["DROP"]])
    strict := ← written ["STRICT"]
    comment := ← part ["COMMENT"] tableComment
    query := ← part ["AS"] nested.query }

/-- A declaration after `CREATE TABLE`, where the words between these two are given. -/
def tableDeclaration (nested : Nested) (modifiers : Text) : Parser TableDeclaration := do
  let guard ← written ["IF", "NOT", "EXISTS"]
  let name ← objectName
  let cluster ← part ["ON", "CLUSTER"] writtenIdentifier
  let liked ← copiedTable ["LIKE", "ILIKE"] "LIKE"
  let cloned ← copiedTable ["CLONE"] "CLONE"
  let items ← tableItems nested
  let options ← tableOptions nested
  let body := TableItem.writeAll items
  let bare := body.isEmpty && liked.isEmpty && cloned.isEmpty && options.query.isEmpty
  return {
    name
    columns := items.filterMap TableItem.column?
    text := Text.phrase ["CREATE", modifiers, "TABLE", guard, name.write, cluster,
      if bare then "()" else body, options.withoutRowId, liked, cloned, options.write,
      options.query] }

/-- A declaration after `CREATE EXTERNAL`, where the words between these two are given. -/
def externalTable (nested : Nested) (modifiers : Text) : Parser TableDeclaration := do
  expectKeyword "TABLE"
  let guard ← written ["IF", "NOT", "EXISTS"]
  let name ← objectName
  let items ← tableItems nested
  let body := TableItem.writeAll items
  let partitioning ← partitioning nested
  let storage ← storage nested
  let properties ← part ["TBLPROPERTIES"] (properties nested)
  return {
    name
    columns := items.filterMap TableItem.column?
    text := Text.phrase ["CREATE", modifiers, "EXTERNAL TABLE", guard, name.write,
      if body.isEmpty then "()" else body, partitioning, storage.writeExternal, properties] }

end Parser

end TableModel.Ddl
