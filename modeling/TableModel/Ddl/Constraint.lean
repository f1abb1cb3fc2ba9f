import TableModel.Ddl.Column

/-!
# Table constraints

A constraint or an index that stands among the columns of a table is read into its written form.
What an item is, is decided by its first word alone: once that is the keyword of a constraint there
is no way back to reading a column, so an unquoted `KEY` never names one.
-/

namespace TableModel.Ddl.Parser

/-- The optional name of an index. Any word will do, also one of the grammar's own. -/
def indexName : Parser Text := do
  match (← peek).bind Token.identifier? with
  | some name => let _ ← next; return name.write
  | none => return []

def indexMethod : Parser Text := part ["USING"] (expectOneOf ["BTREE", "HASH"])

/-- The options after the columns of an index, in at most the given number of steps. -/
def indexOptionSteps : Nat → Parser Text
  | 0 => return []
  | steps + 1 => do
    let method ← indexMethod
    if !method.isEmpty then return Text.phrase [method, ← indexOptionSteps steps]
    else if ← keyword "COMMENT" then
      let text ← literalText
      return Text.phrase ["COMMENT '" ++ text ++ "'", ← indexOptionSteps steps]
    else return []

def indexColumns : Parser Text := return writeColumns (← columnNames)

/-- What follows the words of a key: name, method, columns, options and timing. -/
def keyBody : Parser Text :=
  return Text.phrase [← indexName, ← indexMethod, ← indexColumns,
    ← indexOptionSteps (← get).length, ← timing]

def foreignKeyBody : Parser Text := do
  let columns ← columnNames
  expectKeyword "REFERENCES"
  let table ← writtenName
  let referred ← columnNames
  return Text.phrase [writeColumns columns, "REFERENCES", table ++ writeColumns referred,
    ← referentialActions, ← timing]

/-- The constraint whose first word has been read; `none` if the word begins no constraint. An index
that is no constraint has no name in front of it. -/
def constraintAfter (nested : Nested) (named : Bool) (first : Token) : Parser (Option Text) := do
  if first.isKeyword "UNIQUE" then
    return some (Text.phrase ["UNIQUE", ← oneWord ["KEY", "INDEX"], ← keyBody])
  else if first.isKeyword "PRIMARY" then
    expectKeyword "KEY"
    return some (Text.phrase ["PRIMARY KEY", ← keyBody])
  else if first.isKeyword "FOREIGN" then
    expectKeyword "KEY"
    return some (Text.phrase ["FOREIGN KEY", ← foreignKeyBody])
  else if first.isKeyword "CHECK" then
    return some ("CHECK " ++ inParentheses (← parenthesizedExpression nested))
  else if (first.isKeyword "INDEX" || first.isKeyword "KEY") && !named then
    let word := if first.isKeyword "KEY" then "KEY" else "INDEX"
    let name ← if ← atKeyword "USING" then pure [] else indexName
    return some (Text.phrase [word, name, ← indexMethod, ← indexColumns])
  else if (first.isKeyword "FULLTEXT" || first.isKeyword "SPATIAL") && !named then
    let word := if first.isKeyword "FULLTEXT" then "FULLTEXT" else "SPATIAL"
    return some (Text.phrase [word, ← oneWord ["KEY", "INDEX"], ← indexName, ← indexColumns])
  else return none

/-- A constraint or an index, if one comes next. -/
def tableConstraint (nested : Nested) : Parser (Option Text) := do
  if ← keyword "CONSTRAINT" then
    let name ← identifier
    match ← constraintAfter nested true (← next) with
    | some text => return some (writeConstraintName (some name) ++ text)
    | none => reject
  else
    match ← get with
    | [] => return none
    | first :: rest =>
      set rest
      match ← constraintAfter nested false first with
      | some text => return some text
      | none => set (first :: rest); return none

end TableModel.Ddl.Parser
