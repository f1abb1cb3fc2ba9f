import TableModel.Ddl.TableSource

/-!
# Selections and rows of values

The parts of a query that give rows: `SELECT` with its clauses in their one order, `VALUES`, and a
whole table.
-/

namespace TableModel.Ddl

/-- The words that end a column of a query rather than name it. -/
def notColumnAliases : List String :=
  ["WITH", "EXPLAIN", "ANALYZE", "SELECT", "WHERE", "GROUP", "SORT", "HAVING", "ORDER", "TOP",
   "LATERAL", "VIEW", "LIMIT", "OFFSET", "FETCH", "UNION", "EXCEPT", "INTERSECT", "CLUSTER",
   "DISTRIBUTE", "RETURNING", "FROM", "INTO", "END"]

/-- The words that end a lateral view rather than name a column of it. -/
def notViewAliases : List String := ["WHERE", "GROUP", "CLUSTER", "HAVING", "LATERAL"]

namespace Parser

/-- One column of a query. The word `FROM` alone names none. -/
def resultColumn (nested : Nested) : Parser Text := do
  match ← wildcard with
  | some text => return text
  | none =>
    let value ← anyExpression nested
    if Text.sameFolded value "from" then reject
    else return Text.phrase [value, ← writtenAlias notColumnAliases]

def resultColumns (nested : Nested) : Parser Text :=
  return Text.commaList (← commaSeparated (resultColumn nested))

/-- Which rows are left out as repeated, after `SELECT`: `ALL` says that none is. -/
def distinction (nested : Nested) : Parser Text := do
  let all ← keyword "ALL"
  if ← keyword "DISTINCT" then
    if all then reject
    else if ← keyword "ON" then
      expectSymbol "("
      let columns ← commaSeparatedUpTo ")" (anyExpression nested)
      expectSymbol ")"
      return "DISTINCT ON " ++ inParentheses (Text.commaList columns)
    else return "DISTINCT"
  else return []

def topCount (nested : Nested) : Parser Text := do
  let count ←
    if ← symbol "(" then do
      let count ← anyExpression nested
      expectSymbol ")"
      pure (inParentheses count)
    else do
      let count ← natural sizeBound
      pure (Text.ofNat count)
  return Text.phrase [count, ← written ["PERCENT"], ← written ["WITH", "TIES"]]

def intoTable : Parser Text := do
  let temporary ← oneOf ["TEMP", "TEMPORARY"]
  return Text.phrase [wordsIf temporary.isSome "TEMPORARY", ← written ["UNLOGGED"],
    ← written ["TABLE"], ← writtenName]

/-- The views that make several rows of one, in at most the given number of steps. -/
def lateralViews (nested : Nested) : Nat → Parser Text
  | 0 => return []
  | steps + 1 => do
    if ← keywords ["LATERAL", "VIEW"] then
      let outer ← written ["OUTER"]
      let value ← anyExpression nested
      let name ← writtenName
      let columns ← commaSeparated (optionalAlias notViewAliases)
      let columns := columns.filterMap id
      let calledAs : Text := if columns.isEmpty then [] else "AS " ++ writeNames columns
      return Text.phrase ["LATERAL VIEW", outer, value, name, calledAs,
        ← lateralViews nested steps]
    else return []

def grouping (nested : Nested) : Parser Text := do
  if ← keyword "ALL" then return "ALL" else expressionList nested

def namedWindows (nested : Nested) : Parser Text :=
  return Text.commaList (← commaSeparated (namedWindow nested))

/-- The windows with names and the condition on rows that depends on windows, in either order. -/
def windowClauses (nested : Nested) : Parser Text := do
  let windows ← part ["WINDOW"] (namedWindows nested)
  let condition ← part ["QUALIFY"] (anyExpression nested)
  if windows.isEmpty && !condition.isEmpty then
    return Text.phrase [condition, ← part ["WINDOW"] (namedWindows nested)]
  else return Text.phrase [windows, condition]

def selection (nested : Nested) : Parser Text :=
  return Text.phrase ["SELECT", ← distinction nested, ← part ["TOP"] (topCount nested),
    ← resultColumns nested, ← part ["INTO"] intoTable, ← part ["FROM"] (tableList nested),
    ← lateralViews nested (← get).length, ← part ["WHERE"] (anyExpression nested),
    ← part ["GROUP", "BY"] (grouping nested), ← part ["CLUSTER", "BY"] (expressionList nested),
    ← part ["DISTRIBUTE", "BY"] (expressionList nested),
    ← part ["SORT", "BY"] (expressionList nested), ← part ["HAVING"] (anyExpression nested),
    ← windowClauses nested]

/-- A row of values, in parentheses, and whether `ROW` stands in front of it; it may be empty. -/
def valueRow (nested : Nested) : Parser (Bool × Text) := do
  let marked ← keyword "ROW"
  expectSymbol "("
  let values ← commaSeparatedUpTo ")" (anyExpression nested)
  expectSymbol ")"
  return (marked, inParentheses (Text.commaList values))

/-- Rows of values, after `VALUES`. If one of them is marked as a row, all are written so. -/
def valueRows (nested : Nested) : Parser Text := do
  let rows ← commaSeparated (valueRow nested)
  let mark := wordsIf (rows.any (·.1)) "ROW"
  return "VALUES " ++ Text.commaList (rows.map fun (_, row) => mark ++ row)

/-- A whole table, after `TABLE`. A name in two parts is three tokens long, and as many are taken
in any case. -/
def wholeTable : Parser Text := do
  let tokens ← get
  set (tokens.drop 3)
  match tokens.map Token.wordText?, tokens.tail.head?.any (·.isSymbol ".") with
  | some schema :: _ :: some table :: _, true => return "TABLE " ++ schema ++ '.' :: table
  | some table :: _, false => return "TABLE " ++ table
  | _, _ => reject

def queryTerm (nested : Nested) : Parser Text := do
  if ← keyword "SELECT" then selection nested
  else if ← atSymbol "(" then parenthesizedQuery nested
  else if ← keyword "VALUES" then valueRows nested
  else if ← keyword "TABLE" then wholeTable
  else reject

/-- Whether repeated rows stay when queries are combined, and whether columns go by name. -/
def combination : Parser Text :=
  return (← among [["DISTINCT", "BY", "NAME"], ["BY", "NAME"], ["ALL", "BY", "NAME"], ["ALL"],
    ["DISTINCT"]]).getD []

/-- The queries combined with a first one, written after it, in at most the given number of
steps. -/
def combinedSteps (nested : Nested) : Nat → Parser Text
  | 0 => return []
  | steps + 1 => do
    match ← oneOf ["UNION", "EXCEPT", "INTERSECT"] with
    | none => return []
    | some word =>
      return Text.phrase [word, ← combination, ← queryTerm nested, ← combinedSteps nested steps]

def combinedQueries (nested : Nested) : Parser Text :=
  return Text.phrase [← queryTerm nested, ← combinedSteps nested (← get).length]

end Parser

end TableModel.Ddl
