import TableModel.Ddl.Expression

/-!
# The tables of a query

A query takes its rows from tables by name, functions, other queries and joins of these. A
parenthesis may open a query or a join: it is read as a query first, and where that fails as a join.
A lone table in parentheses is neither.
-/

namespace TableModel.Ddl

/-- The words that end a table of a query rather than name it. -/
def notTableAliases : List String :=
  ["WITH", "EXPLAIN", "ANALYZE", "SELECT", "WHERE", "GROUP", "SORT", "HAVING", "ORDER", "PIVOT",
   "UNPIVOT", "TOP", "LATERAL", "VIEW", "LIMIT", "OFFSET", "FETCH", "UNION", "EXCEPT", "INTERSECT",
   "ON", "JOIN", "INNER", "CROSS", "FULL", "LEFT", "RIGHT", "NATURAL", "USING", "CLUSTER",
   "DISTRIBUTE", "GLOBAL", "OUTER", "SET", "QUALIFY", "WINDOW", "END", "FOR", "PARTITION",
   "PREWHERE", "SETTINGS", "FORMAT", "START", "CONNECT", "MATCH_RECOGNIZE"]

/-- What stands between a parenthesis and the next join or the end. -/
structure TableFactor where
  /-- The written form. -/
  text : Text
  /-- Whether it is a join in parentheses. -/
  isJoin : Bool

namespace Parser

/-- The alias that may follow; without `AS` in front it is no word of the list. -/
def optionalAlias (excluded : List String) : Parser (Option Identifier) := do
  let after ← keyword "AS"
  match ← peek with
  | some token =>
    match token.identifier? with
    | some name =>
      if !after && excluded.any token.isKeyword then return none
      else
        let _ ← next
        return some name
    | none => if after then reject else return none
  | none => if after then reject else return none

/-- The alias that may follow, written with `AS` in front of it. -/
def writtenAlias (excluded : List String) : Parser Text := do
  match ← optionalAlias excluded with
  | some name => return "AS " ++ name.write
  | none => return []

/-- The alias of a table that may follow, with names for the columns, written. -/
def tableAlias : Parser Text := do
  match ← optionalAlias notTableAliases with
  | some name => return Text.phrase ["AS", name.write, writeColumns (← optionalColumnNames)]
  | none => return []

def aliasedExpression (value : Parser Text) : Parser Text :=
  return Text.phrase [← value, ← part ["AS"] writtenIdentifier]

def aggregate (nested : Nested) : Parser Text := do call nested (← wordText)

def pivotValues (nested : Nested) : Parser Text := do
  if ← keyword "ANY" then
    return Text.phrase ["ANY", ← part ["ORDER", "BY"] (orderKeys nested)]
  else if ← atQuery then nested.query
  else
    return Text.commaList (← commaSeparated (aliasedExpression (anyExpression nested)))

def pivot (nested : Nested) : Parser Text := do
  expectSymbol "("
  let functions ← commaSeparated (aliasedExpression (aggregate nested))
  expectKeyword "FOR"
  let column ← writtenName
  expectKeyword "IN"
  let values ← parenthesized (pivotValues nested)
  let filler ← part ["DEFAULT", "ON", "NULL"] do
    return inParentheses (← parenthesizedExpression nested)
  expectSymbol ")"
  return "PIVOT" ++ inParentheses (Text.phrase [Text.commaList functions, "FOR", column, "IN",
    inParentheses values, filler])

def unpivot : Parser Text := do
  expectSymbol "("
  let value ← writtenIdentifier
  expectKeyword "FOR"
  let name ← writtenIdentifier
  expectKeyword "IN"
  let columns ← columnNames
  expectSymbol ")"
  return "UNPIVOT" ++ inParentheses (Text.phrase [value, "FOR", name, "IN", writeColumns columns])

/-- The turnings of a table's rows and columns, in at most the given number of steps. -/
def turningSteps (nested : Nested) : Nat → Parser Text
  | 0 => return []
  | steps + 1 => do
    match ← oneOf ["PIVOT", "UNPIVOT"] with
    | none => return []
    | some word =>
      let turning ← if word == "PIVOT" then pivot nested else unpivot
      return Text.phrase [turning, ← tableAlias, ← turningSteps nested steps]

def turned (nested : Nested) (table : Text) : Parser Text :=
  return Text.phrase [table, ← turningSteps nested (← get).length]

/-- What is done where a document has no value or a wrong one for a column, in at most the given
number of steps; the last word on each case holds. -/
def documentFallbacks (onEmpty onError : Text) : Nat → Parser Text
  | 0 => return Text.phrase [onEmpty, onError]
  | steps + 1 => do
    let fallback ←
      match ← oneOf ["NULL", "ERROR", "DEFAULT"] with
      | some "DEFAULT" => do
        let value ← literalValue
        pure ("DEFAULT " ++ value)
      | some word => pure word.toList
      | none => pure []
    if fallback.isEmpty then return Text.phrase [onEmpty, onError]
    else
      expectKeyword "ON"
      if ← keyword "EMPTY" then documentFallbacks (fallback ++ " ON EMPTY") onError steps
      else
        expectKeyword "ERROR"
        documentFallbacks onEmpty (fallback ++ " ON ERROR") steps

/-- A column of a table that is made of a document, in at most the given number of steps. -/
def documentColumn : Nat → Parser Text
  | 0 => reject
  | steps + 1 => do
    if ← keyword "NESTED" then
      let _ ← keyword "PATH"
      let path ← literalValue
      expectKeyword "COLUMNS"
      let columns ← parenthesized (commaSeparated (documentColumn steps))
      return Text.phrase ["NESTED PATH", path, "COLUMNS", inParentheses (Text.commaList columns)]
    else
      let name ← writtenIdentifier
      if ← keyword "FOR" then
        expectKeyword "ORDINALITY"
        return name ++ " FOR ORDINALITY"
      else
        let type ← dataType
        let existence ← written ["EXISTS"]
        expectKeyword "PATH"
        let path ← literalValue
        return Text.phrase [name, type.text, existence, "PATH", path,
          ← documentFallbacks [] [] (← get).length]

def documentTable (nested : Nested) : Parser Text := do
  expectSymbol "("
  let document ← anyExpression nested
  expectSymbol ","
  let path ← literalValue
  expectKeyword "COLUMNS"
  let columns ← parenthesized (commaSeparated (documentColumn (← get).length))
  expectSymbol ")"
  return "JSON_TABLE" ++ inParentheses (document ++ ", " ++ path ++ " COLUMNS" ++
    inParentheses (Text.commaList columns))

/-- The arguments of a function that gives a table, up to the closing parenthesis. -/
def tableArguments (nested : Nested) : Parser Text := do
  let arguments ← commaSeparatedUpTo ")" (argument nested)
  expectSymbol ")"
  return inParentheses (Text.commaList arguments)

/-- A table by name, which may be a function, with everything that may follow. -/
def namedTable (nested : Nested) : Parser Text := do
  let name ← writtenName
  let partitions ← if ← keyword "PARTITION" then columnNames else pure []
  let choice : Text := if partitions.isEmpty then [] else "PARTITION " ++ writeColumns partitions
  let arguments ← if ← symbol "(" then tableArguments nested else pure []
  let ordinality ← written ["WITH", "ORDINALITY"]
  let calledAs ← tableAlias
  let hints ←
    match ← get with
    | word :: mark :: rest =>
      if word.isKeyword "WITH" && mark.isSymbol "(" then do
        set (mark :: rest)
        let hints ← expressionsInParentheses nested
        pure ("WITH " ++ hints)
      else pure []
    | _ => pure []
  turned nested (Text.phrase [name ++ choice ++ arguments, ordinality, calledAs, hints])

/-- A query as a table, after its opening parenthesis. -/
def derivedTable (nested : Nested) : Parser Text := do
  let query ← nested.query
  expectSymbol ")"
  return Text.phrase [inParentheses query, ← tableAlias]

/-- The word or words that join a table to those before it, if any come next. -/
def joinWords : Parser (Option Text) := do
  if ← either (keyword "INNER") (atKeyword "JOIN") then
    expectKeyword "JOIN"
    return some "JOIN"
  else if ← keyword "FULL" then
    let _ ← keyword "OUTER"
    expectKeyword "JOIN"
    return some "FULL JOIN"
  else
    match ← oneOf ["LEFT", "RIGHT"] with
    | none => return none
    | some side =>
      let kind ← oneOf ["OUTER", "SEMI", "ANTI"]
      expectKeyword "JOIN"
      let kind := if kind == some "OUTER" then "" else kind.getD ""
      return some (Text.phrase [side, kind, "JOIN"])

def joinCondition (nested : Nested) : Parser Text := do
  if ← keyword "ON" then return " ON " ++ (← anyExpression nested)
  else if ← keyword "USING" then return " USING" ++ writeColumns (← columnNames)
  else return []

/-- A table joined to those before it, if one comes next, where `factor` reads the table. -/
def joined (nested : Nested) (factor : Parser TableFactor) : Parser (Option Text) := do
  if ← keyword "CROSS" then
    let kind ← expectOneOf ["JOIN", "APPLY"]
    return some (Text.phrase ["CROSS", kind, (← factor).text])
  else if ← keyword "OUTER" then
    expectKeyword "APPLY"
    return some (Text.phrase ["OUTER APPLY", (← factor).text])
  else if ← keyword "ASOF" then
    expectKeyword "JOIN"
    let table ← factor
    expectKeyword "MATCH_CONDITION"
    let condition ← parenthesizedExpression nested
    return some (Text.phrase ["ASOF JOIN", table.text, "MATCH_CONDITION",
      inParentheses condition] ++ (← joinCondition nested))
  else if ← keyword "NATURAL" then
    match ← joinWords with
    | none => reject
    | some words => return some (Text.phrase ["NATURAL", words, (← factor).text])
  else
    match ← joinWords with
    | none => return none
    | some words =>
      let table ← factor
      return some (Text.phrase [words, table.text] ++ (← joinCondition nested))

/-- The tables joined to a first one, in at most the given number of steps. The word `GLOBAL` may
stand without a join and says nothing then. -/
def joinSteps (nested : Nested) (factor : Parser TableFactor) : Nat → Parser (List Text)
  | 0 => return []
  | steps + 1 => do
    let everywhere ← written ["GLOBAL"]
    match ← joined nested factor with
    | none => return []
    | some join => return Text.phrase [everywhere, join] :: (← joinSteps nested factor steps)

/-- A table and those joined to it: the table and the joins. -/
def joinedFactors (nested : Nested) (factor : Parser TableFactor) :
    Parser (TableFactor × List Text) := do
  let first ← factor
  return (first, ← joinSteps nested factor (← get).length)

/-- A table of a query with its alias, at most the given number of parentheses deep. -/
def tableFactor (nested : Nested) : Nat → Parser TableFactor
  | 0 => reject
  | depth + 1 => do
    if ← keyword "LATERAL" then
      if ← symbol "(" then
        let table ← derivedTable nested
        return ⟨"LATERAL " ++ table, false⟩
      else
        let name ← writtenName
        expectSymbol "("
        let table := "LATERAL " ++ name ++ (← tableArguments nested)
        return ⟨Text.phrase [table, ← tableAlias], false⟩
    else if ← keyword "TABLE" then
      let value ← parenthesizedExpression nested
      return ⟨Text.phrase ["TABLE" ++ inParentheses value, ← tableAlias], false⟩
    else if ← symbol "(" then
      match ← maybe (derivedTable nested) with
      | some table => return ⟨← turned nested table, false⟩
      | none =>
        let (first, joins) ← joinedFactors nested (tableFactor nested depth)
        if joins.isEmpty && !first.isJoin then reject
        else
          expectSymbol ")"
          return ⟨Text.phrase [inParentheses (Text.phrase (first.text :: joins)), ← tableAlias],
            true⟩
    else if (← atKeyword "JSON_TABLE") && (← peekSecond).any (·.isSymbol "(") then
      let _ ← next
      return ⟨Text.phrase [← documentTable nested, ← tableAlias], false⟩
    else return ⟨← namedTable nested, false⟩

def singleTable (nested : Nested) : Parser Text :=
  return (← tableFactor nested ((← get).length + 1)).text

def joinedTables (nested : Nested) : Parser Text := do
  let (first, joins) ← joinedFactors nested (tableFactor nested ((← get).length + 1))
  return Text.phrase (first.text :: joins)

def tableList (nested : Nested) : Parser Text :=
  return Text.commaList (← commaSeparated (joinedTables nested))

end Parser

end TableModel.Ddl
