import TableModel.Ddl.Alteration
import TableModel.Ddl.Creation
import TableModel.Ddl.Session
import TableModel.Ddl.Listing
import TableModel.Ddl.Maintenance
import TableModel.Ddl.Privilege
import TableModel.Ddl.Query
import TableModel.Ddl.Removal
import TableModel.Ddl.Transfer

/-!
# Statements

SQL text is a sequence of statements with semicolons between them, as many as one likes. A statement
is a table declaration or another one, of which only the written form is kept. After a statement,
the word `END` ends the reading. Some statements contain others, which are one level deeper, as
queries and expressions are.
-/

namespace TableModel.Ddl

/-- A statement: what a table declaration says, or the written form of any other statement. -/
inductive Statement where
  | table (declaration : TableDeclaration)
  /-- A statement that explains another one or describes a table. -/
  | explanation (text : Text)
  | other (text : Text)

def Statement.write : Statement → Text
  | .table declaration => declaration.text
  | .explanation text | .other text => text

def skipSemicolons : List Token → List Token
  | [] => []
  | token :: rest => if token.isSymbol ";" then skipSemicolons rest else token :: rest

namespace Parser

/-- What a creation says of how long and how far the thing is known. -/
structure CreationScope where
  replaces : Bool
  alters : Bool
  isLocal : Bool
  isGlobal : Bool
  isTransient : Bool
  isTemporary : Bool

/-- What a creation says before the word of the kind. -/
def creationScope : Parser CreationScope := do
  return {
    replaces := ← keywords ["OR", "REPLACE"]
    alters := ← keywords ["OR", "ALTER"]
    isLocal := ← keyword "LOCAL"
    isGlobal := ← keyword "GLOBAL"
    isTransient := ← keyword "TRANSIENT"
    isTemporary := (← oneOf ["TEMP", "TEMPORARY"]).isSome }

/-- The written form of the replacement and of how far a table is known. -/
def CreationScope.tableWords (scope : CreationScope) : Text :=
  Text.phrase [wordsIf scope.replaces "OR REPLACE",
    if scope.isGlobal then "GLOBAL" else wordsIf scope.isLocal "LOCAL",
    wordsIf scope.isTemporary "TEMPORARY", wordsIf scope.isTransient "TRANSIENT"]

/-- What is made after `CREATE` and what is said before the word of the kind, other than a table. -/
def otherCreation (nested : Nested) (scope : CreationScope) : Parser Text := do
  let replaces := wordsIf scope.replaces "OR REPLACE"
  let temporary := wordsIf scope.isTemporary "TEMPORARY"
  if ← keyword "MATERIALIZED" then
    view nested (Text.phrase [replaces, "MATERIALIZED", temporary])
  else if ← atKeyword "VIEW" then view nested (Text.phrase [replaces, temporary])
  else if ← keyword "POLICY" then policyCreation nested
  else if ← keyword "SECRET" then secretCreation (Text.phrase [replaces, temporary])
  else if scope.replaces then reject
  else if ← keyword "EXTENSION" then extensionCreation
  else if ← keyword "INDEX" then index nested false
  else if ← keywords ["UNIQUE", "INDEX"] then index nested true
  else if ← keyword "VIRTUAL" then virtualTable
  else if ← keyword "SCHEMA" then schemaCreation
  else if ← keyword "DATABASE" then databaseCreation
  else if ← keyword "ROLE" then roleCreation
  else if ← keyword "SEQUENCE" then sequenceCreation scope.isTemporary
  else
    expectKeyword "TYPE"
    typeCreation

def procedureParameter : Parser Text := return Text.phrase [← writtenIdentifier, (← dataType).text]

/-- The parameters of a procedure up to the closing parenthesis, in at most the given number of
steps. A comma may stand without a parameter in front of it or behind it. -/
def procedureParameterSteps : Nat → Parser (List Text)
  | 0 => reject
  | steps + 1 => do
    let parameter ←
      if (← peek).any (·.wordText?.isSome) then do
        let parameter ← procedureParameter
        pure [parameter]
      else pure []
    let comma ← symbol ","
    if ← symbol ")" then return parameter
    else if comma then return parameter ++ (← procedureParameterSteps steps)
    else reject

def procedureParameters : Parser (List Text) := do
  if ← symbol "(" then
    if ← symbol ")" then return [] else procedureParameterSteps ((← get).length + 1)
  else return []

/-- The statements up to the end of the tokens or the word `END` after a statement, in at most the
given number of steps. -/
def statementSteps (statement : Parser Statement) : Nat → Parser (List Statement)
  | 0 => return []
  | steps + 1 => do
    modify skipSemicolons
    if (← peek).isNone then return []
    else
      let first ← statement
      match ← peek with
      | none => return [first]
      | some token =>
        if token.isSymbol ";" then return first :: (← statementSteps statement steps)
        else if token.isKeyword "END" then return [first]
        else reject

def statements (statement : Parser Statement) : Parser (List Statement) := do
  statementSteps statement ((← get).length + 1)

def procedure (statement : Parser Statement) (alters : Bool) : Parser Text := do
  let name ← writtenName
  let parameters ← procedureParameters
  expectKeywords ["AS", "BEGIN"]
  let body ← statements statement
  expectKeyword "END"
  return Text.phrase ["CREATE", wordsIf alters "OR ALTER", "PROCEDURE", name, listed parameters,
    "AS BEGIN", Text.join "; " (body.map Statement.write), "END"]

def creation (nested : Nested) (statement : Parser Statement) : Parser Statement := do
  let scope ← creationScope
  if ← keyword "TABLE" then return .table (← tableDeclaration nested scope.tableWords)
  else if ← keyword "EXTERNAL" then
    return .table (← externalTable nested (wordsIf scope.replaces "OR REPLACE"))
  else if ← provided (!scope.replaces) (keyword "PROCEDURE") then
    return .other (← procedure statement scope.alters)
  else return .other (← otherCreation nested scope)

/-- How far and in which form a plan is explained, before the statement it is a plan of. -/
def explanationForm : Parser Text := do
  if ← keywords ["QUERY", "PLAN"] then return "QUERY PLAN"
  else
    return Text.phrase [← written ["ANALYZE"], ← written ["VERBOSE"],
      ← part ["FORMAT"] (expectOneOf ["TEXT", "GRAPHVIZ", "JSON"])]

/-- An explanation after its word: of a statement if one comes next, but no explanation, and of a
table otherwise. -/
def explanation (statement : Parser Statement) (word : String) : Parser Statement := do
  let form ← explanationForm
  match ← maybe statement with
  | some (.explanation _) => reject
  | some explained => return .explanation (Text.phrase [word, form, explained.write])
  | none =>
    let extent ← oneWord ["EXTENDED", "FORMATTED"]
    return .explanation (Text.phrase [word, extent, ← writtenName])

def preparation (statement : Parser Statement) : Parser Text := do
  let name ← writtenIdentifier
  let types ← if ← atSymbol "(" then parenthesized (commaSeparated dataType) else pure []
  expectKeyword "AS"
  return Text.phrase ["PREPARE", name, listed (types.map DataType.text), "AS",
    (← statement).write]

/-- The running of a prepared statement after `EXECUTE`, with values in parentheses or without, up
to the end of the statement. -/
def execution (nested : Nested) : Parser Text := do
  let name ← writtenName
  let values ←
    if ← symbol "(" then do
      let values ← commaSeparatedUpTo ")" (anyExpression nested)
      expectSymbol ")"
      pure (inParentheses (Text.commaList values))
    else
      match ← peek with
      | none => pure []
      | some token =>
        if token.isSymbol ";" || token.isKeyword "USING" then pure []
        else do
          let values ← expressionList nested
          pure (' ' :: values)
  return Text.phrase ["EXECUTE", name ++ values, ← part ["USING"] (expressionList nested)]

def procedureCall (nested : Nested) : Parser Text := do
  let name ← writtenName
  if ← atSymbol "(" then return "CALL " ++ (← call nested name) else return "CALL " ++ name

def assertion (nested : Nested) : Parser Text :=
  return Text.phrase ["ASSERT", ← anyExpression nested, ← part ["AS"] (anyExpression nested)]

/-- The value of a switch of the server: a number, a string or a parameter. -/
def switchValue : Parser Text := do
  match ← peek with
  | some (.quotedName _) | some (.word _) => reject
  | some (.nationalString _) | some (.hexString _) | some (.escapedString _) => reject
  | _ => literalValue

def switch : Parser Text := do
  let name ← writtenName
  if ← atSymbol "(" then return "PRAGMA " ++ name ++ inParentheses (← parenthesized switchValue)
  else if ← symbol "=" then return Text.phrase ["PRAGMA", name, "=", ← switchValue]
  else return "PRAGMA " ++ name

/-- The readers of the statements that are known by their first word, where `rows` reads rows that
stand in the text itself. -/
def statementWords (nested : Nested) (rows : Parser Text) : List (String × Parser Text) :=
  [("KILL", kill), ("FLUSH", flush), ("ANALYZE", analysis nested), ("TRUNCATE", truncation nested),
   ("ATTACH", databaseAttachment nested), ("MSCK", partitionRepair), ("CACHE", tableCache nested),
   ("DROP", removal nested), ("DISCARD", discard), ("DECLARE", cursorDeclaration nested),
   ("FETCH", fetch), ("DELETE", rowDeletion nested), ("INSERT", insertion nested "INSERT"),
   ("REPLACE", insertion nested "REPLACE"), ("UNCACHE", tableUncache),
   ("UPDATE", rowUpdate nested), ("ALTER", alteration nested), ("CALL", procedureCall nested),
   ("COPY", copy nested rows), ("CLOSE", closing), ("SET", setting nested),
   ("SHOW", listing nested),
   ("USE", return "USE " ++ (← writtenName)), ("GRANT", grant), ("REVOKE", revocation),
   ("START", transactionStart), ("BEGIN", transactionBegin), ("END", commit),
   ("SAVEPOINT", return "SAVEPOINT " ++ (← writtenIdentifier)), ("RELEASE", release),
   ("COMMIT", commit), ("ROLLBACK", rollback), ("ASSERT", assertion nested),
   ("DEALLOCATE",
    return Text.phrase ["DEALLOCATE", ← written ["PREPARE"], ← writtenIdentifier]),
   ("EXECUTE", execution nested), ("EXEC", execution nested), ("MERGE", merge nested),
   ("PRAGMA", switch), ("UNLOAD", unload nested)]

/-- The statement of the first word in the list that comes next. -/
def fromWords : List (String × Parser Text) → Parser Text
  | [] => reject
  | (word, reader) :: rest => do if ← keyword word then reader else fromWords rest

/-- Whether a query comes next, judging by its first token. -/
def atStatementQuery : Parser Bool :=
  return (← atQuery) || (← atKeyword "VALUES") || (← atSymbol "(")

/-- A statement, where `rows` reads rows that stand in the text itself and `statement` the
statements that it contains. -/
def statementWith (nested : Nested) (rows : Parser Text) (statement : Parser Statement) :
    Parser Statement := do
  if ← keyword "CREATE" then creation nested statement
  else if ← atStatementQuery then return .other (← nested.query)
  else if ← keywords ["LOCK", "TABLES"] then return .other (← tableLocks)
  else if ← keywords ["UNLOCK", "TABLES"] then return .other "UNLOCK TABLES"
  else
    match ← oneOf ["DESC", "DESCRIBE", "EXPLAIN"] with
    | some word => explanation statement word
    | none =>
      if ← keyword "PREPARE" then return .other (← preparation statement)
      else return .other (← fromWords (statementWords nested rows))

/-- A statement that is at most the given number of levels deep, where `rows` reads rows that stand
in the text itself. -/
def statement (rows : Parser Text) : Nat → Parser Statement
  | 0 => throw .tooDeep
  | depth + 1 => statementWith (Nested.ofDepth depth) rows (statement rows depth)

end Parser

/-- How many levels deep statements, queries and expressions may be nested. -/
def nestingLimit : Nat := 50

/-- The statements of a text. What stands after the word `END` is not looked at. -/
def Statement.read (sql : Text) : Except SyntaxError (List Statement) :=
  match Lexeme.scan sql with
  | .error error => .error (.lexical error)
  | .ok lexemes =>
    let statement := Parser.statement (Parser.inlineRows lexemes) nestingLimit
    (Parser.statements statement (Lexeme.tokens lexemes)).map (·.1)

end TableModel.Ddl
