import TableModel.Ddl.Literal
import TableModel.Ddl.Nested
import TableModel.Ddl.Parser

/-!
# Sessions

What changes a session and no table: transactions, cursors and the values of variables.
-/

namespace TableModel.Ddl.Parser

/-! ### Transactions

How transactions begin and end, what they may do, and the points in between that they can go back
to. -/

def transactionMode : Parser (Option Text) :=
  among [["ISOLATION", "LEVEL", "READ", "UNCOMMITTED"], ["ISOLATION", "LEVEL", "READ", "COMMITTED"],
    ["ISOLATION", "LEVEL", "REPEATABLE", "READ"], ["ISOLATION", "LEVEL", "SERIALIZABLE"],
    ["READ", "ONLY"], ["READ", "WRITE"]]

/-- What a transaction may see and do, in at most the given number of steps. A comma between two
matters may be missing, but one has to be followed by a matter. -/
def transactionModeSteps (required : Bool) : Nat → Parser (List Text)
  | 0 => return []
  | steps + 1 => do
    match ← transactionMode with
    | some mode =>
      let comma ← symbol ","
      return mode :: (← transactionModeSteps comma steps)
    | none =>
      if required || (beginWith ["ISOLATION", "LEVEL"] (← get)) then reject else return []

def transactionModes : Parser Text := do
  return Text.commaList (← transactionModeSteps false ((← get).length + 1))

def transactionBegin : Parser Text := do
  let _ ← oneOf ["TRANSACTION", "WORK"]
  return Text.phrase ["BEGIN TRANSACTION", ← transactionModes]

def transactionStart : Parser Text := do
  expectKeyword "TRANSACTION"
  return Text.phrase ["START TRANSACTION", ← transactionModes]

def transactionChain : Parser Text := do
  let _ ← oneOf ["TRANSACTION", "WORK"]
  if ← keyword "AND" then
    let negated ← keyword "NO"
    expectKeyword "CHAIN"
    return wordsIf (!negated) "AND CHAIN"
  else return []

def commit : Parser Text := return Text.phrase ["COMMIT", ← transactionChain]

/-- The undoing of a transaction, or of its part after a point, after `ROLLBACK`. -/
def rollback : Parser Text := do
  let chain ← transactionChain
  if ← keyword "TO" then
    let _ ← keyword "SAVEPOINT"
    return Text.phrase ["ROLLBACK", chain, "TO SAVEPOINT", ← writtenIdentifier]
  else return Text.phrase ["ROLLBACK", chain]

def release : Parser Text := do
  let _ ← keyword "SAVEPOINT"
  return "RELEASE SAVEPOINT " ++ (← writtenIdentifier)

/-! ### Cursors

A cursor is declared with a query, steps through its rows and is closed. -/

def cursorDeclaration (nested : Nested) : Parser Text := do
  let head := Text.phrase ["DECLARE", ← writtenIdentifier, ← written ["BINARY"],
    ← oneWord ["INSENSITIVE", "ASENSITIVE"], (← among [["SCROLL"], ["NO", "SCROLL"]]).getD []]
  expectKeyword "CURSOR"
  let hold ←
    match ← oneOf ["WITH", "WITHOUT"] with
    | some word => do
      expectKeyword "HOLD"
      pure (Text.phrase [word, "HOLD"])
    | none => pure []
  expectKeyword "FOR"
  return Text.phrase [head, "CURSOR", hold, "FOR", ← nested.query]

def fetchDirection : Parser Text := do
  match ← oneOf ["NEXT", "PRIOR", "FIRST", "LAST"] with
  | some word => return word
  | none =>
    match ← oneOf ["ABSOLUTE", "RELATIVE"] with
    | some word => return Text.phrase [word, ← numberValue]
    | none =>
      let direction ← oneWord ["FORWARD", "BACKWARD"]
      if ← keyword "ALL" then return Text.phrase [direction, "ALL"]
      else return Text.phrase [direction, ← numberValue]

def fetch : Parser Text := do
  let direction ← fetchDirection
  let _ ← expectOneOf ["FROM", "IN"]
  return Text.phrase ["FETCH", direction, "IN", ← writtenIdentifier, ← part ["INTO"] writtenName]

def closing : Parser Text := do
  if ← keyword "ALL" then return "CLOSE ALL" else return "CLOSE " ++ (← writtenIdentifier)

/-! ### Variables

`SET` gives values to variables. For the role, the time zone, the character set and transactions it
has forms of its own; which one applies depends on the written name, in some cases on its case. -/

/-- A value, which may be a query without parentheses. It is written with them. -/
def settingValue (nested : Nested) : Parser Text := do
  if ← atQuery then return inParentheses (← nested.query) else anyExpression nested

/-- What a reader reads. Whatever goes wrong there counts as an unexpected token, nesting that is
too deep included. -/
def orUnexpected {α : Type} (p : Parser α) : Parser α := fun tokens =>
  match p tokens with
  | .ok result => .ok result
  | .error _ => .error .unexpected

/-- The role that is taken on, where that is what is set. -/
def roleSetting : Parser Text := do
  expectKeyword "ROLE"
  if ← keyword "NONE" then return "ROLE NONE" else return "ROLE " ++ (← writtenIdentifier)

def namesSetting : Parser Text := do
  if ← keyword "DEFAULT" then return "SET NAMES DEFAULT"
  else return Text.phrase ["SET NAMES", ← literalText, ← part ["COLLATE"] literalText]

def specialSetting (nested : Nested) (scope : Option String) (name : Text) : Parser Text := do
  if Text.sameFolded name "TIMEZONE" then
    return Text.phrase ["SET", wordsIf (scope == some "LOCAL") "LOCAL", "TIME ZONE",
      ← orUnexpected (anyExpression nested)]
  else if name == "CHARACTERISTICS".toList then
    expectKeywords ["AS", "TRANSACTION"]
    return Text.phrase ["SET SESSION CHARACTERISTICS AS TRANSACTION", ← transactionModes]
  else if name == "TRANSACTION".toList && scope.isNone then
    if ← keyword "SNAPSHOT" then return "SET TRANSACTION SNAPSHOT " ++ (← literalValue)
    else return Text.phrase ["SET TRANSACTION", ← transactionModes]
  else reject

def variableSetting (nested : Nested) (scope : Option String) : Parser Text := do
  let name ← if ← keywords ["TIME", "ZONE"] then pure "TIMEZONE".toList else writtenName
  if Text.sameFolded name "NAMES" then namesSetting
  else if ← either (symbol "=") (keyword "TO") then
    let values ← commaSeparated (orUnexpected (settingValue nested))
    let hive := scope == some "HIVEVAR"
    return Text.phrase ["SET", wordsIf (scope == some "LOCAL") "LOCAL",
      wordsIf hive "HIVEVAR:" ++ name, "=", Text.commaList values]
  else specialSetting nested scope name

def setting (nested : Nested) : Parser Text := do
  let scope ← oneOf ["SESSION", "LOCAL", "HIVEVAR"]
  if scope == some "HIVEVAR" then
    expectSymbol ":"
    variableSetting nested scope
  else
    match ← maybe roleSetting with
    | some role => return Text.phrase ["SET", scope.getD "", role]
    | none => variableSetting nested scope

end TableModel.Ddl.Parser
