import TableModel.Ddl.Nested
import TableModel.Ddl.TableSource

/-!
# Care of tables and the server

Statements that keep tables and the server in order: locks, caches, statistics, logs, connections
and the emptying of tables.
-/

namespace TableModel.Ddl.Parser

def tableLock : Parser Text :=
  return Text.phrase [← writtenIdentifier, ← writtenAlias ["READ", "WRITE", "LOW_PRIORITY"],
    ← expectAmong [["READ", "LOCAL"], ["READ"], ["WRITE"], ["LOW_PRIORITY", "WRITE"]]]

def tableLocks : Parser Text :=
  return "LOCK TABLES " ++ Text.commaList (← commaSeparated tableLock)

def kill : Parser Text :=
  return Text.phrase ["KILL", ← oneWord ["CONNECTION", "QUERY"], Text.ofNat (← natural sizeBound)]

structure FlushedTables where
  names : Text
  lock : Text
  exported : Text

/-- The tables that are flushed, in at most the given number of steps: names, a lock and an export
in any order, as long as words come; words without a meaning here are passed over, and so is the
token after the last word. -/
def flushedTableSteps (tables : FlushedTables) : Nat → Parser Text
  | 0 => return Text.phrase [tables.names, tables.lock, tables.exported]
  | steps + 1 => do
    match ← get with
    | [] => return Text.phrase [tables.names, tables.lock, tables.exported]
    | token :: rest =>
      if (token.wordText?).isNone then
        set rest
        return Text.phrase [tables.names, tables.lock, tables.exported]
      else if token.isPlainWord then
        flushedTableSteps { tables with names := ← objectNames } steps
      else
        set rest
        if token.isKeyword "WITH" then
          let lock ← keywords ["READ", "LOCK"]
          flushedTableSteps { tables with lock := wordsIf lock "WITH READ LOCK" } steps
        else if token.isKeyword "FOR" then
          let exported ← keyword "EXPORT"
          flushedTableSteps { tables with exported := wordsIf exported "FOR EXPORT" } steps
        else flushedTableSteps tables steps

def flush : Parser Text := do
  let place ← oneWord ["NO_WRITE_TO_BINLOG", "LOCAL"]
  let kind ← expectAmong [["BINARY", "LOGS"], ["ENGINE", "LOGS"], ["ERROR", "LOGS"],
    ["GENERAL", "LOGS"], ["HOSTS"], ["PRIVILEGES"], ["OPTIMIZER_COSTS"], ["RELAY", "LOGS"],
    ["SLOW", "LOGS"], ["STATUS"], ["USER_RESOURCES"], ["LOGS"], ["TABLES"]]
  let details ←
    if kind == "RELAY LOGS".toList then part ["FOR", "CHANNEL"] writtenName
    else if kind == "TABLES".toList then do
      flushedTableSteps ⟨[], [], []⟩ ((← get).length + 1)
    else pure []
  return Text.phrase ["FLUSH", place, kind, details]

/-- What is said on the statistics of a table, written, as far as it has been said. -/
structure Analysis where
  partitions : Text
  statistics : Text
  scan : Text
  cache : Text
  columns : Text

/-- What is said on the statistics of a table, in at most the given number of steps. -/
def analysisSteps (nested : Nested) (analysis : Analysis) : Nat → Parser Analysis
  | 0 => return analysis
  | steps + 1 => do
    match ← oneOf ["PARTITION", "NOSCAN", "FOR", "CACHE", "COMPUTE"] with
    | none => return analysis
    | some "PARTITION" =>
      let parts ← expressionsInParentheses nested
      analysisSteps nested { analysis with partitions := "PARTITION " ++ parts } steps
    | some "NOSCAN" => analysisSteps nested { analysis with scan := "NOSCAN" } steps
    | some "FOR" =>
      expectKeyword "COLUMNS"
      let names ← maybe (commaSeparated identifier)
      let columns := Text.phrase ["FOR COLUMNS", writeNames (names.getD [])]
      analysisSteps nested { analysis with columns } steps
    | some "CACHE" =>
      expectKeyword "METADATA"
      analysisSteps nested { analysis with cache := "CACHE METADATA" } steps
    | some _ =>
      expectKeyword "STATISTICS"
      analysisSteps nested { analysis with statistics := "COMPUTE STATISTICS" } steps

def analysis (nested : Nested) : Parser Text := do
  expectKeyword "TABLE"
  let table ← writtenName
  let analysis ← analysisSteps nested ⟨[], [], [], [], []⟩ ((← get).length + 1)
  return Text.phrase ["ANALYZE TABLE", table, analysis.partitions, analysis.statistics,
    analysis.scan, analysis.cache, analysis.columns]

def truncation (nested : Nested) : Parser Text :=
  return Text.phrase ["TRUNCATE", ← written ["TABLE"], ← written ["ONLY"], ← objectNames,
    ← part ["PARTITION"] (expressionsInParentheses nested),
    ← part ["ON", "CLUSTER"] writtenIdentifier]

/-- The repair of a table's parts after `MSCK`. The word on its parts may stand alone and says
nothing then. -/
def partitionRepair : Parser Text := do
  let repair ← written ["REPAIR"]
  expectKeyword "TABLE"
  let table ← writtenName
  let action ← among [["ADD", "PARTITIONS"], ["DROP", "PARTITIONS"], ["SYNC", "PARTITIONS"]]
  if action.isNone then
    let _ ← keyword "PARTITIONS"
  return Text.phrase ["MSCK", repair, "TABLE", table, action.getD []]

/-- The query that a cached table is filled from, up to the end of the text. -/
def cachedRows (nested : Nested) : Parser Text := do
  match ← peek with
  | none => return []
  | some token =>
    if token.wordText?.isSome then return Text.phrase [← written ["AS"], ← nested.query]
    else reject

def tableCache (nested : Nested) : Parser Text := do
  let flag ← if ← atKeyword "TABLE" then pure [] else writtenName
  expectKeyword "TABLE"
  let table ← writtenName
  let options ←
    if ← keyword "OPTIONS" then do
      let options ← properties nested
      pure ("OPTIONS" ++ options)
    else pure []
  return Text.phrase ["CACHE", flag, "TABLE", table, options, ← cachedRows nested]

def tableUncache : Parser Text := do
  expectKeyword "TABLE"
  return Text.phrase ["UNCACHE TABLE", ← written ["IF", "EXISTS"], ← writtenName]

def discard : Parser Text := do
  match ← oneOf ["ALL", "PLANS", "SEQUENCES"] with
  | some word => return Text.phrase ["DISCARD", word]
  | none =>
    let _ ← expectOneOf ["TEMP", "TEMPORARY"]
    return "DISCARD TEMP"

def databaseAttachment (nested : Nested) : Parser Text := do
  let word ← written ["DATABASE"]
  let file ← anyExpression nested
  expectKeyword "AS"
  return Text.phrase ["ATTACH", word, file, "AS", ← writtenIdentifier]

end TableModel.Ddl.Parser
