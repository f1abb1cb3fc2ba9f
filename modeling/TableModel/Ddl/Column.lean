import TableModel.Ddl.Nested
import TableModel.Ddl.Literal

/-!
# Column definitions

A column definition is a name, a data type and options in any order and number. Of the options only
`NOT NULL` and `COMMENT` matter to what is made of a table; the others are kept as they are written.
-/

namespace TableModel.Ddl

/-- An option of a column. -/
inductive ColumnOption where
  | notNull
  | comment (text : Text)
  /-- Any other option, in its written form. -/
  | other (text : Text)
  deriving DecidableEq, Repr

def ColumnOption.write : ColumnOption → Text
  | .notNull => "NOT NULL"
  | .comment text => "COMMENT " ++ Quote.single.write text
  | .other text => text

/-- A column definition. -/
structure ColumnDefinition where
  /-- The column's name. -/
  name : Identifier
  /-- The column's data type. -/
  type : DataType
  /-- The collation named right after the type or among the options, the last one if there are
  several. -/
  collation : Option ObjectName
  /-- The options in order, each with the name of its constraint, if it has one. -/
  options : List (Option Identifier × ColumnOption)

def writeConstraintName (name : Option Identifier) : Text :=
  match name with
  | some name => "CONSTRAINT " ++ name.write ++ [' ']
  | none => []

def writeOptions (options : List (Option Identifier × ColumnOption)) : Text :=
  options.flatMap fun (name, option) => ' ' :: (writeConstraintName name ++ option.write)

def ColumnDefinition.write (column : ColumnDefinition) : Text :=
  column.name.write ++ ' ' :: column.type.text ++
    clause "COLLATE" (column.collation.map ObjectName.write) ++ writeOptions column.options

namespace Parser

def referentialAction : Parser Text :=
  expectAmong [["RESTRICT"], ["CASCADE"], ["SET", "NULL"], ["NO", "ACTION"], ["SET", "DEFAULT"]]

/-- The actions of a foreign key on deletion and update in at most the given number of steps: each
at most once, in either order. -/
def referentialActionSteps (onDelete onUpdate : Text) : Nat → Parser Text
  | 0 => return Text.phrase [onDelete, onUpdate]
  | steps + 1 => do
    if ← provided onDelete.isEmpty (keywords ["ON", "DELETE"]) then
      referentialActionSteps ("ON DELETE " ++ (← referentialAction)) onUpdate steps
    else if ← provided onUpdate.isEmpty (keywords ["ON", "UPDATE"]) then
      referentialActionSteps onDelete ("ON UPDATE " ++ (← referentialAction)) steps
    else return Text.phrase [onDelete, onUpdate]

def referentialActions : Parser Text := referentialActionSteps [] [] 2

/-- When a constraint is checked: what has been said so far on each matter, written. -/
structure Timing where
  deferrable : Text
  initially : Text
  enforced : Text

def Timing.write (timing : Timing) : Text :=
  Text.phrase [timing.deferrable, timing.initially, timing.enforced]

/-- What is said on when a constraint is checked, in at most the given number of steps: each matter
at most once. -/
def timingSteps : Nat → Timing → Parser Timing
  | 0, timing => return timing
  | steps + 1, timing => do
    let unsaid := timing.deferrable.isEmpty
    if ← provided unsaid (keywords ["NOT", "DEFERRABLE"]) then
      timingSteps steps { timing with deferrable := "NOT DEFERRABLE" }
    else if ← provided unsaid (keyword "DEFERRABLE") then
      timingSteps steps { timing with deferrable := "DEFERRABLE" }
    else if ← provided timing.initially.isEmpty (keyword "INITIALLY") then
      let state ← expectOneOf ["DEFERRED", "IMMEDIATE"]
      timingSteps steps { timing with initially := "INITIALLY " ++ state }
    else if ← provided timing.enforced.isEmpty (keyword "ENFORCED") then
      timingSteps steps { timing with enforced := "ENFORCED" }
    else if ← provided timing.enforced.isEmpty (keywords ["NOT", "ENFORCED"]) then
      timingSteps steps { timing with enforced := "NOT ENFORCED" }
    else return timing

def timing : Parser Text := return (← timingSteps 3 ⟨[], [], []⟩).write

/-- The expression of a computed column, written after `AS`, and how it is kept. -/
def computed (nested : Nested) : Parser Text := do
  let value ← parenthesizedExpression nested
  return Text.phrase ["AS", inParentheses value, ← oneWord ["STORED", "VIRTUAL"]]

/-- What follows `GENERATED`: numbers in sequence or a computed value. Where it is neither, the
words that have been read are passed over. -/
def generated (nested : Nested) : Parser (Option ColumnOption) := do
  match ← among [["ALWAYS", "AS", "IDENTITY"], ["BY", "DEFAULT", "AS", "IDENTITY"]] with
  | some words =>
    return some (.other (Text.phrase ["GENERATED", words, ← enclosedSequenceOptions]))
  | none =>
    if ← keywords ["ALWAYS", "AS"] then
      if ← atSymbol "(" then
        return some (.other (Text.phrase ["GENERATED ALWAYS", ← computed nested]))
      else return none
    else return none

/-- The options that come after those that most columns have. A word that belongs to no option here
is taken all the same, and the search goes on after it. -/
def rareOption (nested : Nested) : Parser (Option ColumnOption) := do
  let _ ← keyword "AUTOINCREMENT"
  let _ ← keyword "ASC"
  let _ ← keyword "DESC"
  if ← keywords ["ON", "UPDATE"] then
    return some (.other ("ON UPDATE " ++ (← anyExpression nested)))
  else if ← keyword "GENERATED" then generated nested
  else if ← keyword "AS" then return some (.other (← computed nested))
  else
    let _ ← keyword "IDENTITY"
    return none

def reference : Parser Text :=
  return Text.phrase ["REFERENCES", ← writtenName, writeColumns (← optionalColumnNames),
    ← referentialActions, ← timing]

def columnOption (nested : Nested) : Parser (Option ColumnOption) := do
  if ← keywords ["CHARACTER", "SET"] then
    return some (.other ("CHARACTER SET " ++ (← writtenName)))
  else if ← keywords ["NOT", "NULL"] then return some .notNull
  else if ← keyword "COMMENT" then return some (.comment (← singleQuoted))
  else if ← keyword "NULL" then return some (.other "NULL")
  else if ← keyword "DEFAULT" then return some (.other ("DEFAULT " ++ (← anyExpression nested)))
  else if ← keywords ["PRIMARY", "KEY"] then
    return some (.other (Text.phrase ["PRIMARY KEY", ← timing]))
  else if ← keyword "UNIQUE" then return some (.other (Text.phrase ["UNIQUE", ← timing]))
  else if ← keyword "REFERENCES" then return some (.other (← reference))
  else if ← keyword "CHECK" then
    return some (.other ("CHECK " ++ inParentheses (← parenthesizedExpression nested)))
  else if ← keyword "AUTO_INCREMENT" then return some (.other "AUTO_INCREMENT")
  else rareOption nested

def plainColumnOptions (nested : Nested) : Nat → Parser (List ColumnOption)
  | 0 => return []
  | steps + 1 => do
    match ← columnOption nested with
    | some option => return option :: (← plainColumnOptions nested steps)
    | none => return []

/-- The options of a column and its collation, in at most the given number of steps. -/
def columnOptionSteps (nested : Nested) (collation : Option ObjectName) :
    Nat → Parser (Option ObjectName × List (Option Identifier × ColumnOption))
  | 0 => return (collation, [])
  | steps + 1 => do
    if ← keyword "CONSTRAINT" then
      let name ← identifier
      match ← columnOption nested with
      | some option =>
        let (collation, options) ← columnOptionSteps nested collation steps
        return (collation, (some name, option) :: options)
      | none => reject
    else
      match ← columnOption nested with
      | some option =>
        let (collation, options) ← columnOptionSteps nested collation steps
        return (collation, (none, option) :: options)
      | none =>
        if ← keyword "COLLATE" then columnOptionSteps nested (some (← objectName)) steps
        else return (collation, [])

def columnDefinition (nested : Nested) : Parser ColumnDefinition := do
  let name ← identifier
  let type ← dataType
  let collation ← if ← keyword "COLLATE" then some <$> objectName else pure none
  let (collation, options) ← columnOptionSteps nested collation ((← get).length + 1)
  return ⟨name, type, collation, options⟩

end Parser

end TableModel.Ddl
