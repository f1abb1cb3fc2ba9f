import TableModel.Ddl.Literal
import TableModel.Ddl.Window

/-!
# Calls of functions

Behind the arguments of a call may stand clauses on their order and number, and behind the call what
it does with nulls and the window it is computed over. An argument may be named, and it may be a
wildcard.
-/

namespace TableModel.Ddl.Parser

/-- What goes on a name that may begin a qualified wildcard, in at most the given number of steps;
`none` where it turns out to be no wildcard. A point is followed by a name or a star. -/
def wildcardSteps : Nat → Parser (Option Text)
  | 0 => return none
  | steps + 1 => do
    if ← symbol "." then
      if ← symbol "*" then return some ".*"
      else
        match (← next).namePart? with
        | some name => return (← wildcardSteps steps).map fun rest => '.' :: (name.write ++ rest)
        | none => reject
    else return none

/-- A star, which may be qualified by a name, if that comes next. -/
def wildcard : Parser (Option Text) := do
  if ← symbol "*" then return some ['*']
  else
    let tokens ← get
    match tokens.head?.bind Token.namePart? with
    | some name =>
      set tokens.tail
      match ← wildcardSteps tokens.length with
      | some rest => return some (name.write ++ rest)
      | none => set tokens; return none
    | none => return none

def wildcardOrExpression (nested : Nested) : Parser Text := do
  match ← wildcard with
  | some text => return text
  | none => anyExpression nested

/-- The name of an argument with the arrow behind it, or nothing. -/
def argumentName : Parser Text := do
  match ← get with
  | token :: arrow :: rest =>
    match token.identifier?, arrow.isSymbol "=>" with
    | some name, true => set rest; return name.write ++ " =>"
    | _, _ => return []
  | _ => return []

def argument (nested : Nested) : Parser Text :=
  return Text.phrase [← argumentName, ← wildcardOrExpression nested]

/-- Whether repeated arguments count, written: `ALL` or `DISTINCT` but not both. -/
def repetition : Parser Text := do
  let all ← written ["ALL"]
  let distinct ← written ["DISTINCT"]
  if all.isEmpty || distinct.isEmpty then return all ++ distinct else reject

def overflowFiller (nested : Nested) : Parser Text := do
  match ← peek with
  | some (.string .single _) | some (.escapedString _) | some (.nationalString _)
  | some (.hexString _) => anyExpression nested
  | some token =>
    if token.isKeyword "WITH" || token.isKeyword "WITHOUT" then return [] else reject
  | none => reject

def overflow (nested : Nested) : Parser Text := do
  if ← keyword "ERROR" then return "ERROR"
  else
    expectKeyword "TRUNCATE"
    let filler ← overflowFiller nested
    let count ← expectOneOf ["WITH", "WITHOUT"]
    expectKeyword "COUNT"
    return Text.phrase ["TRUNCATE", filler, count, "COUNT"]

def callArguments (nested : Nested) : Parser Text := do
  expectSymbol "("
  if ← symbol ")" then return "()"
  else
    let text := Text.phrase [← repetition, Text.commaList (← commaSeparated (argument nested)),
      ← part ["ORDER", "BY"] (orderKeys nested), ← part ["LIMIT"] (anyExpression nested),
      ← part ["SEPARATOR"] literalValue, ← part ["ON", "OVERFLOW"] (overflow nested)]
    expectSymbol ")"
    return inParentheses text

def groupOrder (nested : Nested) : Parser Text := do
  expectSymbol "("
  expectKeywords ["ORDER", "BY"]
  let keys ← orderKeys nested
  expectSymbol ")"
  return inParentheses ("ORDER BY " ++ keys)

def nullTreatment : Parser Text := do
  match ← oneOf ["RESPECT", "IGNORE"] with
  | some k => expectKeyword "NULLS"; return Text.phrase [k, "NULLS"]
  | none => return []

/-- A call from its opening parenthesis on, after the function's written name. -/
def call (nested : Nested) (name : Text) : Parser Text :=
  return Text.phrase [name ++ (← callArguments nested),
    ← part ["WITHIN", "GROUP"] (groupOrder nested), ← nullTreatment,
    ← part ["OVER"] (windowReference nested)]

end TableModel.Ddl.Parser
