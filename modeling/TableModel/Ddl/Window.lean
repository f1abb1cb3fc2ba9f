import TableModel.Ddl.Nested

/-!
# Windows

A window says which rows a function is computed over: a window to start from, a partition, an
ordering and a frame around the current row, each of which may be missing. The distance of a frame
from the current row may be a span of time.
-/

namespace TableModel.Ddl

/-! ### Spans of time

An interval is an expression and a unit of time. The unit may carry a precision, and a unit to which
the span goes on may follow. -/

def intervalUnits : List String :=
  ["YEAR", "MONTH", "WEEK", "DAY", "HOUR", "MINUTE", "SECOND", "CENTURY", "DECADE", "DOW", "DOY",
   "EPOCH", "ISODOW", "ISOYEAR", "JULIAN", "MICROSECOND", "MICROSECONDS", "MILLENIUM",
   "MILLENNIUM", "MILLISECOND", "MILLISECONDS", "NANOSECOND", "NANOSECONDS", "QUARTER", "TIMEZONE",
   "TIMEZONE_HOUR", "TIMEZONE_MINUTE"]

def dateTimeFields : List String :=
  intervalUnits ++ ["DAYOFWEEK", "DAYOFYEAR", "DATE", "DATETIME", "ISOWEEK", "TIME",
    "TIMEZONE_ABBR", "TIMEZONE_REGION"]

namespace Parser

def dateTimeField : Parser Text := expectOneOf dateTimeFields

/-- The precision of seconds and of their fraction in parentheses, written, or nothing. -/
def secondsPrecision : Parser Text := do
  if ← symbol "(" then
    let leading ← natural sizeBound
    let fraction ←
      if ← symbol "," then do
        let n ← natural sizeBound
        pure [Text.ofNat n]
      else pure []
    expectSymbol ")"
    return inParentheses (Text.commaList (Text.ofNat leading :: fraction))
  else return []

/-- The unit to which an interval goes on, with its precision if it is the second. -/
def intervalEnd : Parser Text := do
  let field ← dateTimeField
  if field == "SECOND".toList then return Text.phrase [field, ← optionalSize] else return field

def interval (nested : Nested) : Parser Text := do
  let value ← anyExpression nested
  let unit ← expectOneOf intervalUnits
  if unit == "SECOND".toList then
    return Text.phrase ["INTERVAL", value, unit, ← secondsPrecision]
  else return Text.phrase ["INTERVAL", value, unit, ← optionalSize, ← part ["TO"] intervalEnd]

end Parser

end TableModel.Ddl

namespace TableModel.Ddl.Parser

/-! ### Frames and windows -/

def frameBound (nested : Nested) : Parser Text := do
  if ← keywords ["CURRENT", "ROW"] then return "CURRENT ROW"
  else
    let distance ←
      if ← keyword "UNBOUNDED" then pure "UNBOUNDED".toList
      else
        match ← peek with
        | some (.string .single _) => interval nested
        | _ => anyExpression nested
    return Text.phrase [distance, ← expectOneOf ["PRECEDING", "FOLLOWING"]]

def frame (nested : Nested) : Parser Text := do
  let units ← expectOneOf ["ROWS", "RANGE", "GROUPS"]
  if ← keyword "BETWEEN" then
    let first ← frameBound nested
    expectKeyword "AND"
    return Text.phrase [units, "BETWEEN", first, "AND", ← frameBound nested]
  else return Text.phrase [units, ← frameBound nested]

/-- The window that another one starts from: any name but a word of the grammar. -/
def windowName : Parser Text := do
  if (← peek).any Token.isPlainWord then writtenIdentifier else return []

/-- A window after its opening parenthesis, written with the parentheses. -/
def window (nested : Nested) : Parser Text := do
  let head := Text.phrase [← windowName, ← part ["PARTITION", "BY"] (expressionList nested),
    ← part ["ORDER", "BY"] (orderKeys nested)]
  if ← symbol ")" then return inParentheses head
  else
    let frame ← frame nested
    expectSymbol ")"
    return inParentheses (Text.phrase [head, frame])

/-- A window in parentheses or the name of one. -/
def windowReference (nested : Nested) : Parser Text := do
  if ← symbol "(" then window nested else writtenIdentifier

def namedWindow (nested : Nested) : Parser Text := do
  let name ← writtenIdentifier
  expectKeyword "AS"
  expectSymbol "("
  return Text.phrase [name, "AS", ← window nested]

end TableModel.Ddl.Parser
