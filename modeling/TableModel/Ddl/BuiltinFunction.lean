import TableModel.Ddl.FunctionCall
import TableModel.Ddl.Precedence

/-!
# Functions with words among their arguments

The functions of the grammar itself, each read after its name.
-/

namespace TableModel.Ddl.Parser

def conversionFormat : Parser Text :=
  return Text.phrase [← literalValue, ← part ["AT", "TIME", "ZONE"] literalValue]

def cast (nested : Nested) (name : String) : Parser Text := do
  expectSymbol "("
  let value ← anyExpression nested
  expectKeyword "AS"
  let text := Text.phrase [value, "AS", (← dataType).text, ← part ["FORMAT"] conversionFormat]
  expectSymbol ")"
  return name ++ inParentheses text

def convert (nested : Nested) : Parser Text := do
  expectSymbol "("
  let value ← anyExpression nested
  if ← keyword "USING" then
    let charset ← writtenName
    expectSymbol ")"
    return "CONVERT" ++ inParentheses (value ++ " USING " ++ charset)
  else
    expectSymbol ","
    let text := value ++ ", " ++
      Text.phrase [(← dataType).text, ← part ["CHARACTER", "SET"] writtenName]
    expectSymbol ")"
    return "CONVERT" ++ inParentheses text

def extract (nested : Nested) : Parser Text := do
  expectSymbol "("
  let field ← dateTimeField
  expectKeyword "FROM"
  let value ← anyExpression nested
  expectSymbol ")"
  return "EXTRACT" ++ inParentheses (Text.phrase [field, "FROM", value])

/-- A number rounded to its places, or a date and time rounded to a field, after the name of the
direction. -/
def rounding (nested : Nested) (name : String) : Parser Text := do
  expectSymbol "("
  let value ← anyExpression nested
  let unit ←
    if ← keyword "TO" then do
      let field ← dateTimeField
      pure (" TO " ++ field)
    else if ← symbol "," then
      match ← next with
      | .number text long => pure (", " ++ writeNumber text long)
      | _ => reject
    else pure []
  expectSymbol ")"
  return name ++ inParentheses (value ++ unit)

def position (nested : Nested) : Parser Text := do
  expectSymbol "("
  let sought ← nested.expression Precedence.between
  expectKeyword "IN"
  let whole ← anyExpression nested
  expectSymbol ")"
  return "POSITION" ++ inParentheses (sought ++ " IN " ++ whole)

/-- A part of a text. If a comma stands after the text, the numbers are written with commas, and
with words otherwise, whichever way each of them was given. -/
def substring (nested : Nested) : Parser Text := do
  expectSymbol "("
  let value ← anyExpression nested
  let comma ← symbol ","
  let start ←
    if ← either (return comma) (keyword "FROM") then some <$> anyExpression nested else pure none
  let length ←
    if ← either (keyword "FOR") (symbol ",") then some <$> anyExpression nested else pure none
  expectSymbol ")"
  let item (word : String) (number : Option Text) : Text :=
    match number with
    | some n => if comma then ", " ++ n else ' ' :: (word ++ ' ' :: n)
    | none => []
  return "SUBSTRING" ++ inParentheses (value ++ item "FROM" start ++ item "FOR" length)

def overlay (nested : Nested) : Parser Text := do
  expectSymbol "("
  let value ← anyExpression nested
  expectKeyword "PLACING"
  let new ← anyExpression nested
  expectKeyword "FROM"
  let start ← anyExpression nested
  let length ← part ["FOR"] (anyExpression nested)
  expectSymbol ")"
  return "OVERLAY" ++ inParentheses (Text.phrase [value, "PLACING", new, "FROM", start, length])

/-- A text without what stands at its ends. A comma behind a lone text is passed over. -/
def trim (nested : Nested) : Parser Text := do
  expectSymbol "("
  let side ← oneWord ["BOTH", "LEADING", "TRAILING"]
  let first ← anyExpression nested
  let rest ←
    if ← keyword "FROM" then do
      let value ← anyExpression nested
      pure ("FROM " ++ value)
    else do
      let _ ← symbol ","
      pure []
  expectSymbol ")"
  return "TRIM" ++ inParentheses (Text.phrase [side, first, rest])

def fullTextMatch : Parser Text := do
  let columns ← columnNames
  expectKeyword "AGAINST"
  expectSymbol "("
  let sought ← literalValue
  let mode ← among [["IN", "NATURAL", "LANGUAGE", "MODE", "WITH", "QUERY", "EXPANSION"],
    ["IN", "NATURAL", "LANGUAGE", "MODE"], ["IN", "BOOLEAN", "MODE"],
    ["WITH", "QUERY", "EXPANSION"]]
  expectSymbol ")"
  return Text.phrase ["MATCH", writeColumns columns, "AGAINST",
    inParentheses (Text.phrase [sought, mode.getD []])]

end TableModel.Ddl.Parser
