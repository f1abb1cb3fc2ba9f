import TableModel.Ddl.DataType
import TableModel.Ddl.Token.Escape

/-!
# Literals

Numbers, strings, truth values and parameters. Numbers and strings keep the form they were given;
the value of a parameter is supplied elsewhere, under a name or a number. Of numbers consist the
options of a sequence.
-/

namespace TableModel.Ddl

def keywordValues : List (String × String) :=
  [("TRUE", "true"), ("FALSE", "false"), ("NULL", "NULL")]

/-- The value that a token is as a keyword, written. -/
def Token.keywordValue? (token : Token) : Option Text :=
  (keywordValues.find? fun (k, _) => token.isKeyword k).map fun (_, value) => value

def writeNumber (text : Text) (long : Bool) : Text := text ++ wordsIf long "L"

/-- The written form of a literal of one token that an expression may begin with, if the token is
one. -/
def Token.literal? : Token → Option Text
  | .number text long => some (writeNumber text long)
  | .string quote text => some (quote.write text)
  | .nationalString text => some ("N'" ++ text ++ "'")
  | .hexString text => some ("X'" ++ text ++ "'")
  | .placeholder text => some text
  | _ => none

namespace Parser

def parameterName : Parser Text := do
  match ← next with
  | .word text | .quotedName text | .number text false => return text
  | _ => reject

def parameter : Parser (Option Text) := do
  match ← peek with
  | some (.placeholder text) => let _ ← next; return some text
  | some (.symbol [':']) => let _ ← next; return some (':' :: (← parameterName))
  | some (.symbol ['@']) => let _ ← next; return some ('@' :: (← parameterName))
  | _ => return none

/-- A number that carries no sign, or a parameter in its place. -/
def numberValue : Parser Text := do
  match ← parameter with
  | some text => return text
  | none =>
    match ← next with
    | .number text long => return writeNumber text long
    | _ => reject

/-- A number that may carry a sign, or a parameter in its place. -/
def signedNumber : Parser Text := do
  if ← symbol "+" then return '+' :: (← numberValue)
  else if ← symbol "-" then return '-' :: (← numberValue)
  else numberValue

def literalValue : Parser Text := do
  match ← parameter with
  | some text => return text
  | none =>
    match ← next with
    | .escapedString text => return writeEscaped text
    | token =>
      match token.keywordValue?, token.literal? with
      | some text, _ | none, some text => return text
      | none, none => reject

end Parser

end TableModel.Ddl

namespace TableModel.Ddl.Parser

/-! ### Options of a sequence of numbers

A sequence says by how much its numbers grow, between which bounds they stay, where they begin, how
many are fetched ahead and whether they start over. All of that may be missing, but the order is
fixed. -/

/-- A bound of a sequence, which may be waived. -/
def sequenceBound (word : String) : Parser Text := do
  if ← keywords ["NO", word] then return "NO " ++ word else part [word] signedNumber

/-- A number after a word, with another word between them that may be missing. -/
def sequenceStep (word filler : String) : Parser Text := do
  if ← keyword word then return Text.phrase [word, ← written [filler], ← signedNumber]
  else return []

def sequenceOptions : Parser Text :=
  return Text.phrase [← sequenceStep "INCREMENT" "BY", ← sequenceBound "MINVALUE",
    ← sequenceBound "MAXVALUE", ← sequenceStep "START" "WITH", ← part ["CACHE"] signedNumber,
    (← among [["NO", "CYCLE"], ["CYCLE"]]).getD []]

/-- The options of a sequence in parentheses, which may be missing. They are written with a space
inside either parenthesis. -/
def enclosedSequenceOptions : Parser Text := do
  if ← symbol "(" then
    let options ← sequenceOptions
    expectSymbol ")"
    return if options.isEmpty then [] else inParentheses (' ' :: (options ++ [' ']))
  else return []

end TableModel.Ddl.Parser
