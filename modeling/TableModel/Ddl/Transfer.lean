import TableModel.Ddl.Nested
import TableModel.Ddl.Token

/-!
# Transfers of rows

Rows are copied between tables and files, with options on the form of the file in a newer and an
older way of writing. Rows that are copied from the input of the program stand in the text itself.
-/

namespace TableModel.Ddl

/-! ### Rows that stand in the text

They stand behind the semicolon after the copy. A tab or the end of a line ends a value, so rows are
not kept apart, and what stands behind the last of these is no value. A backslash with the word `N`
is a value of its own, the missing one, and a backslash with a point ends the rows. -/

/-- The text of a token inside a value. Quotes and escapes inside a string or a name stand for
themselves. -/
def Token.spelling : Token → Text
  | .word text | .placeholder text | .symbol text => text
  | .quotedName text => "\x60" ++ text ++ "\x60"
  | .number text long => text ++ (if long then ['L'] else [])
  | .string quote text => quote.char :: (text ++ [quote.char])
  | .escapedString text => "E'" ++ text ++ "'"
  | .nationalString text => "N'" ++ text ++ "'"
  | .hexString text => "X'" ++ text ++ "'"

def Lexeme.next? : List Lexeme → Option (Token × List Lexeme)
  | [] => none
  | .token t :: rest => some (t, rest)
  | .gap _ :: rest | .separator :: rest => next? rest

/-- The values of the rows that the lexemes begin with, where `pending` is what the next value
begins with, and the lexemes after the rows; in at most the given number of steps. A missing value
is `none`. -/
def inlineValuesSteps (pending : Text) : Nat → List Lexeme → List (Option Text) × List Lexeme
  | 0, lexemes => ([], lexemes)
  | _ + 1, [] => ([], [])
  | steps + 1, .separator :: rest =>
    let (values, rest) := inlineValuesSteps [] steps rest
    (some pending :: values, rest)
  | steps + 1, .gap text :: rest => inlineValuesSteps (pending ++ text) steps rest
  | steps + 1, .token token :: rest =>
    if token.isSymbol "\\" then
      match Lexeme.next? rest with
      | none => ([], [])
      | some (follower, rest) =>
        if follower.isSymbol "." then ([], rest)
        else
          let (values, rest) := inlineValuesSteps pending steps rest
          (if follower == .word ['N'] || follower == .quotedName ['N'] then none :: values
            else values, rest)
    else inlineValuesSteps (pending ++ token.spelling) steps rest

/-- The values of the rows that the lexemes begin with, and the lexemes after the rows. -/
def inlineValues (lexemes : List Lexeme) : List (Option Text) × List Lexeme :=
  inlineValuesSteps [] lexemes.length lexemes

/-- The written form of the values, with the marks around them, if there are any. -/
def writeInlineValues (values : List (Option Text)) : Text :=
  if values.isEmpty then []
  else ";\n" ++ Text.join ['\t'] (values.map (·.getD "\\N")) ++ "\n\\."

end TableModel.Ddl

namespace TableModel.Ddl.Parser

/-! ### Copies -/

/-- A string of one byte, in single quotes. -/
def quotedByte : Parser Text := do
  match ← literalText with
  | [c] => if c.toNat < 128 then return "'" ++ [c] ++ "'" else reject
  | _ => reject

/-- Whether an option holds, written only where it does not. -/
def optionFlag : Parser Text := do
  if ← keyword "FALSE" then return "FALSE"
  else
    let _ ← keyword "TRUE"
    return []

def copyOption : Parser Text := do
  match ← oneOf ["FORMAT", "FREEZE", "DELIMITER", "NULL", "HEADER", "QUOTE", "ESCAPE",
      "FORCE_QUOTE", "FORCE_NOT_NULL", "FORCE_NULL", "ENCODING"] with
  | none => reject
  | some word =>
    let value ←
      match word with
      | "FORMAT" => writtenIdentifier
      | "FREEZE" | "HEADER" => optionFlag
      | "DELIMITER" | "QUOTE" | "ESCAPE" => quotedByte
      | "NULL" | "ENCODING" => do
        let text ← literalText
        pure (Quote.single.write text)
      | _ => do
        let columns ← columnNames
        pure (writeColumns columns)
    return Text.phrase [word, value]

/-- An option of a copy on the form of its lines, in the older way of writing. -/
def olderLineOption : Parser Text := do
  match ← among [["HEADER"], ["QUOTE"], ["ESCAPE"], ["FORCE", "NOT", "NULL"],
      ["FORCE", "QUOTE"]] with
  | none => reject
  | some words =>
    if words == "HEADER".toList then return words
    else if words == "QUOTE".toList || words == "ESCAPE".toList then
      let _ ← keyword "AS"
      return Text.phrase [words, ← quotedByte]
    else return Text.phrase [words, writeNames (← commaSeparated identifier)]

/-- As many options as come, written, in at most the given number of steps. -/
def optionSteps (option : Parser Text) : Nat → Parser Text
  | 0 => return []
  | steps + 1 => do
    match ← maybe option with
    | some text => return Text.phrase [text, ← optionSteps option steps]
    | none => return []

/-- An option of a copy in the older way of writing. A space follows `CSV` even where nothing is said
on the lines. -/
def olderOption : Parser Text := do
  match ← oneOf ["BINARY", "DELIMITER", "NULL", "CSV"] with
  | none => reject
  | some "BINARY" => return "BINARY"
  | some "CSV" => return "CSV " ++ (← optionSteps olderLineOption (← get).length)
  | some word =>
    let _ ← keyword "AS"
    if word == "DELIMITER" then return Text.phrase [word, ← quotedByte]
    else return Text.phrase [word, Quote.single.write (← literalText)]

/-- Where the rows of a copy come from or go to outside. -/
def copyTarget : Parser Text := do
  match ← oneOf ["STDIN", "STDOUT"] with
  | some word => return word
  | none => return Text.phrase [← written ["PROGRAM"], Quote.single.write (← literalText)]

/-- The rows that stand in the text right after the tokens read so far, written, where `lexemes` are
those of the whole text. -/
def inlineRows (lexemes : List Lexeme) : Parser Text := do
  let count := (Lexeme.tokens lexemes).length - (← get).length
  let (values, rest) := inlineValues (Lexeme.afterTokens count lexemes)
  set (Lexeme.tokens rest)
  return writeInlineValues values

/-- A copy after `COPY`, where `rows` reads rows that stand in the text itself. -/
def copy (nested : Nested) (rows : Parser Text) : Parser Text := do
  let asked ← atSymbol "("
  let source ←
    if asked then parenthesizedQuery nested
    else do
      let table ← writtenName
      let columns ← optionalColumnNames
      pure (Text.phrase [table, writeColumns columns])
  let direction ← expectOneOf (if asked then ["TO"] else ["FROM", "TO"])
  let target ← copyTarget
  let _ ← keyword "WITH"
  let options ←
    if ← atSymbol "(" then do
      let options ← parenthesized (commaSeparated copyOption)
      pure (listed options)
    else pure []
  let older ← optionSteps olderOption (← get).length
  let text := Text.phrase ["COPY", source, direction, target, options, older]
  if target == "STDIN".toList then
    expectSymbol ";"
    return text ++ (← rows)
  else return text

def unload (nested : Nested) : Parser Text := do
  let query ← parenthesizedQuery nested
  expectKeyword "TO"
  return Text.phrase ["UNLOAD" ++ query, "TO", ← writtenIdentifier,
    ← part ["WITH"] (properties nested)]

end TableModel.Ddl.Parser
