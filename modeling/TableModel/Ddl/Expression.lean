import TableModel.Ddl.BuiltinFunction

/-!
# Expressions

An expression is an operand and the operators behind it. An operand is a literal, a name, a call, a
query or an expression with an operator in front; it may begin with the name of a type, and then it
is a literal of that type. Of the operators behind an operand those are taken that bind more tightly
than the operator in front of it.
-/

namespace TableModel.Ddl

def clockFunctions : List String :=
  ["CURRENT_TIMESTAMP", "CURRENT_TIME", "CURRENT_DATE", "LOCALTIME", "LOCALTIMESTAMP"]

/-- The operators after which the right side may stand for all or some of several values. -/
def comparisons : List String := ["=", "<>", "<", "<=", ">", ">="]

/-- What is left after the closing parenthesis of the one that the tokens begin with, where `depth`
parentheses are open besides. -/
def afterParentheses (depth : Nat) : List Token → List Token
  | [] => []
  | token :: rest =>
    if token.isSymbol "(" then afterParentheses (depth + 1) rest
    else if token.isSymbol ")" then
      if depth ≤ 1 then rest else afterParentheses (depth - 1) rest
    else afterParentheses depth rest

namespace Parser

def nameParts : Nat → Parser (List Identifier)
  | 0 => return []
  | steps + 1 => do
    if ← symbol "." then
      match (← next).namePart? with
      | some name => return name :: (← nameParts steps)
      | none => reject
    else return []

/-- A name, a call of a function or a string in a named character set, from its first word. A
character set is written without quotes. -/
def nameOrCall (nested : Nested) (first : Identifier) : Parser Text := do
  let parts ← nameParts (← get).length
  let name := Text.join ['.'] ((first :: parts).map Identifier.write)
  if ← atSymbol "(" then call nested name
  else if parts.isEmpty && first.text.head? == some '_' then
    match ← peek with
    | some (.string quote text) =>
      let _ ← next
      return first.text ++ ' ' :: quote.write text
    | some (.hexString text) =>
      let _ ← next
      return first.text ++ " X'" ++ text ++ "'"
    | _ => return name
  else return name

/-- A literal of a built-in type that is named in front of it. -/
def typedLiteral (nested : Nested) : Parser Text := do
  let type ← dataType
  match type.kind with
  | .interval => interval nested
  | .custom => reject
  | .builtin => return type.text ++ ' ' :: Quote.single.write (← literalText)

def caseBranches (nested : Nested) : Nat → Parser Text
  | 0 => reject
  | steps + 1 => do
    expectKeyword "WHEN"
    let condition ← anyExpression nested
    expectKeyword "THEN"
    let result ← anyExpression nested
    let branch := Text.phrase ["WHEN", condition, "THEN", result]
    if ← atKeyword "WHEN" then return Text.phrase [branch, ← caseBranches nested steps]
    else return branch

def caseDistinction (nested : Nested) : Parser Text := do
  let subject ← if ← atKeyword "WHEN" then pure [] else anyExpression nested
  let branches ← caseBranches nested ((← get).length + 1)
  let otherwise ← part ["ELSE"] (anyExpression nested)
  expectKeyword "END"
  return Text.phrase ["CASE", subject, branches, otherwise, "END"]

def existence (nested : Nested) : Parser Text :=
  return "EXISTS " ++ (← parenthesizedQuery nested)

def negation (nested : Nested) : Parser Text := do
  if ← keyword "EXISTS" then return "NOT " ++ (← existence nested)
  else return "NOT " ++ (← nested.expression Precedence.not)

/-- The items of an array after its opening bracket, written with the brackets. -/
def arrayItems (nested : Nested) : Parser Text := do
  let items ← commaSeparatedUpTo "]" (anyExpression nested)
  expectSymbol "]"
  return inBrackets (Text.commaList items)

/-- An expression that begins with a bare word. The word keeps its meaning even where nothing after
it fits, so no name can be read in its place. -/
def fromWord (nested : Nested) (text : Text) : Parser Text := do
  let word := Token.word text
  match word.keywordValue? with
  | some value => return value
  | none =>
    if clockFunctions.any word.isKeyword then
      if ← atSymbol "(" then return text ++ (← callArguments nested) else return text
    else if word.isKeyword "CASE" then caseDistinction nested
    else if word.isKeyword "CONVERT" then convert nested
    else if word.isKeyword "CAST" then cast nested "CAST"
    else if word.isKeyword "TRY_CAST" then cast nested "TRY_CAST"
    else if word.isKeyword "SAFE_CAST" then cast nested "SAFE_CAST"
    else if word.isKeyword "EXISTS" then existence nested
    else if word.isKeyword "EXTRACT" then extract nested
    else if word.isKeyword "CEIL" then rounding nested "CEIL"
    else if word.isKeyword "FLOOR" then rounding nested "FLOOR"
    else if word.isKeyword "POSITION" then
      match ← if ← atSymbol "(" then maybe (position nested) else pure none with
      | some place => return place
      | none => nameOrCall nested ⟨text, none⟩
    else if word.isKeyword "SUBSTRING" then substring nested
    else if word.isKeyword "OVERLAY" then overlay nested
    else if word.isKeyword "TRIM" then trim nested
    else if word.isKeyword "INTERVAL" then interval nested
    else if word.isKeyword "NOT" then negation nested
    else if word.isKeyword "MATCH" then fullTextMatch
    else if word.isKeyword "ARRAY" then
      if ← symbol "[" then return "ARRAY" ++ (← arrayItems nested)
      else if ← atSymbol "(" then return text ++ (← parenthesizedQuery nested)
      else nameOrCall nested ⟨text, none⟩
    else nameOrCall nested ⟨text, none⟩

/-- A query, an expression or several of them, after the opening parenthesis; a field of it may be
named behind the closing one. -/
def insideParentheses (nested : Nested) : Parser Text := do
  let inside ← if ← atQuery then nested.query else expressionList nested
  expectSymbol ")"
  if ← symbol "." then
    match ← next with
    | .word text => return inParentheses inside ++ '.' :: text
    | .quotedName text => return inParentheses inside ++ '.' :: Quote.backquote.write text
    | _ => reject
  else return inParentheses inside

/-- An expression up to its first binary operator, where no type is named in front of it and no
collation behind it. -/
def plainOperand (nested : Nested) : Parser Text := do
  match ← parameter with
  | some text => return text
  | none =>
    match ← next with
    | .word text => fromWord nested text
    | .quotedName text => nameOrCall nested ⟨text, some .backquote⟩
    | .symbol ['('] => insideParentheses nested
    | .symbol ['['] => arrayItems nested
    | .symbol ['-'] => return '-' :: (← nested.expression Precedence.multiply)
    | .symbol ['+'] => return '+' :: (← nested.expression Precedence.multiply)
    | token =>
      match token.literal? with
      | some text => return text
      | none => reject

def operand (nested : Nested) : Parser Text := do
  match ← maybe (typedLiteral nested) with
  | some literal => return literal
  | none => return Text.phrase [← plainOperand nested, ← part ["COLLATE"] writtenName]

def isTest (nested : Nested) : Parser Text := do
  let negated ← written ["NOT"]
  match ← oneOf ["NULL", "TRUE", "FALSE", "UNKNOWN"] with
  | some k => return Text.phrase [negated, k]
  | none =>
    expectKeywords ["DISTINCT", "FROM"]
    return Text.phrase [negated, "DISTINCT FROM", ← anyExpression nested]

def membership (nested : Nested) : Parser Text := do
  if ← keyword "UNNEST" then
    return "UNNEST" ++ inParentheses (← parenthesizedExpression nested)
  else
    expectSymbol "("
    let inside ← if ← atQuery then nested.query else expressionList nested
    expectSymbol ")"
    return inParentheses inside

def pattern (nested : Nested) (word : String) : Parser Text := do
  let any ← if word == "SIMILAR TO" then pure [] else written ["ANY"]
  let text := Text.phrase [word, any, ← nested.expression Precedence.like]
  if ← keyword "ESCAPE" then return text ++ " ESCAPE '" ++ (← literalText) ++ "'" else return text

/-- A test that may be negated, written from its word on. -/
def test (nested : Nested) : Parser Text := do
  if ← keyword "REGEXP" then
    let _ ← keyword "RLIKE"
    return "REGEXP " ++ (← nested.expression Precedence.like)
  else if ← keyword "RLIKE" then return "RLIKE " ++ (← nested.expression Precedence.like)
  else if ← keyword "IN" then return "IN " ++ (← membership nested)
  else if ← keyword "BETWEEN" then
    let low ← nested.expression Precedence.between
    expectKeyword "AND"
    return Text.phrase ["BETWEEN", low, "AND", ← nested.expression Precedence.between]
  else if ← keyword "LIKE" then pattern nested "LIKE"
  else if ← keyword "ILIKE" then pattern nested "ILIKE"
  else
    expectKeywords ["SIMILAR", "TO"]
    pattern nested "SIMILAR TO"

/-- The right side of a comparison with all or some of several values, written in parentheses. -/
def quantifiedSide (nested : Nested) (precedence : Nat) : Parser Text := do
  let tokens ← get
  expectSymbol "("
  if ← atQuery then
    set tokens
    let side ← nested.expression precedence
    if (← get).length == (afterParentheses 0 tokens).length then return side
    else return inParentheses side
  else
    let side ← nested.expression precedence
    expectSymbol ")"
    return inParentheses side

/-- The right side of an operator that stands between two expressions, after the operator. -/
def rightSide (nested : Nested) (operator : Text) (precedence : Nat) : Parser Text := do
  match ← oneOf ["ANY", "ALL", "SOME"] with
  | none => return Text.phrase [operator, ← nested.expression precedence]
  | some quantifier =>
    let side ← quantifiedSide nested precedence
    if comparisons.any fun s => s.toList == operator then
      return Text.phrase [operator, quantifier ++ side]
    else reject

/-- The expression whose left side has been read and whose operator, of the given precedence, comes
next. The right side of `DIV` is an expression of any operators, however tightly they bind. A text
in which no expression stands there is refused. -/
def operation (nested : Nested) (left : Text) (precedence : Nat) : Parser Text := do
  if ← keyword "DIV" then return Text.phrase [left, "DIV", ← anyExpression nested]
  else if ← symbol "::" then return left ++ "::" ++ (← dataType).text
  else if ← symbol "!" then return left ++ "!"
  else if ← symbol "[" then
    let key ← anyExpression nested
    expectSymbol "]"
    return left ++ inBrackets key
  else if ← keyword "IS" then return Text.phrase [left, "IS", ← isTest nested]
  else if ← keywords ["AT", "TIME", "ZONE"] then
    return Text.phrase [left, "AT TIME ZONE", ← nested.expression precedence]
  else
    match ← oneOf (wordPrecedence.map (·.1)) with
    | some k => return Text.phrase [left, ← rightSide nested k precedence]
    | none =>
      match ← peek with
      | some (.symbol text) =>
        let _ ← next
        let operator := if text == "==".toList then ['='] else text
        return Text.phrase [left, ← rightSide nested operator precedence]
      | _ => return Text.phrase [left, ← written ["NOT"], ← test nested]

/-- The operators after an operand, as long as they bind more tightly than the given precedence, in
at most the given number of steps. -/
def operations (nested : Nested) (precedence : Nat) : Nat → Text → Parser Text
  | 0, left => return left
  | steps + 1, left => do
    let coming := nextPrecedence (← get)
    if coming ≤ precedence then return left
    else operations nested precedence steps (← operation nested left coming)

/-- An expression of operators that bind more tightly than the given precedence. -/
def expressionWith (nested : Nested) (precedence : Nat) : Parser Text := do
  let left ← operand nested
  operations nested precedence (← get).length left

end Parser

end TableModel.Ddl
