import TableModel.Ddl.Manipulation

/-!
# Queries

A query gives names to queries it uses, combines selections, orders their rows and takes some of
them. An insertion or an update may stand in its place. The module ends with `Nested.ofDepth`: the
readers of expressions and queries that may be nested a given number of levels deep.
-/

namespace TableModel.Ddl

namespace Parser

def namedQuery (nested : Nested) : Parser Text := do
  let name ← writtenIdentifier
  let columns ← if ← keyword "AS" then pure [] else do
    let columns ← optionalColumnNames
    expectKeyword "AS"
    pure columns
  return Text.phrase [name, writeColumns columns, "AS", ← parenthesizedQuery nested,
    ← part ["FROM"] writtenIdentifier]

def namedQueries (nested : Nested) : Parser Text :=
  return Text.phrase [← written ["RECURSIVE"],
    Text.commaList (← commaSeparated (namedQuery nested))]

/-- A limit on the number of rows and how many are passed over before them. The latter is written
with the unit that may follow it. -/
structure Limits where
  limit : Option Text
  offset : Option Text

def Limits.write (limits : Limits) : Text :=
  let count (word : Text) (number : Option Text) : Text :=
    match number with
    | some n => word ++ ' ' :: n
    | none => []
  Text.phrase [count "LIMIT" limits.limit, count "OFFSET" limits.offset]

/-- What is said on the limits next, of what has not been said before. Two numbers after `LIMIT`
with a comma between them are the rows passed over and the rows taken. -/
def limitStep (nested : Nested) (limits : Limits) : Parser Limits := do
  let limit ←
    if ← provided limits.limit.isNone (keyword "LIMIT") then limitCount nested
    else pure limits.limit
  let offset ←
    if ← provided limits.offset.isNone (keyword "OFFSET") then do
      let count ← anyExpression nested
      let unit ← oneWord ["ROWS", "ROW"]
      pure (some (Text.phrase [count, unit]))
    else pure limits.offset
  match limit, offset with
  | some before, none =>
    if ← symbol "," then return ⟨some (← anyExpression nested), some before⟩
    else return ⟨limit, offset⟩
  | _, _ => return ⟨limit, offset⟩

def limits (nested : Nested) : Parser Text := do
  let first ← limitStep nested ⟨none, none⟩
  return (← limitStep nested first).write

def fetchCount : Parser Text := do
  let _ ← expectOneOf ["FIRST", "NEXT"]
  let count ←
    match ← oneOf ["ROW", "ROWS"] with
    | some _ => pure []
    | none => do
      let count ← literalValue
      let percent ← written ["PERCENT"]
      let _ ← expectOneOf ["ROW", "ROWS"]
      pure (Text.phrase [count, percent])
  return Text.phrase ["FIRST", count, "ROWS", ← expectAmong [["ONLY"], ["WITH", "TIES"]]]

/-- A name in parentheses and single quotes, written with them, or nothing. -/
def elementName : Parser Text := do
  if ← atSymbol "(" then
    let name ← parenthesized literalText
    return inParentheses ("'" ++ name ++ "'")
  else return []

/-- What a document is made with, once all of it has been said: the options that are words, each of
which counts once, and the name of the root, the last one if several were given. -/
structure DocumentOptions where
  words : List String
  root : Text

/-- What a document is made with: the options after commas, in at most the given number of steps. A
comma with no option behind it is passed over. -/
def documentOptions (known : List (List String)) (options : DocumentOptions) :
    Nat → Parser DocumentOptions
  | 0 => return options
  | steps + 1 => do
    if ← symbol "," then
      if ← keyword "ROOT" then
        let root ← parenthesized literalText
        documentOptions known { options with root := ", ROOT('" ++ root ++ "')" } steps
      else
        match ← among known with
        | some words =>
          let words := String.ofList words :: options.words
          documentOptions known { options with words := words } steps
        | none => documentOptions known options steps
    else return options

/-- The written form of an option of a document that is a word, if it was given. -/
def DocumentOptions.word (options : DocumentOptions) (word : String) : Text :=
  wordsIf (options.words.contains word) (", " ++ word)

/-- The document that a query makes of its rows, after `FOR`, if one is asked for. -/
def documentForm : Parser (Option Text) := do
  if ← keyword "XML" then
    let mode ← expectOneOf ["RAW", "AUTO", "EXPLICIT", "PATH"]
    let named := mode == "RAW".toList || mode == "PATH".toList
    let name ← if named then elementName else pure []
    let options ← documentOptions [["ELEMENTS"], ["BINARY", "BASE64"], ["TYPE"]] ⟨[], []⟩
      (← get).length
    return some ("FOR XML " ++ mode ++ name ++ options.word "BINARY BASE64" ++
      options.word "TYPE" ++ options.root ++ options.word "ELEMENTS")
  else if ← keyword "JSON" then
    let mode ← expectOneOf ["AUTO", "PATH"]
    let options ← documentOptions [["INCLUDE_NULL_VALUES"], ["WITHOUT_ARRAY_WRAPPER"]] ⟨[], []⟩
      (← get).length
    return some ("FOR JSON " ++ mode ++ options.root ++ options.word "INCLUDE_NULL_VALUES" ++
      options.word "WITHOUT_ARRAY_WRAPPER")
  else if ← keyword "BROWSE" then return some "FOR BROWSE"
  else return none

def lock : Parser Text :=
  return Text.phrase ["FOR", ← expectOneOf ["UPDATE", "SHARE"], ← part ["OF"] writtenName,
    (← among [["NOWAIT"], ["SKIP", "LOCKED"]]).getD []]

/-- The locks of a query and the document it makes of its rows, in at most the given number of
steps. The document comes last. -/
def lockSteps : Nat → Parser Text
  | 0 => return []
  | steps + 1 => do
    if ← keyword "FOR" then
      match ← documentForm with
      | some text => return text
      | none => return Text.phrase [← lock, ← lockSteps steps]
    else return []

def queryWith (nested : Nested) : Parser Text := do
  let names ← part ["WITH"] (namedQueries nested)
  if ← keyword "INSERT" then return Text.phrase [names, ← insertion nested "INSERT"]
  else if ← keyword "UPDATE" then return Text.phrase [names, ← rowUpdate nested]
  else
    return Text.phrase [names, ← combinedQueries nested, ← part ["ORDER", "BY"] (orderKeys nested),
      ← limits nested, ← part ["FETCH"] fetchCount, ← lockSteps (← get).length]

end Parser

/-- The readers of expressions and queries that are at most the given number of levels deep. -/
def Nested.ofDepth : Nat → Nested
  | 0 => ⟨fun _ => throw .tooDeep, throw .tooDeep⟩
  | depth + 1 =>
    let inner := Nested.ofDepth depth
    ⟨fun precedence => Parser.expressionWith inner precedence, Parser.queryWith inner⟩

end TableModel.Ddl
