import TableModel.Ddl.Nested

/-!
# Listings

`SHOW` lists columns, tables and other things, perhaps only those that pass a filter. Followed by
anything else it shows a variable whose name is all words up to the end of the text.
-/

namespace TableModel.Ddl

/-- The words of the tokens up to an equality sign or the end; what is no word is passed over. -/
def wordsToEnd : List Token → List Text × List Token
  | [] => ([], [])
  | token :: rest =>
    if token.isSymbol "=" then ([], token :: rest)
    else
      let (words, left) := wordsToEnd rest
      match token with
      | .word text => (text :: words, left)
      | .quotedName text => (Quote.backquote.write text :: words, left)
      | _ => (words, left)

namespace Parser

def listingFilter (nested : Nested) : Parser Text := do
  if ← keyword "LIKE" then return "LIKE " ++ Quote.single.write (← literalText)
  else if ← keyword "ILIKE" then
    return "ILIKE " ++ doubleQuotes Quote.single.char false (← literalText)
  else if ← keyword "WHERE" then return "WHERE " ++ (← anyExpression nested)
  else
    match ← maybe literalText with
    | some text => return Quote.single.write text
    | none => return []

/-- The columns of a table. A database that is named behind the table is written in front of it. -/
def columnListing (nested : Nested) : Parser Text := do
  let _ ← expectOneOf ["FROM", "IN"]
  let table ← writtenName
  let source ←
    match ← oneOf ["FROM", "IN"] with
    | some _ => do
      let database ← writtenIdentifier
      pure (database ++ '.' :: table)
    | none => pure table
  return Text.phrase ["COLUMNS FROM", source, ← listingFilter nested]

def databaseListing (nested : Nested) (kind : Text) : Parser Text := do
  let source ←
    match ← oneOf ["FROM", "IN"] with
    | some word => do
      let database ← writtenIdentifier
      pure (Text.phrase [word, database])
    | none => pure []
  return Text.phrase [kind, source, ← listingFilter nested]

def creationListing : Parser Text :=
  return Text.phrase ["SHOW CREATE",
    ← expectOneOf ["TABLE", "TRIGGER", "FUNCTION", "PROCEDURE", "EVENT", "VIEW"], ← writtenName]

/-- A listing after `SHOW`. What is said before the kind is written only where it matters. -/
def listing (nested : Nested) : Parser Text := do
  let extended ← written ["EXTENDED"]
  let full ← written ["FULL"]
  let session ← written ["SESSION"]
  let everywhere ← written ["GLOBAL"]
  let detail := Text.phrase [extended, full]
  if (← oneOf ["COLUMNS", "FIELDS"]).isSome then
    return Text.phrase ["SHOW", detail, ← columnListing nested]
  else if ← keyword "TABLES" then
    return Text.phrase ["SHOW", detail, ← databaseListing nested "TABLES"]
  else
    match ← among [["MATERIALIZED", "VIEWS"], ["VIEWS"]] with
    | some kind => return "SHOW " ++ (← databaseListing nested kind)
    | none =>
      if ← keyword "FUNCTIONS" then
        return Text.phrase ["SHOW FUNCTIONS", ← listingFilter nested]
      else if !detail.isEmpty then reject
      else if ← keyword "CREATE" then creationListing
      else if ← keyword "COLLATION" then
        return Text.phrase ["SHOW COLLATION", ← listingFilter nested]
      else
        match ← oneOf ["VARIABLES", "STATUS"] with
        | some kind =>
          return Text.phrase ["SHOW", everywhere, session, kind, ← listingFilter nested]
        | none =>
          match ← oneOf ["DATABASES", "SCHEMAS"] with
          | some kind => return Text.phrase ["SHOW", kind, ← listingFilter nested]
          | none =>
            let (words, left) := wordsToEnd (← get)
            set left
            return Text.phrase ("SHOW" :: words)

end Parser

end TableModel.Ddl
