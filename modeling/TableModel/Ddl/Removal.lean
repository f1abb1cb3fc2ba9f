import TableModel.Ddl.Privilege

/-!
# Removals

What `DROP` takes away: things of most kinds by name, several at a time, and functions by name and
arguments.
-/

namespace TableModel.Ddl.Parser

/-- The guard that lets a removal pass where the thing is not there. -/
def removalGuard : Parser Text := written ["IF", "EXISTS"]

/-- Things removed by name after the word of their kind. Roles are removed without more ado; of the
others it may be said what becomes of what depends on them. -/
def namedRemoval (temporary : Text) (kind : String) : Parser Text := do
  let guard ← removalGuard
  let names ← objectNames
  let cascade ← written ["CASCADE"]
  let restrict ← written ["RESTRICT"]
  let purge ← written ["PURGE"]
  let details := Text.phrase [cascade, restrict, purge]
  if !cascade.isEmpty && !restrict.isEmpty then reject
  else if kind == "ROLE" && !details.isEmpty then reject
  else return Text.phrase ["DROP", temporary, kind, guard, names, details]

/-- An argument of a function: its mode, its name, which is missing if a type of its own comes
first, its type and its default. -/
def functionArgument (nested : Nested) : Parser Text := do
  let mode ← oneWord ["IN", "OUT", "INOUT"]
  let tokens ← get
  let first ← dataType
  let (name, type) ←
    match first.kind with
    | .custom => do
      let type ← dataType
      pure (((tokens.head?.bind Token.identifier?).map Identifier.write).getD [], type)
    | _ => pure ([], first)
  let standard ←
    if ← either (keyword "DEFAULT") (symbol "=") then do
      let value ← anyExpression nested
      pure ("= " ++ value)
    else pure []
  return Text.phrase [mode, name, type.text, standard]

/-- A function by its name and its arguments; empty parentheses are not written. -/
def functionSignature (nested : Nested) : Parser Text := do
  let name ← writtenName
  if ← symbol "(" then
    let arguments ← commaSeparatedUpTo ")" (functionArgument nested)
    expectSymbol ")"
    return name ++ listed arguments
  else return name

def functionRemoval (nested : Nested) (kind : String) : Parser Text :=
  return Text.phrase ["DROP", kind, ← removalGuard,
    Text.commaList (← commaSeparated (functionSignature nested)), ← oneWord ["CASCADE", "RESTRICT"]]

/-- The storage that a secret is removed from, after `FROM`; anything else there is passed over. -/
def secretStorage : Parser Text := do
  let tokens ← get
  set tokens.tail
  match tokens.head?.bind Token.identifier? with
  | some name => return "FROM " ++ name.write
  | none => return []

def secretRemoval (temporary : Text) : Parser Text := do
  let secret := Text.phrase ["DROP", temporary, "SECRET", ← removalGuard, ← writtenIdentifier]
  if ← keyword "FROM" then return Text.phrase [secret, ← secretStorage] else return secret

def removal (nested : Nested) : Parser Text := do
  let temporary ← written ["TEMPORARY"]
  match ← oneOf ["TABLE", "VIEW", "INDEX", "ROLE", "SCHEMA", "DATABASE", "SEQUENCE", "STAGE",
      "TYPE"] with
  | some kind => namedRemoval temporary kind
  | none =>
    if ← keyword "FUNCTION" then functionRemoval nested "FUNCTION"
    else if ← keyword "POLICY" then policyRemoval
    else if ← keyword "PROCEDURE" then functionRemoval nested "PROCEDURE"
    else
      expectKeyword "SECRET"
      secretRemoval temporary

end TableModel.Ddl.Parser
