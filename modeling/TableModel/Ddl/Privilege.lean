import TableModel.Ddl.Nested
import TableModel.Ddl.Parser

/-!
# Privileges and policies

Privileges are granted to roles and taken from them, all of them or some, on all or some objects. A
policy belongs to a table and says who may see and write which of its rows.
-/

namespace TableModel.Ddl.Parser

/-! ### Privileges -/

/-- One privilege; some can be narrowed down to columns. -/
def privilege : Parser Text := do
  match ← oneOf ["INSERT", "REFERENCES", "SELECT", "UPDATE"] with
  | some word => return Text.phrase [word, writeColumns (← optionalColumnNames)]
  | none =>
    expectOneOf ["CONNECT", "CREATE", "DELETE", "EXECUTE", "TEMPORARY", "TRIGGER", "TRUNCATE",
      "USAGE"]

def privileges : Parser Text := do
  if ← keyword "ALL" then return Text.phrase ["ALL", ← written ["PRIVILEGES"]]
  else return Text.commaList (← commaSeparated privilege)

/-- The objects that privileges are on; for tables no word is written. -/
def privilegeObjects : Parser Text := do
  match ← among [["ALL", "TABLES", "IN", "SCHEMA"], ["ALL", "SEQUENCES", "IN", "SCHEMA"],
      ["SEQUENCE"], ["SCHEMA"]] with
  | some words => return Text.phrase [words, ← objectNames]
  | none =>
    let _ ← keyword "TABLE"
    objectNames

/-- The privileges, the objects and the roles of a grant or its opposite, with a word in front of
the roles. -/
def privilegeClauses (word : String) : Parser Text := do
  let privileges ← privileges
  expectKeyword "ON"
  let objects ← privilegeObjects
  expectKeyword word
  let roles := (← commaSeparated identifier).map Identifier.write
  return Text.phrase [privileges, "ON", objects, word, Text.commaList roles]

def grantor : Parser Text := part ["GRANTED", "BY"] writtenIdentifier

def grant : Parser Text :=
  return Text.phrase ["GRANT", ← privilegeClauses "TO", ← written ["WITH", "GRANT", "OPTION"],
    ← grantor]

/-- The opposite of a grant after `REVOKE`. What depends on the privileges stays unless the opposite
is said, and that is always written. -/
def revocation : Parser Text := do
  let head := Text.phrase ["REVOKE", ← privilegeClauses "FROM", ← grantor]
  let cascade ← keyword "CASCADE"
  let restrict ← keyword "RESTRICT"
  if cascade && restrict then reject
  else return Text.phrase [head, if cascade then "CASCADE" else "RESTRICT"]

/-! ### Policies -/

/-- A role, which may be named by how it came about. -/
def owner : Parser Text := do
  match ← oneOf ["CURRENT_USER", "CURRENT_ROLE", "SESSION_USER"] with
  | some word => return word
  | none => writtenIdentifier

def policyName : Parser Text := do
  let name ← writtenIdentifier
  expectKeyword "ON"
  return Text.phrase [name, "ON", ← writtenName]

/-- Whom a policy is for, which rows may be seen and which ones written. -/
def policyRules (nested : Nested) : Parser Text := do
  let condition : Parser Text := return inParentheses (← parenthesizedExpression nested)
  return Text.phrase [← part ["TO"] (return Text.commaList (← commaSeparated owner)),
    ← part ["USING"] condition, ← part ["WITH", "CHECK"] condition]

def policyCreation (nested : Nested) : Parser Text :=
  return Text.phrase ["CREATE POLICY", ← policyName,
    ← part ["AS"] (expectOneOf ["PERMISSIVE", "RESTRICTIVE"]),
    ← part ["FOR"] (expectOneOf ["ALL", "SELECT", "INSERT", "UPDATE", "DELETE"]),
    ← policyRules nested]

/-- A change of a policy after `ALTER POLICY`: another name or other rules. -/
def policyAlteration (nested : Nested) : Parser Text := do
  let policy ← policyName
  if ← keyword "RENAME" then
    expectKeyword "TO"
    return Text.phrase ["ALTER POLICY", policy, "RENAME TO", ← writtenIdentifier]
  else return Text.phrase ["ALTER POLICY", policy, ← policyRules nested]

def policyRemoval : Parser Text :=
  return Text.phrase ["DROP POLICY", ← written ["IF", "EXISTS"], ← policyName,
    ← oneWord ["CASCADE", "RESTRICT"]]

end TableModel.Ddl.Parser
