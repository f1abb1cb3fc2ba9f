import TableModel.Ddl.Parser

/-!
# Data types

A data type is kept as its written form: the canonical spelling of a built-in type whatever its case
was, with its arguments and modifiers, and the name of any other type as it stands. Which spellings
take which arguments is data (`spelling?`), so that `dataType` reads every type in the same way.
-/

namespace TableModel.Ddl

/-- What may stand in parentheses after the name of a built-in type. -/
inductive TypeArguments where
  /-- Nothing may stand there. -/
  | nothing
  /-- A size, which may be missing. -/
  | size
  /-- A size, which may be missing, and then `UNSIGNED`, which may be missing. -/
  | signedSize
  /-- A number of characters with or without a unit, or `MAX`; all may be missing. -/
  | characters
  /-- A precision, and a scale; both may be missing. -/
  | precision
  /-- A size, which may be missing, and then words on the time zone. -/
  | timeZone
  /-- The members of an enumeration, which must be there. -/
  | members
  /-- A size, which must be there. -/
  | fixedSize
  /-- A precision, which must be there, and a time zone. -/
  | zonedPrecision
  deriving DecidableEq, Repr

/-- The keywords of the built-in types that are one word, the form they are written in and what may
stand after them. -/
def builtinTypes : List (String × String × TypeArguments) :=
  [("BOOLEAN", "BOOLEAN", .nothing), ("BOOL", "BOOL", .nothing), ("FLOAT", "FLOAT", .size),
   ("REAL", "REAL", .nothing), ("FLOAT4", "FLOAT4", .nothing), ("FLOAT32", "Float32", .nothing),
   ("FLOAT64", "FLOAT64", .nothing), ("FLOAT8", "FLOAT8", .nothing),
   ("TINYINT", "TINYINT", .signedSize), ("INT2", "INT2", .signedSize),
   ("SMALLINT", "SMALLINT", .signedSize), ("MEDIUMINT", "MEDIUMINT", .signedSize),
   ("INT", "INT", .signedSize), ("INT4", "INT4", .signedSize), ("INT8", "INT8", .signedSize),
   ("INTEGER", "INTEGER", .signedSize), ("BIGINT", "BIGINT", .signedSize),
   ("INT16", "Int16", .nothing), ("INT32", "Int32", .nothing), ("INT64", "INT64", .nothing),
   ("INT128", "Int128", .nothing), ("INT256", "Int256", .nothing), ("UINT8", "UInt8", .nothing),
   ("UINT16", "UInt16", .nothing), ("UINT32", "UInt32", .nothing), ("UINT64", "UInt64", .nothing),
   ("UINT128", "UInt128", .nothing), ("UINT256", "UInt256", .nothing),
   ("VARCHAR", "VARCHAR", .characters), ("NVARCHAR", "NVARCHAR", .characters),
   ("CLOB", "CLOB", .size), ("BINARY", "BINARY", .size), ("VARBINARY", "VARBINARY", .size),
   ("BLOB", "BLOB", .size), ("BYTES", "BYTES", .size), ("UUID", "UUID", .nothing),
   ("DATE", "DATE", .nothing), ("DATE32", "Date32", .nothing), ("DATETIME", "DATETIME", .size),
   ("TIMESTAMP", "TIMESTAMP", .timeZone), ("TIMESTAMPTZ", "TIMESTAMPTZ", .size),
   ("TIME", "TIME", .timeZone), ("TIMETZ", "TIMETZ", .size), ("INTERVAL", "INTERVAL", .nothing),
   ("JSON", "JSON", .nothing), ("JSONB", "JSONB", .nothing), ("REGCLASS", "REGCLASS", .nothing),
   ("STRING", "STRING", .size), ("FIXEDSTRING", "FixedString", .fixedSize),
   ("DATETIME64", "DateTime64", .zonedPrecision), ("TEXT", "TEXT", .nothing),
   ("BYTEA", "BYTEA", .nothing),
   ("NUMERIC", "NUMERIC", .precision),
   ("DECIMAL", "DECIMAL", .precision), ("DEC", "DEC", .precision),
   ("BIGNUMERIC", "BIGNUMERIC", .precision), ("BIGDECIMAL", "BIGDECIMAL", .precision),
   ("ENUM", "ENUM", .members), ("SET", "SET", .members), ("TRIGGER", "TRIGGER", .nothing)]

/-- Whether a type is built in; an interval counts for itself, since it also begins a value. -/
inductive TypeKind where
  | builtin
  | interval
  | custom
  deriving DecidableEq, Repr

/-- A data type in its written form. That is all a table is read for: its name and its sign are
taken from the written form later on (`TypeName.ofText`). -/
structure DataType where
  kind : TypeKind
  text : Text
  deriving DecidableEq, Repr

def writeMembers (members : List Text) : Text :=
  Text.commaList (members.map Quote.single.write)

def sizeBound : Nat := 0x10000000000000000

namespace Parser

def optionalSize : Parser Text := do
  if ← symbol "(" then
    let n ← natural sizeBound
    expectSymbol ")"
    return inParentheses (Text.ofNat n)
  else return []

def optionalCharacters : Parser Text := do
  if ← symbol "(" then
    if ← keyword "MAX" then
      expectSymbol ")"
      return "(MAX)".toList
    else
      let n ← natural sizeBound
      let unit ← oneOf ["CHARACTERS", "OCTETS"]
      expectSymbol ")"
      return inParentheses (Text.phrase [Text.ofNat n, (unit.getD "").toList])
  else return []

def optionalPrecision : Parser Text := do
  if ← symbol "(" then
    let p ← natural sizeBound
    if ← symbol "," then
      let s ← natural sizeBound
      expectSymbol ")"
      return inParentheses (Text.ofNat p ++ ',' :: Text.ofNat s)
    else
      expectSymbol ")"
      return inParentheses (Text.ofNat p)
  else return []

def optionalTimeZone : Parser Text := do
  match ← oneOf ["WITH", "WITHOUT"] with
  | some k =>
    expectKeywords ["TIME", "ZONE"]
    return ' ' :: (k.toList ++ " TIME ZONE".toList)
  | none => return []

/-- A precision and perhaps a time zone in parentheses, written. -/
def zonedPrecision : Parser Text := do
  expectSymbol "("
  let n ← natural sizeBound
  let zone ←
    if ← symbol "," then do
      let zone ← literalText
      pure (", '" ++ zone ++ "'")
    else pure []
  expectSymbol ")"
  return inParentheses (Text.ofNat n ++ zone)

def typeArguments : TypeArguments → Parser Text
  | .nothing => return []
  | .size => optionalSize
  | .signedSize => do
    let size ← optionalSize
    if ← keyword "UNSIGNED" then return size ++ " UNSIGNED".toList else return size
  | .characters => optionalCharacters
  | .precision => optionalPrecision
  | .timeZone => do
    let size ← optionalSize
    return size ++ (← optionalTimeZone)
  | .members => do
    return inParentheses (writeMembers (← parenthesized (commaSeparated singleQuoted)))
  | .fixedSize => do
    let n ← parenthesized (natural sizeBound)
    return inParentheses (Text.ofNat n)
  | .zonedPrecision => zonedPrecision

/-- The form that the built-in type of one word at the front is written in, and what may stand
after it. -/
def builtinType : List (String × String × TypeArguments) → Parser (Option (String × TypeArguments))
  | [] => return none
  | (k, written, arguments) :: rest => do
    if ← keyword k then return some (written, arguments) else builtinType rest

/-- The modifiers of a custom type up to the closing parenthesis, in at most the given number of
steps: words, numbers and strings, with commas wherever they like. -/
def modifierSteps : Nat → Parser (List Text)
  | 0 => reject
  | steps + 1 => do
    match ← next with
    | .word text => return text :: (← modifierSteps steps)
    | .quotedName text => return ('\x60' :: (text ++ ['\x60'])) :: (← modifierSteps steps)
    | .number text _ => return text :: (← modifierSteps steps)
    | .string .single text => return text :: (← modifierSteps steps)
    | token =>
      if token.isSymbol "," then modifierSteps steps
      else if token.isSymbol ")" then return []
      else reject

/-- A type that is not built in: its name and its modifiers. -/
def customType : Parser DataType := do
  let name ← objectName
  if ← symbol "(" then
    let modifiers ← modifierSteps ((← get).length + 1)
    if modifiers.isEmpty then return ⟨.custom, name.write⟩
    else return ⟨.custom, name.write ++ inParentheses (Text.commaList modifiers)⟩
  else return ⟨.custom, name.write⟩

/-- The types whose name is of more than one word or goes on after its keyword. -/
def phraseType : Parser (Option Text) := do
  if ← keyword "DOUBLE" then
    if ← keyword "PRECISION" then return some "DOUBLE PRECISION".toList
    else return some "DOUBLE".toList
  else
    match ← oneOf ["CHARACTER", "CHAR"] with
    | some k =>
      if ← keyword "VARYING" then
        return some (k.toList ++ " VARYING".toList ++ (← optionalCharacters))
      else if ← keywords ["LARGE", "OBJECT"] then
        return some (k.toList ++ " LARGE OBJECT".toList ++ (← optionalSize))
      else return some (k.toList ++ (← optionalCharacters))
    | none => return none

/-- Pairs of brackets after a type, written, in at most the given number of steps. -/
def bracketSteps : Nat → Parser Text
  | 0 => return []
  | steps + 1 => do
    if ← symbol "[" then
      expectSymbol "]"
      return "[]".toList ++ (← bracketSteps steps)
    else return []

/-- The angle bracket that closes an element type; `>>` closes two, and the flag says that one of
them is still to be used. -/
def closingAngle (pending : Bool) : Parser Bool := do
  if pending then return false
  else if ← symbol ">" then return false
  else if ← symbol ">>" then return true
  else reject

/-- A data type without the brackets after it, and whether a closing angle bracket is left over,
where `element` reads the type of an array's elements. -/
def plainType (element : Parser (DataType × Bool)) : Parser (DataType × Bool) := do
  match ← peek with
  | some (.word _) =>
    if ← keyword "ARRAY" then
      expectSymbol "<"
      let (inside, pending) ← element
      let pending ← closingAngle pending
      return (⟨.builtin, "ARRAY<".toList ++ inside.text ++ ['>']⟩, pending)
    else
      match ← builtinType builtinTypes with
      | some (written, arguments) =>
        let kind := if written == "INTERVAL" then TypeKind.interval else .builtin
        return (⟨kind, written.toList ++ (← typeArguments arguments)⟩, false)
      | none =>
        match ← phraseType with
        | some text => return (⟨.builtin, text⟩, false)
        | none => return (← customType, false)
  | some (.quotedName _) => return (← customType, false)
  | _ => reject

/-- A data type and whether a closing angle bracket is left over, at most the given number of
element types deep. -/
def nestedType : Nat → Parser (DataType × Bool)
  | 0 => reject
  | depth + 1 => do
    let (type, pending) ← plainType (nestedType depth)
    let brackets ← bracketSteps (← get).length
    if brackets.isEmpty then return (type, pending)
    else return (⟨.builtin, type.text ++ brackets⟩, pending)

def dataType : Parser DataType := do
  let (type, pending) ← nestedType ((← get).length + 1)
  if pending then reject else return type

end Parser

end TableModel.Ddl
