import TableModel.Text

/-!
# JSON values

A JSON value keeps its numbers as they are written and the members of its objects in order, also
those with the same key. A string stands for a text unless one of its escapes is half of a surrogate
pair without the other half; such a string is well formed all the same.
-/

namespace TableModel

/-- A JSON value. The text of a string and the keys of an object may be none, which stands for a
string with half of a surrogate pair. -/
inductive Json where
  | null
  | bool (b : Bool)
  | number (literal : Text)
  | string (text : Option Text)
  | array (items : List Json)
  | object (members : List (Option Text × Json))

namespace Json

def ofText (t : Text) : Json := .string (some t)

def ofMembers (members : List (String × Json)) : Json :=
  .object (members.map fun (key, value) => (some key.toList, value))

def ofOption : Option Text → Json
  | some t => ofText t
  | none => .null

def text? : Json → Option Text
  | .string text => text
  | _ => none

def bool? : Json → Option Bool
  | .bool b => some b
  | _ => none

/-- A text, or `null` where it is missing. -/
def optionalText? : Json → Option (Option Text)
  | .null => some none
  | .string (some t) => some (some t)
  | _ => none

def valuesOf (key : Text) (members : List (Option Text × Json)) : List Json :=
  members.filterMap fun (k, value) => if k = some key then some value else none

/-- The values of the fields of a record, in the order of their names. An object gives them by its
keys: other keys do not matter, but no field may be there twice. An array gives them by position; if
the record has to be `complete`, none may be missing from its end. -/
def record? (names : List String) (complete : Bool) : Json → Option (List (Option Json))
  | .object members =>
    if members.any (·.1.isNone) then none
    else if names.any fun name => 1 < (valuesOf name.toList members).length then none
    else some (names.map fun name => (valuesOf name.toList members).head?)
  | .array items =>
    if names.length < items.length || (complete && items.length < names.length) then none
    else some (items.map some ++ List.replicate (names.length - items.length) none)
  | _ => none

end Json

end TableModel

namespace TableModel.Json

/-! ### Writing JSON text

A value is written over several lines: each item of an array and each member of an object has a line
of its own, two spaces further in than what it belongs to, and a member has one space after its
colon. Empty arrays and objects stay on their line. In a string, quotes, backslashes and control
characters are escaped and nothing else. -/

def hexDigit (n : Nat) : Char := Char.ofNat (if n < 10 then 48 + n else 87 + n)

/-- A character as it stands in a string. Only what has to be escaped is, so everything beyond ASCII
stands for itself. -/
def writeChar (c : Char) : Text :=
  if c = '"' then ['\\', '"']
  else if c = '\\' then ['\\', '\\']
  else if c = '\n' then ['\\', 'n']
  else if c = '\r' then ['\\', 'r']
  else if c = '\t' then ['\\', 't']
  else if c.toNat = 8 then ['\\', 'b']
  else if c.toNat = 12 then ['\\', 'f']
  else if c.toNat < 0x20 then
    ['\\', 'u', '0', '0', hexDigit (c.toNat / 16), hexDigit (c.toNat % 16)]
  else [c]

def writeString (t : Text) : Text := '"' :: (t.flatMap writeChar ++ ['"'])

def newLine (depth : Nat) : Text := '\n' :: List.replicate (2 * depth) ' '

mutual

/-- The written form of a value that stands the given number of levels deep. The depth only matters
where a line ends. -/
def write (depth : Nat) : Json → Text
  | .null => "null".toList
  | .bool true => "true".toList
  | .bool false => "false".toList
  | .number literal => literal
  | .string text => writeString (text.getD [])
  | .array [] => "[]".toList
  | .array (item :: items) =>
    '[' :: newLine (depth + 1) ++ write (depth + 1) item ++ writeItems (depth + 1) items ++
      newLine depth ++ [']']
  | .object [] => ['\x7b', '\x7d']
  | .object ((key, value) :: members) =>
    '\x7b' :: newLine (depth + 1) ++ writeString (key.getD []) ++ ": ".toList ++
      write (depth + 1) value ++ writeMembers (depth + 1) members ++ newLine depth ++ ['\x7d']

def writeItems (depth : Nat) : List Json → Text
  | [] => []
  | item :: items => ',' :: newLine depth ++ write depth item ++ writeItems depth items

def writeMembers (depth : Nat) : List (Option Text × Json) → Text
  | [] => []
  | (key, value) :: members =>
    ',' :: newLine depth ++ writeString (key.getD []) ++ ": ".toList ++ write depth value ++
      writeMembers depth members

end

def pretty (value : Json) : Text := write 0 value

end TableModel.Json
