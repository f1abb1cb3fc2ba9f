import TableModel.Text

/-!
# Models

A model is the Go source text for a table: a struct with a field for each column, a method with the
name of the table and, if wanted, functions that create, get, list, update and delete rows. A
`Draft` is a model in the making, to which fields are added one by one; its source text is made of
sections, each of which ends with a line feed, with a blank line between them.
-/

namespace TableModel

/-- A field of a Go struct: its name, its Go type, its tag, which may be empty, and its comment with
what separates it from the field, which may be empty, too. -/
structure Field where
  name : Text
  type : Text
  tag : Text
  comment : Text
  deriving DecidableEq, Repr

def Field.line (field : Field) : Text :=
  '\t' :: field.name ++ '\t' :: field.type ++
    (if field.tag.isEmpty then [] else '\t' :: field.tag) ++ field.comment ++ ['\n']

/-- A generated model: the name of the Go type, the name of the table, the fields in order and the
Go source text. The text says all of the rest; it is kept beside it for those who want one part
only. -/
structure Model where
  typeName : Text
  tableName : Text
  fields : List Field
  source : Text
  deriving DecidableEq, Repr

/-- A text as it stands between the double quotes of a Go string. Only quotes and backslashes are
escaped, so a line feed in it breaks the string. -/
def goStringBody (t : Text) : Text :=
  t.flatMap fun c => if c = '\\' || c = '"' then ['\\', c] else [c]

/-- A model in the making: the names and the fields so far, and the functions on rows, of which
there are none if they are not wanted. -/
structure Draft where
  typeName : Text
  tableName : Text
  fields : List Field
  functions : List Text
  deriving DecidableEq, Repr

namespace Draft

def start (typeName tableName : Text) : Draft := ⟨typeName, tableName, [], []⟩

def push (draft : Draft) (field : Field) : Draft :=
  { draft with fields := draft.fields ++ [field] }

/-- The draft with these functions instead of those it has. -/
def withFunctions (draft : Draft) (functions : List Text) : Draft :=
  { draft with functions := functions }

def structText (draft : Draft) : Text :=
  "type ".toList ++ draft.typeName ++ " struct \x7b\n".toList ++ draft.fields.flatMap Field.line ++
    "\x7d\n".toList

def accessorText (draft : Draft) : Text :=
  "func (m *".toList ++ draft.typeName ++ ") TableName() string \x7b\n\treturn \"".toList ++
    goStringBody draft.tableName ++ "\"\n\x7d\n".toList

/-- The functions, if there are any: each with a line feed after it, a blank line between them. -/
def functionsText? (draft : Draft) : Option Text :=
  if draft.functions.isEmpty then none
  else some (Text.join ['\n'] (draft.functions.map (· ++ ['\n'])))

/-- The sections of the source text in order. -/
def sections (draft : Draft) : List Text :=
  [draft.structText, draft.accessorText] ++ draft.functionsText?.toList

/-- The source text; a blank line ends it if there are functions. Without them it ends with the
method's closing brace and a line feed. -/
def source (draft : Draft) : Text :=
  Text.join ['\n'] draft.sections ++ (if draft.functions.isEmpty then [] else ['\n'])

def finish (draft : Draft) : Model :=
  ⟨draft.typeName, draft.tableName, draft.fields, draft.source⟩

end Draft

end TableModel
