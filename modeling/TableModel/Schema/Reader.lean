import TableModel.Ddl.Statement
import TableModel.Event
import TableModel.Schema

/-!
# Reading a table from SQL text

The text has to be one statement, and that a table declaration. Every column definition becomes a
column, in order; constraints and options of the table leave nothing behind. A text that is refused
reports no event.
-/

namespace TableModel

/-- Why a text does not describe a table. -/
inductive ReadError where
  /-- The text is no sequence of statements. -/
  | malformed (error : Ddl.SyntaxError)
  /-- There is no statement. -/
  | empty
  /-- There is more than one statement. -/
  | several (statements : Nat)
  /-- The statement is another one; its written form is given. -/
  | otherStatement (written : Text)

namespace ReadError

def excerptLength : Nat := 60

def excerpt (written : Text) : Text :=
  if written.length ≤ excerptLength then written
  else written.take excerptLength ++ "...".toList

/-- The message of an error; what is wrong inside malformed text is not worded here. -/
def message : ReadError → Text
  | .malformed _ => "Parse error".toList
  | .empty => "No statement found in input".toList
  | .several n =>
    "Expected a single CREATE TABLE statement, found ".toList ++ Text.ofNat n ++
      " statements".toList
  | .otherStatement written => "Not a CREATE TABLE statement: ".toList ++ excerpt written

end ReadError

def Ddl.ColumnOption.isNotNull : Ddl.ColumnOption → Bool
  | .notNull => true
  | _ => false

def Ddl.ColumnOption.comment? : Ddl.ColumnOption → Option Text
  | .comment text => some text
  | _ => none

/-- The column that a definition describes; of several comments the last one holds. -/
def Column.ofDefinition (definition : Ddl.ColumnDefinition) : Column :=
  let type := TypeName.ofText definition.type.text
  let options := definition.options.map (·.2)
  { name := definition.name.write
    type := type.name
    isUnsigned := type.isUnsigned
    isNotNull := options.any Ddl.ColumnOption.isNotNull
    comment := (options.filterMap Ddl.ColumnOption.comment?).getLast? }

def Table.ofDeclaration (declaration : Ddl.TableDeclaration) : Table :=
  ⟨declaration.name.last.write, declaration.columns.map Column.ofDefinition⟩

/-- The table that SQL text describes. The text has to be that of one statement, and this statement
a declaration of a table. -/
def Table.ofSql (sql : Text) : Except ReadError (Logged Table) :=
  match Ddl.Statement.read sql with
  | .error error => .error (.malformed error)
  | .ok [] => .error .empty
  | .ok [.table declaration] =>
    let table := Table.ofDeclaration declaration
    .ok ⟨table, [.readTable table.name table.columns.length]⟩
  | .ok [statement] => .error (.otherStatement statement.write)
  | .ok statements => .error (.several statements.length)

end TableModel
