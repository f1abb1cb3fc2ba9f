import TableModel.Text

/-!
# Tables and their columns

The description of a table that reading SQL text gives and generating a model takes. Names are kept
as they are written, quotes included. The written form of a data type is taken apart into its name and
whether it is unsigned (`TypeName.ofText`).
-/

namespace TableModel

/-- A column of a table: its name as it is written, the name of its type without arguments and
modifiers, whether the type is unsigned, whether the column is declared `NOT NULL`, and the comment
on it, if there is one. -/
structure Column where
  name : Text
  type : Text
  isUnsigned : Bool
  isNotNull : Bool
  comment : Option Text
  deriving DecidableEq, Repr

/-- A table: its name as it is written, without the schema that it is in, and its columns in order.
-/
structure Table where
  name : Text
  columns : List Column
  deriving DecidableEq, Repr

/-! ### Type names

In a written form such as `INT(10) UNSIGNED`, what stands in parentheses does not belong to the name;
single quotes inside parentheses protect the parentheses between them. The words of what is left,
other than those on the sign, are the name. -/

structure TypeName where
  name : Text
  isUnsigned : Bool
  deriving DecidableEq, Repr

namespace TypeName

/-- What stands outside parentheses, with a space for each opening one, where the text begins
`depth` parentheses deep and, if `quoted`, inside single quotes. -/
def outside : Nat → Bool → Text → Text
  | _, _, [] => []
  | depth, quoted, c :: rest =>
    if c = '\'' && 0 < depth then outside depth (!quoted) rest
    else if c = '(' && !quoted then ' ' :: outside (depth + 1) quoted rest
    else if c = ')' && !quoted && 0 < depth then outside (depth - 1) quoted rest
    else if depth = 0 then c :: outside depth quoted rest
    else outside depth quoted rest

def isUnsignedWord (word : Text) : Bool := Text.sameFolded word "UNSIGNED".toList

/-- Whether a word is about the sign of a type and not part of its name. -/
def isSignWord (word : Text) : Bool :=
  isUnsignedWord word || Text.sameFolded word "SIGNED".toList ||
    Text.sameFolded word "ZEROFILL".toList

/-- The name and the sign that the written form of a data type gives. Where parentheses are open at
the end, what stands in them is lost without a word. -/
def ofText (written : Text) : TypeName :=
  let words := Text.words (outside 0 false written)
  ⟨Text.join [' '] (words.filter (!isSignWord ·)), words.any isUnsignedWord⟩

end TypeName

end TableModel
