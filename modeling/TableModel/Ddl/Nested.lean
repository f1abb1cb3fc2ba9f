import TableModel.Ddl.DataType

/-!
# What stands one level deeper

Nothing in this library computes the value of an expression or a query, so both are read into their
written form: keywords in upper case, one space around a binary operator, names and literals as they
stand. Expressions contain queries and queries contain expressions. A reader therefore takes the
readers of what stands inside it as a parameter, and `Nested.ofDepth` ties the knot, one level at a
time.
-/

namespace TableModel.Ddl

/-- The readers of what stands one level deeper: an expression of operators that bind more tightly
than the given precedence, and a query. -/
structure Nested where
  expression : Nat → Parser Text
  query : Parser Text

namespace Parser

def anyExpression (nested : Nested) : Parser Text := nested.expression 0

def expressionList (nested : Nested) : Parser Text :=
  return Text.commaList (← commaSeparated (anyExpression nested))

def parenthesizedExpression (nested : Nested) : Parser Text :=
  parenthesized (anyExpression nested)

def expressionsInParentheses (nested : Nested) : Parser Text :=
  return inParentheses (← parenthesized (expressionList nested))

/-- Whether a query comes next, judging by its first word. A query in parentheses is not seen this
way. -/
def atQuery : Parser Bool :=
  return (← peek).any fun token => token.isKeyword "SELECT" || token.isKeyword "WITH"

def parenthesizedQuery (nested : Nested) : Parser Text :=
  return inParentheses (← parenthesized nested.query)

def orderKey (nested : Nested) : Parser Text :=
  return Text.phrase [← anyExpression nested, ← oneWord ["ASC", "DESC"],
    (← among [["NULLS", "FIRST"], ["NULLS", "LAST"]]).getD []]

def orderKeys (nested : Nested) : Parser Text :=
  return Text.commaList (← commaSeparated (orderKey nested))

end Parser

end TableModel.Ddl

namespace TableModel.Ddl.Parser

/-! ### Properties

A property of a table or a view is a name with a value: `name = value`. -/

def property (nested : Nested) : Parser Text := do
  let name ← writtenIdentifier
  expectSymbol "="
  return Text.phrase [name, "=", ← anyExpression nested]

def properties (nested : Nested) : Parser Text :=
  return inParentheses (Text.commaList (← parenthesized (commaSeparated (property nested))))

end TableModel.Ddl.Parser
