import TableModel.Text
import TableModel.Unicode.Uppercase

/-!
# Tokens of SQL text

SQL text is cut into lexemes: tokens, and what stands between them, blanks and comments. The grammar
looks at the tokens alone. A word is a keyword where the grammar asks for one, whatever its case,
unless it is quoted. What stands between tokens counts only where rows of values stand in the text,
because tabs and ends of lines divide those.
-/

namespace TableModel.Ddl

inductive Quote where
  | backquote
  | single
  | double
  deriving DecidableEq, Repr

def Quote.char : Quote → Char
  | .backquote => '\x60'
  | .single => '\''
  | .double => '"'

/-- A token of SQL text. What stands in quotes does so without them, and without the doubling of
those inside. A number is as it is written, and may carry the suffix `L`. A symbol is a punctuation
mark, an operator or a character that is of no use in SQL. -/
inductive Token where
  | word (text : Text)
  | quotedName (text : Text)
  | number (text : Text) (long : Bool)
  | string (quote : Quote) (text : Text)
  | escapedString (text : Text)
  | nationalString (text : Text)
  | hexString (text : Text)
  | placeholder (text : Text)
  | symbol (text : Text)
  deriving DecidableEq, Repr

/-- Whether the token is the given keyword, which is spelled in upper case. A word in quotes is
none. -/
def Token.isKeyword (keyword : String) : Token → Bool
  | .word text => Unicode.toUpper text == keyword.toList
  | _ => false

def Token.isSymbol (symbol : String) : Token → Bool
  | .symbol text => text == symbol.toList
  | _ => false

@[simp] theorem Token.isKeyword_quotedName (keyword : String) (text : Text) :
    (Token.quotedName text).isKeyword keyword = false := rfl

/-! ### Lexemes -/

/-- A piece of SQL text: a token, a tab or the end of a line, which separate values, or a gap
between tokens of another kind. The gap has the comment as it stands, and one space for a blank. -/
inductive Lexeme where
  | token (token : Token)
  | gap (text : Text)
  | separator
  deriving DecidableEq, Repr

def Lexeme.token? : Lexeme → Option Token
  | .token t => some t
  | .gap _ | .separator => none

def Lexeme.tokens (lexemes : List Lexeme) : List Token := lexemes.filterMap Lexeme.token?

/-- The lexemes right after as many tokens as given. So what the grammar has read of the tokens says
where the rows of values begin. -/
def Lexeme.afterTokens : Nat → List Lexeme → List Lexeme
  | 0, lexemes => lexemes
  | _ + 1, [] => []
  | count + 1, lexeme :: rest =>
    match lexeme.token? with
    | some _ => afterTokens count rest
    | none => afterTokens (count + 1) rest

end TableModel.Ddl
