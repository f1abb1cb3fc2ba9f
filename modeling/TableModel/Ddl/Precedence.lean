import TableModel.Ddl.Token

/-!
# The binary operators and how tightly they bind

Operators of a higher precedence bind more tightly, and operators of one precedence group to the
left. Precedence 0 means that what comes next is no operator.
-/

namespace TableModel.Ddl

namespace Precedence

def or : Nat := 5
def and : Nat := 10
def not : Nat := 15
def json : Nat := 16
def is : Nat := 17
def like : Nat := 19
def compare : Nat := 20
def between : Nat := 20
def pipe : Nat := 21
def caret : Nat := 22
def ampersand : Nat := 23
def xor : Nat := 24
def add : Nat := 30
def multiply : Nat := 40
def timeZone : Nat := 41
def cast : Nat := 50

end Precedence

/-- The precedence of the operators that are punctuation and stand between two expressions. -/
def symbolPrecedence : List (String × Nat) :=
  [("=", Precedence.compare), ("==", Precedence.compare), ("<>", Precedence.compare),
   ("<", Precedence.compare), ("<=", Precedence.compare), (">", Precedence.compare),
   (">=", Precedence.compare), ("<=>", Precedence.compare), ("~", Precedence.compare),
   ("~*", Precedence.compare), ("!~", Precedence.compare), ("!~*", Precedence.compare),
   ("~~", Precedence.compare), ("~~*", Precedence.compare), ("!~~", Precedence.compare),
   ("!~~*", Precedence.compare), ("|", Precedence.pipe), ("^", Precedence.caret),
   ("&", Precedence.ampersand), ("+", Precedence.add), ("-", Precedence.add),
   ("*", Precedence.multiply), ("/", Precedence.multiply), ("%", Precedence.multiply),
   ("||", Precedence.multiply), ("->", Precedence.json), ("->>", Precedence.json),
   ("@>", Precedence.json), ("<@", Precedence.json), ("@?", Precedence.json),
   ("@@", Precedence.json)]

/-- The precedence of the operators that are words and stand between two expressions. -/
def wordPrecedence : List (String × Nat) :=
  [("OR", Precedence.or), ("AND", Precedence.and), ("XOR", Precedence.xor)]

/-- The precedence of the tests that may be negated by `NOT` in front of them. -/
def testPrecedence : List (String × Nat) :=
  [("IN", Precedence.between), ("BETWEEN", Precedence.between), ("LIKE", Precedence.like),
   ("ILIKE", Precedence.like), ("RLIKE", Precedence.like), ("REGEXP", Precedence.like),
   ("SIMILAR", Precedence.like)]

/-- The precedence of the other operators that are words; `OPERATOR` is one only in name. -/
def otherPrecedence : List (String × Nat) :=
  [("IS", Precedence.is), ("DIV", Precedence.multiply), ("OPERATOR", Precedence.between)]

/-- The precedence of the operators that stand behind an expression, where something other than an
expression follows or nothing at all. -/
def suffixPrecedence : List (String × Nat) :=
  [("::", Precedence.cast), ("!", Precedence.cast), ("[", Precedence.cast)]

def Token.wordPrecedence (token : Token) (table : List (String × Nat)) : Nat :=
  ((table.find? fun (k, _) => token.isKeyword k).map (·.2)).getD 0

def Token.symbolPrecedence (token : Token) (table : List (String × Nat)) : Nat :=
  ((table.find? fun (s, _) => token.isSymbol s).map (·.2)).getD 0

/-- The precedence of the operator at the front of the tokens, 0 if there is none. -/
def nextPrecedence : List Token → Nat
  | [] => 0
  | .symbol text :: _ =>
    (Token.symbol text).symbolPrecedence (symbolPrecedence ++ suffixPrecedence)
  | .word text :: rest =>
    let token := Token.word text
    if token.isKeyword "NOT" then
      match rest with
      | test :: _ => test.wordPrecedence testPrecedence
      | [] => 0
    else if token.isKeyword "AT" then
      match rest with
      | time :: zone :: _ =>
        if time.isKeyword "TIME" && zone.isKeyword "ZONE" then Precedence.timeZone else 0
      | _ => 0
    else token.wordPrecedence (wordPrecedence ++ testPrecedence ++ otherPrecedence)
  | _ => 0

end TableModel.Ddl
