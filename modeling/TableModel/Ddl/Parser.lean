import TableModel.Ddl.Identifier
import TableModel.Ddl.Keyword
import TableModel.Ddl.Token.Lexer
import TableModel.Text

/-!
# Readers of tokens

A `Parser` takes what it reads from the front of a list of tokens. This module has the readers that
every part of the grammar is made of: keywords, punctuation, names and lists of items. A reader
that looks for something optional leaves the tokens alone where it is not there.

Whatever of a statement is not needed for a table is kept as written: keywords in upper case, one
space between words, a comma and a space between items. `Text.phrase` leaves out what is empty, so a
part that may be missing is written as a text that may be empty.
-/

namespace TableModel.Ddl

/-! ### Pieces of written SQL -/

def inParentheses (t : Text) : Text := '(' :: (t ++ [')'])

def inBrackets (t : Text) : Text := '[' :: (t ++ [']'])

def listed (items : List Text) : Text :=
  if items.isEmpty then [] else inParentheses (Text.commaList items)

def clause (words : String) (contents : Option Text) : Text :=
  match contents with
  | some t => ' ' :: (words ++ ' ' :: t)
  | none => []

def wordsIf (condition : Bool) (words : String) : Text := if condition then words else []

/-! ### Readers -/

/-- Why SQL text is not a sequence of statements: it cannot be cut into tokens, a token stands where
the grammar does not allow it or one is missing, or expressions and queries are nested too deeply.
-/
inductive SyntaxError where
  | lexical (error : LexicalError)
  | unexpected
  | tooDeep
  deriving DecidableEq, Repr

/-- A reader of tokens: what it has read and the tokens that are left. -/
abbrev Parser (α : Type) := StateT (List Token) (Except SyntaxError) α

namespace Parser

def reject {α : Type} : Parser α := throw .unexpected

def peek : Parser (Option Token) := return (← get).head?

def peekSecond : Parser (Option Token) := return (← get).tail.head?

def next : Parser Token := do
  match ← get with
  | [] => reject
  | token :: rest => set rest; return token

def takeIf (condition : Token → Bool) : Parser Bool := do
  match ← get with
  | [] => return false
  | token :: rest => if condition token then set rest; return true else return false

def keyword (k : String) : Parser Bool := takeIf (·.isKeyword k)

def symbol (s : String) : Parser Bool := takeIf (·.isSymbol s)

def beginWith : List String → List Token → Bool
  | [], _ => true
  | _ :: _, [] => false
  | k :: ks, token :: rest => token.isKeyword k && beginWith ks rest

def keywords (ks : List String) : Parser Bool := do
  let tokens ← get
  if beginWith ks tokens then set (tokens.drop ks.length); return true else return false

/-- Takes the keywords if all of them come next, and gives them as they are written. -/
def written (ks : List String) : Parser Text := do
  if ← keywords ks then return Text.phrase (ks.map String.toList) else return []

/-- Takes the first of the phrases that comes next, and gives it as it is written. -/
def among : List (List String) → Parser (Option Text)
  | [] => return none
  | ks :: rest => do
    if ← keywords ks then return some (Text.phrase (ks.map String.toList)) else among rest

/-- Takes one of the phrases, which has to come next, and gives it as it is written. -/
def expectAmong (phrases : List (List String)) : Parser Text := do
  match ← among phrases with
  | some words => return words
  | none => reject

/-- What the words begin, written with them; nothing if they do not come next. -/
def part (ks : List String) (contents : Parser Text) : Parser Text := do
  if ← keywords ks then return Text.phrase (ks.map String.toList ++ [← contents]) else return []

/-- Takes what the first reader looks for or else what the second one does. -/
def either (p q : Parser Bool) : Parser Bool := do if ← p then return true else q

/-- Takes what the reader looks for, but only where the condition holds. -/
def provided (condition : Bool) (p : Parser Bool) : Parser Bool :=
  if condition then p else return false

def atKeyword (k : String) : Parser Bool := return (← peek).any (·.isKeyword k)

def atSymbol (s : String) : Parser Bool := return (← peek).any (·.isSymbol s)

def oneOf : List String → Parser (Option String)
  | [] => return none
  | k :: ks => do if ← keyword k then return some k else oneOf ks

def expectOneOf (ks : List String) : Parser Text := do
  match ← oneOf ks with
  | some k => return k
  | none => reject

def oneWord (ks : List String) : Parser Text := return (← oneOf ks).getD ""

def expectKeyword (k : String) : Parser Unit := do
  if ← keyword k then return () else reject

def expectKeywords : List String → Parser Unit
  | [] => return ()
  | k :: ks => do expectKeyword k; expectKeywords ks

def expectSymbol (s : String) : Parser Unit := do
  if ← symbol s then return () else reject

/-- Reads what may be there: nothing is taken where the reader rejects, but nesting that is too
deep is an error all the same. -/
def maybe {α : Type} (p : Parser α) : Parser (Option α) := fun tokens =>
  match p tokens with
  | .ok (a, rest) => .ok (some a, rest)
  | .error .tooDeep => .error .tooDeep
  | .error _ => .ok (none, tokens)

/-- The items of a list with commas between them, in at most the given number of further steps. -/
def commaSeparatedSteps {α : Type} (item : Parser α) : Nat → Parser (List α)
  | 0 => reject
  | steps + 1 => do
    let a ← item
    if ← symbol "," then return a :: (← commaSeparatedSteps item steps) else return [a]

def commaSeparated {α : Type} (item : Parser α) : Parser (List α) := do
  commaSeparatedSteps item ((← get).length + 1)

/-- A list of items with commas between them, up to but without the given punctuation mark; there
may be no item. -/
def commaSeparatedUpTo {α : Type} (last : String) (item : Parser α) : Parser (List α) := do
  if ← atSymbol last then return [] else commaSeparated item

def parenthesized {α : Type} (p : Parser α) : Parser α := do
  expectSymbol "("
  let a ← p
  expectSymbol ")"
  return a

/-- An identifier: a word, keyword or not, or a string. Whether a keyword is one here is for the
reader before it to decide. -/
def identifier : Parser Identifier := do
  match (← next).identifier? with
  | some name => return name
  | none => reject

def wordText : Parser Text := do
  match (← next).wordText? with
  | some text => return text
  | none => reject

/-- The identifiers of a name that are joined by points, in at most the given number of steps. -/
def nameSteps : Nat → Parser ObjectName
  | 0 => reject
  | steps + 1 => do
    let first ← identifier
    if ← symbol "." then
      let name ← nameSteps steps
      return { name with qualifiers := first :: name.qualifiers }
    else return ⟨[], first⟩

def objectName : Parser ObjectName := do nameSteps ((← get).length + 1)

def natural (bound : Nat) : Parser Nat := do
  match ← next with
  | .number digits _ =>
    match Text.toNat? digits with
    | some n => if n < bound then return n else reject
    | none => reject
  | _ => reject

def singleQuoted : Parser Text := do
  match ← next with
  | .string .single text => return text
  | _ => reject

/-- A string, or in its place a word that the grammar gives no meaning to. -/
def literalText : Parser Text := do
  match ← next with
  | .string _ text => return text
  | .quotedName text => return text
  | .word text => if (Token.word text).isPlainWord then return text else reject
  | _ => reject

def columnNames : Parser (List Identifier) := parenthesized (commaSeparated identifier)

def optionalColumnNames : Parser (List Identifier) := do
  if ← atSymbol "(" then columnNames else return []

def objectNames : Parser Text :=
  return Text.commaList ((← commaSeparated objectName).map ObjectName.write)

def writtenIdentifier : Parser Text := return (← identifier).write

def writtenName : Parser Text := return (← objectName).write

end Parser

def writeNames (names : List Identifier) : Text := Text.commaList (names.map Identifier.write)

/-- The written form of columns by name in parentheses, or nothing where there are none. -/
def writeColumns (names : List Identifier) : Text := listed (names.map Identifier.write)

end TableModel.Ddl
