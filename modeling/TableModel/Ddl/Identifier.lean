import TableModel.Ddl.Token

/-!
# Identifiers and how they are written

An identifier keeps the quotes it was given. It is written with its quote around it and the quotes
inside doubled, except where a quote follows a backslash or stands next to another one: those are
taken as already escaped.
-/

namespace TableModel.Ddl

/-- A text with its quotes doubled, where `afterBackslash` says whether a backslash stands right
before it. A pair of quotes is kept as it is, and so is every quote of a run after a backslash. -/
def doubleQuotes (quote : Char) : Bool → Text → Text
  | _, [] => []
  | afterBackslash, [c] =>
    if c = quote then (if afterBackslash then [c] else [c, c]) else [c]
  | afterBackslash, c :: d :: rest =>
    if c = quote then
      if afterBackslash then c :: doubleQuotes quote true (d :: rest)
      else if d = quote then c :: c :: doubleQuotes quote false rest
      else c :: c :: doubleQuotes quote false (d :: rest)
    else c :: doubleQuotes quote (c == '\\') (d :: rest)

def Quote.write (quote : Quote) (text : Text) : Text :=
  quote.char :: (doubleQuotes quote.char false text ++ [quote.char])

/-- A name and the quotes it stands in, if any; they do not belong to its text. -/
structure Identifier where
  text : Text
  quote : Option Quote
  deriving DecidableEq, Repr

def Identifier.write (name : Identifier) : Text :=
  match name.quote with
  | none => name.text
  | some quote => quote.write name.text

/-- The identifier that a token is: a word, keyword or not, or a string. -/
def Token.identifier? : Token → Option Identifier
  | .word text => some ⟨text, none⟩
  | .quotedName text => some ⟨text, some .backquote⟩
  | .string quote text => some ⟨text, some quote⟩
  | _ => none

def Token.wordText? : Token → Option Text
  | .word text | .quotedName text => some text
  | _ => none

/-- The identifier that a token is inside a compound name of an expression, where nothing stands in
double quotes. -/
def Token.namePart? : Token → Option Identifier
  | .string .double _ => none
  | token => token.identifier?

/-- A name that may be qualified: the identifier of the object itself, and in front of it those of
what the object is in, outermost first. -/
structure ObjectName where
  qualifiers : List Identifier
  last : Identifier
  deriving DecidableEq, Repr

def ObjectName.write (name : ObjectName) : Text :=
  Text.join ['.'] ((name.qualifiers ++ [name.last]).map Identifier.write)

end TableModel.Ddl
