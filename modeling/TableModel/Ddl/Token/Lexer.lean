import TableModel.Ddl.Token.Escape
import TableModel.Ddl.Token
import TableModel.Text
import TableModel.Unicode.Alphanumeric

/-!
# From SQL text to lexemes

`Lexeme.scan` reads the whole text before anything is made of it, so a string, a quoted name or a
comment that is not closed is the first error found. Each step reads one lexeme and takes at least
one character, which is why as many steps as there are characters are enough.

Words begin with a letter, `_`, `$`, `@` or any character from U+0080 to U+FFFF and go on with those
or digits; digits directly in front of a word belong to it. Strings double their quote and know
backslash escapes, more of them where `E` stands in front; a quoted name doubles its backquote and
knows none.
-/

namespace TableModel.Ddl

/-- Why SQL text cannot be cut into tokens: something is not closed before the text ends. -/
inductive LexicalError where
  | openString
  | openName
  | openComment
  deriving DecidableEq, Repr

def startsWord (c : Char) : Bool :=
  Unicode.isAlphabetic c || c == '_' || c == '$' || c == '@' ||
    (0x80 ≤ c.toNat && c.toNat ≤ 0xFFFF)

def continuesWord (c : Char) : Bool := startsWord c || c.isDigit

/-- The character that a backslash and the given character stand for in a string. -/
def escaped : Char → Char
  | '0' => Char.ofNat 0
  | 'a' => Char.ofNat 7
  | 'b' => Char.ofNat 8
  | 'f' => Char.ofNat 12
  | 'n' => '\n'
  | 'r' => '\r'
  | 't' => '\t'
  | 'Z' => Char.ofNat 26
  | c => c

/-- The contents of a string, read up to its closing quote, and the text after that. -/
def stringBody (quote : Char) : Text → Option (Text × Text)
  | [] => none
  | [c] => if c = quote then some ([], []) else none
  | c :: d :: rest =>
    if c = quote then
      if d = quote then (stringBody quote rest).map fun (body, after) => (quote :: body, after)
      else some ([], d :: rest)
    else if c = '\\' then
      (stringBody quote rest).map fun (body, after) => (escaped d :: body, after)
    else (stringBody quote (d :: rest)).map fun (body, after) => (c :: body, after)

/-- The contents of a quoted name, read up to its closing backquote, and the text after that. -/
def nameBody : Text → Option (Text × Text)
  | [] => none
  | [c] => if c = Quote.backquote.char then some ([], []) else none
  | c :: d :: rest =>
    if c = Quote.backquote.char then
      if d = c then (nameBody rest).map fun (body, after) => (c :: body, after)
      else some ([], d :: rest)
    else (nameBody (d :: rest)).map fun (body, after) => (c :: body, after)

/-- What is left of a comment that is `depth` comments deep and whose last character so far is
`last`, and the text after it. -/
def commentBody (depth : Nat) (last : Char) : Text → Option (Text × Text)
  | [] => none
  | c :: rest =>
    if last = '*' && c = '/' && depth = 0 then some ([c], rest)
    else
      let depth :=
        if last = '/' && c = '*' then depth + 1
        else if last = '*' && c = '/' then depth - 1
        else depth
      (commentBody depth c rest).map fun (body, after) => (c :: body, after)

def lineBody : Text → Text × Text
  | [] => ([], [])
  | c :: rest =>
    if c = '\n' then ([c], rest)
    else
      let (body, after) := lineBody rest
      (c :: body, after)

/-- The operators and punctuation marks, longer ones before those they begin with. The first that a
text begins with is the one that is read. -/
def symbols : List String :=
  ["!~~*", "||/", "->>", "<=>", "!~~", "!~*", "~~*", "||", "|/", "->", "=>", "==", "!=", "!!", "!~",
   "<=", "<>", "<<", "<@", ">=", ">>", "::", ":=", "&&", "^@", "~~", "~*", "(", ")", ",", ";", "\\",
   "[", "]", "\x7b", "\x7d", "+", "-", "*", "/", "%", "|", "=", "!", "<", ">", ":", "&", "^", "~"]

/-- The operator or punctuation mark that the text begins with and the text after it; the two
spellings of "not equal" are one operator. -/
def symbolAt (t : Text) : Option (Token × Text) :=
  (symbols.find? fun s => s.toList.isPrefixOf t).map fun s =>
    (.symbol (if s = "!=" then "<>".toList else s.toList), t.drop s.toList.length)

def exponentAt : Text → Option (Text × Text)
  | e :: s :: rest =>
    if e = 'e' || e = 'E' then
      if (s = '+' || s = '-') && (rest.head?.any Char.isDigit) then
        some (e :: s :: rest.takeWhile Char.isDigit, rest.dropWhile Char.isDigit)
      else if s.isDigit then
        some (e :: (s :: rest).takeWhile Char.isDigit, (s :: rest).dropWhile Char.isDigit)
      else none
    else none
  | _ => none

def beginsExponent : Text → Bool
  | c :: _ => c = 'e' || c = 'E'
  | [] => false

/-- The token after a number's digits and point: an exponent makes it a number, letters make it a
word (unless they begin like an exponent), and a number may carry the suffix `L`. -/
def numberTail (digits rest : Text) : Token × Text :=
  match exponentAt rest with
  | some (exponent, rest) => suffixed (digits ++ exponent) rest
  | none =>
    let letters := rest.takeWhile continuesWord
    if beginsExponent rest || letters.isEmpty then suffixed digits rest
    else (.word (digits ++ letters), rest.dropWhile continuesWord)
where
  /-- The number, with its suffix if it has one. -/
  suffixed (digits : Text) : Text → Token × Text
    | 'L' :: rest => (.number digits true, rest)
    | rest => (.number digits false, rest)

def numberAt (t : Text) : Token × Text :=
  let whole := t.takeWhile Char.isDigit
  let rest := t.dropWhile Char.isDigit
  match whole, rest with
  | ['0'], 'x' :: rest => (.hexString (rest.takeWhile isHexDigit), rest.dropWhile isHexDigit)
  | _, '.' :: rest =>
    let fraction := rest.takeWhile Char.isDigit
    if whole.isEmpty && fraction.isEmpty then (.symbol ['.'], rest)
    else numberTail (whole ++ '.' :: fraction) (rest.dropWhile Char.isDigit)
  | _, _ => numberTail whole rest

def wordFrom (start rest : Text) : Token × Text :=
  (.word (start ++ rest.takeWhile continuesWord), rest.dropWhile continuesWord)

/-- The token that begins with `@`, read after it: a word takes whatever character comes next,
except where a space or nothing follows. -/
def atSignAt : Text → Token × Text
  | '>' :: rest => (.symbol "@>".toList, rest)
  | '?' :: rest => (.symbol "@?".toList, rest)
  | '@' :: ' ' :: rest => (.symbol "@@".toList, ' ' :: rest)
  | '@' :: c :: rest => wordFrom ['@', '@', c] rest
  | '@' :: [] => (.symbol "@@".toList, [])
  | ' ' :: rest => (.symbol "@".toList, ' ' :: rest)
  | c :: rest => wordFrom ['@', c] rest
  | [] => (.symbol "@".toList, [])

def stringAt (make : Text → Token) (quote : Char) (rest : Text) :
    Except LexicalError (Lexeme × Text) :=
  match stringBody quote rest with
  | some (body, rest) => .ok (.token (make body), rest)
  | none => .error .openString

def nameAt (rest : Text) : Except LexicalError (Lexeme × Text) :=
  match nameBody rest with
  | some (body, rest) => .ok (.token (.quotedName body), rest)
  | none => .error .openName

/-- The comment up to the end of the line whose first characters have been read. -/
def lineCommentAt (start rest : Text) : Except LexicalError (Lexeme × Text) :=
  let (body, rest) := lineBody rest
  .ok (.gap (start ++ body), rest)

/-- The lexeme that the text `c :: rest` begins with, and the text after it. -/
def scanOne (c : Char) (rest : Text) : Except LexicalError (Lexeme × Text) :=
  match c, rest with
  | ' ', rest => .ok (.gap [' '], rest)
  | '\t', rest | '\n', rest | '\r', '\n' :: rest | '\r', rest => .ok (.separator, rest)
  | 'N', '\'' :: rest | 'n', '\'' :: rest => stringAt .nationalString '\'' rest
  | 'X', '\'' :: rest | 'x', '\'' :: rest => stringAt .hexString '\'' rest
  | 'E', '\'' :: rest | 'e', '\'' :: rest =>
    match escapedBody rest with
    | some (body, rest) => .ok (.token (.escapedString body), rest)
    | none => .error .openString
  | '\'', rest => stringAt (.string .single) '\'' rest
  | '"', rest => stringAt (.string .double) '"' rest
  | '\x60', rest => nameAt rest
  | '-', '-' :: rest => lineCommentAt "--" rest
  | '#', rest => lineCommentAt "#" rest
  | '/', '*' :: rest =>
    match commentBody 0 ' ' rest with
    | some (body, rest) => .ok (.gap ("/*" ++ body), rest)
    | none => .error .openComment
  | '@', rest => let (token, rest) := atSignAt rest; .ok (.token token, rest)
  | '?', rest =>
    .ok (.token (.placeholder ('?' :: rest.takeWhile Unicode.isNumeric)),
      rest.dropWhile Unicode.isNumeric)
  | c, rest =>
    if c.isDigit || c = '.' then
      let (token, rest) := numberAt (c :: rest)
      .ok (.token token, rest)
    else match symbolAt (c :: rest) with
      | some (token, rest) => .ok (.token token, rest)
      | none =>
        if startsWord c then
          let (token, rest) := wordFrom [c] rest
          .ok (.token token, rest)
        else if Text.isBlank c then .ok (.gap [' '], rest)
        else .ok (.token (.symbol [c]), rest)

/-- The lexemes of a text, in at most the given number of steps. -/
def scanSteps : Nat → Text → Except LexicalError (List Lexeme)
  | _, [] => .ok []
  | 0, _ :: _ => .ok []
  | steps + 1, c :: rest => do
    let (lexeme, rest) ← scanOne c rest
    let lexemes ← scanSteps steps rest
    .ok (lexeme :: lexemes)

def Lexeme.scan (t : Text) : Except LexicalError (List Lexeme) := scanSteps t.length t

end TableModel.Ddl
