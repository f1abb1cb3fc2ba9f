import TableModel.Text
import TableModel.Unicode.Alphanumeric
import TableModel.Unicode.Cluster
import TableModel.Unicode.Lowercase
import TableModel.Unicode.Uppercase

/-!
# Names

What stands in a model for the name of a table or a column and for the comment on a column. A name is
first taken out of its quotes (`cleanName`). The Go name for it is made of its words
(`Naming.exportedName`), its tag is a template with the name in it (`Naming.fillTag`), and its comment
is put on one line (`Naming.lineComment`).
-/

namespace TableModel

/-! ### Clean names

A name is taken out of the quotes it is written in: backquotes, double or single quotes, or
brackets. One layer of quotes is removed, the closing quotes doubled inside become single ones, and
blanks at the ends go, outside the quotes and inside. -/

/-- The text in which every pair of the character becomes one. Pairs are counted from the left, so
of three in a row the first two are a pair and the third stays. -/
def collapsePairs (q : Char) : Text → Text
  | [] => []
  | [c] => [c]
  | c :: d :: rest =>
    if c = q && d = q then q :: collapsePairs q rest else c :: collapsePairs q (d :: rest)

def closingQuote? : Char → Option Char
  | '\x60' => some '\x60'
  | '"' => some '"'
  | '\'' => some '\''
  | '[' => some ']'
  | _ => none

/-- A text without one layer of quotes, if it begins and ends with a pair of them. Nothing is asked
of what stands between, so also a text of two quoted words loses its first and its last quote. -/
def stripQuotes : Text → Text
  | [] => []
  | first :: rest =>
    match closingQuote? first, rest.getLast? with
    | some close, some last =>
      if last = close then Text.trim (collapsePairs close rest.dropLast) else first :: rest
    | _, _ => first :: rest

def cleanName (raw : Text) : Text := stripQuotes (Text.trim raw)

end TableModel

namespace TableModel.Naming

/-! ### The words of a name

A name in any of the usual spellings is cut into words: `_`, `-` and the space stand between words
and belong to none, and a border without a separator lies where a lower-case letter meets an
upper-case one, where a letter meets a digit, and before the last of several capitals in a row if a
lower-case letter follows it. Borders lie between character clusters, so an accent stays with its
letter. -/

def isSeparator (cluster : Text) : Bool :=
  cluster == ['_'] || cluster == ['-'] || cluster == [' ']

/-- Whether the cluster has case and is in upper case. A cluster without case, such as an ideograph,
is neither in upper nor in lower case. -/
def isUpper (cluster : Text) : Bool :=
  Unicode.toUpper cluster != Unicode.toLower cluster && cluster == Unicode.toUpper cluster

def isLower (cluster : Text) : Bool :=
  Unicode.toUpper cluster != Unicode.toLower cluster && cluster == Unicode.toLower cluster

def isDigit (cluster : Text) : Bool := cluster.all Char.isDigit

/-- Whether a border lies between the first two clusters. -/
def borderAfterFirst : List Text → Bool
  | a :: b :: rest =>
    (isLower a && isUpper b) || (isLower a && isDigit b) || (isUpper a && isDigit b) ||
      (isDigit a && isLower b) || (isDigit a && isUpper b) ||
      (isUpper a && isUpper b && rest.head?.any isLower)
  | _ => false

def consCluster (a : Text) : List Text → List Text
  | [] => [a]
  | word :: rest => (a ++ word) :: rest

/-- The words that clusters form. Some are empty where a separator stands at an end or beside
another one. -/
def wordsOf : List Text → List Text
  | [] => [[]]
  | a :: rest =>
    if isSeparator a then [] :: wordsOf rest
    else if borderAfterFirst (a :: rest) then a :: wordsOf rest
    else consCluster a (wordsOf rest)

def nameWords (name : Text) : List Text :=
  (wordsOf (Unicode.clusters name)).filter (!·.isEmpty)

/-! ### Exported names

Each word of a name in lower case, cut once more at everything that is not a letter or a number, then
with its first letter in upper case; a word that Go spells in capitals, such as `id`, is written in
capitals throughout. -/

/-- The words that Go writes in capitals inside a name. A word of a name has no border in it, so the
one with a digit is never among them. -/
def initialisms : List String :=
  ["ACL", "API", "ASCII", "CPU", "CSS", "DNS", "EOF", "GUID", "HTML", "HTTP", "HTTPS", "ID",
   "IP", "JSON", "LHS", "QPS", "RAM", "RHS", "RPC", "SLA", "SMTP", "SQL", "SSH", "TCP", "TLS",
   "TTL", "UDP", "UI", "UID", "UUID", "URI", "URL", "UTF8", "VM", "XML", "XMPP", "XSRF", "XSS"]

/-- Whether a word, given in upper case, is one that Go writes in capitals. -/
def isInitialism (word : Text) : Bool := initialisms.any fun s => s.toList == word

def capitalize : Text → Text
  | [] => []
  | c :: rest => Unicode.upperChar c ++ rest

def goWord (word : Text) : Text :=
  if isInitialism (Unicode.toUpper word) then Unicode.toUpper word else capitalize word

/-- What a word of a name, put in lower case, gives of the Go name. -/
def goPart (word : Text) : Text :=
  (Text.pieces (!Unicode.isAlphanumeric ·) (Unicode.toLower word)).flatMap goWord

def exportedName (name : Text) : Text := (nameWords name).flatMap goPart

/-! ### Field tags

A tag template has any number of placeholders `%s`. Reading it from the left, each becomes the name;
what is inserted is not read again, and nothing else in the template has a meaning. -/

def fillTag (name : Text) : Text → Text
  | [] => []
  | [c] => [c]
  | c :: d :: rest =>
    if c = '%' && d = 's' then name ++ fillTag name rest else c :: fillTag name (d :: rest)

/-! ### Comments at the end of a line

The comment on a column goes behind its field on the same line, so every line break in it becomes a
space; a carriage return with a line feed is one break. -/

def joinLines : Text → Text
  | [] => []
  | [c] => if c = '\r' || c = '\n' then [' '] else [c]
  | c :: d :: rest =>
    if c = '\r' && d = '\n' then ' ' :: joinLines rest
    else (if c = '\r' || c = '\n' then ' ' else c) :: joinLines (d :: rest)

/-- The comment for a field, with what separates it from the field. Without a comment there is
nothing, while an empty one leaves its slashes behind. -/
def lineComment : Option Text → Text
  | none => []
  | some comment => " // ".toList ++ joinLines (cleanName comment)

end TableModel.Naming
