import TableModel.Toml.Scalar

/-!
# Reading TOML documents

A document is a sequence of lines: a blank line or a comment, a key with its value, or a header.
`Toml.parse?` reads them all and then puts the tables together; it gives nothing if a line is not
well formed or a key or table is defined twice.
-/

namespace TableModel.Toml

/-- How many values deep a value may be nested, and how many parts a key may have. -/
def nestingLimit : Nat := 79

/-- The text after a comment at the front, up to the end of its line, if there is one. -/
def comment? : Text → Option Text
  | '#' :: rest => some (rest.dropWhile isPlain)
  | _ => none

/-- The text after what may stand between the items of an array: blanks, line ends and comments,
each of which has to end with its line; in at most the given number of steps. -/
def skipArrayGaps : Nat → Text → Option Text
  | 0, t => some t
  | steps + 1, t =>
    let t := skipGaps t
    match newline? t, comment? t with
    | some rest, _ => skipArrayGaps steps rest
    | none, some rest => do skipArrayGaps steps (← newline? rest)
    | none, none => some t

def isBare (c : Char) : Bool := c.isAlphanum || c = '-' || c = '_'

def keyPart? (t : Text) : Option (Text × Text) :=
  match t with
  | '"' :: _ | '\'' :: _ => quotedKey? t
  | _ =>
    if (t.takeWhile isBare).isEmpty then none
    else some (t.takeWhile isBare, t.dropWhile isBare)

/-- The parts of a key with points between them, blanks around each, in at most the given number of
steps. -/
def keyParts? : Nat → Text → Option (List Text × Text)
  | 0, _ => none
  | steps + 1, t => do
    let (part, rest) ← keyPart? (skipGaps t)
    match skipGaps rest with
    | '.' :: rest => do
      let (parts, rest) ← keyParts? steps rest
      return (part :: parts, rest)
    | rest => return ([part], rest)

def key? (t : Text) : Option (List Text × Text) := keyParts? nestingLimit t

mutual

/-- A value at the front, nested at most the given number of levels deep. -/
def value? : Nat → Nat → Text → Option (Toml × Text)
  | _, 0, _ => none
  | depth, steps + 1, t =>
    match t with
    | '"' :: _ | '\'' :: _ => (string? t).map fun (text, rest) => (.string text, rest)
    | '[' :: rest =>
      match depth with
      | 0 => none
      | depth + 1 => (items? depth steps rest).map fun (items, rest) => (.array items, rest)
    | '\x7b' :: rest =>
      match depth with
      | 0 => none
      | depth + 1 =>
        match skipGaps rest with
        | '\x7d' :: rest => some (.table .inline [], rest)
        | rest => do
          let (entries, rest) ← entries? depth steps rest
          let members ← putEntries entries []
          return (.table .inline members, rest)
    | t => scalar? t

def items? : Nat → Nat → Text → Option (List Toml × Text)
  | _, 0, _ => none
  | depth, steps + 1, t => do
    match ← skipArrayGaps t.length t with
    | ']' :: rest => return ([], rest)
    | t =>
      let (item, rest) ← value? depth steps t
      match ← skipArrayGaps rest.length rest with
      | ',' :: rest => do
        let (items, rest) ← items? depth steps rest
        return (item :: items, rest)
      | ']' :: rest => return ([item], rest)
      | _ => none

def entries? : Nat → Nat → Text → Option (List Entry × Text)
  | _, 0, _ => none
  | depth, steps + 1, t => do
    let (key, rest) ← key? t
    let rest ← exactly? '=' rest
    let (value, rest) ← value? depth steps (skipGaps rest)
    let entry := Entry.mk key.dropLast (key.getLast?.getD []) value
    match skipGaps rest with
    | ',' :: rest => do
      let (entries, rest) ← entries? depth steps rest
      return (entry :: entries, rest)
    | '\x7d' :: rest => return ([entry], rest)
    | _ => none

end

/-- A line that says something: an entry, or a header, which is of a table or, if it `appends`, of
one more table of an array. -/
inductive Line where
  | entry (entry : Entry)
  | header (appends : Bool) (path : List Text)

/-- The text after the rest of a line: blanks, a comment, and the end of the line or the text. -/
def lineEnd? (t : Text) : Option Text :=
  let t := skipGaps t
  let t := (comment? t).getD t
  if t.isEmpty then some [] else newline? t

def header? : Text → Option (Line × Text)
  | '[' :: '[' :: rest => do
    let (path, rest) ← key? rest
    match rest with
    | ']' :: ']' :: rest => return (.header true path, rest)
    | _ => none
  | '[' :: rest => do
    let (path, rest) ← key? rest
    match rest with
    | ']' :: rest => return (.header false path, rest)
    | _ => none
  | _ => none

def keyValue? (t : Text) : Option (Line × Text) := do
  let (key, rest) ← key? t
  let rest ← exactly? '=' rest
  let rest := skipGaps rest
  let (value, rest) ← value? nestingLimit (2 * rest.length + 2) rest
  return (.entry ⟨key.dropLast, key.getLast?.getD [], value⟩, rest)

/-- The lines of a document, in at most the given number of steps. -/
def lines? : Nat → Text → Option (List Line)
  | 0, t => if t.isEmpty then some [] else none
  | steps + 1, t => do
    match skipGaps t with
    | [] => return []
    | c :: rest =>
      if c = '\n' || c = '\r' || c = '#' then lines? steps (← lineEnd? (c :: rest))
      else
        let (line, rest) ← if c = '[' then header? (c :: rest) else keyValue? (c :: rest)
        let rest ← lineEnd? rest
        return line :: (← lines? steps rest)

/-- The entries that lines begin with, up to the first header, and the lines from there on. -/
def leadingEntries : List Line → List Entry × List Line
  | .entry entry :: rest =>
    let (entries, lines) := leadingEntries rest
    (entry :: entries, lines)
  | lines => ([], lines)

/-- The members of a document's table with the sections that lines begin with a header each, in at
most the given number of steps. -/
def putLines : Nat → List Line → Members → Option Members
  | 0, _, members => some members
  | steps + 1, lines, members =>
    match lines with
    | [] => some members
    | .entry _ :: _ => none
    | .header appends path :: rest => do
      let (entries, rest) := leadingEntries rest
      let change := if appends then appendTable entries else openTable entries
      putLines steps rest (← putSection change path members)

/-- The members of the table that a TOML document stands for; a byte order mark in front of it does
not matter. -/
def parse? (t : Text) : Option Members := do
  let t := if t.head? == some (Char.ofNat 0xFEFF) then t.tail else t
  let lines ← lines? (t.length + 1) t
  let (entries, rest) := leadingEntries lines
  putLines rest.length rest (← putEntries entries [])

end TableModel.Toml
