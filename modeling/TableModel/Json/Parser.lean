import TableModel.Json

/-!
# Reading JSON text

The grammar is that of RFC 8259: one value with blanks around it and nothing else. `Json.parse?`
gives the value of a text, or nothing if the text is not well formed.
-/

namespace TableModel.Json

/-- Whether the character is a blank between tokens. There are four of them, all in ASCII. -/
def isGap (c : Char) : Bool := c = ' ' || c = '\n' || c = '\t' || c = '\r'

def skipGaps (t : Text) : Text := t.dropWhile isGap

/-- What an escape or a character of a string stands for: a character, or half of a surrogate
pair. -/
inductive StringUnit where
  | char (c : Char)
  | surrogate (n : Nat)

def hexDigit? (c : Char) : Option Nat :=
  if '0' ≤ c && c ≤ '9' then some (c.toNat - 48)
  else if 'a' ≤ c && c ≤ 'f' then some (c.toNat - 87)
  else if 'A' ≤ c && c ≤ 'F' then some (c.toNat - 55)
  else none

def hexValue? (a b c d : Char) : Option Nat := do
  return (((← hexDigit? a) * 16 + (← hexDigit? b)) * 16 + (← hexDigit? c)) * 16 + (← hexDigit? d)

/-- What a number of 16 bits stands for in a string. -/
def unitOf (n : Nat) : StringUnit :=
  if 0xD800 ≤ n && n ≤ 0xDFFF then .surrogate n else .char (Char.ofNat n)

def simpleEscape? : Char → Option Char
  | '"' => some '"'
  | '\\' => some '\\'
  | '/' => some '/'
  | 'b' => some (Char.ofNat 8)
  | 'f' => some (Char.ofNat 12)
  | 'n' => some '\n'
  | 'r' => some '\r'
  | 't' => some '\t'
  | _ => none

/-- The units of a string up to its closing quote, and the text after that. -/
def stringUnits : Text → Option (List StringUnit × Text)
  | [] => none
  | '"' :: rest => some ([], rest)
  | '\\' :: 'u' :: a :: b :: c :: d :: rest => do
    let n ← hexValue? a b c d
    let (units, after) ← stringUnits rest
    return (unitOf n :: units, after)
  | '\\' :: c :: rest => do
    let e ← simpleEscape? c
    let (units, after) ← stringUnits rest
    return (.char e :: units, after)
  | c :: rest =>
    if c.toNat < 0x20 || c = '\\' then none
    else do
      let (units, after) ← stringUnits rest
      return (.char c :: units, after)

/-- The character that two halves of a surrogate pair stand for, if they are a first and a second
half. -/
def pair? (high low : Nat) : Option Char :=
  if high < 0xDC00 && 0xDC00 ≤ low then
    some (Char.ofNat (0x10000 + (high - 0xD800) * 0x400 + (low - 0xDC00)))
  else none

/-- The text that units stand for. Two halves of a surrogate pair in a row are one character; where
one of them is alone there is no text. -/
def textOfUnits : List StringUnit → Option Text
  | [] => some []
  | .char c :: rest => (textOfUnits rest).map (c :: ·)
  | .surrogate high :: .surrogate low :: rest => do
    let c ← pair? high low
    return c :: (← textOfUnits rest)
  | .surrogate _ :: _ => none

def digits? (t : Text) : Option (Text × Text) :=
  if (t.takeWhile Char.isDigit).isEmpty then none
  else some (t.takeWhile Char.isDigit, t.dropWhile Char.isDigit)

def wholePart? : Text → Option (Text × Text)
  | '0' :: rest => some (['0'], rest)
  | t => digits? t

/-- The fraction of a number, if there is one; a point has to be followed by digits. -/
def fraction? : Text → Option (Text × Text)
  | '.' :: rest => (digits? rest).map fun (digits, after) => ('.' :: digits, after)
  | t => some ([], t)

/-- The exponent of a number, if there is one; its letter has to be followed by digits, with or
without a sign. -/
def exponent? : Text → Option (Text × Text)
  | e :: rest =>
    if e = 'e' || e = 'E' then
      match rest with
      | s :: rest' =>
        if s = '+' || s = '-' then
          (digits? rest').map fun (digits, after) => (e :: s :: digits, after)
        else (digits? rest).map fun (digits, after) => (e :: digits, after)
      | [] => none
    else some ([], e :: rest)
  | [] => some ([], [])

def unsigned? (t : Text) : Option (Text × Text) := do
  let (whole, rest) ← wholePart? t
  let (fraction, rest) ← fraction? rest
  let (exponent, rest) ← exponent? rest
  return (whole ++ fraction ++ exponent, rest)

def scalar? : Text → Option (Json × Text)
  | 'n' :: 'u' :: 'l' :: 'l' :: rest => some (.null, rest)
  | 't' :: 'r' :: 'u' :: 'e' :: rest => some (.bool true, rest)
  | 'f' :: 'a' :: 'l' :: 's' :: 'e' :: rest => some (.bool false, rest)
  | '-' :: rest => (unsigned? rest).map fun (literal, after) => (.number ('-' :: literal), after)
  | t => (unsigned? t).map fun (literal, after) => (.number literal, after)

def key? (t : Text) : Option (Option Text × Text) :=
  match t with
  | '"' :: rest => do
    let (units, after) ← stringUnits rest
    match skipGaps after with
    | ':' :: after => some (textOfUnits units, after)
    | _ => none
  | _ => none

mutual

/-- A value at the front, with blanks before it, and the text after it. -/
def value? : Nat → Text → Option (Json × Text)
  | 0, _ => none
  | steps + 1, t =>
    match skipGaps t with
    | '"' :: rest =>
      (stringUnits rest).map fun (units, after) => (.string (textOfUnits units), after)
    | '[' :: rest =>
      match skipGaps rest with
      | ']' :: after => some (.array [], after)
      | _ => (items? steps rest).map fun (items, after) => (.array items, after)
    | '\x7b' :: rest =>
      match skipGaps rest with
      | '\x7d' :: after => some (.object [], after)
      | _ => (members? steps rest).map fun (members, after) => (.object members, after)
    | t => scalar? t

def items? : Nat → Text → Option (List Json × Text)
  | 0, _ => none
  | steps + 1, t => do
    let (item, after) ← value? steps t
    match skipGaps after with
    | ',' :: rest =>
      let (items, after) ← items? steps rest
      return (item :: items, after)
    | ']' :: after => return ([item], after)
    | _ => none

def members? : Nat → Text → Option (List (Option Text × Json) × Text)
  | 0, _ => none
  | steps + 1, t => do
    let (key, after) ← key? (skipGaps t)
    let (value, after) ← value? steps after
    match skipGaps after with
    | ',' :: rest =>
      let (members, after) ← members? steps rest
      return ((key, value) :: members, after)
    | '\x7d' :: after => return ([(key, value)], after)
    | _ => none

end

/-- The value that a JSON text stands for. Only blanks may stand around it. -/
def parse? (t : Text) : Option Json :=
  match value? (2 * t.length + 2) t with
  | some (value, rest) => if (skipGaps rest).isEmpty then some value else none
  | none => none

end TableModel.Json
