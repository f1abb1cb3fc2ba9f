import TableModel.Toml

/-!
# TOML scalars

Readers of strings, numbers, dates and times. A reader gives what it has read and the text after it.
A number has to fit: an integer into 64 bits with a sign, a float below the largest one.
-/

namespace TableModel.Toml

def isGap (c : Char) : Bool := c = ' ' || c = '\t'

def skipGaps (t : Text) : Text := t.dropWhile isGap

/-- Whether the character may stand in a comment or in a string of one line, where no other rule
takes it. -/
def isPlain (c : Char) : Bool := c = '\t' || (0x20 ≤ c.toNat && c.toNat != 0x7F)

def newline? : Text → Option Text
  | '\n' :: rest => some rest
  | '\r' :: '\n' :: rest => some rest
  | _ => none

def hexDigit? (c : Char) : Option Nat :=
  if '0' ≤ c && c ≤ '9' then some (c.toNat - 48)
  else if 'a' ≤ c && c ≤ 'f' then some (c.toNat - 87)
  else if 'A' ≤ c && c ≤ 'F' then some (c.toNat - 55)
  else none

/-- The character with the code point that hexadecimal digits give, if there is one. -/
def charOfHex? (digits : Text) : Option Char := do
  let n ← digits.foldlM (fun n c => do return 16 * n + (← hexDigit? c)) 0
  if n.isValidChar then some (Char.ofNat n) else none

/-- The character that an escape after its backslash stands for, and the text after it. -/
def escape? : Text → Option (Char × Text)
  | 'b' :: rest => some (Char.ofNat 8, rest)
  | 't' :: rest => some ('\t', rest)
  | 'n' :: rest => some ('\n', rest)
  | 'f' :: rest => some (Char.ofNat 12, rest)
  | 'r' :: rest => some ('\r', rest)
  | '"' :: rest => some ('"', rest)
  | '\\' :: rest => some ('\\', rest)
  | 'u' :: rest =>
    if rest.length < 4 then none else (charOfHex? (rest.take 4)).map fun c => (c, rest.drop 4)
  | 'U' :: rest =>
    if rest.length < 8 then none else (charOfHex? (rest.take 8)).map fun c => (c, rest.drop 8)
  | _ => none

/-- The contents of a string in double quotes up to the closing one, in at most the given number of
steps. -/
def basicBody : Nat → Text → Option (Text × Text)
  | 0, _ => none
  | _ + 1, [] => none
  | steps + 1, c :: rest =>
    if c = '"' then some ([], rest)
    else if c = '\\' then do
      let (e, rest) ← escape? rest
      let (body, after) ← basicBody steps rest
      return (e :: body, after)
    else if isPlain c then do
      let (body, after) ← basicBody steps rest
      return (c :: body, after)
    else none

def literalBody : Text → Option (Text × Text)
  | [] => none
  | c :: rest =>
    if c = '\'' then some ([], rest)
    else if isPlain c then (literalBody rest).map fun (body, after) => (c :: body, after)
    else none

/-- A text without the blanks and line ends it begins with, in at most the given number of steps. -/
def skipLines : Nat → Text → Text
  | 0, t => t
  | steps + 1, t =>
    match newline? (skipGaps t) with
    | some rest => skipLines steps rest
    | none => skipGaps t

/-- The quotes at the front: what of them belongs to the contents of a string of several lines, and
the text after the string if they end it. -/
def quotesAt (q : Char) (t : Text) : Text × Option Text :=
  let run := t.takeWhile (· = q)
  if run.length < 3 then (run, none)
  else
    let extra := min (run.length - 3) 2
    (run.take extra, some (t.drop (extra + 3)))

/-- The contents of a string of several lines up to the closing quotes, in at most the given number
of steps. Between double quotes there are escapes, and a backslash at the end of a line takes away
all blanks and line ends after it; between single quotes there are none. -/
def multilineBody (q : Char) : Nat → Text → Option (Text × Text)
  | 0, _ => none
  | _ + 1, [] => none
  | steps + 1, c :: rest =>
    if c = q then
      match quotesAt q (c :: rest) with
      | (quotes, some after) => some (quotes, after)
      | (quotes, none) => do
        let (body, after) ← multilineBody q steps ((c :: rest).drop quotes.length)
        return (quotes ++ body, after)
    else if c = '\\' && q = '"' then
      match newline? (skipGaps rest) with
      | some after => multilineBody q steps (skipLines after.length after)
      | none => do
        let (e, rest) ← escape? rest
        let (body, after) ← multilineBody q steps rest
        return (e :: body, after)
    else
      match newline? (c :: rest) with
      | some rest => do
        let (body, after) ← multilineBody q steps rest
        return ('\n' :: body, after)
      | none =>
        if isPlain c then do
          let (body, after) ← multilineBody q steps rest
          return (c :: body, after)
        else none

/-- A string of several lines after its opening quotes; a line end right after them is dropped. -/
def multiline? (q : Char) (t : Text) : Option (Text × Text) :=
  let t := (newline? t).getD t
  multilineBody q (t.length + 1) t

def string? : Text → Option (Text × Text)
  | '"' :: '"' :: '"' :: rest => multiline? '"' rest
  | '\'' :: '\'' :: '\'' :: rest => multiline? '\'' rest
  | '"' :: rest => basicBody (rest.length + 1) rest
  | '\'' :: rest => literalBody rest
  | _ => none

/-- A string of one line at the front, as a key may be. -/
def quotedKey? : Text → Option (Text × Text)
  | '"' :: rest => basicBody (rest.length + 1) rest
  | '\'' :: rest => literalBody rest
  | _ => none

/-! ### Numbers -/

def moreDigits (isDigit : Char → Bool) : Text → Text × Text
  | [] => ([], [])
  | [c] => if isDigit c then ([c], []) else ([], [c])
  | c :: d :: rest =>
    if isDigit c then
      let (digits, after) := moreDigits isDigit (d :: rest)
      (c :: digits, after)
    else if c = '_' && isDigit d then
      let (digits, after) := moreDigits isDigit rest
      (d :: digits, after)
    else ([], c :: d :: rest)

/-- One or more digits, with underscores between digits, at the front; the underscores are left
out. -/
def digits? (isDigit : Char → Bool) : Text → Option (Text × Text)
  | c :: rest =>
    if isDigit c then
      let (digits, after) := moreDigits isDigit rest
      some (c :: digits, after)
    else none
  | [] => none

/-- The whole part of a decimal number: a zero, or digits that do not begin with one. -/
def wholePart? : Text → Option (Text × Text)
  | '0' :: rest => some (['0'], rest)
  | t => digits? Char.isDigit t

/-- The fraction at the front, without its point, if there is one. -/
def fraction? : Text → Option (Text × Text)
  | '.' :: rest => digits? Char.isDigit rest
  | _ => none

/-- The exponent at the front, if there is one: whether it is negative, and its digits. -/
def exponent? : Text → Option (Bool × Text × Text)
  | e :: rest =>
    if e = 'e' || e = 'E' then
      match rest with
      | '-' :: rest => (digits? Char.isDigit rest).map fun (digits, after) => (true, digits, after)
      | '+' :: rest => (digits? Char.isDigit rest).map fun (digits, after) => (false, digits, after)
      | rest => (digits? Char.isDigit rest).map fun (digits, after) => (false, digits, after)
    else none
  | [] => none

def valueOf (base : Nat) (digits : Text) : Nat :=
  digits.foldl (fun n c => base * n + (hexDigit? c).getD 0) 0

def integerBound : Nat := 0x8000000000000000

/-- The least number that is too large for a float of 64 bits: halfway from the largest float to the
next power of two. -/
def floatBound : Nat := Nat.pow 2 1024 - Nat.pow 2 970

/-- Whether the decimal number with the given digits before and after its point and the given
exponent is below the bound. -/
def fitsFloat (whole fraction : Text) (negative : Bool) (exponent : Text) : Bool :=
  let digits := (whole ++ fraction).dropWhile (· = '0')
  let n := valueOf 10 digits
  let e := valueOf 10 exponent
  if digits.isEmpty then true
  else if negative then digits.length ≤ e || n < floatBound * Nat.pow 10 (fraction.length + e)
  else if fraction.length + 400 < e then false
  else n * Nat.pow 10 e < floatBound * Nat.pow 10 fraction.length

/-- A decimal number without its sign: its literal, whether it is a float, and whether it fits. -/
def decimal? (negative : Bool) (t : Text) : Option (Text × Text) := do
  let (whole, rest) ← wholePart? t
  match fraction? rest, exponent? rest with
  | some (fraction, rest), _ =>
    match exponent? rest with
    | some (down, exponent, rest) =>
      if negative || fitsFloat whole fraction down exponent then some (whole ++ fraction, rest)
      else none
    | none =>
      if negative || fitsFloat whole fraction false [] then some (whole ++ fraction, rest) else none
  | none, some (down, exponent, rest) =>
    if negative || fitsFloat whole [] down exponent then some (whole, rest) else none
  | none, none =>
    if valueOf 10 whole < integerBound + (if negative then 1 else 0) then some (whole, rest)
    else none

def based? (base : Nat) (t : Text) : Option (Text × Text) := do
  let isDigit := fun c => (hexDigit? c).any (· < base)
  let (digits, rest) ← digits? isDigit t
  if valueOf base digits < integerBound then some (digits, rest) else none

def unsigned? (negative : Bool) : Text → Option (Text × Text)
  | 'i' :: 'n' :: 'f' :: rest => some ("inf".toList, rest)
  | 'n' :: 'a' :: 'n' :: rest => some ("nan".toList, rest)
  | t => decimal? negative t

def number? : Text → Option (Text × Text)
  | '0' :: 'x' :: rest => based? 16 rest
  | '0' :: 'o' :: rest => based? 8 rest
  | '0' :: 'b' :: rest => based? 2 rest
  | '+' :: rest => unsigned? false rest
  | '-' :: rest => (unsigned? true rest).map fun (literal, after) => ('-' :: literal, after)
  | t => unsigned? false t

/-! ### Dates and times -/

/-- The number that exactly so many digits at the front stand for. -/
def fixedDigits? (count : Nat) (t : Text) : Option (Nat × Text) :=
  if (t.take count).length = count && (t.take count).all Char.isDigit then
    some (valueOf 10 (t.take count), t.drop count)
  else none

def exactly? (c : Char) : Text → Option Text
  | d :: rest => if c = d then some rest else none
  | [] => none

def daysOf (year month : Nat) : Nat :=
  if month = 2 then
    if year % 4 = 0 && (year % 100 != 0 || year % 400 = 0) then 29 else 28
  else if month = 4 || month = 6 || month = 9 || month = 11 then 30
  else 31

def date? (t : Text) : Option Text := do
  let (year, rest) ← fixedDigits? 4 t
  let rest ← exactly? '-' rest
  let (month, rest) ← fixedDigits? 2 rest
  let rest ← exactly? '-' rest
  let (day, rest) ← fixedDigits? 2 rest
  if 1 ≤ month && month ≤ 12 && 1 ≤ day && day ≤ daysOf year month then some rest else none

/-- The text after a time of day; the last minute of a day may have a leap second. -/
def time? (t : Text) : Option Text := do
  let (hour, rest) ← fixedDigits? 2 t
  let rest ← exactly? ':' rest
  let (minute, rest) ← fixedDigits? 2 rest
  let rest ← exactly? ':' rest
  let (second, rest) ← fixedDigits? 2 rest
  if 23 < hour || 59 < minute || 60 < second then none
  else
    match rest with
    | '.' :: c :: after =>
      if c.isDigit then some (after.dropWhile Char.isDigit) else some rest
    | _ => some rest

/-- The text after the offset of a time from universal time, if there is one. -/
def afterOffset (t : Text) : Option Text :=
  match t with
  | 'Z' :: rest | 'z' :: rest => some rest
  | '+' :: rest | '-' :: rest => do
    let (hour, rest) ← fixedDigits? 2 rest
    let rest ← exactly? ':' rest
    let (minute, rest) ← fixedDigits? 2 rest
    if 23 < hour || 59 < minute then none else some rest
  | _ => some t

/-- The text after a date and, if one follows, a time. -/
def dateTime? (t : Text) : Option Text := do
  let rest ← date? t
  match rest with
  | c :: after =>
    if c = 'T' || c = 't' || c = ' ' then
      match time? after with
      | some rest => afterOffset rest
      | none => some (c :: after)
    else some (c :: after)
  | [] => some []

def beginsDate (t : Text) : Bool :=
  (t.take 4).length = 4 && (t.take 4).all Char.isDigit && (t.drop 4).head? == some '-'

def beginsTime (t : Text) : Bool :=
  (t.take 2).length = 2 && (t.take 2).all Char.isDigit && (t.drop 2).head? == some ':'

/-- A value that is neither a string nor made of other values. -/
def scalar? (t : Text) : Option (Toml × Text) :=
  if beginsDate t then do
    let rest ← dateTime? t
    return (.dateTime (t.take (t.length - rest.length)), rest)
  else if beginsTime t then do
    let rest ← time? t
    return (.dateTime (t.take (t.length - rest.length)), rest)
  else
    match t with
    | 't' :: 'r' :: 'u' :: 'e' :: rest => some (.bool true, rest)
    | 'f' :: 'a' :: 'l' :: 's' :: 'e' :: rest => some (.bool false, rest)
    | t => (number? t).map fun (literal, rest) => (.number literal, rest)

end TableModel.Toml
