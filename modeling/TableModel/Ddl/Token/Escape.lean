import TableModel.Ddl.Token

/-!
# Strings with more escapes

In a string marked with `E` a backslash stands in front of a letter for a control character, of an
octal or hexadecimal number of an ASCII character, or of the number of any character in four or
eight hexadecimal digits. An escape that names no character, or the character with number zero,
leaves the string without an end.
-/

namespace TableModel.Ddl

def hexValue? (c : Char) : Option Nat :=
  if c.isDigit then some (c.toNat - 48)
  else if 'a' ≤ c && c ≤ 'f' then some (c.toNat - 87)
  else if 'A' ≤ c && c ≤ 'F' then some (c.toNat - 55)
  else none

def isHexDigit (c : Char) : Bool := (hexValue? c).isSome

def isOctalDigit (c : Char) : Bool := '0' ≤ c && c ≤ '7'

/-- The number that the digits stand for in the given base, after the number that the digits before
them stand for. -/
def digitsValue? (base : Nat) : Nat → Text → Option Nat
  | n, [] => some n
  | n, c :: rest =>
    match hexValue? c with
    | some d => if d < base then digitsValue? base (base * n + d) rest else none
    | none => none

/-- The ASCII character whose number the digits stand for, of which the last eight bits count. -/
def asciiNumbered? (base : Nat) (digits : Text) : Option Char := do
  let n ← digitsValue? base 0 digits
  if n % 256 < 128 then some (Char.ofNat (n % 256)) else none

/-- The character whose number the hexadecimal digits stand for; a plus sign may stand in front. -/
def characterNumbered? (digits : Text) : Option Char := do
  let n ← digitsValue? 16 0 (if digits.head? = some '+' then digits.tail else digits)
  if n.isValidChar then some (Char.ofNat n) else none

/-- The character that the escape at the front of the text stands for, the text being read after the
backslash, and what is left. -/
def escapeAt : Text → Option (Char × Text)
  | [] => none
  | 'b' :: rest => some (Char.ofNat 8, rest)
  | 'f' :: rest => some (Char.ofNat 12, rest)
  | 'n' :: rest => some ('\n', rest)
  | 'r' :: rest => some ('\r', rest)
  | 't' :: rest => some ('\t', rest)
  | 'u' :: rest => numbered 4 rest
  | 'U' :: rest => numbered 8 rest
  | 'x' :: rest =>
    let digits := (rest.take 2).takeWhile isHexDigit
    if digits.isEmpty then some ('x', rest)
    else (asciiNumbered? 16 digits).map fun c => (c, rest.drop digits.length)
  | c :: rest =>
    if isOctalDigit c then
      let digits := (rest.take 2).takeWhile isOctalDigit
      (asciiNumbered? 8 (c :: digits)).map fun c => (c, rest.drop digits.length)
    else some (c, rest)
where
  /-- The character whose number is written in the given number of digits. -/
  numbered (count : Nat) (rest : Text) : Option (Char × Text) :=
    if rest.length < count then none
    else (characterNumbered? (rest.take count)).map fun c => (c, rest.drop count)

/-- The contents of a string marked with `E`, read up to its closing quote, and the text after that,
in at most the given number of steps. -/
def escapedBodySteps : Nat → Text → Option (Text × Text)
  | 0, _ => none
  | _, [] => none
  | steps + 1, c :: rest =>
    if c = '\'' then
      if rest.head? = some '\'' then
        (escapedBodySteps steps rest.tail).map fun (body, after) => ('\'' :: body, after)
      else some ([], rest)
    else if c = '\\' then do
      let (c, rest) ← escapeAt rest
      if c.toNat = 0 then none
      else (escapedBodySteps steps rest).map fun (body, after) => (c :: body, after)
    else (escapedBodySteps steps rest).map fun (body, after) => (c :: body, after)

/-- The contents of a string marked with `E`, read up to its closing quote, and the text after
that. -/
def escapedBody (t : Text) : Option (Text × Text) := escapedBodySteps t.length t

/-- The hexadecimal digits of a number, at least the given number of them. -/
def paddedHex (width n : Nat) : Text :=
  let digits := (Nat.toDigits 16 n).map Char.toUpper
  List.replicate (width - digits.length) '0' ++ digits

/-- The escape that a character is written as in a string marked with `E`. -/
def escapeOf (c : Char) : Text :=
  if c = '\'' || c = '\\' then ['\\', c]
  else if c = '\n' then "\\n"
  else if c = '\t' then "\\t"
  else if c = '\r' then "\\r"
  else if c.toNat < 128 then [c]
  else if c.toNat ≤ 0xFFFF then "\\u" ++ paddedHex 4 c.toNat
  else "\\U" ++ paddedHex 8 c.toNat

def writeEscaped (t : Text) : Text := "E'" ++ t.flatMap escapeOf ++ "'"

end TableModel.Ddl
