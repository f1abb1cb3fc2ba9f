import TableModel.CommandLine.Environment
import TableModel.Unicode.Alphanumeric

/-!
# Filters for log lines

A filter is a list of directives with commas between them. A directive is a level, a target, or a
target with a level after an equals sign; between the two there may be a span in brackets, which may
name a field in braces and say which values it has. `isLogFilter` says which texts are filters, for
whatever values of fields the libraries take.
-/

namespace TableModel

/-- A number with an optional plus sign, as levels may be given. -/
def signedNat? : Text → Option Nat
  | '+' :: digits => Text.toNat? digits
  | digits => Text.toNat? digits

/-- Whether the text is a level: a name in any case, or a number from none of the lines to all. -/
def isLevel (t : Text) : Bool :=
  (["off", "error", "warn", "info", "debug", "trace"].any fun name =>
    Text.sameFolded t name.toList) || (signedNat? t).any (· ≤ 5)

/-- Whether a level may end a directive with the text; without one, all lines count. -/
def isLevelOrNone (t : Text) : Bool := t.isEmpty || isLevel t

/-- What follows a directive's target or span: nothing, or an equals sign and the text of a level. -/
inductive DirectiveEnd where
  | nothing
  | level (t : Text)
  deriving DecidableEq, Repr

def spanEnd? : Text → Option DirectiveEnd
  | [] => some .nothing
  | '=' :: level => some (.level level)
  | _ => none

variable [Libraries]

/-- Whether the text names a field: a name, and maybe its values after an equals sign. What stands
behind a second equals sign does not matter. -/
def isField (t : Text) : Bool :=
  match Text.splitAt (fun c => c = '=') t with
  | _ :: values :: _ => !t.isEmpty && Libraries.isFieldValue values
  | _ => !t.isEmpty

/-- What follows a span, after its opening bracket: the name of the span, then possibly its field. -/
def afterBracket? (t : Text) : Option DirectiveEnd :=
  match t.dropWhile fun c => c ≠ ']' && c ≠ '\x7b' with
  | ']' :: rest => spanEnd? rest
  | '\x7b' :: field =>
    match field.dropWhile (· ≠ '\x7d') with
    | '\x7d' :: ']' :: rest =>
      if isField (field.takeWhile (· ≠ '\x7d')) then spanEnd? rest else none
    | _ => none
  | _ => none

def directiveEnd? : Text → Option DirectiveEnd
  | [] => none
  | '[' :: rest => afterBracket? rest
  | c :: rest =>
    if c = '-' || c = ':' || c = '_' || Unicode.isAlphanumeric c then
      match rest.dropWhile fun c => c ≠ '=' && c ≠ '[' with
      | '=' :: level => some (.level level)
      | '[' :: rest => afterBracket? rest
      | _ => some .nothing
    else none

/-- Whether the text is a directive. Blanks around it only matter if it ends in a level. -/
def isDirective (t : Text) : Bool :=
  match directiveEnd? (Text.trim t) with
  | none => false
  | some .nothing => true
  | some (.level level) => Text.trim t == t && isLevelOrNone level

/-- Whether the text is a filter for log lines: between commas there are directives or nothing. -/
def isLogFilter (t : Text) : Bool := (Text.pieces (fun c => c = ',') t).all isDirective

def defaultLogFilter : Text := "warn".toList

end TableModel
