import TableModel.CommandLine.Arguments
import TableModel.CommandLine.Environment

/-!
# What a run is asked for

The arguments ask for the version, for help, or for a model. Each flag with a value may be given
once, and so may the file to read; a path cannot be empty. Of the two flags about functions each
takes the other one back, but none may follow itself. A template or a settings file that no flag
names may come from the environment.
-/

namespace TableModel

/-- The form in which a model is written: its source text, or the model as a JSON object, which has
the source text in it. -/
inductive Format where
  | go
  | json
  deriving DecidableEq, Repr

/-- The format with the name. Case matters. -/
def Format.ofName? (name : Text) : Option Format :=
  if name = "go".toList then some .go
  else if name = "json".toList then some .json
  else none

/-- What is asked of a run that generates a model: the file to read and the file to write, the
template for field tags, whether functions are wanted, the form of the model, the settings file and
the filter for log lines. What is not chosen is left to the environment, to the settings and to the
defaults, in this order. -/
structure Choices where
  input : Option Text
  output : Option Text
  tagTemplate : Option Text
  withCruds : Option Bool
  format : Option Format
  settingsFile : Option Text
  logFilter : Option Text
  deriving DecidableEq, Repr

namespace Choices

def empty : Choices := ⟨none, none, none, none, none, none, none⟩

/-- A value that is chosen, if nothing was before: a flag with a value must not be repeated, even
with the same value. -/
def once {α : Type} (before : Option α) (value : α) : Option (Option α) :=
  match before with
  | none => some (some value)
  | some _ => none

/-- A path that is chosen, if none was before. The empty text is no path. -/
def path? (before : Option Text) (path : Text) : Option (Option Text) :=
  if path.isEmpty then none else once before path

def set? (choices : Choices) (value : Text) : ValuedFlag → Option Choices
  | .output => do return { choices with output := ← path? choices.output value }
  | .tagTemplate => do return { choices with tagTemplate := ← once choices.tagTemplate value }
  | .format => do return { choices with format := ← once choices.format (← Format.ofName? value) }
  | .settingsFile => do
    return { choices with settingsFile := ← path? choices.settingsFile value }
  | .logFilter => do return { choices with logFilter := ← once choices.logFilter value }

/-- The choices after a flag about functions, which must not repeat the last one. -/
def setCruds? (choices : Choices) (withCruds : Bool) : Option Choices :=
  if choices.withCruds = some withCruds then none
  else some { choices with withCruds := some withCruds }

def setInput? (choices : Choices) (path : Text) : Option Choices := do
  return { choices with input := ← path? choices.input path }

/-- The choices, where the environment makes those that were not made. -/
def orElse? (choices : Choices) (environment : Environment) : Option Choices :=
  let choices :=
    { choices with
      tagTemplate := choices.tagTemplate <|> environment.tagTemplate
      settingsFile := choices.settingsFile <|> environment.settingsFile }
  if choices.settingsFile = some [] then none else some choices

/-- The path of the file to read, unless it is the standard input. -/
def inputFile? (choices : Choices) : Option Text := choices.input.filter (· ≠ ['-'])

end Choices

inductive Request where
  | version
  | help
  | generate (choices : Choices)
  deriving DecidableEq, Repr

namespace Request

/-- What arguments ask for that come after the given choices; `none` if they cannot be understood.
-/
def ofItems? (environment : Environment) : Choices → List Argument → Option Request
  | choices, [] => (choices.orElse? environment).map .generate
  | _, .malformed :: _ => none
  | _, .switch .version :: _ => some .version
  | _, .switch .help :: _ => some .help
  | choices, .switch .withCruds :: rest => do
    ofItems? environment (← choices.setCruds? true) rest
  | choices, .switch .withoutCruds :: rest => do
    ofItems? environment (← choices.setCruds? false) rest
  | choices, .valued flag value :: rest => do
    ofItems? environment (← choices.set? value flag) rest
  | choices, .input path :: rest => do ofItems? environment (← choices.setInput? path) rest

/-- What a run with the arguments is asked for; `none` if they cannot be understood. -/
def ofArguments? (arguments : List Text) (environment : Environment) : Option Request :=
  ofItems? environment .empty (Argument.items none arguments)

end Request

end TableModel
