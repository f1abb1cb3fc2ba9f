import TableModel.CommandLine.LogFilter
import TableModel.CommandLine.Request
import TableModel.Generator
import TableModel.Json
import TableModel.Schema.Json
import TableModel.Settings.File

/-!
# Runs

A run reads SQL text and writes the model for the table in it. Its stages follow one another:
understanding the arguments, reading the settings, checking the log filter, reading the SQL text,
generating the model, writing it. The first stage that fails is the one that is told of, and nothing
is written before the last.
-/

namespace TableModel

/-- Why a run failed, by the stage that did: the arguments cannot be understood, there are no
settings, the filter for log lines is none, there is no SQL text in the file or in the standard
input, the text does not describe a table, or the model cannot be written. It is written to a file,
or to the standard output, which then is asked to keep nothing back. -/
inductive Failure where
  | arguments
  | settings (error : SettingsError)
  | logFilter
  | input (path : Option Text)
  | generation (error : ReadError)
  | output (path : Text)
  | print
  | flush

namespace Failure

/-- The code that a failed run exits with. Arguments that cannot be understood have one of their
own. -/
def exitCode : Failure → Nat
  | .arguments => 2
  | _ => 1

/-- What is said of a failure, other than the reason for it. -/
def message : Failure → Text
  | .arguments => "Invalid arguments, see --help".toList
  | .settings error => error.message
  | .logFilter => "Invalid log filter".toList
  | .input (some path) => "Failed to read DDL file: ".toList ++ Text.quoted path
  | .input none => "Failed to read DDL from stdin".toList
  | .generation _ => "Failed to generate model".toList
  | .output path => "Failed to write output file: ".toList ++ Text.quoted path
  | .print => "Failed to write to stdout".toList
  | .flush => "Failed to flush stdout".toList

end Failure

structure Invocation where
  arguments : List Text
  environment : Environment

/-- A run: what it does to its surroundings until it ends or fails. -/
abbrev Run := Interaction Failure

def versionText : Text := "structgen 0.1.0\n".toList

namespace Choices

/-- The options for the generator: what was chosen, and else what the settings say. -/
def options (choices : Choices) (settings : Settings) : Options where
  tagTemplate := choices.tagTemplate.getD settings.options.tagTemplate
  withCruds := choices.withCruds.getD settings.options.withCruds

def generator (choices : Choices) (settings : Settings) : Generator :=
  ⟨choices.options settings, settings.catalog⟩

/-- The filter for log lines: the environment's if it is a filter, else what was chosen, else what
the settings say. -/
def filter [Libraries] (choices : Choices) (settings : Settings) (environment : Environment) : Text :=
  match environment.logFilter.filter isLogFilter with
  | some filter => filter
  | none => (choices.logFilter <|> settings.logFilter).getD defaultLogFilter

/-- A model in the form that was chosen. A line feed is put behind JSON; Go has one of its own. -/
def render (choices : Choices) (model : Model) : Text :=
  match choices.format.getD .go with
  | .go => model.source
  | .json => Json.pretty model.toJson ++ ['\n']

end Choices

namespace Run

def decodeInput (path : Option Text) (bytes : ByteArray) : Run Text :=
  match Text.ofUtf8? bytes with
  | some text => .done text
  | none => .fail (.input path)

def readSettings (path : Option Text) (environment : Environment) : Run Settings :=
  (Settings.load path environment).mapFailure .settings

def checkFilter [Libraries] (filter : Text) : Run Unit :=
  if isLogFilter filter then .done () else .fail .logFilter

/-- Reads the SQL text. What cannot be opened and what is no text are told of alike. -/
def readSql : Option Text → Run Text
  | some path => Interaction.readFile path fun
    | .content bytes => decodeInput (some path) bytes
    | _ => .fail (.input (some path))
  | none => Interaction.readInput (decodeInput none)

/-- Writes a text to the file, or to the standard output without one. Printing it may leave
something that waits for the end of its line, so the output is asked to keep nothing back. -/
def writeText (text : Text) : Option Text → Run Unit
  | some path => .writeFile path (Text.utf8 text) fun isWritten =>
    if isWritten then .done () else .fail (.output path)
  | none => .print (Text.utf8 text) fun isWritten =>
    if isWritten then .flush fun isFlushed => if isFlushed then .done () else .fail .flush
    else .fail .print

/-- A run that is asked for a model. Up to the last line it only reads. -/
def generate [Libraries] (choices : Choices) (environment : Environment) : Run Unit := do
  let settings ← readSettings choices.settingsFile environment
  checkFilter (choices.filter settings environment)
  let sql ← readSql choices.inputFile?
  let model ← .ofExcept (((choices.generator settings).modelOfSql sql).mapError .generation)
  writeText (choices.render model.value) choices.output

def exitCode : Except Failure Unit → Nat
  | .ok () => 0
  | .error failure => failure.exitCode

end Run

/-- The run of an invocation. Where it only has something to say of the program itself, it does not
matter whether that can be written. -/
def Invocation.run [Libraries] (invocation : Invocation) : Run Unit :=
  match Request.ofArguments? invocation.arguments invocation.environment with
  | none => .fail .arguments
  | some .version => .print (Text.utf8 versionText) fun _ => .done ()
  | some .help => .print (Text.utf8 Libraries.helpText) fun _ => .done ()
  | some (.generate choices) => Run.generate choices invocation.environment

end TableModel
