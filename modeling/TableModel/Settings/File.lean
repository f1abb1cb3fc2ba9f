import TableModel.CommandLine.Environment
import TableModel.Interaction
import TableModel.Settings
import TableModel.Unicode.Printable
import TableModel.Text

/-!
# Settings files

A settings file that is named has to be there. The default one need not be: without it, everything
has its default.
-/

namespace TableModel

/-- Why there are no settings: the file cannot be read as a text, or the text does not describe
settings. -/
inductive SettingsError where
  | unreadable (path : Text)
  | malformed (path : Text)
  deriving DecidableEq, Repr

def Settings.malformedMessage : Text := "Invalid settings file".toList

namespace SettingsError

def message : SettingsError → Text
  | .unreadable path => "Failed to read settings file: ".toList ++ Text.quoted path
  | .malformed path => "Failed to load settings file: ".toList ++ Text.quoted path

def fullMessage : SettingsError → Text
  | .unreadable path => message (.unreadable path)
  | .malformed path => message (.malformed path) ++ ": ".toList ++ Settings.malformedMessage

end SettingsError

namespace Settings

def ofBytes (path : Text) (bytes : ByteArray) : Except SettingsError Settings :=
  match Text.ofUtf8? bytes with
  | none => .error (.unreadable path)
  | some text =>
    match ofToml? text with
    | none => .error (.malformed path)
    | some settings => .ok settings

def readFile (path : Text) : Interaction SettingsError Settings :=
  .readFile path fun
    | .content bytes => .ofExcept (ofBytes path bytes)
    | _ => .fail (.unreadable path)

/-- Reads the settings from a file that may be missing. One that is there has to be readable. -/
def readFileIfAny (path : Text) : Interaction SettingsError Settings :=
  .readFile path fun
    | .content bytes => .ofExcept (ofBytes path bytes)
    | .unreadable => .fail (.unreadable path)
    | .missing => .done .default

/-- Reads the settings from the file that is named, or else from the default one. Where there is no
place for a default file the settings are the defaults, too. -/
def load (path : Option Text) (environment : Environment) : Interaction SettingsError Settings :=
  match path, environment.defaultSettingsFile? with
  | some path, _ => readFile path
  | none, some path => readFileIfAny path
  | none, none => .done .default

end Settings

end TableModel
