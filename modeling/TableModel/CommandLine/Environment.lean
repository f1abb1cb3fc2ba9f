import TableModel.Files

/-!
# What a run takes from around it

The environment of a run are the variables that matter to it and the home directory that the system
has on record for the user. The place of the default settings file follows from them. What the
libraries decide that the program is linked with, and what is not decided here, are `Libraries`.
-/

namespace TableModel

/-- What is left to the libraries. The help text is laid out from the descriptions of the flags. What
a filter for log lines says of the values of a field is a truth value, a number or a pattern, and
may be none of these. -/
class Libraries where
  helpText : Text
  isFieldValue : Text → Bool

/-- Libraries with a short help text that take any pattern. -/
instance : Libraries where
  helpText := "Usage: structgen [OPTIONS] [INPUT]\n".toList
  isFieldValue _ := true

/-- The variables that matter to a run, where one that is set to the empty text is set, and the home
directory on record. -/
structure Environment where
  home : Option Text
  configHome : Option Text
  tagTemplate : Option Text
  settingsFile : Option Text
  logFilter : Option Text
  homeOnRecord : Option Text

namespace Environment

/-- The environment, by a function that looks a variable up by its name. -/
def collect {m : Type → Type} [Monad m] (look : String → m (Option Text))
    (homeOnRecord : Option Text := none) : m Environment := do
  return { home := ← look "HOME"
           configHome := ← look "XDG_CONFIG_HOME"
           tagTemplate := ← look "STRUCTGEN_TAG_TEMPLATE"
           settingsFile := ← look "STRUCTGEN_CONFIG"
           logFilter := ← look "RUST_LOG"
           homeOnRecord := homeOnRecord }

/-- The user's home directory. The one on record counts where the variable is not set, or is set to
the empty text. -/
def homeDirectory? (environment : Environment) : Option Text :=
  environment.home.filter (!·.isEmpty) <|> environment.homeOnRecord

/-- The directory for the settings of programs. The variable for it only counts if it is an absolute
path; the home directory has to be known otherwise. -/
def configDirectory? (environment : Environment) : Option Text :=
  environment.configHome.filter Path.isAbsolute <|>
    environment.homeDirectory?.map fun home => Path.below home ".config".toList

/-- The settings file when none is named. -/
def defaultSettingsFile? (environment : Environment) : Option Text :=
  environment.configDirectory?.map fun path =>
    Path.below (Path.below path "structgen".toList) "config.toml".toList

end Environment

end TableModel
