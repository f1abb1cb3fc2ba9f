import TableModel.Text

/-!
# Arguments of the command line

A flag has a long name after two dashes and may have a short one after a single dash. Some flags
take a value: after an equals sign, directly after the short name, or as the next argument, which
must not look like a flag then. Short flags can share a dash, and after `--` no argument is a flag.
`items` takes arguments apart that way; what is no flag is `malformed` where it stands, as a flag
in front of it may settle everything.
-/

namespace TableModel

inductive ValuedFlag where
  | output
  | tagTemplate
  | format
  | settingsFile
  | logFilter
  deriving DecidableEq, Repr

inductive Switch where
  | withCruds
  | withoutCruds
  | help
  | version
  deriving DecidableEq, Repr

inductive Flag where
  | valued (flag : ValuedFlag)
  | switch (flag : Switch)
  deriving DecidableEq, Repr

namespace Flag

/-- The flags with their long names and their short ones. -/
def names : List (Flag × String × Option Char) :=
  [(.valued .output, "output", some 'o'), (.valued .tagTemplate, "tag-template", some 't'),
   (.switch .withCruds, "cruds", none), (.switch .withoutCruds, "no-cruds", none),
   (.valued .format, "format", some 'f'), (.valued .settingsFile, "config", some 'c'),
   (.valued .logFilter, "log-level", none), (.switch .help, "help", some 'h'),
   (.switch .version, "version", some 'V')]

def ofLongName? (name : Text) : Option Flag :=
  (names.find? fun entry => entry.2.1.toList = name).map (·.1)

def ofShortName? (c : Char) : Option Flag :=
  (names.find? fun entry => entry.2.2 = some c).map (·.1)

end Flag

/-- What arguments say, one thing after another: a file to read, a flag with its value, a flag
without one, or something that nobody can understand, as an unknown flag or one whose value is
missing. -/
inductive Argument where
  | input (path : Text)
  | valued (flag : ValuedFlag) (value : Text)
  | switch (flag : Switch)
  | malformed
  deriving DecidableEq, Repr

namespace Argument

/-- Whether an argument is meant as a flag. A single dash is not. -/
def looksLikeFlag : Text → Bool
  | '-' :: _ :: _ => true
  | _ => false

/-- What short flags behind one dash say, and the flag at the end that still wants its value. -/
def ofShortNames : Text → List Argument × Option ValuedFlag
  | [] => ([], none)
  | c :: rest =>
    match Flag.ofShortName? c with
    | none => ([.malformed], none)
    | some (.switch flag) =>
      let (said, pending) := ofShortNames rest
      (.switch flag :: said, pending)
    | some (.valued flag) =>
      match rest with
      | [] => ([], some flag)
      | '=' :: value => ([.valued flag value], none)
      | value => ([.valued flag value], none)

/-- What a flag behind two dashes says, and the flag if it still wants its value. -/
def ofLongName (t : Text) : List Argument × Option ValuedFlag :=
  match Flag.ofLongName? (t.takeWhile (· ≠ '=')), t.dropWhile (· ≠ '=') with
  | some (.valued flag), [] => ([], some flag)
  | some (.valued flag), _ :: value => ([.valued flag value], none)
  | some (.switch flag), [] => ([.switch flag], none)
  | _, _ => ([.malformed], none)

/-- What arguments say after a flag that may still want its value. -/
def items : Option ValuedFlag → List Text → List Argument
  | none, [] => []
  | some _, [] => [.malformed]
  | some flag, argument :: rest =>
    if looksLikeFlag argument then [.malformed] else .valued flag argument :: items none rest
  | none, argument :: rest =>
    if argument = ['-', '-'] then rest.map .input
    else
      match argument with
      | '-' :: '-' :: name =>
        let (said, pending) := ofLongName name
        said ++ items pending rest
      | '-' :: c :: names =>
        let (said, pending) := ofShortNames (c :: names)
        said ++ items pending rest
      | path => .input path :: items none rest

end Argument

end TableModel
