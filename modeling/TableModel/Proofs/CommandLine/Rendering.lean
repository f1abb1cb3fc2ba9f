import TableModel.Proofs.CommandLine.Request
import TableModel.Proofs.CommandLine.Stages
import TableModel.Proofs.Files.Write
import TableModel.Proofs.Schema.Declared

/-!
# What a run writes

A run that has a model writes it in the form that was asked for. The generator that the model is
from follows from four sources: what the arguments say, the environment, the document of the
settings file, and the defaults. For each option by itself the first of them counts that has it
(`chosenOptions`), and the catalog is that of the settings in the document. The file that the model
is written to gets the bytes that are printed otherwise (`run_writes_rendering`).
-/

namespace TableModel

namespace Invocation

/-- What the arguments say last about each choice. -/
def said (invocation : Invocation) : Choices :=
  .ofItems (Argument.items none invocation.arguments)

/-- The document of the settings file: of the one that is said, else of the one in the environment,
else of the default one. -/
def document? (invocation : Invocation) (files : Files) : Option Toml.Members :=
  Settings.document? files (invocation.said.settingsFile <|> invocation.environment.settingsFile)
    invocation.environment.defaultSettingsFile?

/-- The options for the generator: what is said, else what is in the environment, which has only a
template, else what is in the document, else the defaults. -/
def chosenOptions (invocation : Invocation) (document : Option Toml.Members) : Options where
  tagTemplate := (invocation.said.tagTemplate <|> invocation.environment.tagTemplate <|>
    document.bind Settings.writtenTemplate?).getD defaultTagTemplate
  withCruds := (invocation.said.withCruds <|> document.bind Settings.writtenCruds?).getD true

/-- The generator with the chosen options and the catalog of the settings in the document. -/
def chosenGenerator (invocation : Invocation) (files : Files) : Generator where
  options := invocation.chosenOptions (invocation.document? files)
  catalog := ((Settings.ofDocument? (invocation.document? files)).getD .default).catalog

section Runs

variable {invocation : Invocation} {surroundings : Surroundings} {choices : Choices}
  {settings : Settings} {sql : Text} {model : Logged Model}

theorem generator_of_loaded (h : Loaded invocation surroundings choices settings) :
    choices.generator settings = invocation.chosenGenerator surroundings.files := by
  have hchoices : choices = invocation.said.completedBy invocation.environment :=
    Request.ofArguments?_eq_generate h.asked
  have hfile : choices.settingsFile =
      (invocation.said.settingsFile <|> invocation.environment.settingsFile) := by
    rw [hchoices, Choices.completedBy]
  have hsettings : Settings.ofDocument? (invocation.document? surroundings.files) =
      some settings := by
    rw [document?, ← hfile]
    exact Settings.ofDocument?_of_inFiles h.found
  have hoptions : choices.options settings =
      invocation.chosenOptions (invocation.document? surroundings.files) := by
    have htemplate : choices.tagTemplate =
        (invocation.said.tagTemplate <|> invocation.environment.tagTemplate) := by
      rw [hchoices, Choices.completedBy]
    have hcruds : choices.withCruds = invocation.said.withCruds := by
      rw [hchoices, Choices.completedBy]
    rw [Choices.options, Settings.options_of_ofDocument? hsettings, chosenOptions, htemplate,
      hcruds]
    simp only [Option.orElse_eq_orElse, Option.orElse_eq_or, Option.getD_or]
  rw [Choices.generator, chosenGenerator, hoptions, hsettings, Option.getD_some]

variable [Libraries]

/-- A run that succeeds does the same whatever the storage and the output take. -/
theorem runIn_eq_of_generated (h : Generated invocation surroundings choices settings sql model)
    {capacity : Capacity} (hok : (invocation.run.runIn surroundings capacity).1 = .ok ()) :
    invocation.run.runIn surroundings capacity = invocation.run.runIn surroundings := by
  rw [runIn_of_generated capacity h] at hok ⊢
  rw [runIn_of_generated .unlimited h]
  obtain ⟨after, hwrites⟩ | ⟨failure, after, hfails⟩ := Run.writes_or_writingFails
    (choices.render model.value) surroundings capacity choices.output
  · rw [Run.runIn_of_writes hwrites, Run.runIn_of_writes hwrites.unlimited]
  · rw [Run.runIn_of_writingFails hfails] at hok
    contradiction

/-- **A run writes the model of the library.** Let a run be asked for a model, and let there be
settings, a filter that is one, SQL text and a model. The SQL text is that of the file that is said,
or of the standard input if there is none or it is `-`; the model is what the chosen generator makes
of this text; and what is written is this model in the form that is said. Without a file to write
it is printed and no file changes. With one, the file has the same bytes afterwards, all other paths
have what they had, and nothing is printed; if the file cannot be written, the run fails and nothing
changes. A storage or an output that might give out makes no difference to a run that succeeds. -/
theorem run_writes_rendering (h : Generated invocation surroundings choices settings sql model) :
    Run.sql? surroundings (invocation.said.input.filter (· ≠ ['-'])) = some sql ∧
    (invocation.chosenGenerator surroundings.files).modelOfSql sql = .ok model ∧
    (invocation.said.output = none →
      invocation.run.runIn surroundings =
        (.ok (), { surroundings with
          output := surroundings.output ++ Text.utf8 (invocation.said.render model.value) })) ∧
    (∀ path, invocation.said.output = some path →
      (∀ files, surroundings.files.write? path (Text.utf8 (invocation.said.render model.value)) =
          some files →
        invocation.run.runIn surroundings = (.ok (), { surroundings with files := files }) ∧
        ∀ other,
          files.content? other =
            (if surroundings.files.locate? other = surroundings.files.locate? path then
              some (Text.utf8 (invocation.said.render model.value))
            else surroundings.files.content? other) ∧
          (surroundings.files.locate? other ≠ surroundings.files.locate? path →
            files.read other = surroundings.files.read other)) ∧
      (surroundings.files.write? path (Text.utf8 (invocation.said.render model.value)) = none →
        invocation.run.runIn surroundings = (.error (.output path), surroundings))) ∧
    ∀ capacity, (invocation.run.runIn surroundings capacity).1 = .ok () →
      invocation.run.runIn surroundings capacity = invocation.run.runIn surroundings := by
  have hchoices : choices = invocation.said.completedBy invocation.environment :=
    Request.ofArguments?_eq_generate h.asked
  have hinput : choices.inputFile? = invocation.said.input.filter (· ≠ ['-']) := by
    rw [hchoices, Choices.inputFile?, Choices.completedBy]
  have hrender : choices.render model.value = invocation.said.render model.value := by
    rw [hchoices, Choices.render, Choices.render, Choices.completedBy]
  have houtput : choices.output = invocation.said.output := by
    rw [hchoices, Choices.completedBy]
  have hrun := runIn_of_generated .unlimited h
  rw [hrender, houtput] at hrun
  refine ⟨hinput ▸ h.supplied, generator_of_loaded h.toLoaded ▸ h.generated, fun hnone => ?_,
    fun path hpath => ⟨fun files hwrite => ?_, fun hwrite => ?_⟩,
    fun capacity hok => runIn_eq_of_generated h hok⟩
  · rw [hrun, hnone]
    exact Run.runIn_of_writes (.printed fun _ hroom => by contradiction)
  · obtain ⟨location, hplace, rfl⟩ := Option.map_eq_some_iff.mp hwrite
    rw [hrun, hpath]
    exact ⟨Run.runIn_of_writes (.stored hplace fun _ hroom => by contradiction), fun other =>
      ⟨Files.content?_put hplace _ other, (Files.SameBut.put hplace _).read⟩⟩
  · rw [hrun, hpath]
    exact Run.runIn_of_writingFails (.refused (Option.map_eq_none_iff.mp hwrite))

end Runs

open Ddl in
/-- A template from a flag, where there is another one in the environment and a third in the
settings, the last of two flags about functions, and a type from the settings. One run writes Go over
a file that is there, the other prints JSON. -/
theorem run_writes_rendering_precedence :
    let table : DeclaredTable :=
      ⟨none, "users".toList, [.column ⟨"id".toList, .dateTime, []⟩], by simp⟩
    let document := "types.datetime.strict = 'T'\n[generation]\ntag_template = 'x'".toList
    let environment : Environment :=
      ⟨none, none, some "e".toList, some "e.toml".toList, none, none⟩
    let options := ["--cruds", "-t%s", "--no-cruds", "-c", "s.toml", "t.sql"]
    let writing : Invocation := ⟨(["-o", "m.go"] ++ options).map String.toList, environment⟩
    let printing : Invocation := ⟨(["-f", "json"] ++ options).map String.toList, environment⟩
    let surroundings : Surroundings :=
      { files :=
          { current := []
            contents := [(["s.toml".toList], Text.utf8 document),
              (["t.sql".toList], Text.utf8 table.text), (["m.go".toList], .empty)] }
        input := .empty
        output := .empty }
    ∃ model files,
      writing.run.runIn surroundings = (.ok (), { surroundings with files := files }) ∧
      files.content? "m.go".toList = some (Text.utf8 (Model.source model)) ∧
      files.content? "t.sql".toList = some (Text.utf8 table.text) ∧
      printing.run.runIn surroundings =
        (.ok (), { surroundings with
          output := Text.utf8 (Json.pretty model.toJson ++ ['\n']) }) ∧
      model.fields = [⟨"ID".toList, "T".toList, "id".toList, []⟩] := by
  intro table document environment options writing printing surroundings
  let choices (output : Option Text) (format : Option Format) : Choices :=
    ⟨some "t.sql".toList, output, some "%s".toList, some false, format, some "s.toml".toList, none⟩
  have hdocument : surroundings.files.read "s.toml".toList = .content (Text.utf8 document) := rfl
  have hsql : surroundings.files.read "t.sql".toList = .content (Text.utf8 table.text) := rfl
  have hsettings : Settings.ofToml? document = some
      ⟨⟨"x".toList, true⟩, [("datetime".toList, ⟨"T".toList, none⟩)], none⟩ := by
    decide +kernel
  have hfound : Settings.inFiles surroundings.files (some "s.toml".toList)
      environment.defaultSettingsFile? =
        .ok ⟨⟨"x".toList, true⟩, [("datetime".toList, ⟨"T".toList, none⟩)], none⟩ := by
    rw [Settings.inFiles, Settings.inFile, hdocument]
    simp only [Settings.ofBytes, Text.ofUtf8?_utf8, hsettings]
  have hsupplied : Run.sql? surroundings (some "t.sql".toList) = some table.text := by
    rw [Run.sql?, hsql]
    exact Text.ofUtf8?_utf8 _
  have hmodel (generator : Generator) :=
    generator.modelOfSql_of_ofSql (Table.ofSql_text table)
  have hwritten : Generated writing surroundings (choices (some "m.go".toList) none) _ _ _ :=
    ⟨⟨⟨⟨by decide +kernel, hfound⟩, by decide +kernel⟩, hsupplied⟩, hmodel _⟩
  have hprinted : Generated printing surroundings (choices none (some .json)) _ _ _ :=
    ⟨⟨⟨⟨by decide +kernel, hfound⟩, by decide +kernel⟩, hsupplied⟩, hmodel _⟩
  obtain ⟨-, -, -, hfile, -⟩ := run_writes_rendering hwritten
  obtain ⟨-, -, hprint, -⟩ := run_writes_rendering hprinted
  obtain ⟨hrun, hcontent⟩ := (hfile "m.go".toList (by decide +kernel)).1 _ rfl
  refine ⟨_, _, hrun, (hcontent _).1, (hcontent _).1, ?_, ?_⟩
  · have hformat : printing.said.format = some .json := by decide +kernel
    have hbefore : surroundings.output = .empty := rfl
    rw [hprint (by decide +kernel), Choices.render, hformat, hbefore, ByteArray.empty_append]
    rfl
  · decide +kernel

end Invocation

end TableModel
