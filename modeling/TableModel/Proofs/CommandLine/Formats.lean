import TableModel.Proofs.CommandLine.Stages
import TableModel.Proofs.Json.Printed

/-!
# The two formats

As JSON a model is an object with all that the model consists of: its two names, its fields with
their four texts each, and its source text. Reading the object gives these texts back whatever
characters are in them, so nothing of a model is lost (`Choices.json_carries_model`).

The format is looked at when a model is written and not before. So two runs that differ in nothing
else write the same model, each in its format, or they fail alike (`Run.runIn_generate_inFormat`).
-/

namespace TableModel

/-- The choices with the given format in the place of theirs, everything else being chosen as
before. -/
def Choices.inFormat (choices : Choices) (format : Format) : Choices :=
  { choices with format := some format }

/-! ### Fields and models as JSON -/

theorem Field.printable_toJson (field : Field) : field.toJson.Printable := by
  refine .ofMembers ?_
  simp only [List.forall_mem_cons]
  exact ⟨.text _, .text _, .text _, .text _, List.forall_mem_nil _⟩

theorem Model.printable_toJson (model : Model) : model.toJson.Printable := by
  refine .ofMembers ?_
  simp only [List.forall_mem_cons]
  exact ⟨.text _, .text _, .map Field.printable_toJson _, .text _, List.forall_mem_nil _⟩

theorem Field.toJson_injective : Function.Injective Field.toJson := by
  rintro ⟨name, type, tag, comment⟩ ⟨name', type', tag', comment'⟩ h
  simpa [Field.toJson, Json.ofMembers, Json.ofText] using h

theorem Model.toJson_injective : Function.Injective Model.toJson := by
  rintro ⟨typeName, tableName, fields, source⟩ ⟨typeName', tableName', fields', source'⟩ h
  simpa [Model.toJson, Json.ofMembers, Json.ofText,
    (List.map_injective_iff.mpr Field.toJson_injective).eq_iff] using h

/-! ### Two runs -/

namespace Run

variable [Libraries] (choices : Choices) (environment : Environment) (surroundings : Surroundings)

/-- There is one model to write in all formats, or one failure. The format is looked at when the
model is there and not before, so nothing that comes earlier can depend on it. -/
theorem text_inFormat :
    (∃ model : Model, ∀ format, text (choices.inFormat format) environment surroundings =
      .ok ((choices.inFormat format).render model)) ∨
    ∃ failure, ∀ format, text (choices.inFormat format) environment surroundings =
      .error failure := by
  have hfilter (settings : Settings) (format : Format) :
      (choices.inFormat format).filter settings environment =
        choices.filter settings environment := rfl
  have hgenerator (settings : Settings) (format : Format) :
      (choices.inFormat format).generator settings = choices.generator settings := rfl
  have hsettings (format : Format) :
      (choices.inFormat format).settingsFile = choices.settingsFile := rfl
  have hinput (format : Format) : (choices.inFormat format).inputFile? = choices.inputFile? := rfl
  simp only [text, hfilter, hgenerator, hsettings, hinput]
  cases Settings.inFiles surroundings.files choices.settingsFile
    environment.defaultSettingsFile? with
  | error error => exact .inr ⟨_, fun _ => rfl⟩
  | ok settings =>
    simp only
    cases isLogFilter (choices.filter settings environment) with
    | false => exact .inr ⟨_, fun _ => rfl⟩
    | true =>
      simp only [if_true]
      cases sql? surroundings choices.inputFile? with
      | none => exact .inr ⟨_, fun _ => rfl⟩
      | some sql =>
        simp only
        cases (choices.generator settings).modelOfSql sql with
        | error error => exact .inr ⟨_, fun _ => rfl⟩
        | ok model => exact .inl ⟨model.value, fun _ => rfl⟩

/-- Two runs in different formats write the same model or fail alike. -/
theorem runIn_generate_inFormat (capacity : Capacity) :
    (∃ model : Model, ∀ format,
      (generate (choices.inFormat format) environment).runIn surroundings capacity =
        (writeText ((choices.inFormat format).render model) choices.output).runIn surroundings
          capacity) ∨
    ∃ failure, ∀ format,
      (generate (choices.inFormat format) environment).runIn surroundings capacity =
        (.error failure, surroundings) := by
  rcases text_inFormat choices environment surroundings with ⟨model, h⟩ | ⟨failure, h⟩
  · refine .inl ⟨model, fun format => ?_⟩
    rw [runIn_generate, h format]
    rfl
  · refine .inr ⟨failure, fun format => ?_⟩
    rw [runIn_generate, h format]

end Run

/-! ### What JSON carries -/

namespace Choices

/-- **JSON carries the model.** As JSON a model is one value and a line feed behind it. Read as
JSON, the text gives an object with the members `type_name`, `table_name`, `fields` and `body_text`,
where `fields` has an object with the members `name`, `type_name`, `tag` and `comment_text` for each
field, and all strings are those of the model; so two models that are not the same never have the
same text. A run that is asked for JSON writes the text of a model of which the same run writes
the source text where it is asked for Go, unless both fail alike with nothing written. -/
theorem json_carries_model [Libraries] (choices : Choices) :
    (∀ model : Model, ∃ written,
      (choices.inFormat .json).render model = written ++ ['\n'] ∧
      let form : Json := .object
        [(some "type_name".toList, .string (some model.typeName)),
          (some "table_name".toList, .string (some model.tableName)),
          (some "fields".toList, .array (model.fields.map fun field => .object
            [(some "name".toList, .string (some field.name)),
              (some "type_name".toList, .string (some field.type)),
              (some "tag".toList, .string (some field.tag)),
              (some "comment_text".toList, .string (some field.comment))])),
          (some "body_text".toList, .string (some model.source))]
      Json.Denotes written form ∧
      (∀ more, Json.value? (2 * written.length + more) (written ++ ['\n']) =
        some (form, ['\n'])) ∧
      Json.parse? (written ++ ['\n']) = some form) ∧
    Function.Injective (choices.inFormat .json).render ∧
    ∀ environment surroundings capacity,
      (∃ model : Model,
        (Run.generate (choices.inFormat .json) environment).runIn surroundings capacity =
          (Run.writeText ((choices.inFormat .json).render model) choices.output).runIn
            surroundings capacity ∧
        (Run.generate (choices.inFormat .go) environment).runIn surroundings capacity =
          (Run.writeText model.source choices.output).runIn surroundings capacity) ∨
      ∃ failure, ∀ format,
        (Run.generate (choices.inFormat format) environment).runIn surroundings capacity =
          (.error failure, surroundings) := by
  have hrender (model : Model) :
      (choices.inFormat .json).render model = Json.pretty model.toJson ++ ['\n'] := rfl
  refine ⟨fun model => ?_, fun model other heq => ?_, fun environment surroundings capacity => ?_⟩
  · have hdenotes : Json.Denotes (Json.pretty model.toJson) model.toJson :=
      model.printable_toJson.denotes_write 0
    have hgap : Json.IsGap ['\n'] := by simp [Json.IsGap, Json.isGap]
    exact ⟨_, hrender model, hdenotes,
      fun more => Json.value?_append hdenotes (fun _ heq => Json.noConfusion heq)
        (Nat.le_add_right _ more),
      Json.parse?_of_denotes ⟨[], _, ['\n'], .nil, hdenotes, hgap, rfl⟩⟩
  · rw [hrender, hrender, List.append_left_inj] at heq
    exact Model.toJson_injective
      (model.printable_toJson.pretty_injective other.printable_toJson heq)
  · rcases Run.runIn_generate_inFormat choices environment surroundings capacity with
      ⟨model, h⟩ | ⟨failure, h⟩
    · exact .inl ⟨model, h .json, h .go⟩
    · exact .inr ⟨failure, h⟩

/-- Without fields there is an empty array, which stays on its line. -/
example : (Choices.empty.inFormat .json).render ⟨"T".toList, "t".toList, [], "\t\"".toList⟩ =
    Text.join ['\n'] (["\x7b", "  \"type_name\": \"T\",", "  \"table_name\": \"t\",",
      "  \"fields\": [],", "  \"body_text\": \"\\t\\\"\"", "\x7d", ""].map String.toList) := by
  decide +kernel

end Choices

end TableModel
