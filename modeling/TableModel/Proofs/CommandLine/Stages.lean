import TableModel.CommandLine.Run
import TableModel.Proofs.Files.Write
import TableModel.Proofs.Settings.Found

/-!
# The stages of a run

All that a run does before it writes is to read. So there is a text to write, or a failure, that
follows from the surroundings that the run starts in (`Run.text`), and what the run does is to write
that text or to fail, with nothing changed (`Run.runIn_generate`).

`Loaded`, `Checked`, `Supplied` and `Generated` say how far the run gets: each one is the one before
it and one more stage. The last stage is writing. It succeeds (`Run.Writes`) or fails
(`Run.WritingFails`), and only there it matters how much the storage and the output take.
-/

namespace TableModel

namespace Run

/-- The SQL text that there is for a run: the text of the file, or of the standard input. -/
def sql? (surroundings : Surroundings) : Option Text → Option Text
  | some path =>
    match surroundings.files.read path with
    | .content bytes => Text.ofUtf8? bytes
    | _ => none
  | none => Text.ofUtf8? surroundings.input

/-! ### Reading -/

section Reading

variable (surroundings : Surroundings) (capacity : Capacity)

theorem runIn_decodeInput (path : Option Text) (bytes : ByteArray) :
    (decodeInput path bytes).runIn surroundings capacity =
      (match Text.ofUtf8? bytes with
        | some text => .ok text
        | none => .error (.input path), surroundings) := by
  rw [decodeInput]
  cases Text.ofUtf8? bytes <;> rfl

theorem runIn_readSql (path : Option Text) :
    (readSql path).runIn surroundings capacity =
      (match sql? surroundings path with
        | some text => .ok text
        | none => .error (.input path), surroundings) := by
  cases path with
  | none => exact runIn_decodeInput _ _ _ _
  | some path =>
    rw [readSql, Interaction.runIn, sql?]
    cases surroundings.files.read path with
    | content bytes => exact runIn_decodeInput _ _ _ _
    | missing => rfl
    | unreadable => rfl

theorem runIn_readSettings (path : Option Text) (environment : Environment) :
    (readSettings path environment).runIn surroundings capacity =
      ((Settings.inFiles surroundings.files path environment.defaultSettingsFile?).mapError
        .settings, surroundings) := by
  rw [readSettings, Interaction.runIn_mapFailure, Settings.runIn_load]

theorem runIn_checkFilter [Libraries] (filter : Text) :
    (checkFilter filter).runIn surroundings capacity =
      (if isLogFilter filter then .ok () else .error .logFilter, surroundings) := by
  rw [checkFilter]
  split <;> rfl

end Reading

/-! ### Writing -/

/-- Writing the text succeeds, and these are the surroundings that are left. -/
inductive Writes (text : Text) (surroundings : Surroundings) (capacity : Capacity) :
    Option Text → Surroundings → Prop
  | stored {path : Text} {location : Location}
      (hplace : surroundings.files.create? path = some location)
      (hroom : ∀ room, capacity.storage location = some room → (Text.utf8 text).size ≤ room) :
      Writes text surroundings capacity (some path)
        { surroundings with files := surroundings.files.put location (Text.utf8 text) }
  | printed
      (hroom : ∀ room, capacity.output = some room →
        (surroundings.output ++ Text.utf8 text).size ≤ room) :
      Writes text surroundings capacity none
        { surroundings with output := surroundings.output ++ Text.utf8 text }

/-- Writing the text fails, and these are the surroundings that are left: the file cannot be opened,
the storage gives out over the content, or the standard output does over its lines or over what
stands behind the last one. -/
inductive WritingFails (text : Text) (surroundings : Surroundings) (capacity : Capacity) :
    Option Text → Failure → Surroundings → Prop
  | refused {path : Text} (hplace : surroundings.files.create? path = none) :
      WritingFails text surroundings capacity (some path) (.output path) surroundings
  | stored {path : Text} {location : Location} {room : Nat}
      (hplace : surroundings.files.create? path = some location)
      (hroom : capacity.storage location = some room) (hless : room < (Text.utf8 text).size) :
      WritingFails text surroundings capacity (some path) (.output path)
        { surroundings with
          files := surroundings.files.put location ((Text.utf8 text).extract 0 room) }
  | printed {room : Nat} (hroom : capacity.output = some room)
      (hlines : 0 < lineBytes (Text.utf8 text))
      (hless : room < surroundings.output.size + lineBytes (Text.utf8 text)) :
      WritingFails text surroundings capacity none .print
        { surroundings with
          output := surroundings.output ++
            (Text.utf8 text).extract 0 (room - surroundings.output.size) }
  | flushed {room : Nat} (hroom : capacity.output = some room)
      (hprinted : 0 < lineBytes (Text.utf8 text) →
        surroundings.output.size + lineBytes (Text.utf8 text) ≤ room)
      (hless : room < (surroundings.output ++ Text.utf8 text).size) :
      WritingFails text surroundings capacity none .flush
        { surroundings with output := (surroundings.output ++ Text.utf8 text).extract 0 room }

section Writing

variable {text : Text} {path : Option Text} {surroundings after : Surroundings}
  {capacity : Capacity} {failure : Failure}

theorem filter_lt_eq_none {size : Nat} {room? : Option Nat}
    (h : ∀ room, room? = some room → size ≤ room) : room?.filter (· < size) = none :=
  Option.filter_eq_none_iff.mpr fun room hroom => by simpa using h room hroom

theorem filter_lt_eq_some {size room : Nat} {room? : Option Nat} (h : room? = some room)
    (hless : room < size) : room?.filter (· < size) = some room :=
  Option.filter_eq_some_iff.mpr ⟨h, decide_eq_true hless⟩

theorem lineBytes_le_size (bytes : ByteArray) : lineBytes bytes ≤ bytes.size := by
  have hlines := (List.dropWhile_sublist (· ≠ 10) (l := bytes.data.toList.reverse)).length_le
  rwa [List.length_reverse, Array.length_toList] at hlines

/-- Only the lines need room when a text is printed. -/
theorem print_of_room {bytes : ByteArray} {room? : Option Nat}
    (h : ∀ room, room? = some room → 0 < lineBytes bytes →
      surroundings.output.size + lineBytes bytes ≤ room) :
    surroundings.print room? bytes =
      (true, { surroundings with output := surroundings.output ++ bytes }) := by
  have hroom : room?.filter (fun room => 0 < lineBytes bytes &&
      room < surroundings.output.size + lineBytes bytes) = none :=
    Option.filter_eq_none_iff.mpr fun room hsome => by simpa using h room hsome
  simp only [Surroundings.print, hroom]

/-- Where a file can be opened, what comes of writing to it is what the storage makes of the
content. -/
theorem runIn_writeText_some {path : Text} {location : Location}
    (hplace : surroundings.files.create? path = some location) :
    (writeText text (some path)).runIn surroundings capacity =
      match (capacity.storage location).filter (· < (Text.utf8 text).size) with
      | none =>
        (.ok (),
          { surroundings with files := surroundings.files.put location (Text.utf8 text) })
      | some room =>
        (.error (.output path),
          { surroundings with
            files := surroundings.files.put location ((Text.utf8 text).extract 0 room) }) := by
  rw [writeText, Interaction.runIn, Surroundings.writeFile, hplace]
  dsimp only
  cases (capacity.storage location).filter (· < (Text.utf8 text).size) <;> rfl

/-- Where there is room for the lines of a text, what comes of writing it to the standard output is
what comes of having nothing kept back. -/
theorem runIn_writeText_none
    (hlines : ∀ room, capacity.output = some room → 0 < lineBytes (Text.utf8 text) →
      surroundings.output.size + lineBytes (Text.utf8 text) ≤ room) :
    (writeText text none).runIn surroundings capacity =
      match capacity.output.filter (· < (surroundings.output ++ Text.utf8 text).size) with
      | none => (.ok (), { surroundings with output := surroundings.output ++ Text.utf8 text })
      | some room =>
        (.error .flush,
          { surroundings with output := (surroundings.output ++ Text.utf8 text).extract 0 room }) := by
  rw [writeText, Interaction.runIn, print_of_room hlines]
  simp only [if_true]
  rw [Interaction.runIn, Surroundings.flush]
  cases capacity.output.filter (· < (surroundings.output ++ Text.utf8 text).size) <;> rfl

theorem runIn_of_writes (h : Writes text surroundings capacity path after) :
    (writeText text path).runIn surroundings capacity = (.ok (), after) := by
  cases h with
  | stored hplace hroom => rw [runIn_writeText_some hplace, filter_lt_eq_none hroom]
  | printed hroom =>
    have hlines (room : Nat) (hsome : capacity.output = some room) :
        surroundings.output.size + lineBytes (Text.utf8 text) ≤ room := by
      have henough := hroom room hsome
      rw [ByteArray.size_append] at henough
      exact (Nat.add_le_add_left (lineBytes_le_size _) _).trans henough
    rw [runIn_writeText_none fun room hsome _ => hlines room hsome, filter_lt_eq_none hroom]

/-- Where nothing gives out, a text that can be written is written the same way. -/
theorem Writes.unlimited (h : Writes text surroundings capacity path after) :
    Writes text surroundings .unlimited path after := by
  cases h with
  | stored hplace => exact .stored hplace fun _ hroom => by contradiction
  | printed => exact .printed fun _ hroom => by contradiction

theorem runIn_of_writingFails (h : WritingFails text surroundings capacity path failure after) :
    (writeText text path).runIn surroundings capacity = (.error failure, after) := by
  cases h with
  | refused hplace =>
    rw [writeText, Interaction.runIn, Surroundings.writeFile, hplace]
    rfl
  | stored hplace hroom hless =>
    rw [runIn_writeText_some hplace, filter_lt_eq_some hroom hless]
  | @printed room hroom hlines hless =>
    have hfull : capacity.output.filter (fun room => 0 < lineBytes (Text.utf8 text) &&
        room < surroundings.output.size + lineBytes (Text.utf8 text)) = some room :=
      Option.filter_eq_some_iff.mpr ⟨hroom, by simp [hlines, hless]⟩
    rw [writeText, Interaction.runIn, Surroundings.print]
    simp only [hfull]
    rfl
  | @flushed room hroom hprinted hless =>
    have hlines (other : Nat) (hsome : capacity.output = some other) :
        0 < lineBytes (Text.utf8 text) →
          surroundings.output.size + lineBytes (Text.utf8 text) ≤ other := by
      rwa [← Option.some.inj (hroom.symm.trans hsome)]
    rw [runIn_writeText_none hlines, filter_lt_eq_some hroom hless]

/-- A text can be written or it cannot. -/
theorem writes_or_writingFails (text : Text) (surroundings : Surroundings) (capacity : Capacity)
    (path : Option Text) :
    (∃ after, Writes text surroundings capacity path after) ∨
      ∃ failure after, WritingFails text surroundings capacity path failure after := by
  cases path with
  | some path =>
    cases hplace : surroundings.files.create? path with
    | none => exact .inr ⟨_, _, .refused hplace⟩
    | some location =>
      by_cases hroom : ∀ room, capacity.storage location = some room → (Text.utf8 text).size ≤ room
      · exact .inl ⟨_, .stored hplace hroom⟩
      · push Not at hroom
        obtain ⟨room, hroom, hless⟩ := hroom
        exact .inr ⟨_, _, .stored hplace hroom hless⟩
  | none =>
    by_cases hroom : ∀ room, capacity.output = some room →
        (surroundings.output ++ Text.utf8 text).size ≤ room
    · exact .inl ⟨_, .printed hroom⟩
    · push Not at hroom
      obtain ⟨room, hroom, hless⟩ := hroom
      -- The lines are written before the rest, so they are the first to be refused.
      by_cases hlines : 0 < lineBytes (Text.utf8 text) ∧
          room < surroundings.output.size + lineBytes (Text.utf8 text)
      · exact .inr ⟨_, _, .printed hroom hlines.1 hlines.2⟩
      · exact .inr ⟨_, _, .flushed hroom (fun h => Nat.le_of_not_lt fun hless => hlines ⟨h, hless⟩)
          hless⟩

end Writing

/-! ### The text to write -/

variable [Libraries]

/-- The text that a run has to write, from the surroundings it starts in. -/
def text (choices : Choices) (environment : Environment) (surroundings : Surroundings) :
    Except Failure Text :=
  match Settings.inFiles surroundings.files choices.settingsFile
    environment.defaultSettingsFile? with
  | .error error => .error (.settings error)
  | .ok settings =>
    if isLogFilter (choices.filter settings environment) then
      match sql? surroundings choices.inputFile? with
      | none => .error (.input choices.inputFile?)
      | some sql =>
        match (choices.generator settings).modelOfSql sql with
        | .error error => .error (.generation error)
        | .ok model => .ok (choices.render model.value)
    else .error .logFilter

/-- A run fails where it started, or writes what it has to write. -/
theorem runIn_generate (choices : Choices) (environment : Environment)
    (surroundings : Surroundings) (capacity : Capacity) :
    (generate choices environment).runIn surroundings capacity =
      match text choices environment surroundings with
      | .ok text => (writeText text choices.output).runIn surroundings capacity
      | .error failure => (.error failure, surroundings) := by
  -- Each stage leaves the surroundings as they are, so the next one starts in them again.
  rw [generate, text, Interaction.runIn_bind, runIn_readSettings]
  cases Settings.inFiles surroundings.files choices.settingsFile
    environment.defaultSettingsFile? with
  | error error => rfl
  | ok settings =>
    have hfound : (Except.ok settings).mapError Failure.settings = .ok settings := rfl
    simp only [hfound]
    rw [Interaction.runIn_bind, runIn_checkFilter]
    cases isLogFilter (choices.filter settings environment) with
    | false => rfl
    | true =>
      simp only [if_true]
      rw [Interaction.runIn_bind, runIn_readSql]
      cases sql? surroundings choices.inputFile? with
      | none => rfl
      | some sql =>
        simp only
        rw [Interaction.runIn_bind, Interaction.runIn_ofExcept]
        cases (choices.generator settings).modelOfSql sql <;> rfl

end Run

namespace Invocation

variable [Libraries] (invocation : Invocation) (surroundings : Surroundings)

/-- The run is asked for a model, and there are settings for it. -/
structure Loaded (choices : Choices) (settings : Settings) : Prop where
  asked : Request.ofArguments? invocation.arguments invocation.environment =
    some (.generate choices)
  found : Settings.inFiles surroundings.files choices.settingsFile
    invocation.environment.defaultSettingsFile? = .ok settings

/-- The filter for log lines is one, too. -/
structure Checked (choices : Choices) (settings : Settings) : Prop
    extends Loaded invocation surroundings choices settings where
  checked : isLogFilter (choices.filter settings invocation.environment) = true

/-- There is SQL text, too. -/
structure Supplied (choices : Choices) (settings : Settings) (sql : Text) : Prop
    extends Checked invocation surroundings choices settings where
  supplied : Run.sql? surroundings choices.inputFile? = some sql

/-- The SQL text describes a table, too, for which there is a model then. -/
structure Generated (choices : Choices) (settings : Settings) (sql : Text)
    (model : Logged Model) : Prop
    extends Supplied invocation surroundings choices settings sql where
  generated : (choices.generator settings).modelOfSql sql = .ok model

variable {invocation : Invocation} {surroundings : Surroundings} {choices : Choices}
  {settings : Settings} {sql : Text} {model : Logged Model}

theorem run_of_asked (h : Request.ofArguments? invocation.arguments invocation.environment =
    some (.generate choices)) :
    invocation.run = Run.generate choices invocation.environment := by
  rw [run, h]

theorem runIn_of_generated (capacity : Capacity)
    (h : Generated invocation surroundings choices settings sql model) :
    invocation.run.runIn surroundings capacity =
      (Run.writeText (choices.render model.value) choices.output).runIn surroundings capacity := by
  have htext : Run.text choices invocation.environment surroundings =
      .ok (choices.render model.value) := by
    simp only [Run.text, h.found, h.checked, if_true, h.supplied, h.generated]
  rw [run_of_asked h.asked, Run.runIn_generate, htext]

end Invocation

end TableModel
