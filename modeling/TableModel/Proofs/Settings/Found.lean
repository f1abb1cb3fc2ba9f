import TableModel.Settings.File

/-!
# The settings that are found

Which settings a run has follows from the file tree alone. They are those of the file that is named,
which has to be there, or else of the default one, and without any file everything has its default
(`inFiles`). Reading them leaves the surroundings as they are (`runIn_load`). What a settings file
says about the options can be read off its document (`options_of_ofMembers?`); what the document does
not say has its default again.
-/

namespace TableModel.Settings

/-- The settings in a file that has to be there. What cannot be read and what is missing are one
failure, unlike what is read and cannot be understood. -/
def inFile (files : Files) (path : Text) : Except SettingsError Settings :=
  match files.read path with
  | .content bytes => ofBytes path bytes
  | _ => .error (.unreadable path)

/-- The settings in a file tree, by the file that is named or else by the default one. Only the
default one may be missing. -/
def inFiles (files : Files) : Option Text → Option Text → Except SettingsError Settings
  | some path, _ => inFile files path
  | none, some path =>
    match files.read path with
    | .missing => .ok .default
    | _ => inFile files path
  | none, none => .ok .default

/-- Reading the settings gives what is in the file tree, and changes nothing. -/
theorem runIn_load (surroundings : Surroundings) (capacity : Capacity) (named : Option Text)
    (environment : Environment) :
    (load named environment).runIn surroundings capacity =
      (inFiles surroundings.files named environment.defaultSettingsFile?, surroundings) := by
  cases named with
  | some path =>
    rw [load, readFile, Interaction.runIn, inFiles, inFile]
    cases surroundings.files.read path with
    | content bytes => exact Interaction.runIn_ofExcept _ _ _
    | missing => rfl
    | unreadable => rfl
  | none =>
    cases hdefault : environment.defaultSettingsFile? with
    | none => simp only [load, hdefault, inFiles, Interaction.runIn]
    | some path =>
      simp only [load, hdefault, readFileIfAny, Interaction.runIn, inFiles, inFile]
      cases surroundings.files.read path with
      | content bytes => exact Interaction.runIn_ofExcept _ _ _
      | missing => rfl
      | unreadable => rfl

/-! ### Documents -/

/-- The document of the settings file, which is the named file, or else the default one. There is
none without a file. -/
def document? (files : Files) (named default? : Option Text) : Option Toml.Members :=
  (named <|> default?).bind fun path =>
    match files.read path with
    | .content bytes => (Text.ofUtf8? bytes).bind Toml.parse?
    | _ => none

/-- The settings in a document, or the default ones without a document, which is what a run has that
finds no settings file where one is looked for by default. -/
def ofDocument? : Option Toml.Members → Option Settings
  | some document => ofMembers? document
  | none => some .default

/-- The content of a settings file is the UTF-8 form of a document. -/
theorem ofBytes_eq_ok {path : Text} {bytes : ByteArray} {settings : Settings}
    (h : ofBytes path bytes = .ok settings) :
    ∃ document, (Text.ofUtf8? bytes).bind Toml.parse? = some document ∧
      ofMembers? document = some settings := by
  rw [ofBytes] at h
  cases htext : Text.ofUtf8? bytes with
  | none => simp [htext] at h
  | some text =>
    cases hread : ofToml? text with
    | none => simp [htext, hread] at h
    | some found =>
      simp only [htext, hread, Except.ok.injEq] at h
      subst h
      exact Option.bind_eq_some_iff.mp hread

theorem exists_document_of_inFile {files : Files} {path : Text} {settings : Settings}
    (h : inFile files path = .ok settings) :
    ∃ bytes document, files.read path = .content bytes ∧
      (Text.ofUtf8? bytes).bind Toml.parse? = some document ∧
      ofMembers? document = some settings := by
  rw [inFile] at h
  cases hread : files.read path with
  | content bytes =>
    rw [hread] at h
    obtain ⟨document, hdocument, hsettings⟩ := ofBytes_eq_ok h
    exact ⟨bytes, document, rfl, hdocument, hsettings⟩
  | missing => simp [hread] at h
  | unreadable => simp [hread] at h

/-- The settings that are found are those of the document that is found. -/
theorem ofDocument?_of_inFiles {files : Files} {named default? : Option Text} {settings : Settings}
    (h : inFiles files named default? = .ok settings) :
    ofDocument? (document? files named default?) = some settings := by
  -- In all cases but one the settings are those in a file, and that file has the document.
  have hfile : ∀ {path}, (named <|> default?) = some path → inFile files path = .ok settings →
      ofDocument? (document? files named default?) = some settings := by
    intro path hpath hok
    obtain ⟨bytes, document, hread, hdocument, hsettings⟩ := exists_document_of_inFile hok
    have hfound : document? files named default? = some document := by
      rw [document?, hpath, Option.bind_some, hread]
      exact hdocument
    rw [hfound]
    exact hsettings
  cases named with
  | some path => exact hfile rfl h
  | none =>
    cases default? with
    | none => exact congrArg some (Except.ok.inj h)
    | some path =>
      cases hread : files.read path with
      | missing =>
        simp only [inFiles, hread, Except.ok.injEq] at h
        simpa [document?, hread, ofDocument?] using h
      | content bytes => exact hfile rfl (by simpa only [inFiles, hread] using h)
      | unreadable => exact hfile rfl (by simpa only [inFiles, hread] using h)

/-! ### Options -/

/-- What a document has for the options, field by field. -/
def optionFields (document : Toml.Members) : List (Option Toml) :=
  ((document.lookup "generation".toList).bind (fields? ["tag_template", "include_cruds"])).getD []

def writtenTemplate? (document : Toml.Members) : Option Text :=
  (optionFields document)[0]?.join.bind text?

def writtenCruds? (document : Toml.Members) : Option Bool :=
  (optionFields document)[1]?.join.bind bool?

theorem bind_of_optional? {α : Type} {read : Toml → Option α} {field : Option Toml}
    {value : Option α} (h : optional? read field = some value) : field.bind read = value := by
  cases field with
  | none => exact Option.some.inj h
  | some written =>
    obtain ⟨found, hfound, rfl⟩ := Option.map_eq_some_iff.mp h
    exact hfound

/-- The options that a document describes are what is written, each with its own default. -/
theorem options_of_ofMembers? {document : Toml.Members} {settings : Settings}
    (h : ofMembers? document = some settings) :
    settings.options =
      ⟨(writtenTemplate? document).getD defaultTagTemplate,
        (writtenCruds? document).getD true⟩ := by
  obtain ⟨options, hoptions, h⟩ := Option.bind_eq_some_iff.mp h
  obtain ⟨types, -, h⟩ := Option.bind_eq_some_iff.mp h
  obtain ⟨logFilter, -, h⟩ := Option.bind_eq_some_iff.mp h
  obtain rfl := Option.some.inj h
  cases hgeneration : document.lookup "generation".toList with
  | none =>
    rw [hgeneration] at hoptions
    obtain rfl := Option.some.inj hoptions
    have hwritten : optionFields document = [] := by rw [optionFields, hgeneration]; rfl
    rw [writtenTemplate?, writtenCruds?, hwritten]
    rfl
  | some value =>
    rw [hgeneration] at hoptions
    obtain ⟨read, hread, rfl⟩ := Option.map_eq_some_iff.mp hoptions
    obtain ⟨fields, hfields, hread⟩ := Option.bind_eq_some_iff.mp hread
    have hwritten : optionFields document = fields := by
      rw [optionFields, hgeneration, Option.bind_some, hfields, Option.getD_some]
    match fields, hread with
    | [template, withCruds], hread =>
      obtain ⟨foundTemplate, htemplate, hread⟩ := Option.bind_eq_some_iff.mp hread
      obtain ⟨foundCruds, hcruds, hread⟩ := Option.bind_eq_some_iff.mp hread
      obtain rfl := Option.some.inj hread
      have htemplateEq := bind_of_optional? htemplate
      have hcrudsEq := bind_of_optional? hcruds
      simp [writtenTemplate?, writtenCruds?, hwritten, htemplateEq, hcrudsEq, Options.default]

/-- The options of settings are those of their document, or the defaults without one. -/
theorem options_of_ofDocument? {settings : Settings} {document : Option Toml.Members}
    (h : ofDocument? document = some settings) :
    settings.options =
      ⟨(document.bind writtenTemplate?).getD defaultTagTemplate,
        (document.bind writtenCruds?).getD true⟩ := by
  cases document with
  | none =>
    obtain rfl := Option.some.inj h
    rfl
  | some members => exact options_of_ofMembers? h

end TableModel.Settings
