import TableModel.Proofs.Catalog.Reachable
import TableModel.Proofs.Generator.Columns

/-!
# The log of a run

Making a model never fails, so what is wrong with a table is only told in its log. The log accounts
for every column: first come the columns that are left out, then for each column that is kept what
is wrong with its type, and at the end the model itself (`Generator.events_model`). A type may be
missing from the catalog, or the placeholder may stand in the catalog; what gets the placeholder is
warned about in either case, so the warnings are those fields of the model that have it.

Reading the SQL text is part of the run as well. `Generator.runSql` is the whole run with its log
kept also where reading fails. Nothing is reported before the last check is passed, so the log of a
run that fails is empty.
-/

namespace TableModel

/-- What is told of an event: its level, its message and its named fields. Two kinds of events that
tell the same are not told apart by this. -/
def Event.told (event : Event) : Level × Text × List (String × FieldValue) :=
  (event.level, event.message, event.fields)

/-! ### Reports of missing types -/

/-- Whether every report at the lowest level tells the key of a column that is warned about next. -/
def TracesWarned (events : List Event) : Prop :=
  ∀ before event after, events = before ++ event :: after → event.level = .trace →
    ∃ name type isUnsigned rest, event = .missingType (Catalog.columnKey type isUnsigned) ∧
      after = .placeholderType name type isUnsigned :: rest

namespace TracesWarned

theorem of_forall_ne {events : List Event} (h : ∀ event ∈ events, event.level ≠ .trace) :
    TracesWarned events := by
  rintro before event after rfl hlevel
  exact absurd hlevel (h event (List.mem_append_right before List.mem_cons_self))

theorem missingType (name type : Text) (isUnsigned : Bool) :
    TracesWarned [.missingType (Catalog.columnKey type isUnsigned),
      .placeholderType name type isUnsigned] := by
  intro before event after heq hlevel
  rcases before with _ | ⟨first, _ | ⟨second, before⟩⟩
  · obtain ⟨rfl, rfl⟩ := List.cons.inj heq
    exact ⟨name, type, isUnsigned, [], rfl, rfl⟩
  · -- The second event is a warning.
    obtain ⟨-, heq⟩ := List.cons.inj heq
    obtain ⟨rfl, -⟩ := List.cons.inj heq
    exact Level.noConfusion hlevel
  · have hlength := congrArg List.length heq
    simp at hlength

theorem append {first second : List Event} (hfirst : TracesWarned first)
    (hsecond : TracesWarned second) : TracesWarned (first ++ second) := by
  intro before event after heq hlevel
  rcases List.append_eq_append_iff.mp heq with ⟨part, -, hpart⟩ | ⟨part, hpart, hrest⟩
  · exact hsecond part event after hpart hlevel
  · cases part with
    | nil => exact hsecond [] event after hrest.symm hlevel
    | cons head tail =>
      obtain ⟨rfl, rfl⟩ := List.cons.inj hrest
      obtain ⟨name, type, isUnsigned, rest, hevent, rfl⟩ := hfirst before event tail hpart hlevel
      exact ⟨name, type, isUnsigned, rest ++ second, hevent, rfl⟩

theorem flatMap {α : Type} {f : α → List Event} {as : List α} (h : ∀ a ∈ as, TracesWarned (f a)) :
    TracesWarned (as.flatMap f) := by
  induction as with
  | nil => exact of_forall_ne fun _ hmem => absurd hmem List.not_mem_nil
  | cons a rest ih =>
    exact (h a List.mem_cons_self).append (ih fun b hb => h b (List.mem_cons_of_mem a hb))

end TracesWarned

/-! ### What each step reports -/

/-- The reports of a look-up: the key, if it is missing. -/
theorem Catalog.events_resolve (catalog : Catalog) (type : Text) (isUnsigned isNotNull : Bool) :
    (catalog.resolve type isUnsigned isNotNull).events =
      if (catalog.table isNotNull).lookup (columnKey type isUnsigned) = none then
        [.missingType (columnKey type isUnsigned)]
      else [] := by
  rw [resolve]
  cases (catalog.table isNotNull).lookup (columnKey type isUnsigned) <;> rfl

theorem flatMap_ite_singleton {α β : Type} (p : α → Prop) [DecidablePred p] (f : α → β)
    (as : List α) :
    (as.flatMap fun a => if p a then [f a] else []) = (as.filter fun a => p a).map f := by
  induction as with
  | nil => rfl
  | cons a rest ih => by_cases h : p a <;> simp [h, ih]

/-- The reports of filtering columns: the ones that are left out. -/
theorem events_keptColumns (columns : List Column) :
    (keptColumns columns).events =
      (columns.filter fun column => column.name ∈ keySpellings).map
        fun column => .skippedColumn column.name := by
  have hchecked : (fun column : Column => column.checked.events) = fun column =>
      if column.name ∈ keySpellings then [.skippedColumn column.name] else [] := by
    funext column
    simp only [Column.checked, ← column.marksIndex_iff]
    split <;> rfl
  rw [keptColumns, Logged.events_bind, Logged.events_traverse, Logged.events_pure, List.append_nil,
    hchecked, flatMap_ite_singleton]

namespace Generator

variable (generator : Generator)

/-- The reports of making a field: its key, if that is missing from the table for the column, and a
warning, if the field has the placeholder for its type. -/
theorem events_field (column : Column) :
    (generator.field column).events =
      (if (generator.catalog.table column.isNotNull).lookup
          (Catalog.columnKey column.type column.isUnsigned) = none then
        [.missingType (Catalog.columnKey column.type column.isUnsigned)]
      else []) ++
      if (generator.field column).value.type = Catalog.placeholder then
        [.placeholderType (cleanName column.name) column.type column.isUnsigned]
      else [] := by
  rw [value_field]
  simp only [field, Logged.events_bind, Catalog.events_resolve]
  congr 1
  split <;> rfl

/-- A column whose key is missing has the placeholder for its type. -/
theorem type_field_of_lookup_eq_none {column : Column}
    (h : (generator.catalog.table column.isNotNull).lookup
      (Catalog.columnKey column.type column.isUnsigned) = none) :
    (generator.field column).value.type = Catalog.placeholder := by
  rw [value_field, Catalog.value_resolve, h, Option.getD_none]

/-- The reports of making a field tell of a missing type only together with a warning. -/
theorem tracesWarned_events_field (column : Column) :
    TracesWarned (generator.field column).events := by
  rw [events_field]
  by_cases hmissing : (generator.catalog.table column.isNotNull).lookup
      (Catalog.columnKey column.type column.isUnsigned) = none
  · rw [if_pos hmissing, if_pos (generator.type_field_of_lookup_eq_none hmissing)]
    exact .missingType _ _ _
  · rw [if_neg hmissing, List.nil_append]
    refine .of_forall_ne fun event hevent => ?_
    split_ifs at hevent with hplaceholder
    · rw [List.mem_singleton.mp hevent]
      exact Level.noConfusion
    · exact absurd hevent List.not_mem_nil

/-- The warnings among the reports of making a field. -/
theorem warnings_field (column : Column) :
    (generator.field column).events.filter (·.level = .warn) =
      if (generator.field column).value.type = Catalog.placeholder then
        [.placeholderType (cleanName column.name) column.type column.isUnsigned]
      else [] := by
  have hmissing (key : Text) : [Event.missingType key].filter (·.level = .warn) = [] := rfl
  have hwarning (name type : Text) (isUnsigned : Bool) :
      [Event.placeholderType name type isUnsigned].filter (·.level = .warn) =
        [.placeholderType name type isUnsigned] := rfl
  rw [events_field, List.filter_append]
  split_ifs <;> simp only [hmissing, hwarning, List.filter_nil, List.nil_append]

/-- The reports of making a model: the columns that are left out, those of each field, and the model
itself. -/
theorem events_model (table : Table) :
    (generator.model table).events =
      (keptColumns table.columns).events ++
        (keptColumns table.columns).value.flatMap (fun column => (generator.field column).events) ++
        [.generatedModel (generator.model table).value.tableName
          (generator.model table).value.typeName (generator.model table).value.fields.length
          generator.options.withCruds] := by
  simp only [model, Logged.events_bind, Logged.events_traverse, Logged.value_bind,
    Logged.events_report, Logged.events_pure, List.append_nil, List.append_assoc]
  rfl

end Generator

/-! ### Runs -/

/-- Reading the table that SQL text describes, check by check. What is reported stays reported, also
where a later check fails. -/
def Table.readSql (sql : Text) : ExceptT ReadError Logged Table := do
  let statements ← match Ddl.Statement.read sql with
    | .ok statements => pure statements
    | .error error => throw (.malformed error)
  match statements with
  | [] => throw .empty
  | [.table declaration] =>
    let table := Table.ofDeclaration declaration
    Logged.report (.readTable table.name table.columns.length)
    return table
  | [statement] => throw (.otherStatement statement.write)
  | statements => throw (.several statements.length)

/-- A run from SQL text to a model. What is reported stays reported, also where the run fails. -/
def Generator.runSql (generator : Generator) (sql : Text) : ExceptT ReadError Logged Model := do
  let table ← Table.readSql sql
  generator.model table

theorem Table.events_of_ofSql {sql : Text} {read : Logged Table} (h : Table.ofSql sql = .ok read) :
    read.events = [.readTable read.value.name read.value.columns.length] := by
  rw [ofSql] at h
  split at h <;> cases h
  rfl

theorem Table.run_readSql (sql : Text) :
    (Table.readSql sql).run =
      match Table.ofSql sql with
      | .ok read => ⟨.ok read.value, read.events⟩
      | .error error => ⟨.error error, []⟩ := by
  rw [readSql, ofSql]
  cases Ddl.Statement.read sql with
  | error error => rfl
  | ok statements =>
    rcases statements with _ | ⟨statement, _ | ⟨next, more⟩⟩
    · rfl
    · cases statement <;> rfl
    · cases statement <;> rfl

namespace Generator

variable (generator : Generator)

/-- A run gives the model of the text with its log, or fails without a report. -/
theorem run_runSql (sql : Text) :
    (generator.runSql sql).run =
      match generator.modelOfSql sql with
      | .ok model => ⟨.ok model.value, model.events⟩
      | .error error => ⟨.error error, []⟩ := by
  change (Table.readSql sql).run >>= _ = _
  rw [Table.run_readSql, modelOfSql]
  cases Table.ofSql sql with
  | error error => rfl
  | ok read =>
    -- Behind the events of the model stand those of returning it.
    change Logged.mk _ (_ ++ (_ ++ [])) = _
    rw [List.append_nil]
    rfl

/-- The model of a text that describes a table, with the report that it was read before all
others. -/
theorem modelOfSql_of_ok {sql : Text} {read : Logged Table} (h : Table.ofSql sql = .ok read) :
    generator.modelOfSql sql = .ok ⟨(generator.model read.value).value,
      .readTable read.value.name read.value.columns.length ::
        (generator.model read.value).events⟩ := by
  rw [generator.modelOfSql_of_ofSql h]
  refine congrArg Except.ok (congrArg (Logged.mk _) ?_)
  rw [Table.events_of_ofSql h]
  rfl

/-- The warnings of a run are those of the fields that have the placeholder for their type, in the
order of the fields. -/
theorem warnings_model (table : Table) :
    (generator.model table).events.filter (·.level = .warn) =
      ((keptColumns table.columns).value.filter
          fun column => (generator.field column).value.type = Catalog.placeholder).map
        fun column => .placeholderType (cleanName column.name) column.type column.isUnsigned := by
  have hskipped : (keptColumns table.columns).events.filter (·.level = .warn) = [] := by
    rw [events_keptColumns, List.filter_map, List.map_eq_nil_iff, List.filter_eq_nil_iff]
    exact fun _ _ => Bool.false_ne_true
  have hfields : ((keptColumns table.columns).value.flatMap
        fun column => (generator.field column).events).filter (·.level = .warn) =
      (keptColumns table.columns).value.flatMap fun column =>
        if (generator.field column).value.type = Catalog.placeholder then
          [.placeholderType (cleanName column.name) column.type column.isUnsigned]
        else [] := by
    rw [List.filter_flatMap]
    exact List.flatMap_congr fun column _ => generator.warnings_field column
  rw [events_model, List.filter_append, List.filter_append, hskipped, hfields,
    flatMap_ite_singleton]
  exact List.append_nil _

/-- The log of a model tells of a missing type only together with a warning. -/
theorem tracesWarned_events_model (table : Table) :
    TracesWarned (generator.model table).events := by
  have hskipped : TracesWarned (keptColumns table.columns).events := by
    refine .of_forall_ne fun event hevent => ?_
    rw [events_keptColumns] at hevent
    obtain ⟨column, -, rfl⟩ := List.mem_map.mp hevent
    exact Level.noConfusion
  have hmodel (event : Event) (h : event.level ≠ .trace) : TracesWarned [event] :=
    .of_forall_ne fun _ hmem => List.mem_singleton.mp hmem ▸ h
  rw [events_model]
  refine (hskipped.append (.flatMap fun column _ => ?_)).append (hmodel _ Level.noConfusion)
  exact generator.tracesWarned_events_field column

/-- **The log accounts for every column.** What is told while a model is made is, in order: the
columns that are left out; for each column that is kept its key, if the table for the column has
none under it, and then a warning, if its field has the placeholder for its type; and the model with
the number of its fields. For a catalog that can be reached, the key is missing from the table if it
is no key of the catalog. So the warnings are the fields with the placeholder, one for one and in
order, and a report of a missing key comes right before the warning about that column. A model of
SQL text (`modelOfSql`) tells before all this that a table was read, with the number of all its
columns; if there is no table to read, the run fails and its log is empty (`runSql`). -/
theorem events_account_for_columns :
    let line (level : Level) (message : String) (fields : List (String × FieldValue)) :=
      (level, message.toList, fields)
    (∀ table : Table,
      let kept := table.columns.filter fun column => column.name ∉ keySpellings
      let dropped := table.columns.filter fun column => column.name ∈ keySpellings
      let key (column : Column) := Catalog.columnKey column.type column.isUnsigned
      let model := (generator.model table).value
      let events := (generator.model table).events
      model.fields = kept.map (fun column => (generator.field column).value) ∧
      events.map Event.told =
        dropped.map (fun column =>
          line .debug "Skipping KEY column" [("column", .text column.name)]) ++
        kept.flatMap (fun column =>
          (if (generator.catalog.table column.isNotNull).lookup (key column) = none then
            [line .trace "No type mapping" [("key", .text (key column))]]
          else []) ++
          (if (generator.field column).value.type = "unknown".toList then
            [line .warn "Unmapped SQL type, emitting placeholder"
              [("column", .text (cleanName column.name)), ("sql_type", .text column.type),
                ("unsigned", .flag column.isUnsigned)]]
          else [])) ++
        [line .debug "Generated model"
          [("table", .text model.tableName), ("model", .text model.typeName),
            ("fields", .count model.fields.length),
            ("cruds", .flag generator.options.withCruds)]] ∧
      (generator.catalog.Reachable → ∀ column : Column,
        (generator.catalog.table column.isNotNull).lookup (key column) = none ↔
          key column ∉ generator.catalog.keys) ∧
      events.filter (·.level = .warn) =
        (kept.filter fun column => (generator.field column).value.type = "unknown".toList).map
          (fun column => .placeholderType (cleanName column.name) column.type column.isUnsigned) ∧
      events.countP (·.level = .warn) = model.fields.countP (·.type = "unknown".toList) ∧
      (∀ (before : List Event) (event : Event) (after : List Event),
        events = before ++ event :: after → event.level = .trace →
        ∃ name type isUnsigned rest, event = .missingType (Catalog.columnKey type isUnsigned) ∧
          after = .placeholderType name type isUnsigned :: rest) ∧
      ∀ (sql : Text) (read : Logged Table), Table.ofSql sql = .ok read → read.value = table →
        ∃ first, generator.modelOfSql sql = .ok ⟨model, first :: events⟩ ∧
          first.told = line .debug "Parsed CREATE TABLE"
            [("table", .text table.name), ("columns", .count (kept.length + dropped.length))]) ∧
    (∀ sql : Text, (generator.runSql sql).run =
      match generator.modelOfSql sql with
      | .ok model => ⟨.ok model.value, model.events⟩
      | .error error => ⟨.error error, []⟩) ∧
    ∀ (sql : Text) (error : ReadError), Table.ofSql sql = .error error →
      (generator.runSql sql).run = ⟨.error error, []⟩ := by
  intro line
  refine ⟨fun table => ?_, generator.run_runSql, fun sql error herror => ?_⟩
  swap
  · rw [run_runSql, modelOfSql, herror]
    rfl
  intro kept dropped key model events
  have hkept : (keptColumns table.columns).value = kept := value_keptColumns table.columns
  have hfields : model.fields = kept.map fun column => (generator.field column).value :=
    hkept ▸ generator.fields_model table
  have hwarnings : events.filter (·.level = .warn) = _ := hkept ▸ generator.warnings_model table
  refine ⟨hfields, ?_, fun hreachable column => ?_, hwarnings, ?_,
    generator.tracesWarned_events_model table, fun sql read hread hvalue => ?_⟩
  · have hdropped : (keptColumns table.columns).events = dropped.map fun column =>
        .skippedColumn column.name := events_keptColumns table.columns
    have hevents : events = _ := generator.events_model table
    rw [hevents, hdropped, hkept, List.map_append, List.map_append, List.map_map, List.map_flatMap]
    refine congrArg₂ _ (congrArg₂ _ rfl (List.flatMap_congr fun column _ => ?_)) rfl
    rw [events_field, List.map_append]
    exact congrArg₂ _ (apply_ite (List.map Event.told) _ _ _)
      (apply_ite (List.map Event.told) _ _ _)
  · rw [← hreachable.wellFormed.isSome_lookup_iff _ column.isNotNull, Option.not_isSome_iff_eq_none]
  · rw [List.countP_eq_length_filter, hwarnings, List.length_map, hfields, List.countP_map,
      List.countP_eq_length_filter]
    rfl
  · subst hvalue
    have hlength : kept.length + dropped.length = read.value.columns.length := by
      simpa [kept, dropped, Nat.add_comm] using
        (List.length_eq_length_filter_add
          (l := read.value.columns) fun column => decide (column.name ∈ keySpellings)).symm
    refine ⟨_, generator.modelOfSql_of_ok hread, ?_⟩
    rw [hlength]
    rfl

/-- A table with an index marker between two columns: one of a type that the catalog does not have,
and one that the catalog itself gives the placeholder, of which only the warning tells. -/
theorem events_account_for_columns_places :
    let generator : Generator :=
      ⟨⟨[], true⟩, Catalog.empty.insert "int".toList ⟨"unknown".toList, "int".toList⟩⟩
    let place : Column := ⟨"place".toList, "Point".toList, false, true, none⟩
    let marker : Column := ⟨"Key".toList, "int".toList, false, true, none⟩
    let number : Column := ⟨"\x60n\x60".toList, "INT".toList, false, true, none⟩
    let table : Table := ⟨"places".toList, [place, marker, number]⟩
    let events := (generator.model table).events
    events = [.skippedColumn "Key".toList, .missingType "point".toList,
        .placeholderType "place".toList "Point".toList false,
        .placeholderType "n".toList "INT".toList false,
        .generatedModel "places".toList "Places".toList 2 true] ∧
      events.countP (·.level = .warn) = 2 ∧
      ("point".toList ∉ generator.catalog.keys ∧
        (generator.catalog.table true).lookup "point".toList = none) ∧
      (∃ name type isUnsigned rest, Event.missingType "point".toList =
          .missingType (Catalog.columnKey type isUnsigned) ∧
        events.drop 2 = .placeholderType name type isUnsigned :: rest) ∧
      (∃ read first, Table.ofSql "CREATE TABLE t (c INT)".toList = .ok read ∧
        generator.modelOfSql "CREATE TABLE t (c INT)".toList =
          .ok ⟨(generator.model read.value).value,
            first :: (generator.model read.value).events⟩) ∧
      ∃ error, Table.ofSql "CREATE".toList = .error error ∧
        (generator.runSql "CREATE".toList).run = ⟨.error error, []⟩ := by
  intro generator place marker number table events
  obtain ⟨haccount, -, herror⟩ := generator.events_account_for_columns
  obtain ⟨-, -, hkeys, -, hcount, htraces, -⟩ := haccount table
  have hevents : events = [.skippedColumn "Key".toList, .missingType "point".toList,
      .placeholderType "place".toList "Point".toList false,
      .placeholderType "n".toList "INT".toList false,
      .generatedModel "places".toList "Places".toList 2 true] := by decide +kernel
  have hreachable : generator.catalog.Reachable := (Catalog.Reachable.ofList []).insert _ _
  have hmissing : (generator.catalog.table true).lookup "point".toList = none := by decide +kernel
  have htwo : (generator.model table).value.fields.countP (·.type = "unknown".toList) = 2 := by
    decide +kernel
  refine ⟨hevents, hcount.trans htwo, ⟨(hkeys hreachable place).mp hmissing, hmissing⟩,
    htraces [.skippedColumn "Key".toList] _ _ (by decide +kernel) rfl, ?_, ?_⟩
  · have hok : (Table.ofSql "CREATE TABLE t (c INT)".toList).isOk = true := by decide +kernel
    cases hread : Table.ofSql "CREATE TABLE t (c INT)".toList with
    | error error => rw [hread] at hok; cases hok
    | ok read =>
      obtain ⟨-, -, -, -, -, -, hrun⟩ := haccount read.value
      obtain ⟨first, hfirst, -⟩ := hrun _ read hread rfl
      exact ⟨read, first, rfl, hfirst⟩
  · have hfails : (Table.ofSql "CREATE".toList).isOk = false := by decide +kernel
    cases hread : Table.ofSql "CREATE".toList with
    | error error => exact ⟨error, rfl, herror _ error hread⟩
    | ok read => rw [hread] at hfails; cases hfails

end Generator

end TableModel
