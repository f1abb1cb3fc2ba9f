import Mathlib.Algebra.BigOperators.Ring.List
import Mathlib.Algebra.Ring.Nat
import TableModel.Proofs.Generator.Columns
import TableModel.Proofs.Model.Lines
import TableModel.Proofs.Naming.LineFeeds

/-!
# The lines of a model

A model has a line for each of its fields, and otherwise as many lines as its fixed text, provided
that nothing else brings a line feed with it. What may do so are the name of the table, which stands
in a string, and the names of the columns, which stand in the tags; nothing else of a table does.
So the line feeds of the source text can be counted, whatever the names are, and where the names
bring none, its lines can be told (`Generator.lines_source`).
-/

namespace TableModel

/-! ### Fields -/

theorem count_append_five {a b c d e : Text} {i j k l m : Nat} (ha : a.count '\n' = i)
    (hb : b.count '\n' = j) (hc : c.count '\n' = k) (hd : d.count '\n' = l)
    (he : e.count '\n' = m) : (a ++ b ++ c ++ d ++ e).count '\n' = i + j + k + l + m := by
  rw [List.count_append, List.count_append, List.count_append, List.count_append, ha, hb, hc, hd,
    he]

theorem Field.line_eq_dropLast (field : Field) : field.line = field.line.dropLast ++ ['\n'] := by
  rw [Field.line, List.dropLast_concat]

/-- The line of a field begins no function. -/
theorem Field.beginsFunction_line (field : Field) : beginsFunction field.line.dropLast = false := by
  rw [Field.line, List.dropLast_concat]
  rfl

/-- The line feeds in the line of a field, if there is none in its name, type and comment. -/
theorem Field.count_line {field : Field} (hname : '\n' ∉ field.name) (htype : '\n' ∉ field.type)
    (hcomment : '\n' ∉ field.comment) :
    field.line.count '\n' = field.tag.count '\n' + 1 := by
  have htab {t : Text} (h : '\n' ∉ t) : ('\t' :: t).count '\n' = 0 := by
    rw [List.count_cons, List.count_eq_zero_of_not_mem h]
    rfl
  have htag : (if field.tag.isEmpty then [] else '\t' :: field.tag).count '\n' =
      field.tag.count '\n' := by
    cases htag : field.tag with
    | nil => rfl
    | cons c rest => rw [List.isEmpty_cons, if_neg Bool.false_ne_true, List.count_cons]; rfl
  have hend : (['\n'] : Text).count '\n' = 1 := rfl
  exact (count_append_five (htab hname) (htab htype) htag (List.count_eq_zero_of_not_mem hcomment)
    hend).trans (by omega)

/-! ### Drafts -/

namespace Draft

/-- The line feeds behind the method: two for each function, but for those in it, and one more. -/
theorem count_functionsTail {functions : List Text} (h : functions ≠ []) :
    (functionsTail functions).count '\n' =
      (functions.map (List.count '\n')).sum + 2 * functions.length + 1 := by
  have hend : (['\n'] : Text).count '\n' = 1 := rfl
  have hfunction : functions.map
        (List.count '\n' ∘ fun function => '\n' :: (function ++ ['\n'])) =
      functions.map fun function => function.count '\n' + 2 :=
    List.map_congr_left fun function _ => by
      rw [Function.comp_apply, List.count_cons_self, List.count_append, hend]
  rw [functionsTail, if_neg h, List.count_append, List.count_flatMap, hfunction, List.sum_map_add,
    List.map_const', List.sum_replicate_nat, hend]
  omega

/-- Of the lines behind the method those begin a function that do so in one of the functions. -/
theorem functionLines_functionsTail (functions : List Text) :
    functionLines (functionsTail functions) = (functions.map functionLines).sum := by
  have hflatMap (functions : List Text) :
      functionLines (functions.flatMap (fun function => '\n' :: (function ++ ['\n'])) ++ ['\n']) =
        (functions.map functionLines).sum := by
    induction functions with
    | nil => rfl
    | cons function rest ih =>
      have hshape (t : Text) :
          '\n' :: (function ++ ['\n']) ++ t = [] ++ '\n' :: (function ++ '\n' :: t) := by simp
      rw [List.flatMap_cons, List.append_assoc, hshape, functionLines_append_lineFeed,
        functionLines_append_lineFeed, functionLines_nil, ih, Nat.zero_add]
      rfl
  by_cases hnone : functions = []
  · rw [hnone]
    rfl
  · rw [functionsTail, if_neg hnone, hflatMap]

variable {draft : Draft}

/-- The line feeds of the source text: those of the lines of fields, those of the table's name, and
those of the fixed text and of what stands behind the method. -/
theorem count_source (htype : '\n' ∉ draft.typeName) :
    draft.source.count '\n' =
      (draft.fields.map fun field => field.line.count '\n').sum + draft.tableName.count '\n' + 6 +
        (functionsTail draft.functions).count '\n' := by
  have hname : draft.typeName.count '\n' = 0 := List.count_eq_zero_of_not_mem htype
  have hfields : (draft.fields.flatMap Field.line).count '\n' =
      (draft.fields.map fun field => field.line.count '\n').sum := List.count_flatMap
  have hstruct : draft.structText.count '\n' =
      (draft.fields.map fun field => field.line.count '\n').sum + 2 :=
    (count_append_five (i := 0) (k := 1) (m := 1) (by decide) hname (by decide)
      hfields (by decide)).trans (by omega)
  have haccessor : draft.accessorText.count '\n' = draft.tableName.count '\n' + 3 :=
    (count_append_five (i := 0) (k := 1) (m := 2) (by decide) hname (by decide)
      (count_goStringBody _) (by decide)).trans (by omega)
  rw [source_eq_append, List.count_append, List.count_cons_self, List.count_append, hstruct,
    haccessor]
  omega

/-- Lines of fields, each of which is one line, are lines. The last piece is what stands behind the
last line feed, so it is empty when nothing follows. -/
theorem splitOn_flatMap_line {fields : List Field}
    (h : ∀ field ∈ fields, '\n' ∉ field.line.dropLast) (t : Text) :
    (fields.flatMap Field.line ++ t).splitOn '\n' =
      fields.map (fun field => field.line.dropLast) ++ t.splitOn '\n' := by
  induction fields with
  | nil => rfl
  | cons field rest ih =>
    have hfield := h field List.mem_cons_self
    rw [List.flatMap_cons, Field.line_eq_dropLast, List.append_assoc, List.append_assoc,
      List.singleton_append, List.splitOn_append_cons_self, List.splitOn_eq_singleton hfield,
      ih fun other hmem => h other (List.mem_cons_of_mem field hmem)]
    rfl

/-- The struct is its header, the lines of the fields and a brace. -/
theorem splitOn_structText (htype : '\n' ∉ draft.typeName)
    (hfields : ∀ field ∈ draft.fields, '\n' ∉ field.line.dropLast) (t : Text) :
    (draft.structText ++ t).splitOn '\n' =
      ("type ".toList ++ draft.typeName ++ " struct \x7b".toList) ::
        (draft.fields.map (fun field => field.line.dropLast) ++ ['\x7d'] :: t.splitOn '\n') := by
  have hheader : '\n' ∉ "type ".toList ++ draft.typeName ++ " struct \x7b".toList :=
    lineFeed_notMem_append (by decide) htype (by decide)
  have hshape : draft.structText ++ t =
      ("type ".toList ++ draft.typeName ++ " struct \x7b".toList) ++ '\n' ::
        (draft.fields.flatMap Field.line ++ (['\x7d'] ++ '\n' :: t)) := by
    have hbrace : " struct \x7b\n".toList = " struct \x7b".toList ++ ['\n'] := by decide
    have hclose : "\x7d\n".toList = ['\x7d'] ++ ['\n'] := by decide
    -- The equation lemma of this definition would evaluate the texts in it.
    unfold structText
    rw [hbrace, hclose]
    simp only [List.append_assoc, List.cons_append, List.nil_append]
  rw [hshape, List.splitOn_append_cons_self, List.splitOn_eq_singleton hheader,
    splitOn_flatMap_line hfields, List.splitOn_append_cons_self]
  rfl

theorem functionLines_three {a b c : Text} {i j k : Nat} (ha : functionLines a = i)
    (hb : functionLines b = j) (hc : functionLines c = k) (t : Text) :
    functionLines (a ++ '\n' :: (b ++ '\n' :: (c ++ '\n' :: t))) = i + j + k + functionLines t := by
  rw [functionLines_append_lineFeed, functionLines_append_lineFeed, functionLines_append_lineFeed,
    ha, hb, hc]
  omega

/-- The method begins a function, and nothing else in its text does, as long as the names in it are
on one line. A line feed in the name of the table would stand in the string as it is. -/
theorem functionLines_accessorText (htype : '\n' ∉ draft.typeName)
    (htable : '\n' ∉ draft.tableName) (t : Text) :
    functionLines (draft.accessorText ++ t) = 1 + functionLines t := by
  have hhead : '\n' ∉
      "func (m *".toList ++ draft.typeName ++ ") TableName() string \x7b".toList :=
    lineFeed_notMem_append (by decide) htype (by decide)
  have hname : '\n' ∉ goStringBody draft.tableName := by
    rwa [← List.count_eq_zero, count_goStringBody, List.count_eq_zero]
  have hbody : '\n' ∉ "\treturn \"".toList ++ goStringBody draft.tableName ++ ['"'] :=
    lineFeed_notMem_append (by decide) hname (by decide)
  have hshape : draft.accessorText ++ t =
      ("func (m *".toList ++ draft.typeName ++ ") TableName() string \x7b".toList) ++ '\n' ::
        (("\treturn \"".toList ++ goStringBody draft.tableName ++ ['"']) ++ '\n' ::
          (['\x7d'] ++ '\n' :: t)) := by
    have hbrace : ") TableName() string \x7b\n\treturn \"".toList =
        ") TableName() string \x7b".toList ++ '\n' :: "\treturn \"".toList := by decide
    have hclose : "\"\n\x7d\n".toList = ['"'] ++ '\n' :: (['\x7d'] ++ ['\n']) := by decide
    unfold accessorText
    rw [hbrace, hclose]
    simp only [List.append_assoc, List.cons_append, List.nil_append]
  rw [hshape]
  exact functionLines_three (functionLines_of_notMem hhead) (functionLines_of_notMem hbody) rfl t

/-- The lines of the source text, if the names of the table and its type are on one line and each
field is: the struct has a line for each field, and what begins a function is the method, which
stands behind it, and what does so in the functions. -/
theorem splitOn_source (htype : '\n' ∉ draft.typeName) (htable : '\n' ∉ draft.tableName)
    (hfields : ∀ field ∈ draft.fields, '\n' ∉ field.line.dropLast) :
    ∃ rest, draft.source.splitOn '\n' =
        ("type ".toList ++ draft.typeName ++ " struct \x7b".toList) ::
          (draft.fields.map (fun field => field.line.dropLast) ++ ['\x7d'] :: rest) ∧
      functionLines draft.source = 1 + (draft.functions.map functionLines).sum := by
  have hsplit := splitOn_structText htype hfields
    ('\n' :: (draft.accessorText ++ functionsTail draft.functions))
  rw [← source_eq_append] at hsplit
  have hrows : (draft.fields.map fun field => field.line.dropLast).countP beginsFunction = 0 := by
    rw [List.countP_map, List.countP_eq_zero]
    exact fun field _ => by simp [Field.beginsFunction_line]
  have hrest : functionLines ('\n' :: (draft.accessorText ++ functionsTail draft.functions)) =
      1 + (draft.functions.map functionLines).sum := by
    rw [← List.nil_append (_ :: _), functionLines_append_lineFeed,
      functionLines_accessorText htype htable, functionLines_functionsTail, functionLines_nil,
      Nat.zero_add]
  refine ⟨_, hsplit, ?_⟩
  rw [functionLines, hsplit, List.countP_cons_of_neg Bool.false_ne_true, List.countP_append, hrows,
    List.countP_cons_of_neg Bool.false_ne_true, Nat.zero_add]
  exact hrest

end Draft

/-! ### Models -/

namespace Generator

variable (generator : Generator)

theorem lineFeed_notMem_resolve {catalog : Catalog}
    (h : ∀ isNotNull, ∀ row ∈ catalog.table isNotNull, '\n' ∉ row.2) (type : Text)
    (isUnsigned isNotNull : Bool) :
    '\n' ∉ (catalog.resolve type isUnsigned isNotNull).value := by
  rw [Catalog.resolve]
  split
  · next goType hlookup =>
    obtain ⟨before, after, htable, -⟩ := List.lookup_eq_some_iff.mp hlookup
    exact h isNotNull (Catalog.columnKey type isUnsigned, goType) (by rw [htable]; simp)
  · change '\n' ∉ Catalog.placeholder
    decide

section OneLine

variable {generator : Generator} (htemplate : '\n' ∉ generator.options.tagTemplate)
  (htypes : ∀ isNotNull, ∀ row ∈ generator.catalog.table isNotNull, '\n' ∉ row.2)

include htemplate htypes

/-- The line feeds in the line of a field are those that its tag has from the column's name, and the
one that ends the line. -/
theorem count_line_field (column : Column) :
    (generator.field column).value.line.count '\n' =
      Naming.placeholders generator.options.tagTemplate *
        (cleanName column.name).count '\n' + 1 := by
  have htype := lineFeed_notMem_resolve htypes column.type column.isUnsigned column.isNotNull
  rw [value_field, Field.count_line (Naming.lineFeed_notMem_exportedName _) htype
    (Naming.lineFeed_notMem_lineComment _), Naming.count_fillTag,
    List.count_eq_zero_of_not_mem htemplate, Nat.zero_add]

theorem sum_count_line_fields (columns : List Column) :
    ((columns.map fun column => (generator.field column).value).map fun field =>
        field.line.count '\n').sum =
      Naming.placeholders generator.options.tagTemplate *
        (columns.map fun column => (cleanName column.name).count '\n').sum + columns.length := by
  have hcount : (columns.map fun column => (generator.field column).value).map
        (fun field => field.line.count '\n') =
      columns.map fun column => Naming.placeholders generator.options.tagTemplate *
        (cleanName column.name).count '\n' + 1 := by
    rw [List.map_map]
    exact List.map_congr_left fun column _ => count_line_field htemplate htypes column
  rw [hcount, List.sum_map_add, List.sum_map_mul_left, List.map_const', List.sum_replicate_nat,
    Nat.mul_one]

/-- The line of a field is one line if nothing that comes from the column's name breaks it. -/
theorem lineFeed_notMem_line_field {column : Column}
    (h : Naming.placeholders generator.options.tagTemplate *
      (cleanName column.name).count '\n' = 0) :
    '\n' ∉ (generator.field column).value.line.dropLast := by
  have hcount := count_line_field htemplate htypes column
  rw [Field.line_eq_dropLast, List.count_append, h] at hcount
  rw [← List.count_eq_zero]
  exact Nat.add_right_cancel hcount

end OneLine

/-- The line feeds that the functions on rows bring with them, where they are wanted. -/
theorem count_functionsFor {typeName : Text} (h : '\n' ∉ typeName) :
    (Draft.functionsTail (generator.functionsFor typeName)).count '\n' =
      if generator.options.withCruds then 29 else 0 := by
  rw [functionsFor]
  cases generator.options.withCruds with
  | false => rfl
  | true => rw [if_pos rfl, Draft.count_functionsTail (Crud.functions_ne_nil typeName),
      Crud.sum_count_functions h, Crud.length_functions, if_pos rfl]

/-- The lines that begin a function in the functions on rows, where they are wanted. -/
theorem functionLines_functionsFor {typeName : Text} (h : '\n' ∉ typeName) :
    ((generator.functionsFor typeName).map functionLines).sum =
      if generator.options.withCruds then 5 else 0 := by
  rw [functionsFor]
  cases generator.options.withCruds with
  | false => rfl
  | true => rw [if_pos rfl, Crud.sum_functionLines_functions h, if_pos rfl]

/-- **The lines of a model.** If the tag template and the types of the catalog are on one line, the
source text has the line feeds of its fixed text, one for each field, and besides these the ones in
the name of the table and, for each placeholder of the template, those in the names of the columns.
If there are none besides, the lines between the header of the struct and its closing brace are
those of the fields, one for one, and the lines that begin a function are those of the method and
the functions on rows. -/
theorem lines_source (table : Table) (htemplate : '\n' ∉ generator.options.tagTemplate)
    (htypes : ∀ isNotNull, ∀ row ∈ generator.catalog.table isNotNull, '\n' ∉ row.2) :
    let kept := (keptColumns table.columns).value
    let model := (generator.model table).value
    let besides := (cleanName table.name).count '\n' +
      Naming.placeholders generator.options.tagTemplate *
        (kept.map fun column => (cleanName column.name).count '\n').sum
    model.source.count '\n' =
        kept.length + (if generator.options.withCruds then 35 else 6) + besides ∧
      (besides = 0 →
        ∃ rest, model.source.splitOn '\n' =
            ("type ".toList ++ model.typeName ++ " struct \x7b".toList) ::
              (kept.map (fun column => (generator.field column).value.line.dropLast) ++
                ['\x7d'] :: rest) ∧
          functionLines model.source = if generator.options.withCruds then 6 else 1) := by
  intro kept model besides
  have htype : '\n' ∉ Naming.exportedName (cleanName table.name) :=
    Naming.lineFeed_notMem_exportedName _
  let draft : Draft := ⟨Naming.exportedName (cleanName table.name), cleanName table.name,
    kept.map fun column => (generator.field column).value,
    generator.functionsFor (Naming.exportedName (cleanName table.name))⟩
  have hmodel : model = draft.finish := generator.value_model table
  have hsource : model.source = draft.source := congrArg Model.source hmodel
  refine ⟨?_, fun hnone => ?_⟩
  · have hcount : draft.source.count '\n' = _ := Draft.count_source htype
    rw [sum_count_line_fields htemplate htypes, generator.count_functionsFor htype] at hcount
    have hcruds : (if generator.options.withCruds then 35 else 6) =
        6 + if generator.options.withCruds then 29 else 0 := by split <;> rfl
    rw [hsource, hcount, hcruds]
    simp only [besides, kept, draft]
    omega
  · obtain ⟨hname, hcolumns⟩ := Nat.add_eq_zero_iff.mp hnone
    have hlines : ∀ field ∈ draft.fields, '\n' ∉ field.line.dropLast := by
      intro field hfield
      obtain ⟨column, hcolumn, rfl⟩ := List.mem_map.mp hfield
      refine lineFeed_notMem_line_field htemplate htypes ?_
      rcases Nat.mul_eq_zero.mp hcolumns with hzero | hzero
      · rw [hzero, Nat.zero_mul]
      · rw [List.sum_eq_zero_iff_forall_eq_nat.mp hzero _ (List.mem_map_of_mem hcolumn),
          Nat.mul_zero]
    obtain ⟨rest, hsplit, hfunctions⟩ :=
      Draft.splitOn_source htype (List.count_eq_zero.mp hname) hlines
    rw [generator.functionLines_functionsFor htype] at hfunctions
    refine ⟨rest, ?_, ?_⟩
    · have htypeName : model.typeName = draft.typeName := congrArg Model.typeName hmodel
      rw [hsource, hsplit, List.map_map, htypeName]
      rfl
    · rw [hsource, hfunctions]
      split <;> rfl

/-- A table on one line with functions, and one without whose name is broken once and its column's
name twice: besides the seven line feeds of a table with a column there are five, and the tag of the
column begins two functions. -/
theorem lines_source_broken :
    let catalog : Catalog :=
      ⟨[("int".toList, "int".toList)], [("int".toList, "sql.NullInt64".toList)]⟩
    let full : Generator := ⟨⟨defaultTagTemplate, true⟩, catalog⟩
    let plain : Generator := ⟨⟨defaultTagTemplate, false⟩, catalog⟩
    let column (name : String) : Column := ⟨name.toList, "int".toList, false, true, none⟩
    let users := (full.model ⟨"users".toList, [column "id"]⟩).value
    let broken := (plain.model ⟨"a\nb".toList, [column "c\n\nfunc d"]⟩).value
    (∃ rest, users.source.splitOn '\n' =
        "type Users struct \x7b".toList ::
          "\tID\tint\t\x60gorm:\"column:id\" json:\"id\"\x60".toList :: ['\x7d'] :: rest) ∧
      users.source.count '\n' = 1 + 35 ∧ functionLines users.source = 6 ∧
      broken.source.count '\n' = 1 + 6 + (1 + 2 * 2) ∧ functionLines broken.source = 3 := by
  intro catalog full plain column users broken
  have htemplate : '\n' ∉ defaultTagTemplate := by decide +kernel
  have htypes : ∀ isNotNull, ∀ row ∈ catalog.table isNotNull, '\n' ∉ row.2 := by
    rintro (_ | _) <;> decide +kernel
  obtain ⟨hcount, hlines⟩ := full.lines_source ⟨"users".toList, [column "id"]⟩ htemplate htypes
  obtain ⟨rest, hsplit, hfunctions⟩ := hlines (by decide +kernel)
  obtain ⟨hbroken, -⟩ := plain.lines_source ⟨"a\nb".toList, [column "c\n\nfunc d"]⟩ htemplate
    htypes
  have hheader : "type ".toList ++ users.typeName ++ " struct \x7b".toList =
      "type Users struct \x7b".toList := by decide +kernel
  have hrows : (keptColumns [column "id"]).value.map
        (fun column => (full.field column).value.line.dropLast) =
      ["\tID\tint\t\x60gorm:\"column:id\" json:\"id\"\x60".toList] := by decide +kernel
  refine ⟨⟨rest, hsplit.trans (congrArg₂ List.cons hheader (congrArg (· ++ _) hrows))⟩,
    hcount.trans (by decide +kernel), hfunctions, hbroken.trans (by decide +kernel), ?_⟩
  decide +kernel

end Generator

end TableModel
