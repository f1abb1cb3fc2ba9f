import TableModel.Proofs.Generator.Lines

/-!
# Functions on rows only append

Whether functions on rows are wanted makes no difference to the rest of a model: its names, its
fields and the text of the struct and the method are the same. The functions stand behind all that,
and the name of the type is the only thing in them that comes from the table. So what they append is
the same for all tables whose types have the same name (`Generator.withCruds_appends`).
-/

namespace TableModel.Generator

/-- With functions a model is the one without, and behind its source text stand the functions. -/
theorem value_model_withCruds (tagTemplate : Text) (catalog : Catalog) (table : Table) :
    let plain := (Generator.model ⟨⟨tagTemplate, false⟩, catalog⟩ table).value
    (Generator.model ⟨⟨tagTemplate, true⟩, catalog⟩ table).value =
      { plain with
        source := plain.source ++ Draft.functionsTail (Crud.functions plain.typeName) } := by
  intro plain
  -- Making a field does not look at the choice of functions.
  have hfield : (fun column => (field ⟨⟨tagTemplate, true⟩, catalog⟩ column).value) =
      fun column => (field ⟨⟨tagTemplate, false⟩, catalog⟩ column).value := by
    funext column
    rw [value_field, value_field]
  simp only [plain, value_model, hfield, functionsFor, if_true, Bool.false_eq_true, if_false]
  exact Draft.finish_eq_append _ _ _ _

/-- **Functions on rows only append.** For every name of a type there are five functions, each from
the text of its template: the text is pieces with gaps between them, none of which has a gap in it,
and the function is the same pieces with the name between them. It begins with its verb and the
name. Whatever the table, the tag template and the catalog are: if the type has this name, then the
model with functions is the one without, but for the functions behind its source text, with a blank
line before each and one at the end. -/
theorem withCruds_appends (typeName : Text) :
    ∃ create get list update delete : Text,
      Crud.functions? typeName = some [create, get, list, update, delete] ∧
      (∀ operation function, (operation, function) ∈
          [(.create, create), (.get, get), (.list, list), (.update, update), (.delete, delete)] →
        "func ".toList ++ Crud.verb operation ++ typeName ++ ['('] <+: function ∧
        ∃ pieces, operation.templateText = Text.join gapText pieces ∧
          (∀ piece ∈ pieces, ¬ gapText <:+: piece) ∧ function = Text.join typeName pieces) ∧
      ∀ tagTemplate catalog table,
        let plain := (Generator.model ⟨⟨tagTemplate, false⟩, catalog⟩ table).value
        let full := (Generator.model ⟨⟨tagTemplate, true⟩, catalog⟩ table).value
        full.typeName = plain.typeName ∧ full.tableName = plain.tableName ∧
        full.fields = plain.fields ∧
        (plain.typeName = typeName →
          full.source = plain.source ++ ("\n".toList ++ create ++ "\n\n".toList ++ get ++
            "\n\n".toList ++ list ++ "\n\n".toList ++ update ++ "\n\n".toList ++ delete ++
            "\n\n".toList)) := by
  have hfunctions : Crud.functions typeName =
      [Crud.function .create typeName, Crud.function .get typeName, Crud.function .list typeName,
        Crud.function .update typeName, Crud.function .delete typeName] :=
    Crud.functions_eq_map typeName
  refine ⟨Crud.function .create typeName, Crud.function .get typeName, Crud.function .list typeName,
    Crud.function .update typeName, Crud.function .delete typeName, ?_,
    fun operation function hmem => ?_, fun tagTemplate catalog table => ?_⟩
  · rw [Crud.functions?_eq, hfunctions]
  · have hall : (operation, function) ∈
        Crud.all.map fun operation => (operation, operation.function typeName) := hmem
    obtain ⟨operation, -, heq⟩ := List.mem_map.mp hall
    obtain ⟨rfl, rfl⟩ := Prod.mk.inj heq
    exact ⟨operation.verb_prefix_function typeName, TemplatePart.pieces operation.template,
      TemplatePart.flatMap_write_eq_join _, operation.gapText_notInfix_pieces,
      (operation.function_eq_flatMap typeName).trans (TemplatePart.flatMap_fill_eq_join typeName _)⟩
  · intro plain full
    have hfull : full = { plain with
        source := plain.source ++ Draft.functionsTail (Crud.functions plain.typeName) } :=
      value_model_withCruds tagTemplate catalog table
    refine ⟨by rw [hfull], by rw [hfull], by rw [hfull], fun hname => ?_⟩
    have htail : Draft.functionsTail (Crud.functions typeName) =
        (Crud.functions typeName).flatMap (fun function => '\n' :: (function ++ ['\n'])) ++
          ['\n'] := if_neg (Crud.functions_ne_nil typeName)
    rw [hfull, hname, htail, hfunctions]
    simp

/-- Two tables with one type name between them, in different spellings, with different columns, tag
templates and catalogs: the same functions are appended to both. -/
theorem withCruds_appends_users :
    let model (withCruds : Bool) := (Generator.model ⟨⟨"%s".toList, withCruds⟩, .empty⟩
      ⟨"users".toList, [⟨"id".toList, "int".toList, false, true, none⟩]⟩).value
    let other (withCruds : Bool) := (Generator.model ⟨⟨[], withCruds⟩,
      Catalog.empty.insert "int".toList ⟨"int".toList, "int".toList⟩⟩
      ⟨"\x60USERS\x60".toList, []⟩).value
    (model false).typeName = "Users".toList ∧ (other false).typeName = "Users".toList ∧
    ∃ create rest, "func CreateUsers(".toList <+: create ∧
      (model true).source = (model false).source ++ ("\n".toList ++ create ++ rest) ∧
      (other true).source = (other false).source ++ ("\n".toList ++ create ++ rest) := by
  intro model other
  have hmodel : (model false).typeName = "Users".toList := by decide +kernel
  have hother : (other false).typeName = "Users".toList := by decide +kernel
  obtain ⟨create, get, list, update, delete, -, hfunctions, hsource⟩ :=
    withCruds_appends "Users".toList
  obtain ⟨hcreate, -⟩ := hfunctions .create create List.mem_cons_self
  obtain ⟨-, -, -, hfull⟩ := hsource "%s".toList .empty
    ⟨"users".toList, [⟨"id".toList, "int".toList, false, true, none⟩]⟩
  obtain ⟨-, -, -, hfull'⟩ := hsource []
    (Catalog.empty.insert "int".toList ⟨"int".toList, "int".toList⟩) ⟨"\x60USERS\x60".toList, []⟩
  refine ⟨hmodel, hother, create, "\n\n".toList ++ get ++ "\n\n".toList ++ list ++
    "\n\n".toList ++ update ++ "\n\n".toList ++ delete ++ "\n\n".toList, hcreate, ?_, ?_⟩
  · simpa only [List.append_assoc] using hfull hmodel
  · simpa only [List.append_assoc] using hfull' hother

end TableModel.Generator
