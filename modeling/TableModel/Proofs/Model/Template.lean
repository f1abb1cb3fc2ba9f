import TableModel.Model.Crud

/-!
# Templates in pieces

A template is its pieces, the texts before, between and behind its gaps, with gaps between them
(`TemplatePart.flatMap_write_eq_join`), and what comes of filling it is the same pieces with the value
between them (`TemplatePart.flatMap_fill_eq_join`). No piece of the templates for the functions on
rows has a gap in it, and the first gap of each stands behind the verb
(`Crud.verb_prefix_function`).
-/

namespace TableModel

namespace TemplatePart

/-- The pieces of a template: the texts before, between and behind its gaps. -/
def pieces : List TemplatePart → List Text
  | [] => [[]]
  | .text t :: rest => (pieces rest).modifyHead (t.toList ++ ·)
  | .typeName :: rest => [] :: pieces rest

theorem exists_pieces_eq_cons (parts : List TemplatePart) :
    ∃ piece more, pieces parts = piece :: more := by
  induction parts with
  | nil => exact ⟨_, _, rfl⟩
  | cons part rest ih =>
    obtain ⟨piece, more, hrest⟩ := ih
    cases part with
    | text t => exact ⟨_, _, by rw [pieces, hrest, List.modifyHead_cons]⟩
    | typeName => exact ⟨_, _, rfl⟩

/-- A template with a value in its gaps is its pieces with the value between them. -/
theorem flatMap_fill_eq_join (value : Text) (parts : List TemplatePart) :
    parts.flatMap (fill value) = Text.join value (pieces parts) := by
  induction parts with
  | nil => rfl
  | cons part rest ih =>
    obtain ⟨piece, more, hrest⟩ := exists_pieces_eq_cons rest
    rw [List.flatMap_cons, ih]
    cases part with
    | text t =>
      rw [pieces, hrest, List.modifyHead_cons]
      -- What stands in front of the first piece stands in front of all of them.
      cases more with
      | nil => rfl
      | cons next more => simp only [fill, Text.join_cons_cons, List.append_assoc]
    | typeName =>
      rw [pieces, hrest]
      rfl

/-- A template as it is written is its pieces with gaps between them. -/
theorem flatMap_write_eq_join (parts : List TemplatePart) :
    parts.flatMap write = Text.join gapText (pieces parts) := by
  have hwrite : write = fill gapText := by
    funext part
    cases part <;> rfl
  rw [hwrite, flatMap_fill_eq_join]

end TemplatePart

namespace Crud

theorem gapText_notInfix_pieces (operation : Crud) :
    ∀ piece ∈ TemplatePart.pieces operation.template, ¬ gapText <:+: piece := by
  cases operation <;> decide +kernel

theorem verb_prefix_function (operation : Crud) (typeName : Text) :
    "func ".toList ++ operation.verb ++ typeName ++ ['('] <+: operation.function typeName := by
  have hfunction {word t : String} {rest : List TemplatePart}
      (htemplate : operation.template = .text word :: .typeName :: .text t :: rest)
      (hword : word.toList = "func ".toList ++ operation.verb)
      (ht : t.toList = '(' :: t.toList.tail) :
      operation.function typeName = "func ".toList ++ operation.verb ++ typeName ++ ['('] ++
        (t.toList.tail ++ rest.flatMap (TemplatePart.fill typeName)) := by
    rw [function_eq_flatMap, htemplate, List.flatMap_cons, List.flatMap_cons, List.flatMap_cons,
      TemplatePart.fill, TemplatePart.fill, TemplatePart.fill, hword, ht]
    simp only [List.append_assoc, List.cons_append, List.nil_append, List.tail_cons]
  cases operation <;> exact ⟨_, (hfunction rfl (by decide) (by decide)).symm⟩

end Crud

end TableModel
