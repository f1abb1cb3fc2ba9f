import TableModel.Text

/-!
# Functions on rows

For each model there can be five functions: one each to create, get, list, update and delete rows.
The text of a function is a template whose only gap is the name of the model's type.

As a text, a template has `{{ model }}` in each gap. `fillTemplate?` reads such a text from the left:
a gap becomes the value, and every other character stands for itself, braces included, unless a brace
opens something that is no gap. Then there is no result. So filling a template may fail, but not for
the templates here: no text between their gaps opens anything, whatever the name of the type is
(`Crud.function?_eq`).
-/

namespace TableModel

/-! ### Filling a template -/

def gapText : Text := "\x7b\x7b model \x7d\x7d".toList

/-- Whether something opens at the front: a gap, or a directive or a comment, which have no place in
a template. A single brace opens nothing, so Go code may have it. -/
def opensTemplate : Text → Bool
  | c :: d :: _ => c = '\x7b' && (d = '\x7b' || d = '%' || d = '#')
  | _ => false

/-- What the text of a template becomes behind some characters that are left out. They are those of
a gap that was filled, behind its first brace. -/
def fillTemplateFrom? (value : Text) : Nat → Text → Option Text
  | _, [] => some []
  | skipped + 1, _ :: rest => fillTemplateFrom? value skipped rest
  | 0, c :: rest =>
    if gapText.isPrefixOf (c :: rest) then
      (fillTemplateFrom? value (gapText.length - 1) rest).map (value ++ ·)
    else if opensTemplate (c :: rest) then none
    else (fillTemplateFrom? value 0 rest).map (c :: ·)

/-- The text of a template with the value in its gaps; `none` if anything opens that is no gap. -/
def fillTemplate? (value t : Text) : Option Text := fillTemplateFrom? value 0 t

/-! ### Texts and gaps -/

/-- Whether nothing opens in a text, nor at its end with what may follow. -/
def isPlainTemplate : Text → Bool
  | [] => true
  | [c] => c ≠ '\x7b'
  | c :: d :: rest => !opensTemplate [c, d] && isPlainTemplate (d :: rest)

theorem fillTemplateFrom?_length (value t rest : Text) :
    fillTemplateFrom? value t.length (t ++ rest) = fillTemplate? value rest := by
  induction t with
  | nil => rfl
  | cons c t ih => exact ih

/-- A gap becomes the value. -/
theorem fillTemplate?_gap (value rest : Text) :
    fillTemplate? value (gapText ++ rest) = (fillTemplate? value rest).map (value ++ ·) := by
  obtain ⟨c, t, hgap⟩ : ∃ c t, gapText = c :: t := ⟨_, _, rfl⟩
  have hprefix : gapText.isPrefixOf (c :: (t ++ rest)) = true := by
    rw [List.isPrefixOf_iff_prefix, hgap]
    exact List.prefix_append (c :: t) rest
  have hlength : gapText.length - 1 = t.length := by rw [hgap]; rfl
  rw [hgap, List.cons_append, fillTemplate?, fillTemplateFrom?, if_pos hprefix, hlength,
    fillTemplateFrom?_length]

/-- Where nothing opens, the first character stands for itself. -/
theorem fillTemplate?_cons {c : Char} {rest : Text} (h : opensTemplate (c :: rest) = false)
    (value : Text) :
    fillTemplate? value (c :: rest) = (fillTemplate? value rest).map (c :: ·) := by
  have hgap : ¬ gapText.isPrefixOf (c :: rest) = true := by
    intro hprefix
    obtain ⟨t, ht⟩ := List.isPrefixOf_iff_prefix.mp hprefix
    have hopens : opensTemplate (gapText ++ t) = true := rfl
    rw [ht, h] at hopens
    exact Bool.false_ne_true hopens
  rw [fillTemplate?, fillTemplateFrom?, if_neg hgap, if_neg (by simp [h])]
  rfl

/-- A text in which nothing opens stands for itself. -/
theorem fillTemplate?_append {t : Text} (h : isPlainTemplate t = true) (value rest : Text) :
    fillTemplate? value (t ++ rest) = (fillTemplate? value rest).map (t ++ ·) := by
  induction t with
  | nil => simp
  | cons c t ih =>
    have hplain : isPlainTemplate t = true ∧ opensTemplate (c :: (t ++ rest)) = false := by
      cases t with
      | nil =>
        have hc : c ≠ '\x7b' := by simpa [isPlainTemplate] using h
        cases rest <;> simp [isPlainTemplate, opensTemplate, hc]
      | cons d t =>
        simp only [isPlainTemplate, Bool.and_eq_true, Bool.not_eq_true'] at h
        exact ⟨h.2, h.1⟩
    rw [List.cons_append, fillTemplate?_cons hplain.2, ih hplain.1, Option.map_map]
    rfl

/-! ### Templates in parts -/

/-- A part of a template: text that stands as it is, or the gap for the name of the type. -/
inductive TemplatePart where
  | text (t : String)
  | typeName
  deriving DecidableEq, Repr

namespace TemplatePart

def fill (typeName : Text) : TemplatePart → Text
  | .text t => t.toList
  | .typeName => typeName

def write : TemplatePart → Text
  | .text t => t.toList
  | .typeName => gapText

def isPlain : TemplatePart → Bool
  | .text t => isPlainTemplate t.toList
  | .typeName => true

end TemplatePart

/-- Parts that are written one after another are filled one by one. -/
theorem fillTemplate?_flatMap_write (value : Text) {parts : List TemplatePart}
    (h : ∀ part ∈ parts, part.isPlain = true) :
    fillTemplate? value (parts.flatMap TemplatePart.write) =
      some (parts.flatMap (TemplatePart.fill value)) := by
  induction parts with
  | nil => rfl
  | cons part rest ih =>
    have hrest := ih fun other hmem => h other (List.mem_cons_of_mem part hmem)
    rw [List.flatMap_cons, List.flatMap_cons]
    cases part with
    | text t =>
      have hplain : isPlainTemplate t.toList = true := h (.text t) List.mem_cons_self
      rw [TemplatePart.write, fillTemplate?_append hplain, hrest]
      rfl
    | typeName =>
      rw [TemplatePart.write, fillTemplate?_gap, hrest]
      rfl

/-! ### The functions -/

inductive Crud where
  | create
  | get
  | list
  | update
  | delete
  deriving DecidableEq, Repr

namespace Crud

def all : List Crud := [.create, .get, .list, .update, .delete]

def verb : Crud → Text
  | .create => "Create".toList
  | .get => "Get".toList
  | .list => "List".toList
  | .update => "Update".toList
  | .delete => "Delete".toList

def template : Crud → List TemplatePart
  | .create =>
    [.text "func Create", .typeName, .text "(db *gorm.DB, m *", .typeName,
     .text ") error \x7b\n\treturn db.Create(m).Error\n\x7d"]
  | .get =>
    [.text "func Get", .typeName, .text "(db *gorm.DB, id interface\x7b\x7d) (*", .typeName,
     .text ", error) \x7b\n\tvar m ", .typeName,
     .text "\n\tif err := db.First(&m, id).Error; err != nil \x7b\n",
     .text "\t\treturn nil, err\n\t\x7d\n\treturn &m, nil\n\x7d"]
  | .list =>
    [.text "func List", .typeName, .text "(db *gorm.DB, offset, limit int) ([]*", .typeName,
     .text ", error) \x7b\n\tvar list []*", .typeName,
     .text "\n\tif err := db.Offset(offset).Limit(limit).Find(&list).Error; err != nil \x7b\n",
     .text "\t\treturn nil, err\n\t\x7d\n\treturn list, nil\n\x7d"]
  | .update =>
    [.text "func Update", .typeName, .text "(db *gorm.DB, m *", .typeName,
     .text ") error \x7b\n\treturn db.Save(m).Error\n\x7d"]
  | .delete =>
    [.text "func Delete", .typeName, .text "(db *gorm.DB, id interface\x7b\x7d) error \x7b\n",
     .text "\treturn db.Delete(&", .typeName, .text "\x7b\x7d, id).Error\n\x7d"]

def templateText (operation : Crud) : Text := operation.template.flatMap TemplatePart.write

def function? (operation : Crud) (typeName : Text) : Option Text :=
  fillTemplate? typeName operation.templateText

/-- The functions for the rows of a type, in order. There are none if one of the templates cannot be
filled, whichever it is. -/
def functions? (typeName : Text) : Option (List Text) :=
  all.mapM fun operation => operation.function? typeName

theorem isPlain_of_mem_template {operation : Crud} {part : TemplatePart}
    (h : part ∈ operation.template) : part.isPlain = true := by
  have hall : operation.template.all TemplatePart.isPlain = true := by
    cases operation <;> decide +kernel
  exact List.all_eq_true.mp hall part h

/-- The template of a function can be filled with any name, and then has it in its gaps. -/
theorem function?_eq (operation : Crud) (typeName : Text) :
    operation.function? typeName =
      some (operation.template.flatMap (TemplatePart.fill typeName)) :=
  fillTemplate?_flatMap_write typeName fun _ h => isPlain_of_mem_template h

theorem functions?_eq_map (typeName : Text) :
    functions? typeName =
      some (all.map fun operation => operation.template.flatMap (TemplatePart.fill typeName)) := by
  simp only [functions?, function?_eq]
  rfl

def function (operation : Crud) (typeName : Text) : Text :=
  (operation.function? typeName).get (Option.isSome_of_eq_some (operation.function?_eq typeName))

/-- The functions for the rows of a type, in order. That they are there is `functions?_eq_map`. -/
def functions (typeName : Text) : List Text :=
  (functions? typeName).get (Option.isSome_of_eq_some (functions?_eq_map typeName))

theorem function_eq_flatMap (operation : Crud) (typeName : Text) :
    operation.function typeName = operation.template.flatMap (TemplatePart.fill typeName) :=
  Option.get_of_eq_some _ (operation.function?_eq typeName)

theorem functions_eq_map (typeName : Text) :
    functions typeName = all.map fun operation => operation.function typeName := by
  simp only [function_eq_flatMap]
  exact Option.get_of_eq_some _ (functions?_eq_map typeName)

@[simp]
theorem length_functions (typeName : Text) : (functions typeName).length = 5 := by
  rw [functions_eq_map, List.length_map]
  rfl

theorem functions_ne_nil (typeName : Text) : functions typeName ≠ [] :=
  List.ne_nil_of_length_pos (by simp)

/-- Filling the templates never fails. -/
theorem functions?_eq (typeName : Text) : functions? typeName = some (functions typeName) :=
  (Option.some_get _).symm

end Crud

end TableModel
