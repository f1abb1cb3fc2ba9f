import TableModel.Proofs.Generator.Columns
import TableModel.Proofs.Naming.FieldTag
import TableModel.Proofs.Naming.Unquoting

/-!
# Tags as raw strings

When no template is chosen, a tag is written as a raw string, which begins at a backquote and ends
at the next one. The name of the column is put into it twice, as it is. So the tag is one raw string
exactly if there is no backquote in the clean name (`Generator.isRawString_tag_iff`); with one, the
string that begins with the tag ends inside it. Cleaning a name keeps its backquotes, those around
it apart, so only they do no harm.
-/

namespace TableModel

/-! ### Raw strings -/

/-- Whether a text is one raw string: there is a backquote at either end and none between them. -/
def IsRawString (t : Text) : Prop := ∃ body, '\x60' ∉ body ∧ t = '\x60' :: (body ++ ['\x60'])

theorem isRawString_iff {body : Text} :
    IsRawString ('\x60' :: (body ++ ['\x60'])) ↔ '\x60' ∉ body := by
  constructor
  · rintro ⟨other, hother, heq⟩
    rw [List.cons_inj_right, List.append_left_inj] at heq
    rwa [heq]
  · intro h
    exact ⟨body, h, rfl⟩

/-- The raw string that begins in front of a text and a backquote ends at this backquote exactly if
there is none in the text. -/
theorem exists_rawString (body follow : Text) :
    ∃ contents rest, body ++ '\x60' :: follow = contents ++ '\x60' :: rest ∧ '\x60' ∉ contents ∧
      (rest = follow ↔ '\x60' ∉ body) := by
  by_cases hbody : '\x60' ∈ body
  · obtain ⟨contents, more, rfl, hcontents⟩ := List.eq_append_cons_of_mem hbody
    refine ⟨contents, more ++ '\x60' :: follow, by simp, hcontents, iff_of_false (fun heq => ?_) ?_⟩
    · have hlength := congrArg List.length heq
      rw [List.length_append, List.length_cons] at hlength
      omega
    · exact not_not.mpr hbody
  · exact ⟨body, follow, rfl, hbody, iff_of_true rfl hbody⟩

/-! ### The template when none is chosen -/

/-- What stands between the backquotes of a tag for the name, with the template that is used where
none is chosen. -/
def defaultTagBody (name : Text) : Text :=
  "gorm:\"column:".toList ++ (name ++ ("\" json:\"".toList ++ (name ++ ['"'])))

theorem fillTag_default (name : Text) :
    Naming.fillTag name defaultTagTemplate = '\x60' :: (defaultTagBody name ++ ['\x60']) := by
  have htemplate : defaultTagTemplate = "\x60gorm:\"column:".toList ++
      '%' :: 's' :: ("\" json:\"".toList ++ '%' :: 's' :: "\"\x60".toList) := by decide
  have hstart : "\x60gorm:\"column:".toList = '\x60' :: "gorm:\"column:".toList := by decide
  have hend : "\"\x60".toList = ['"', '\x60'] := by decide
  rw [htemplate, Naming.fillTag_append_placeholder, Naming.fillTag_append_placeholder,
    Naming.fillTag_of_notInfix (by decide), Naming.fillTag_of_notInfix (by decide),
    Naming.fillTag_of_notInfix (by decide), hstart, hend]
  unfold defaultTagBody
  simp only [List.append_assoc, List.cons_append, List.nil_append]

theorem backquote_mem_defaultTagBody_iff {name : Text} :
    '\x60' ∈ defaultTagBody name ↔ '\x60' ∈ name := by
  have hstart : '\x60' ∉ "gorm:\"column:".toList := by decide
  have hmiddle : '\x60' ∉ "\" json:\"".toList := by decide
  have hend : '\x60' ∉ ['"'] := by decide
  unfold defaultTagBody
  simp only [List.mem_append, hstart, hmiddle, hend, false_or, or_false, or_self]

/-- **A tag is one raw string** exactly if there is no backquote in the clean name of its column;
this is about the template when none is chosen. In any case the tag begins and ends with a
backquote. In the line of the field the raw string that begins with the tag ends with it under the
same condition, and otherwise earlier. A backquote is in the clean name exactly if it is in the
name, those around it apart. -/
theorem Generator.isRawString_tag_iff (generator : Generator)
    (htemplate : generator.options.tagTemplate = defaultTagTemplate) (column : Column) :
    let field := (generator.field column).value
    (∃ body, field.tag = '\x60' :: (body ++ ['\x60'])) ∧
    (IsRawString field.tag ↔ '\x60' ∉ cleanName column.name) ∧
    (∃ contents rest,
      field.line = '\t' :: field.name ++ '\t' :: field.type ++
        '\t' :: '\x60' :: (contents ++ '\x60' :: rest) ∧
      '\x60' ∉ contents ∧
      (rest = field.comment ++ ['\n'] ↔ '\x60' ∉ cleanName column.name)) ∧
    (∀ (quotes : NameQuotes) (body : Text),
      Text.trim column.name = quotes.opening :: (body ++ [quotes.closing]) →
        ('\x60' ∈ cleanName column.name ↔ '\x60' ∈ body)) ∧
    ((∀ quotes : NameQuotes, ¬ quotes.Enclose (Text.trim column.name)) →
      ('\x60' ∈ cleanName column.name ↔ '\x60' ∈ column.name)) := by
  intro field
  have htag : field.tag = '\x60' :: (defaultTagBody (cleanName column.name) ++ ['\x60']) := by
    rw [tag_field, htemplate, fillTag_default]
  have hbackquote : Text.isBlank '\x60' = false := by decide
  refine ⟨⟨_, htag⟩, ?_, ?_, fun quotes body h => mem_cleanName_of_enclosed hbackquote h,
    fun h => mem_cleanName_of_not_enclosed hbackquote h⟩
  · rw [htag, isRawString_iff, backquote_mem_defaultTagBody_iff]
  · obtain ⟨contents, rest, heq, hcontents, hrest⟩ :=
      exists_rawString (defaultTagBody (cleanName column.name)) (field.comment ++ ['\n'])
    refine ⟨contents, rest, ?_, hcontents, by rw [hrest, backquote_mem_defaultTagBody_iff]⟩
    rw [← heq, Field.line, htag]
    simp only [List.isEmpty_cons, Bool.false_eq_true, if_false, List.append_assoc,
      List.cons_append, List.nil_append]

/-- A column whose name has a backquote in it. -/
theorem Generator.isRawString_tag_iff_backquote :
    let generator : Generator := ⟨⟨defaultTagTemplate, false⟩, .empty⟩
    let column : Column := ⟨"\x60a\x60\x60b\x60".toList, "INT".toList, false, true, none⟩
    generator.options.tagTemplate = defaultTagTemplate ∧
      (generator.field column).value.tag =
        "\x60gorm:\"column:a\x60b\" json:\"a\x60b\"\x60".toList ∧
      ¬ IsRawString (generator.field column).value.tag := by
  intro generator column
  obtain ⟨-, hraw, -⟩ := generator.isRawString_tag_iff rfl column
  refine ⟨rfl, ?_, fun h => hraw.mp h (by decide)⟩
  rw [tag_field]
  decide

end TableModel
