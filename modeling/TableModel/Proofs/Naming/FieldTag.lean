import Mathlib.Data.List.Infix
import TableModel.Naming

/-!
# Placeholders in templates

A placeholder is two different characters, so two of them never overlap, and what stands in front
of one does not matter to it: filling a template is filling the parts on either side of a
placeholder (`fillTag_append_placeholder`). Where there is none, nothing changes
(`fillTag_of_notInfix`).

So a template is pieces without a placeholder and the placeholders between them (`exists_pieces`),
and a tag is the same pieces with the name between them. Nothing is asked of the name: it may be
part of a placeholder or complete one with its neighbours (`fillTag_replaces_placeholders`).
-/

namespace TableModel.Naming

/-- A placeholder becomes the name, and the template is filled on either side of it. -/
theorem fillTag_append_placeholder (name a b : Text) :
    fillTag name (a ++ '%' :: 's' :: b) = fillTag name a ++ (name ++ fillTag name b) := by
  have hplaceholder : fillTag name ('%' :: 's' :: b) = name ++ fillTag name b := by
    simp [fillTag]
  fun_induction fillTag name a with
  | case1 => exact hplaceholder
  | case2 c =>
    -- The percent sign behind the last character of `a` makes no placeholder with it.
    rw [List.singleton_append, fillTag, if_neg (by simp), hplaceholder]
    rfl
  | case3 c d rest hpair ih =>
    rw [List.cons_append, List.cons_append, fillTag, if_pos hpair, ih, List.append_assoc]
  | case4 c d rest hpair ih =>
    rw [List.cons_append, List.cons_append, fillTag, if_neg hpair, ← List.cons_append, ih]
    rfl

/-- A template without a placeholder is left alone. -/
theorem fillTag_of_notInfix {template : Text} (h : ¬ ['%', 's'] <:+: template) (name : Text) :
    fillTag name template = template := by
  fun_induction fillTag name template with
  | case1 => rfl
  | case2 c => rfl
  | case3 c d rest hpair ih =>
    simp only [Bool.and_eq_true, decide_eq_true_eq] at hpair
    obtain ⟨rfl, rfl⟩ := hpair
    exact absurd ⟨[], rest, rfl⟩ h
  | case4 c d rest hpair ih => rw [ih fun hrest => h (List.infix_cons hrest)]

/-! ### Templates in pieces -/

/-- Pieces without a placeholder are kept, and the placeholders between them become names. -/
theorem fillTag_join (name : Text) {pieces : List Text}
    (h : ∀ piece ∈ pieces, ¬ "%s".toList <:+: piece) :
    fillTag name (Text.join "%s".toList pieces) = Text.join name pieces := by
  induction pieces with
  | nil => rfl
  | cons piece rest ih =>
    obtain ⟨hpiece, hrest⟩ := List.forall_mem_cons.mp h
    cases rest with
    | nil => exact fillTag_of_notInfix hpiece name
    | cons next more =>
      calc fillTag name (Text.join "%s".toList (piece :: next :: more))
          = fillTag name (piece ++ '%' :: 's' :: Text.join "%s".toList (next :: more)) := by
            rw [Text.join_cons_cons, List.append_assoc]
            rfl
        _ = fillTag name piece ++ (name ++ fillTag name (Text.join "%s".toList (next :: more))) :=
            fillTag_append_placeholder name piece _
        _ = Text.join name (piece :: next :: more) := by
            rw [fillTag_of_notInfix hpiece, ih hrest, Text.join_cons_cons, List.append_assoc]

theorem exists_pieces (template : Text) :
    ∃ pieces, pieces ≠ [] ∧ template = Text.join "%s".toList pieces ∧
      ∀ piece ∈ pieces, ¬ "%s".toList <:+: piece := by
  by_cases h : "%s".toList <:+: template
  · obtain ⟨front, back, htemplate⟩ := h
    have hshorter : front.length < template.length ∧ back.length < template.length := by
      have hplaceholder : "%s".toList.length = 2 := rfl
      rw [← htemplate, List.length_append, List.length_append, hplaceholder]
      omega
    obtain ⟨before, hbefore, hfront, hnone⟩ := exists_pieces front
    obtain ⟨after, hafter, hback, hnone'⟩ := exists_pieces back
    refine ⟨before ++ after, List.append_ne_nil_of_left_ne_nil hbefore after, ?_,
      List.forall_mem_append.mpr ⟨hnone, hnone'⟩⟩
    rw [Text.join_append _ hbefore hafter, ← hfront, ← hback, htemplate]
  · exact ⟨[template], List.cons_ne_nil _ _, rfl, List.forall_mem_singleton.mpr h⟩
termination_by template.length
decreasing_by
  · exact hshorter.1
  · exact hshorter.2

/-- **Filling a template replaces its placeholders**, all of them and nothing else. A template is
filled on either side of a placeholder separately, wherever it is divided, and the name is put
between; without a placeholder it is left alone. So a template is pieces that have no placeholder,
with placeholders between them, and for every name the tag is these pieces with the name between
them: what is put in is not read again. -/
theorem fillTag_replaces_placeholders :
    (∀ name a b : Text,
      fillTag name (a ++ "%s".toList ++ b) = fillTag name a ++ name ++ fillTag name b) ∧
    (∀ name template : Text, ¬ "%s".toList <:+: template → fillTag name template = template) ∧
    ∀ template : Text, ∃ pieces, pieces ≠ [] ∧ template = Text.join "%s".toList pieces ∧
      (∀ piece ∈ pieces, ¬ "%s".toList <:+: piece) ∧
      ∀ name, fillTag name template = Text.join name pieces := by
  refine ⟨fun name a b => ?_, fun name template h => fillTag_of_notInfix h name,
    fun template => ?_⟩
  · rw [List.append_assoc, List.append_assoc]
    exact fillTag_append_placeholder name a b
  · obtain ⟨pieces, hne, htemplate, hnone⟩ := exists_pieces template
    refine ⟨pieces, hne, htemplate, hnone, fun name => ?_⟩
    rw [htemplate, fillTag_join name hnone]

/-- A name that completes a placeholder with the `s` behind it, and a template with a percent sign
in front of a placeholder. -/
theorem fillTag_replaces_placeholders_percent :
    ¬ "%s".toList <:+: "s%".toList ∧
      fillTag "%".toList "%ss%%s".toList = "%s%%".toList := by
  obtain ⟨hsplit, hnone, -⟩ := fillTag_replaces_placeholders
  have hplain : ¬ "%s".toList <:+: "s%".toList := by decide
  have hfirst : fillTag "%".toList "%ss%%s".toList = "%".toList ++ fillTag "%".toList "s%%s".toList :=
    hsplit "%".toList [] "s%%s".toList
  have hsecond : fillTag "%".toList "s%%s".toList = fillTag "%".toList "s%".toList ++ "%".toList :=
    (hsplit "%".toList "s%".toList []).trans (List.append_nil _)
  refine ⟨hplain, ?_⟩
  rw [hfirst, hsecond, hnone "%".toList "s%".toList hplain]
  rfl

end TableModel.Naming
