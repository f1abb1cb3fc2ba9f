import Mathlib.Data.List.Basic
import TableModel.Model

/-!
# Drafts, step by step

A model is made in steps, in any order and number: a field is pushed, or functions on rows are
chosen instead of those chosen before. Of the steps no more is left than the fields that they push,
in order, and the functions that were chosen last (`Draft.run_eq`), and the source text is a
function of these and the two names (`Draft.finish_run`).

Each section of the source text ends with a line feed, and one more stands between sections, between
functions and behind the last of them. So functions stand each between two blank lines, whatever
they are, and a source text without functions does not end with a blank line.
-/

namespace TableModel.Draft

/-! ### Steps -/

/-- A step in the making of a model: one more field behind the others, or other functions in the
place of those that were chosen before. -/
inductive Step where
  | push (field : Field)
  | withFunctions (functions : List Text)
  deriving DecidableEq, Repr

namespace Step

def apply (draft : Draft) : Step → Draft
  | push field => draft.push field
  | withFunctions functions => draft.withFunctions functions

def field? : Step → Option Field
  | push field => some field
  | withFunctions _ => none

def functions? : Step → Option (List Text)
  | push _ => none
  | withFunctions functions => some functions

/-- A step adds its field behind the others and replaces all functions by its own. -/
theorem apply_eq (draft : Draft) (step : Step) :
    step.apply draft = { draft with
      fields := draft.fields ++ step.field?.toList
      functions := step.functions?.getD draft.functions } := by
  cases step with
  | push field => rfl
  | withFunctions functions => simp [apply, Draft.withFunctions, field?, functions?]

end Step

/-- The draft behind steps, which follow one another from the given draft. -/
def run (draft : Draft) (steps : List Step) : Draft := steps.foldl Step.apply draft

/-- The fields that steps push, in order. Steps that choose functions are passed over, wherever they
stand. -/
def pushed (steps : List Step) : List Field := steps.filterMap Step.field?

/-- The functions that are chosen last; there are none if none are ever chosen. -/
def lastFunctions (steps : List Step) : List Text :=
  (steps.filterMap Step.functions?).getLast?.getD []

/-- What steps leave: the fields that they push, and the functions that were chosen last. -/
theorem run_eq (draft : Draft) (steps : List Step) :
    draft.run steps = { draft with
      fields := draft.fields ++ pushed steps
      functions := (steps.filterMap Step.functions?).getLast?.getD draft.functions } := by
  induction steps generalizing draft with
  | nil => simp [run, pushed]
  | cons step rest ih =>
    have hstep : draft.run (step :: rest) = (step.apply draft).run rest := rfl
    rw [hstep, ih, Step.apply_eq]
    cases step with
    | push field => simp [pushed, Step.field?, Step.functions?]
    | withFunctions functions =>
      simp [pushed, List.filterMap_cons, Step.field?, Step.functions?, List.getLast?_cons]

theorem run_start (typeName tableName : Text) (steps : List Step) :
    (start typeName tableName).run steps =
      ⟨typeName, tableName, pushed steps, lastFunctions steps⟩ := by
  rw [run_eq]
  rfl

theorem fields_foldl_push (fields : List Field) (draft : Draft) :
    fields.foldl Draft.push draft =
      { draft with fields := draft.fields ++ fields } := by
  have hrun := run_eq draft (fields.map Step.push)
  rw [run, List.foldl_map] at hrun
  simpa [pushed, Step.apply, Step.field?, Step.functions?, Function.comp_def] using hrun

/-! ### The source text -/

/-- The source text: the struct and the method with a blank line between them, and behind another
one the functions, with a blank line after each. -/
theorem source_eq (draft : Draft) :
    draft.source = draft.structText ++ '\n' :: draft.accessorText ++
      if draft.functions = [] then []
      else '\n' :: Text.join ['\n'] (draft.functions.map (· ++ ['\n'])) ++ ['\n'] := by
  by_cases h : draft.functions = [] <;> simp [source, sections, functionsText?, h]

/-- The functions as they stand behind the method: a blank line before each and one at the end. -/
def functionsTail (functions : List Text) : Text :=
  if functions = [] then []
  else functions.flatMap (fun function => '\n' :: (function ++ ['\n'])) ++ ['\n']

theorem join_functions {functions : List Text} (h : functions ≠ []) :
    '\n' :: Text.join ['\n'] (functions.map (· ++ ['\n'])) ++ ['\n'] =
      functions.flatMap (fun function => '\n' :: (function ++ ['\n'])) ++ ['\n'] := by
  induction functions with
  | nil => exact absurd rfl h
  | cons function rest ih =>
    cases rest with
    | nil => simp
    | cons next more =>
      have hrest := ih (List.cons_ne_nil next more)
      rw [List.flatMap_cons, List.append_assoc, ← hrest]
      simp

/-- The source text: the struct, a blank line, the method and what stands behind it. -/
theorem source_eq_append (draft : Draft) :
    draft.source =
      draft.structText ++ '\n' :: (draft.accessorText ++ functionsTail draft.functions) := by
  rw [source_eq, functionsTail, List.append_assoc, List.cons_append]
  split
  · rfl
  · next hfunctions => rw [join_functions hfunctions]

/-- A finished draft is the one without functions, and behind its source text stand the functions. -/
theorem finish_eq_append (typeName tableName : Text) (fields : List Field) (functions : List Text) :
    (Draft.mk typeName tableName fields functions).finish =
      { (Draft.mk typeName tableName fields []).finish with
        source := (Draft.mk typeName tableName fields []).source ++ functionsTail functions } := by
  simp only [finish, source_eq_append, functionsTail, if_true, List.append_nil, List.append_assoc,
    List.cons_append]
  rfl

theorem length_sections (draft : Draft) :
    draft.sections.length = if draft.functions = [] then 2 else 3 := by
  rw [sections, functionsText?]
  cases draft.functions with
  | nil => rfl
  | cons function rest => rfl

theorem lineFeeds_suffix_functionsTail {functions : List Text} (h : functions ≠ []) :
    ['\n', '\n'] <:+ functionsTail functions := by
  obtain ⟨before, last, rfl⟩ := (List.eq_nil_or_concat' functions).resolve_left h
  refine ⟨before.flatMap (fun function => '\n' :: (function ++ ['\n'])) ++ '\n' :: last, ?_⟩
  rw [functionsTail, if_neg h, List.flatMap_append]
  simp

/-- The method does not end with a blank line, but with a brace on a line of its own. -/
theorem lineFeeds_not_suffix_append_accessorText (draft : Draft) (t : Text) :
    ¬ ['\n', '\n'] <:+ t ++ draft.accessorText := by
  have hend : "\"\n\x7d\n".toList = ['"', '\n'] ++ ['\x7d', '\n'] := by decide
  rintro ⟨u, hu⟩
  unfold accessorText at hu
  rw [hend, ← List.append_assoc, ← List.append_assoc] at hu
  exact absurd (List.append_inj_right' hu rfl) (by decide)

/-- The source text ends with a blank line exactly if there are functions. -/
theorem lineFeeds_suffix_source_iff (draft : Draft) :
    ['\n', '\n'] <:+ draft.source ↔ draft.functions ≠ [] := by
  have hshape : draft.source =
      draft.structText ++ ['\n'] ++ draft.accessorText ++ functionsTail draft.functions := by
    rw [source_eq_append]
    simp
  rw [hshape]
  constructor
  · intro hsuffix hnone
    have htail : functionsTail [] = [] := rfl
    rw [hnone, htail, List.append_nil] at hsuffix
    exact draft.lineFeeds_not_suffix_append_accessorText _ hsuffix
  · intro h
    exact (lineFeeds_suffix_functionsTail h).trans (List.suffix_append _ _)

/-- **A model depends on the fields that were pushed and the functions that were chosen last**, in
whatever order and however often that was done. Its source text is the struct with the lines of
these fields, a blank line and the method, two sections; if there are functions, these follow
behind a blank line as a third, with a line feed after each and another between two of them, and
another line feed ends the text. So the text ends with a blank line exactly if there are functions. -/
theorem finish_run (typeName tableName : Text) :
    (∀ steps : List Step,
      let draft := (start typeName tableName).run steps
      let fields := pushed steps
      let functions := lastFunctions steps
      draft.structText = "type ".toList ++ typeName ++ " struct \x7b\n".toList ++
        fields.flatMap Field.line ++ "\x7d\n".toList ∧
      draft.accessorText = (start typeName tableName).accessorText ∧
      draft.source = draft.structText ++ "\n".toList ++ draft.accessorText ++
        (if functions = [] then []
        else "\n".toList ++ Text.join "\n".toList (functions.map (· ++ "\n".toList)) ++
          "\n".toList) ∧
      draft.sections.length = (if functions = [] then 2 else 3) ∧
      (['\n', '\n'] <:+ draft.source ↔ functions ≠ []) ∧
      draft.finish = ⟨typeName, tableName, fields, draft.source⟩) ∧
    ∀ steps steps' : List Step, pushed steps = pushed steps' →
      lastFunctions steps = lastFunctions steps' →
      ((start typeName tableName).run steps).finish =
        ((start typeName tableName).run steps').finish := by
  refine ⟨fun steps => ?_, fun steps steps' hpushed hlast => ?_⟩
  · intro draft fields functions
    have hdraft : draft = ⟨typeName, tableName, fields, functions⟩ :=
      run_start typeName tableName steps
    have hfunctions : draft.functions = functions := by rw [hdraft]
    refine ⟨?_, ?_, ?_, ?_, ?_, ?_⟩
    · rw [hdraft]
      rfl
    · rw [hdraft]
      rfl
    · rw [source_eq, hfunctions, List.append_assoc _ "\n".toList]
      rfl
    · rw [length_sections, hfunctions]
    · rw [lineFeeds_suffix_source_iff, hfunctions]
    · rw [finish, hdraft]
  · rw [run_start, run_start, hpushed, hlast]

/-- Functions that are chosen between two fields, replaced by others, one of them empty and one with
a line feed at its end, and dropped in the end. -/
theorem finish_run_replaced :
    let field (name : String) : Field := ⟨name.toList, "int".toList, [], []⟩
    let between : List Step := [.withFunctions ["f".toList], .push (field "A"),
      .withFunctions [[], "g\n".toList], .push (field "B")]
    let first : List Step :=
      [.push (field "A"), .push (field "B"), .withFunctions [[], "g\n".toList]]
    pushed between = pushed first ∧ lastFunctions between = lastFunctions first ∧
      ((start "T".toList "t".toList).run between).finish =
        ((start "T".toList "t".toList).run first).finish ∧
      ((start "T".toList "t".toList).run between).source =
        "type T struct \x7b\n\tA\tint\n\tB\tint\n\x7d\n".toList ++
          "\nfunc (m *T) TableName() string \x7b\n\treturn \"t\"\n\x7d\n".toList ++
          "\n\n\ng\n\n\n".toList ∧
      ¬ ['\n', '\n'] <:+
        ((start "T".toList "t".toList).run (between ++ [.withFunctions []])).source := by
  intro field between first
  obtain ⟨hsteps, hfinish⟩ := finish_run "T".toList "t".toList
  have hpushed : pushed between = pushed first := by decide
  have hlast : lastFunctions between = lastFunctions first := by decide
  obtain ⟨hstruct, haccessor, hsource, -⟩ := hsteps between
  obtain ⟨-, -, -, -, hend, -⟩ := hsteps (between ++ [.withFunctions []])
  refine ⟨hpushed, hlast, hfinish between first hpushed hlast, ?_, fun h => hend.mp h (by decide)⟩
  rw [hsource, hstruct, haccessor]
  decide

end TableModel.Draft
