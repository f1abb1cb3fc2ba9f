import Mathlib.Algebra.Ring.Nat
import Mathlib.Data.List.Basic
import TableModel.Model
import TableModel.Model.Crud

/-!
# Lines and the functions on rows

The lines of a text are the pieces between its line feeds. A template is filled line by line as long
as the name of the type is on one line (`splitOn_flatMap_fillSymbol`), so how many lines a function
on rows has, and which of them begin a function, is read off its template. Only its first line does
(`Crud.functionLines_function`).
-/

namespace TableModel

/-! ### Lines -/

def beginsFunction (line : Text) : Bool := "func ".toList.isPrefixOf line

/-- How many lines of a text begin a function. A text has a line more than it has line feeds, and
the last one may be empty. -/
def functionLines (t : Text) : Nat := (t.splitOn '\n').countP beginsFunction

@[simp] theorem functionLines_nil : functionLines [] = 0 := rfl

theorem functionLines_append_lineFeed (t u : Text) :
    functionLines (t ++ '\n' :: u) = functionLines t + functionLines u := by
  rw [functionLines, List.splitOn_append_cons_self, List.countP_append]
  rfl

theorem functionLines_of_notMem {t : Text} (h : '\n' ∉ t) :
    functionLines t = if beginsFunction t then 1 else 0 := by
  rw [functionLines, List.splitOn_eq_singleton h, List.countP_singleton]

theorem lineFeed_notMem_append {a b c : Text} (ha : '\n' ∉ a) (hb : '\n' ∉ b) (hc : '\n' ∉ c) :
    '\n' ∉ a ++ b ++ c := by
  rw [List.mem_append, List.mem_append, not_or, not_or]
  exact ⟨⟨ha, hb⟩, hc⟩

theorem splitOn_append_of_notMem {t : Text} (h : '\n' ∉ t) (u : Text) :
    (t ++ u).splitOn '\n' = (u.splitOn '\n').modifyHead (t ++ ·) := by
  obtain ⟨line, more, hu⟩ := List.exists_cons_of_ne_nil (List.splitOn_ne_nil '\n' u)
  induction t with
  | nil => rw [List.nil_append, hu]; rfl
  | cons c rest ih =>
    rw [List.mem_cons, not_or] at h
    have hc : (c == '\n') = false := beq_eq_false_iff_ne.mpr (Ne.symm h.1)
    rw [List.cons_append, List.splitOn_cons_eq_if_modifyHead, hc, ih h.2, hu]
    rfl

/-! ### Templates, line by line -/

/-- What a character of a template becomes, where `none` is the gap. -/
def fillSymbol (typeName : Text) : Option Char → Text
  | some c => [c]
  | none => typeName

theorem count_flatMap_fillSymbol {typeName : Text} (h : '\n' ∉ typeName)
    (symbols : List (Option Char)) :
    (symbols.flatMap (fillSymbol typeName)).count '\n' = symbols.count (some '\n') := by
  induction symbols with
  | nil => rfl
  | cons symbol rest ih =>
    rw [List.flatMap_cons, List.count_append, ih, List.count_cons, Nat.add_comm]
    cases symbol with
    | none => simp [fillSymbol, List.count_eq_zero_of_not_mem h]
    | some c => simp [fillSymbol, List.count_cons]

/-- A template is filled line by line: what stands in its gaps is one line, so the lines of the
filled template are its own lines, each of them filled. -/
theorem splitOn_flatMap_fillSymbol {typeName : Text} (h : '\n' ∉ typeName)
    (symbols : List (Option Char)) :
    (symbols.flatMap (fillSymbol typeName)).splitOn '\n' =
      (symbols.splitOn (some '\n')).map fun line => line.flatMap (fillSymbol typeName) := by
  induction symbols with
  | nil => rfl
  | cons symbol rest ih =>
    obtain ⟨line, more, hrest⟩ := List.exists_cons_of_ne_nil (List.splitOn_ne_nil (some '\n') rest)
    rw [List.flatMap_cons, List.splitOn_cons_eq_if_modifyHead]
    by_cases hfeed : symbol = some '\n'
    · rw [hfeed, if_pos (beq_self_eq_true _), List.map_cons, ← ih]
      exact List.splitOn_append_cons_self [] _
    · have hfill : '\n' ∉ fillSymbol typeName symbol := by
        cases symbol with
        | none => exact h
        | some c => exact fun hmem => hfeed (congrArg some (List.mem_singleton.mp hmem).symm)
      rw [if_neg (mt eq_of_beq hfeed), splitOn_append_of_notMem hfill, ih, hrest]
      rfl

namespace Crud

def symbols (operation : Crud) : List (Option Char) :=
  operation.template.flatMap fun
    | .text t => t.toList.map some
    | .typeName => [none]

theorem function_eq (operation : Crud) (typeName : Text) :
    operation.function typeName = operation.symbols.flatMap (fillSymbol typeName) := by
  rw [function_eq_flatMap, symbols, List.flatMap_assoc]
  refine List.flatMap_congr fun part _ => ?_
  cases part with
  | text t =>
    change t.toList = (t.toList.map some).flatMap (fillSymbol typeName)
    rw [List.flatMap_map]
    exact (List.flatMap_singleton' _).symm
  | typeName => exact (List.append_nil _).symm

def lineFeeds : Crud → Nat
  | .create | .update | .delete => 2
  | .get | .list => 6

def beginsFunctionSymbols (line : List (Option Char)) : Bool :=
  ("func ".toList.map some).isPrefixOf line

/-- What the lines of a template are like: one of them begins a function, and every other one begins
with a character that no function begins with, so it makes no difference how gaps are filled. -/
theorem lines_symbols (operation : Crud) :
    operation.symbols.count (some '\n') = operation.lineFeeds ∧
      (operation.symbols.splitOn (some '\n')).countP beginsFunctionSymbols = 1 ∧
      (operation.symbols.splitOn (some '\n')).all fun line =>
        beginsFunctionSymbols line || line.head?.any fun symbol => symbol.any (· ≠ 'f') := by
  cases operation <;> decide +kernel

/-- The line feeds of a function are those of its template. -/
theorem count_function (operation : Crud) {typeName : Text} (h : '\n' ∉ typeName) :
    (operation.function typeName).count '\n' = operation.lineFeeds := by
  rw [function_eq, count_flatMap_fillSymbol h, (lines_symbols operation).1]

/-- A line of a function begins a function exactly if it does so in the template. -/
theorem beginsFunction_flatMap_fillSymbol {operation : Crud} {line : List (Option Char)}
    (h : line ∈ operation.symbols.splitOn (some '\n')) (typeName : Text) :
    beginsFunction (line.flatMap (fillSymbol typeName)) = beginsFunctionSymbols line := by
  obtain ⟨-, -, hall⟩ := lines_symbols operation
  rcases Bool.or_eq_true_iff.mp (List.all_eq_true.mp hall line h) with hword | hother
  · obtain ⟨rest, rfl⟩ := List.isPrefixOf_iff_prefix.mp hword
    rw [hword]
    rfl
  · match line, hother with
    | some c :: rest, hother =>
      have hc : ('f' == c) = false :=
        beq_eq_false_iff_ne.mpr (Ne.symm (of_decide_eq_true hother))
      have hsome : (some 'f' == some c) = false := hc
      change ('f' == c && _) = (some 'f' == some c && _)
      rw [hc, hsome]
      rfl

/-- Of the lines of a function on rows only one begins a function. -/
theorem functionLines_function (operation : Crud) {typeName : Text} (h : '\n' ∉ typeName) :
    functionLines (operation.function typeName) = 1 := by
  obtain ⟨-, hone, -⟩ := lines_symbols operation
  rw [functionLines, function_eq, splitOn_flatMap_fillSymbol h, List.countP_map, ← hone]
  exact List.countP_congr fun line hline => by
    rw [Function.comp_apply, beginsFunction_flatMap_fillSymbol hline]

/-- The five functions have 18 line feeds between their lines. -/
theorem sum_count_functions {typeName : Text} (h : '\n' ∉ typeName) :
    ((functions typeName).map (List.count '\n')).sum = 18 := by
  have hcount : (functions typeName).map (List.count '\n') = all.map lineFeeds := by
    rw [functions_eq_map, List.map_map]
    exact List.map_congr_left fun operation _ => count_function operation h
  rw [hcount]
  rfl

/-- Of the lines of the five functions five begin a function. -/
theorem sum_functionLines_functions {typeName : Text} (h : '\n' ∉ typeName) :
    ((functions typeName).map functionLines).sum = 5 := by
  have hlines : (functions typeName).map functionLines = all.map fun _ => 1 := by
    rw [functions_eq_map, List.map_map]
    exact List.map_congr_left fun operation _ => functionLines_function operation h
  rw [hlines]
  rfl

end Crud

end TableModel
