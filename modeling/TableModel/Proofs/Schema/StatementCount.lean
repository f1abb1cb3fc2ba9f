import TableModel.Proofs.Generator.Events
import TableModel.Proofs.Schema.Declared

/-!
# How many statements a text has

A table is read of a text of one statement. A script of declared tables (`Ddl.Script`), which every
list of declarations with separators is (`Ddl.Script.exists_of_separated`), has exactly as many
statements as tables, however many semicolons, blanks and comments stand around them and whatever
stands in names, strings and comments. So a script without a table is refused as empty, a script of
several tables is refused with their number, and a script of one table is read as its bare
declaration is (`Table.ofSql_script`). A script that is refused reports no event.
-/

namespace TableModel

open Ddl

/-- What the text of a script is read as, by its tables. -/
theorem Table.ofSql_text_script (script : Script) :
    Table.ofSql script.text =
      match script.tables with
      | [] => .error .empty
      | [table] => .ok ⟨table.table, [.readTable table.table.name table.table.columns.length]⟩
      | tables => .error (.several tables.length) := by
  obtain ⟨declarations, hread, hreads⟩ := script.read_text
  rw [Table.ofSql, hread]
  generalize script.tables = tables at hreads
  cases hreads with
  | nil => rfl
  | cons htable hmore =>
    cases hmore with
    | nil => simp only [List.map_cons, List.map_nil, htable.ofDeclaration_eq]
    | cons _ hmore =>
      simp only [List.map_cons, List.length_cons, List.length_map, hmore.length_eq]

/-- What is read of a text in which there are just these tables: the text is empty, or it is read as
the bare declaration is, or it is refused with the number of its statements. What is refused reports
nothing. -/
structure Table.ReadsByCount (text : Text) (tables : List DeclaredTable) : Prop where
  empty (h : tables = []) : Table.ofSql text = .error .empty
  bare (table : DeclaredTable) (h : tables = [table]) :
    Table.ofSql text = Table.ofSql table.text ∧
      Table.ofSql table.text =
        .ok ⟨table.table, [.readTable table.table.name table.table.columns.length]⟩
  several (h : 2 ≤ tables.length) : Table.ofSql text = .error (.several tables.length)
  silent (h : tables.length ≠ 1) : (Table.readSql text).run.events = []

theorem Table.readsByCount_text (script : Script) :
    Table.ReadsByCount script.text script.tables := by
  have hread := Table.ofSql_text_script script
  have hrun := Table.run_readSql script.text
  rw [hread] at hrun
  cases htables : script.tables with
  | nil =>
    rw [htables] at hread hrun
    exact ⟨fun _ => hread, by simp, by simp, fun _ => by rw [hrun]⟩
  | cons table more =>
    cases more with
    | nil =>
      rw [htables] at hread hrun
      refine ⟨by simp, fun other heq => ?_, by simp, by simp⟩
      obtain rfl : table = other := by simpa using heq
      exact ⟨hread.trans (Table.ofSql_text table).symm, Table.ofSql_text table⟩
    | cons next more =>
      rw [htables] at hread hrun
      exact ⟨by simp, by simp, fun _ => hread, fun _ => by rw [hrun]⟩

/-- **The statements of a script are counted exactly.** A script without a table is empty, a script
of one table is read as the bare declaration of it is, and a script of several tables is refused with
their number. What is refused reports nothing. Among the scripts are all declarations that are written
one after another with separators in front of them, between them and behind them, and at least one
semicolon among those between two. A separator is a semicolon, a comment, or a blank, which is one of
the six ASCII characters that stand between tokens (`mem_of_isGap`). -/
theorem Table.ofSql_script :
    (∀ script : Script, Table.ReadsByCount script.text script.tables) ∧
    ∀ (front : List Piece) (parts : Parts), (∀ piece ∈ front, piece.isSeparator = true) →
      parts.Separated →
      Table.ReadsByCount (front.flatMap Piece.text ++ parts.text) (parts.map Prod.fst) := by
  refine ⟨Table.readsByCount_text, fun front parts hfront hparts => ?_⟩
  obtain ⟨script, htext, htables⟩ := Script.exists_of_separated hfront hparts
  rw [← htext, ← htables]
  exact Table.readsByCount_text script

/-- Scripts of no table, of one table and of two tables, with semicolons and the beginning of a
comment in names. -/
theorem Table.ofSql_script_semicolons :
    let table (name column : Text) : DeclaredTable :=
      ⟨none, name, [.column ⟨column, .integer .int ⟨"INT".toList, by decide⟩ none false, []⟩],
        by simp⟩
    Table.ofSql "; /*;*/".toList = .error .empty ∧
      Table.ofSql ";;CREATE/**/TABLE\x60a;'\x60\n(\x60/*\x60INT);".toList =
        Table.ofSql (table "a;'".toList "/*".toList).text ∧
      Table.ofSql (table "a;'".toList "/*".toList).text =
        .ok ⟨⟨"\x60a;'\x60".toList, [⟨"\x60/*\x60".toList, "INT".toList, false, false, none⟩]⟩,
          [.readTable "\x60a;'\x60".toList 1]⟩ ∧
      Table.ofSql ("CREATE TABLE \x60a);(\x60 (\x60c\x60 INT);\t/*;*/;" ++
        "CREATE TABLE \x60b\x60 (\x60c\x60 INT)").toList = .error (.several 2) ∧
      (Table.readSql ("CREATE TABLE \x60a);(\x60 (\x60c\x60 INT);\t/*;*/;" ++
        "CREATE TABLE \x60b\x60 (\x60c\x60 INT)").toList).run.events = [] := by
  intro table
  let semicolon : Piece := .mark ';' (by decide)
  let space : Piece := .blank ' ' (by decide)
  let comment : Piece := .comment ";".toList (by decide)
  let create : Piece := .word "CREATE".toList (by decide)
  let ofTable : Piece := .word "TABLE".toList (by decide)
  let columns (name : Text) (gap : List Piece) : List Piece :=
    [.mark '(' (by decide), .name name] ++ gap ++
      [.word "INT".toList (by decide), .mark ')' (by decide)]
  let empty : Script := ⟨[semicolon, space, comment], by decide, [], by decide⟩
  let one : Script :=
    ⟨[semicolon, semicolon, create, .comment [] (by decide), ofTable, .name "a;'".toList,
        .blank '\n' (by decide)] ++ columns "/*".toList [] ++ [semicolon],
      by decide, [table "a;'".toList "/*".toList], by decide⟩
  let parts : Parts :=
    [(table "a);(".toList "c".toList, [semicolon, .blank '\t' (by decide), comment, semicolon]),
      (table "b".toList "c".toList, [])]
  have hparts : parts.Separated :=
    .cons (by decide) (.inr (by decide)) (.cons (by decide) (.inl rfl) .nil)
  obtain ⟨hscript, hlayout⟩ := Table.ofSql_script
  have hseveral := hlayout [] parts (List.forall_mem_nil _) hparts
  obtain ⟨hbare, hread⟩ := (hscript one).bare _ rfl
  exact ⟨(hscript empty).empty rfl, hbare, hread, hseveral.several (by decide),
    hseveral.silent (by decide)⟩

end TableModel
