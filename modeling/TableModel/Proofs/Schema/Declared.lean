import Mathlib.Data.List.Forall2
import TableModel.Proofs.Ddl.Script
import TableModel.Proofs.Schema.TypeName
import TableModel.Schema.Reader

/-!
# What is read of a declared table

The text of any declaration is read as a table, with one column for each declared column, in order
(`Table.ofSql_text`). What a column then says is what was declared, as long as its name has no
backquote and its type lists no members (`Table.ofSql_text_of_plain`). For a type that lists
members, `Table.ofSql_enumeration_iff` has the exact condition under which its name and sign
survive.
-/

namespace TableModel

namespace Ddl

def DeclaredType.word : DeclaredType → Text
  | .integer type .. => type.word
  | .varchar _ => "VARCHAR"
  | .decimal .. => "DECIMAL"
  | .dateTime => "DATETIME"
  | .enumeration kind .. => kind.word

def DeclaredType.isUnsigned : DeclaredType → Bool
  | .integer _ _ _ unsigned => unsigned
  | .varchar _ | .decimal .. | .dateTime | .enumeration .. => false

/-- The members that a type lists. Types that list none are read back whatever else they say; those
that do are the subject of `Table.ofSql_enumeration_iff`. -/
def DeclaredType.members : DeclaredType → List Text
  | .enumeration _ members _ => members
  | .integer .. | .varchar _ | .decimal .. | .dateTime => []

def DeclaredOption.comment? : DeclaredOption → Option Text
  | .comment contents => some contents
  | .notNull | .primaryKey | .unique | .autoIncrement => none

/-- What a column says, of several comments the last one. Of the options only `NOT NULL` and the
comments leave a trace. -/
def DeclaredColumn.column (column : DeclaredColumn) : Column where
  name := '\x60' :: (column.name ++ ['\x60'])
  type := column.type.word
  isUnsigned := column.type.isUnsigned
  isNotNull := decide (.notNull ∈ column.options)
  comment := (column.options.filterMap DeclaredOption.comment?).getLast?

/-- What is read of a table: its name as it is written in backquotes, and a column for each declared
one. -/
def DeclaredTable.table (table : DeclaredTable) : Table where
  name := Quote.backquote.write table.name
  columns := table.columns.map fun column => Column.ofDefinition column.definition

end Ddl

open Ddl

/-- The table that a declaration describes, if it is what is read of a declared table. -/
theorem Ddl.DeclaredTable.IsReadAs.ofDeclaration_eq {table : DeclaredTable}
    {declaration : TableDeclaration} (h : table.IsReadAs declaration) :
    Table.ofDeclaration declaration = table.table := by
  obtain ⟨hname, hcolumns⟩ := h
  rw [Table.ofDeclaration, hname, hcolumns, List.map_map]
  rfl

/-- **Reading the text of a declaration** gives a table with the declared columns in order. -/
theorem Table.ofSql_text (table : DeclaredTable) :
    Table.ofSql table.text =
      .ok ⟨table.table, [.readTable table.table.name table.table.columns.length]⟩ := by
  obtain ⟨declaration, hread, htable⟩ := Statement.read_text table
  rw [Table.ofSql, hread]
  simp only [htable.ofDeclaration_eq]

/-! ### Columns of plain types -/

theorem write_backquote_of_notMem {name : Text} (h : '\x60' ∉ name) :
    Quote.backquote.write name = '\x60' :: (name ++ ['\x60']) := by
  rw [Quote.write, Quote.char, doubleQuotes_of_notMem h]

/-- The options of a column are read for `NOT NULL` and for comments. -/
theorem ofDefinition_options (column : DeclaredColumn) :
    (Column.ofDefinition column.definition).isNotNull = decide (.notNull ∈ column.options) ∧
      (Column.ofDefinition column.definition).comment =
        (column.options.filterMap DeclaredOption.comment?).getLast? := by
  have hoptions : column.definition.options.map (·.2) =
      column.options.map DeclaredOption.option := by
    rw [DeclaredColumn.definition, List.map_map]
    rfl
  constructor
  · have hone : ∀ option : DeclaredOption,
        option.option.isNotNull = decide (option = .notNull) := by
      intro option
      cases option <;> rfl
    simp only [Column.ofDefinition, hoptions, List.any_map, Function.comp_def, hone]
    rw [Bool.eq_iff_iff]
    simp
  · have hone : ColumnOption.comment? ∘ DeclaredOption.option = DeclaredOption.comment? := by
      funext option
      cases option <;> rfl
    simp only [Column.ofDefinition, hoptions, List.filterMap_map, hone]

theorem outside_numbers {word numbers : Text} (hword : '(' ∉ word)
    (hnumbers : ∀ c ∈ numbers, c.isDigit = true ∨ c = ',') (u : Text) :
    TypeName.outside 0 false (word ++ (inParentheses numbers ++ u)) =
      word ++ ' ' :: TypeName.outside 0 false u := by
  rw [TypeName.outside_append hword, TypeName.outside_inParentheses]
  intro c hc
  rcases hnumbers c hc with hdigit | rfl
  · refine ⟨?_, ?_, ?_⟩ <;> rintro rfl <;> exact absurd hdigit (by decide)
  · decide

/-- The name and the sign of a type that lists no members are those declared. -/
theorem ofText_written {type : DeclaredType} (h : type.members = []) :
    TypeName.ofText type.written = ⟨type.word, type.isUnsigned⟩ := by
  cases type with
  | integer type spelling width unsigned =>
    have hword : '(' ∉ type.word.toList := by cases type <;> decide
    -- Once the number is gone, the words are those of one of a few fixed texts.
    cases width with
    | none => cases type <;> cases unsigned <;> rfl
    | some n =>
      have houtside := outside_numbers hword (fun c hc => Or.inl (isDigit_ofNat n.toNat c hc))
        (wordsIf unsigned " UNSIGNED")
      change TypeName.ofText (type.word.toList ++
        (inParentheses (Text.ofNat n.toNat) ++ wordsIf unsigned " UNSIGNED")) = _
      rw [TypeName.ofText, houtside]
      cases type <;> cases unsigned <;> rfl
  | varchar n =>
    have houtside := outside_numbers (show '(' ∉ "VARCHAR".toList by decide)
      (fun c hc => Or.inl (isDigit_ofNat n.toNat c hc)) []
    rw [List.append_nil] at houtside
    change TypeName.ofText ("VARCHAR".toList ++ inParentheses (Text.ofNat n.toNat)) = _
    rw [TypeName.ofText, houtside]
    rfl
  | decimal precision scale =>
    have hnumbers : ∀ c ∈ Text.ofNat precision.toNat ++ ',' :: Text.ofNat scale.toNat,
        c.isDigit = true ∨ c = ',' := by
      intro c hc
      rcases List.mem_append.mp hc with hc | hc
      · exact Or.inl (isDigit_ofNat _ c hc)
      · exact (List.mem_cons.mp hc).symm.imp_left (isDigit_ofNat _ c)
    have houtside := outside_numbers (show '(' ∉ "DECIMAL".toList by decide) hnumbers []
    rw [List.append_nil] at houtside
    change TypeName.ofText ("DECIMAL".toList ++
      inParentheses (Text.ofNat precision.toNat ++ ',' :: Text.ofNat scale.toNat)) = _
    rw [TypeName.ofText, houtside]
    rfl
  | dateTime => rfl
  | enumeration kind members hne => exact absurd h hne

/-- **Reading recovers what was declared.** -/
theorem Table.ofSql_text_of_plain (table : DeclaredTable) (hname : '\x60' ∉ table.name)
    (hcolumns : ∀ column ∈ table.columns, '\x60' ∉ column.name ∧ column.type.members = []) :
    Table.ofSql table.text =
      .ok ⟨⟨'\x60' :: (table.name ++ ['\x60']), table.columns.map DeclaredColumn.column⟩,
        [.readTable ('\x60' :: (table.name ++ ['\x60'])) table.columns.length]⟩ := by
  have hone : ∀ column ∈ table.columns,
      Column.ofDefinition column.definition = column.column := by
    intro column hcolumn
    obtain ⟨hname, hmembers⟩ := hcolumns column hcolumn
    obtain ⟨hnotNull, hcomment⟩ := ofDefinition_options column
    have htype : TypeName.ofText column.definition.type.text =
        ⟨column.type.word, column.type.isUnsigned⟩ := ofText_written hmembers
    calc Column.ofDefinition column.definition
        = ⟨Quote.backquote.write column.name, (TypeName.ofText column.definition.type.text).name,
            (TypeName.ofText column.definition.type.text).isUnsigned,
            (Column.ofDefinition column.definition).isNotNull,
            (Column.ofDefinition column.definition).comment⟩ := rfl
      _ = column.column := by
          rw [htype, hnotNull, hcomment, write_backquote_of_notMem hname]
          rfl
  have htable : table.table =
      ⟨'\x60' :: (table.name ++ ['\x60']), table.columns.map DeclaredColumn.column⟩ := by
    rw [DeclaredTable.table, write_backquote_of_notMem hname, List.map_congr_left hone]
  rw [Table.ofSql_text, htable, List.length_map]

theorem Table.ofSql_text_of_plain_users :
    Table.ofSql (DeclaredTable.text ⟨some "shop".toList, "users".toList,
        [.key ⟨.primary, ["id".toList], by decide⟩,
         .column ⟨"id".toList, .integer .bigint ⟨"bigInt".toList, by decide⟩ (some 20) true,
           [.notNull, .comment "old".toList, .unique, .comment "it's".toList]⟩], by simp⟩) =
      .ok ⟨⟨"\x60users\x60".toList,
          [⟨"\x60id\x60".toList, "BIGINT".toList, true, true, some "it's".toList⟩]⟩,
        [.readTable "\x60users\x60".toList 1]⟩ :=
  Table.ofSql_text_of_plain _ (by decide) (by decide)

/-! ### Enumerations -/

/-- An enumeration keeps its name exactly if what is exposed of the members says nothing else. -/
theorem ofText_enumeration_written_iff (kind : EnumerationKind) (members : List Text)
    (hne : members ≠ []) :
    TypeName.ofText (DeclaredType.enumeration kind members hne).written =
        ⟨kind.word.toList, false⟩ ↔
      ∀ word ∈ Text.words (TypeName.exposed members),
        TypeName.isSignWord word = true ∧ TypeName.isUnsignedWord word = false := by
  refine TypeName.ofText_enumeration_iff ?_ ?_ ?_ members
  all_goals cases kind <;> decide

/-- **Enumerations are read under their name**, and not as unsigned, exactly if the words that are
exposed of their members are words on the sign other than `UNSIGNED`. Nothing is exposed if no quote
stands behind a backslash in a member or if there is no closing parenthesis in any. -/
theorem Table.ofSql_enumeration_iff (table : DeclaredTable) :
    ∃ read events, Table.ofSql table.text = .ok ⟨read, events⟩ ∧
      List.Forall₂ (fun declared column => ∀ kind members hne,
          declared.type = .enumeration kind members hne →
            ((column.type = kind.word.toList ∧ column.isUnsigned = false) ↔
              ∀ word ∈ Text.words (TypeName.exposed members),
                TypeName.isSignWord word = true ∧ TypeName.isUnsignedWord word = false) ∧
            ((∀ member ∈ members, ¬ ['\\', '\''] <:+: member) ∨
                (∀ member ∈ members, ')' ∉ member) →
              column.type = kind.word.toList ∧ column.isUnsigned = false))
        table.columns read.columns := by
  refine ⟨table.table, _, Table.ofSql_text table, ?_⟩
  rw [DeclaredTable.table, List.forall₂_map_right_iff, List.forall₂_same]
  intro declared _ kind members hne htype
  have hread : ((Column.ofDefinition declared.definition).type = kind.word.toList ∧
      (Column.ofDefinition declared.definition).isUnsigned = false) ↔
        TypeName.ofText (DeclaredType.enumeration kind members hne).written =
          ⟨kind.word.toList, false⟩ := by
    rw [← htype]
    constructor
    · rintro ⟨hname, hunsigned⟩
      rw [← hname, ← hunsigned]
      rfl
    · intro h
      simp only [Column.ofDefinition, DeclaredColumn.definition, h, and_self]
  rw [hread, ofText_enumeration_written_iff]
  refine ⟨Iff.rfl, ?_⟩
  rintro (hescape | hparenthesis)
  · rw [TypeName.exposed_eq_nil hescape]
    intro word hword
    simp [Text.words, Text.pieces, Text.splitAt] at hword
  · rw [TypeName.words_exposed_eq_nil hparenthesis]
    intro word hword
    cases hword

/-- A quote behind a backslash in one member gives away the next one: the scan takes the quote that
closes the first member for one inside it, and reads the second as if it stood outside. -/
theorem Table.ofSql_enumeration_iff_exposed :
    ∃ read events, Table.ofSql (DeclaredTable.text ⟨none, "t".toList,
        [.column ⟨"c".toList,
          .enumeration .enum ["\\'".toList, ") unsigned ".toList] (by decide), []⟩], by simp⟩) =
        .ok ⟨read, events⟩ ∧
      ∀ column ∈ read.columns, ¬ (column.type = "ENUM".toList ∧ column.isUnsigned = false) := by
  obtain ⟨read, events, hread, hcolumns⟩ := Table.ofSql_enumeration_iff ⟨none, "t".toList,
    [.column ⟨"c".toList,
      .enumeration .enum ["\\'".toList, ") unsigned ".toList] (by decide), []⟩], by simp⟩
  refine ⟨read, events, hread, ?_⟩
  generalize read.columns = columns at hcolumns
  cases hcolumns with
  | cons hcolumn hrest =>
    cases hrest
    obtain ⟨hiff, -⟩ := hcolumn .enum _ _ rfl
    have hexposed : ¬ ∀ word ∈ Text.words (TypeName.exposed ["\\'".toList, ") unsigned ".toList]),
        TypeName.isSignWord word = true ∧ TypeName.isUnsignedWord word = false := by decide
    intro column hmem
    obtain rfl := List.mem_singleton.mp hmem
    exact fun h => hexposed (hiff.mp h)

end TableModel
