import Mathlib.Data.List.Forall2
import TableModel.Proofs.Ddl.DeclaredTable
import TableModel.Proofs.Ddl.Layout

/-!
# Scripts

A script is a text of declarations with semicolons between them, laid out in pieces. What stands
between semicolons is a statement, unless no token is there (`statementTokens`), so semicolons may
be repeated and may stand at the ends. A script is any layout whose statements are the tokens of
declared tables. So is each list of declarations with separators behind and in front of them, which
are semicolons, blanks and comments (`Script.exists_of_separated`). A semicolon in a name, in a
string or in a comment is none, because it is no token.

Reading a script gives its tables, each of them once and in order (`Script.read_text`). The proof
goes along the loop over the statements: what is left behind the semicolons is empty or begins with a
statement, which is read up to what ends it (`Parser.statementSteps_tables`).
-/

namespace TableModel.Ddl

/-! ### Statements -/

def NoSemicolon (tokens : List Token) : Prop := ∀ token ∈ tokens, token.isSymbol ";" = false

/-- What stands between semicolons, unless there is no token. The loop of the reader does not cut
the tokens in this way beforehand, it goes on where the last statement was left; the two agree where
no statement has a semicolon among its tokens. -/
def statementTokens (tokens : List Token) : List (List Token) :=
  (tokens.splitOnP (·.isSymbol ";")).filter (!·.isEmpty)

theorem isSymbol_semicolon_iff {token : Token} :
    token.isSymbol ";" = true ↔ token = .symbol [';'] := by
  cases token <;> simp [Token.isSymbol]

theorem statementTokens_append_semicolon (tokens more : List Token) :
    statementTokens (tokens ++ .symbol [';'] :: more) =
      statementTokens tokens ++ statementTokens more := by
  rw [statementTokens, List.splitOnP_append_cons tokens more rfl, List.filter_append]
  rfl

theorem statementTokens_eq_singleton {statement : List Token} (hne : statement ≠ [])
    (hstatement : NoSemicolon statement) : statementTokens statement = [statement] := by
  rw [statementTokens, List.splitOnP_eq_singleton hstatement]
  exact List.filter_cons_of_pos (by simpa using hne)

/-- Some tokens other than semicolons are a statement in front of what ends it. -/
theorem statementTokens_append {statement rest : List Token} (hne : statement ≠ [])
    (hstatement : NoSemicolon statement) (hrest : EndsStatement rest) :
    statementTokens (statement ++ rest) = statement :: statementTokens rest := by
  have hone := statementTokens_eq_singleton hne hstatement
  cases hrest with
  | nil => rwa [List.append_nil]
  | semicolon more =>
    rw [statementTokens_append_semicolon, hone]
    rfl

/-- Behind the semicolons that tokens begin with the tokens end, or the first statement begins. -/
theorem skipSemicolons_cases (tokens : List Token) :
    skipSemicolons tokens = [] ∧ statementTokens tokens = [] ∨
      ∃ statement rest, skipSemicolons tokens = statement ++ rest ∧ EndsStatement rest ∧
        statementTokens tokens = statement :: statementTokens rest := by
  induction tokens with
  | nil => exact Or.inl ⟨rfl, rfl⟩
  | cons token rest ih =>
    by_cases htoken : token.isSymbol ";" = true
    · obtain rfl := isSymbol_semicolon_iff.mp htoken
      exact ih
    · have hskip : skipSemicolons (token :: rest) = token :: rest := if_neg htoken
      let p : Token → Bool := fun token => !token.isSymbol ";"
      have hcut : token :: rest.takeWhile p ++ rest.dropWhile p = token :: rest := by simp
      have hends : EndsStatement (rest.dropWhile p) := by
        cases hrest : rest.dropWhile p with
        | nil => exact .nil
        | cons next more =>
          have hnext : p next = false := by simpa [hrest] using List.head?_dropWhile_not p rest
          obtain rfl := isSymbol_semicolon_iff.mp (by simpa [p] using hnext)
          exact .semicolon more
      have hstatement : NoSemicolon (token :: rest.takeWhile p) := by
        intro next hnext
        rcases List.mem_cons.mp hnext with rfl | hnext
        · exact Bool.eq_false_iff.mpr htoken
        · simpa [p] using List.mem_takeWhile_imp hnext
      refine Or.inr ⟨token :: rest.takeWhile p, rest.dropWhile p, hskip.trans hcut.symm, hends, ?_⟩
      rw [← statementTokens_append (List.cons_ne_nil _ _) hstatement hends, hcut]

/-- There are at most as many statements as tokens and one more. -/
theorem length_statementTokens_le (tokens : List Token) :
    (statementTokens tokens).length ≤ tokens.length + 1 := by
  refine (List.length_filter_le _ _).trans ?_
  induction tokens with
  | nil => simp
  | cons token rest ih =>
    rw [List.splitOnP_cons_eq_if_modifyHead]
    split
    · simpa using ih
    · rw [List.length_modifyHead, List.length_cons]
      omega

/-! ### Semicolons in declarations -/

namespace NoSemicolon

variable {token : Token} {tokens more : List Token}

@[simp] theorem nil : NoSemicolon [] := fun _ h => absurd h List.not_mem_nil

@[simp] theorem cons_iff :
    NoSemicolon (token :: tokens) ↔ token.isSymbol ";" = false ∧ NoSemicolon tokens :=
  List.forall_mem_cons

@[simp] theorem append_iff : NoSemicolon (tokens ++ more) ↔ NoSemicolon tokens ∧ NoSemicolon more :=
  List.forall_mem_append

@[simp] theorem inParentheses_iff :
    NoSemicolon (tokensInParentheses tokens) ↔ NoSemicolon tokens := by
  simp [tokensInParentheses, Token.isSymbol]

@[simp] theorem commaTokens_iff : ∀ {items : List (List Token)},
    NoSemicolon (commaTokens items) ↔ ∀ item ∈ items, NoSemicolon item
  | [] | [_] => by simp [commaTokens]
  | item :: next :: rest => by
    have hrest : NoSemicolon (commaTokens (next :: rest)) ↔ _ := commaTokens_iff
    simp only [commaTokens] at hrest
    simp [commaTokens, Token.isSymbol, hrest]

end NoSemicolon

theorem DeclaredType.noSemicolon_tokens (type : DeclaredType) : NoSemicolon type.tokens := by
  cases type with
  | integer _ _ width unsigned =>
    cases width <;> cases unsigned <;> simp [tokens, numberToken, Token.isSymbol]
  | varchar _ | decimal _ _ | dateTime => simp [tokens, numberToken, Token.isSymbol]
  | enumeration kind members _ => simp [tokens, Token.isSymbol]

theorem DeclaredOption.noSemicolon_tokens (option : DeclaredOption) :
    NoSemicolon option.tokens := by
  cases option <;> simp [tokens, Token.isSymbol]

theorem DeclaredItem.noSemicolon_tokens (item : DeclaredItem) : NoSemicolon item.tokens := by
  cases item with
  | column declared =>
    have hoptions : NoSemicolon (declared.options.flatMap DeclaredOption.tokens) := by
      intro token htoken
      obtain ⟨option, -, htoken⟩ := List.mem_flatMap.mp htoken
      exact option.noSemicolon_tokens token htoken
    simp [tokens, DeclaredColumn.tokens, Token.isSymbol, declared.type.noSemicolon_tokens, hoptions]
  | key declared =>
    obtain ⟨kind, columns, _⟩ := declared
    cases kind <;> simp [tokens, DeclaredKey.tokens, KeyKind.tokens, nameTokens, Token.isSymbol]

/-- No token of a declaration is a semicolon, whatever names and strings there are in it. -/
theorem DeclaredTable.noSemicolon_tokens (table : DeclaredTable) : NoSemicolon table.tokens := by
  obtain ⟨qualifier, name, items, _⟩ := table
  cases qualifier <;>
    simp [tokens, nameTokens, Token.isSymbol, DeclaredItem.noSemicolon_tokens]

/-! ### Reading -/

namespace Parser

theorem modify_skipSemicolons {tokens rest : List Token} (h : skipSemicolons tokens = rest) :
    (modify skipSemicolons : Parser PUnit) tokens = .ok ((), rest) :=
  congrArg (fun rest => Except.ok ((), rest)) h

/-- A statement is read behind semicolons, and then those that follow it. -/
theorem statementSteps_succ {p : Parser Statement} {tokens statement rest last : List Token}
    {steps : Nat} {first : Statement} {others : List Statement}
    (hskip : skipSemicolons tokens = statement ++ rest) (hne : statement ≠ [])
    (hfirst : p (statement ++ rest) = .ok (first, rest)) (hrest : EndsStatement rest)
    (hothers : statementSteps p steps rest = .ok (others, last)) :
    statementSteps p (steps + 1) tokens = .ok (first :: others, last) := by
  obtain ⟨token, more, rfl⟩ := List.exists_cons_of_ne_nil hne
  refine (bind_of_ok (modify_skipSemicolons hskip)).trans ((bind_of_ok (p := peek) rfl).trans ?_)
  refine (bind_of_ok hfirst).trans ?_
  cases hrest with
  | nil =>
    -- Where the tokens end the loop ends at once, as it would in its next step.
    have hnone : statementSteps p steps [] = .ok ([], []) := by cases steps <;> rfl
    rw [hnone] at hothers
    cases hothers
    rfl
  | semicolon more => exact (bind_of_ok (p := peek) rfl).trans ((bind_of_ok hothers).trans rfl)

/-- The statements of declared tables are read one by one. The induction is on the tables; in each
step the semicolons in front of a statement are passed over, and the statement is read up to the
next semicolon or to the end. -/
theorem statementSteps_tables {p : Parser Statement}
    (hp : ∀ (table : DeclaredTable) (rest : List Token), EndsStatement rest →
      ∃ declaration, p (table.tokens ++ rest) = .ok (.table declaration, rest) ∧
        table.IsReadAs declaration) :
    ∀ (tables : List DeclaredTable) (tokens : List Token) (steps : Nat),
      statementTokens tokens = tables.map DeclaredTable.tokens → tables.length ≤ steps →
      ∃ declarations rest,
        statementSteps p steps tokens = .ok (declarations.map Statement.table, rest) ∧
          List.Forall₂ DeclaredTable.IsReadAs tables declarations
  | [], tokens, 0, _, _ => ⟨[], tokens, rfl, .nil⟩
  | [], tokens, steps + 1, htokens, _ => by
    obtain ⟨hskip, -⟩ | ⟨statement, rest, -, -, hcut⟩ := skipSemicolons_cases tokens
    · exact ⟨[], [], (bind_of_ok (modify_skipSemicolons hskip)).trans rfl, .nil⟩
    · rw [hcut] at htokens
      cases htokens
  | table :: more, tokens, steps + 1, htokens, hsteps => by
    obtain ⟨-, hcut⟩ | ⟨statement, rest, hskip, hrest, hcut⟩ := skipSemicolons_cases tokens
    · rw [hcut] at htokens
      cases htokens
    · rw [hcut] at htokens
      obtain ⟨rfl, hmore⟩ := List.cons.inj htokens
      obtain ⟨declaration, hdeclaration, hread⟩ := hp table rest hrest
      obtain ⟨declarations, last, hothers, hreads⟩ :=
        statementSteps_tables hp more rest steps hmore (by simpa using hsteps)
      have hne : table.tokens ≠ [] := List.cons_ne_nil _ _
      exact ⟨declaration :: declarations, last,
        statementSteps_succ hskip hne hdeclaration hrest hothers, .cons hread hreads⟩

end Parser

/-- **Reading a text with the tokens of declared tables.** -/
theorem Statement.read_of_scans {sql : Text} {tokens : List Token} (hsql : Scans sql tokens)
    {tables : List DeclaredTable}
    (htables : statementTokens tokens = tables.map DeclaredTable.tokens) :
    ∃ declarations, Statement.read sql = .ok (declarations.map Statement.table) ∧
      List.Forall₂ DeclaredTable.IsReadAs tables declarations := by
  obtain ⟨lexemes, hscan, rfl⟩ := hsql.exists_scan
  -- A statement is one level of nesting.
  obtain ⟨depth, hdepth⟩ : ∃ depth, nestingLimit = depth + 1 := ⟨_, rfl⟩
  have hlength : tables.length ≤ (Lexeme.tokens lexemes).length + 1 := by
    rw [← List.length_map DeclaredTable.tokens, ← htables]
    exact length_statementTokens_le _
  obtain ⟨declarations, rest, hstatements, hreads⟩ := Parser.statementSteps_tables
    (fun table _ hrest => Parser.statementWith_tokens (Nested.ofDepth depth)
      (Parser.inlineRows lexemes) (Parser.statement (Parser.inlineRows lexemes) depth) table hrest)
    tables (Lexeme.tokens lexemes) _ htables hlength
  refine ⟨declarations, ?_, hreads⟩
  have hread : Parser.statements (Parser.statement (Parser.inlineRows lexemes) nestingLimit)
      (Lexeme.tokens lexemes) = .ok (declarations.map Statement.table, rest) := by
    rw [hdepth]
    exact (Parser.bind_of_ok (p := get) rfl).trans hstatements
  rw [Statement.read, hscan]
  simp only [hread]
  rfl

/-- **Reading the text of a declaration.** -/
theorem Statement.read_text (table : DeclaredTable) :
    ∃ declaration, Statement.read table.text = .ok [.table declaration] ∧
      table.IsReadAs declaration := by
  have htokens : statementTokens table.tokens = [table].map DeclaredTable.tokens :=
    statementTokens_eq_singleton (List.cons_ne_nil _ _) table.noSemicolon_tokens
  obtain ⟨declarations, hread, hreads⟩ := Statement.read_of_scans table.spells_text.scans htokens
  cases hreads with
  | cons htable hnone =>
    cases hnone
    exact ⟨_, hread, htable⟩

/-! ### Scripts -/

/-- A script of declared tables: a text in pieces whose statements, once it is cut at its
semicolons, are the tokens of the tables in order. -/
structure Script where
  pieces : List Piece
  apart : pieces.IsChain fun piece next => next.text.head?.any piece.goesOnWith = false
  tables : List DeclaredTable
  statements : statementTokens (pieces.filterMap Piece.token?) = tables.map DeclaredTable.tokens

def Script.text (script : Script) : Text := script.pieces.flatMap Piece.text

/-- **Reading the text of a script** gives its tables, each of them once and in order. -/
theorem Script.read_text (script : Script) :
    ∃ declarations, Statement.read script.text = .ok (declarations.map Statement.table) ∧
      List.Forall₂ DeclaredTable.IsReadAs script.tables declarations :=
  Statement.read_of_scans (scans_pieces script.apart) script.statements

/-! ### Declarations and separators -/

/-- Whether the piece may stand between two statements: a semicolon, a blank or a comment. A comment
may have a semicolon in it, which ends no statement. -/
def Piece.isSeparator : Piece → Bool
  | .mark c _ => c == ';'
  | .blank _ _ | .comment _ _ => true
  | .word _ _ | .name _ | .number _ | .string _ | .point => false

/-- What a separator is to its neighbours: it goes on with nothing, ends what is in front of it, and
has no token but a semicolon. -/
theorem Piece.of_isSeparator {piece : Piece} (h : piece.isSeparator = true) :
    (∀ c, piece.goesOnWith c = false) ∧ AtBorder piece.text ∧
      (piece.token? = none ∨ piece.token? = some (.symbol [';'])) := by
  cases piece with
  | mark c isMark =>
    obtain rfl : c = ';' := by simpa [isSeparator] using h
    exact ⟨fun _ => rfl, AtBorder.cons rfl _, .inr rfl⟩
  | blank c isBlank =>
    exact ⟨fun _ => rfl, AtBorder.cons (by simp [isBorder, isBlank]) _, .inl rfl⟩
  | comment body isPlain => exact ⟨fun _ => rfl, AtBorder.cons rfl _, .inl rfl⟩
  | word | name | number | string | point => cases h

section Separators

variable {gap : List Piece} (hgap : ∀ piece ∈ gap, piece.isSeparator = true)

include hgap

theorem Spells.behind {t : Text} {tokens : List Token} (h : Spells t tokens) :
    Spells (gap.flatMap Piece.text ++ t) (gap.filterMap Piece.token? ++ tokens) := by
  induction gap with
  | nil => exact h
  | cons piece rest ih =>
    obtain ⟨hpiece, hrest⟩ := List.forall_mem_cons.mp hgap
    have hall := (ih hrest).cons piece (Piece.of_isSeparator hpiece).1
    rw [List.flatMap_cons, List.append_assoc]
    cases htoken : piece.token? <;> simpa [htoken] using hall

/-- Separators end what stands in front of them, if there are any or what follows them does. -/
theorem AtBorder.separators {t : Text} (h : AtBorder t ∨ gap ≠ []) :
    AtBorder (gap.flatMap Piece.text ++ t) := by
  cases gap with
  | nil => exact h.resolve_right (not_not_intro rfl)
  | cons piece rest =>
    obtain ⟨-, hborder, -⟩ := Piece.of_isSeparator (hgap piece List.mem_cons_self)
    obtain ⟨c, more, htext⟩ := List.exists_cons_of_ne_nil piece.text_ne_nil
    rw [htext] at hborder
    rw [List.flatMap_cons, htext]
    exact AtBorder.cons (hborder c rfl) _

theorem statementTokens_separators_append (tokens : List Token) :
    statementTokens (gap.filterMap Piece.token? ++ tokens) = statementTokens tokens := by
  induction gap with
  | nil => rfl
  | cons piece rest ih =>
    obtain ⟨hpiece, hrest⟩ := List.forall_mem_cons.mp hgap
    obtain ⟨-, -, htoken | htoken⟩ := Piece.of_isSeparator hpiece
    · rw [List.filterMap_cons_none htoken, ih hrest]
    · rw [List.filterMap_cons_some htoken, List.cons_append, ← ih hrest]
      exact statementTokens_append_semicolon [] _

/-- Separators end a statement in front of them, if there is a semicolon among them or what follows
them does. -/
theorem EndsStatement.separators {tokens : List Token}
    (h : EndsStatement tokens ∨ ∃ piece ∈ gap, piece.token?.isSome = true) :
    EndsStatement (gap.filterMap Piece.token? ++ tokens) := by
  induction gap with
  | nil => exact h.resolve_right (by simp)
  | cons piece rest ih =>
    obtain ⟨hpiece, hrest⟩ := List.forall_mem_cons.mp hgap
    obtain ⟨-, -, htoken | htoken⟩ := Piece.of_isSeparator hpiece
    · rw [List.filterMap_cons_none htoken]
      exact ih hrest (by simpa [htoken] using h)
    · rw [List.filterMap_cons_some htoken]
      exact .semicolon _

end Separators

/-- Declarations, each with the pieces that stand behind it. -/
abbrev Parts := List (DeclaredTable × List Piece)

namespace Parts

/-- The SQL text of declarations and of the pieces that stand behind each of them. -/
def text (parts : Parts) : Text :=
  parts.flatMap fun part => part.1.text ++ part.2.flatMap Piece.text

def tokens (parts : Parts) : List Token :=
  parts.flatMap fun part => part.1.tokens ++ part.2.filterMap Piece.token?

/-- Behind the declarations are separators, with a semicolon among them if another declaration
follows. -/
inductive Separated : Parts → Prop
  | nil : Separated []
  | cons {table : DeclaredTable} {gap : List Piece} {more : Parts}
      (hgap : ∀ piece ∈ gap, piece.isSeparator = true)
      (hsemicolon : more = [] ∨ ∃ piece ∈ gap, piece.token?.isSome = true)
      (hmore : Separated more) : Separated ((table, gap) :: more)

namespace Separated

variable {parts : Parts} (h : parts.Separated)

include h

theorem spells_text : Spells parts.text parts.tokens := by
  induction h with
  | nil => exact Spells.nil
  | @cons table gap more hgap hsemicolon _ ih =>
    have hborder : AtBorder (gap.flatMap Piece.text ++ more.text) := by
      refine AtBorder.separators hgap (hsemicolon.imp ?_ ?_)
      · rintro rfl
        exact AtBorder.nil
      · rintro ⟨piece, hpiece, -⟩
        exact List.ne_nil_of_mem hpiece
    rw [text, tokens, List.flatMap_cons, List.flatMap_cons, List.append_assoc, List.append_assoc]
    exact table.spells_text.append hborder (ih.behind hgap)

theorem statementTokens_tokens :
    statementTokens parts.tokens = parts.map fun part => part.1.tokens := by
  induction h with
  | nil => rfl
  | @cons table gap more hgap hsemicolon _ ih =>
    have hends : EndsStatement (gap.filterMap Piece.token? ++ more.tokens) := by
      refine EndsStatement.separators hgap (hsemicolon.imp_left ?_)
      rintro rfl
      exact .nil
    rw [tokens, List.flatMap_cons, List.append_assoc, List.map_cons, ← ih]
    refine (statementTokens_append (List.cons_ne_nil _ _) table.noSemicolon_tokens hends).trans ?_
    rw [statementTokens_separators_append hgap]
    rfl

end Separated

end Parts

/-- **Declarations with separators are a script**, whatever separators stand in front of them. -/
theorem Script.exists_of_separated {front : List Piece} {parts : Parts}
    (hfront : ∀ piece ∈ front, piece.isSeparator = true) (h : parts.Separated) :
    ∃ script : Script, script.text = front.flatMap Piece.text ++ parts.text ∧
      script.tables = parts.map Prod.fst := by
  obtain ⟨pieces, hpieces, htext, htokens⟩ := h.spells_text.behind hfront
  refine ⟨⟨pieces, hpieces, parts.map Prod.fst, ?_⟩, htext, rfl⟩
  rw [htokens, statementTokens_separators_append hfront, h.statementTokens_tokens, List.map_map]
  rfl

end TableModel.Ddl
