import TableModel.Ddl.Statement
import TableModel.Proofs.Ddl.DeclaredType

/-!
# Reading declared tables

The tokens of a declaration are read as a statement, a table under the declared name whose column
definitions are those declared, in order (`Parser.statementWith_tokens`). A key among the columns is
read and leaves none behind. What is read of a column is `DeclaredColumn.definition`: the name in
its backquotes, the written form of the type, and the options one by one.

Every item is followed by a comma or by the closing parenthesis, which is where the search for
further options of a column or of a key ends. The search for options of the table ends in the same
way, with the tokens or at a semicolon (`EndsStatement`).
-/

namespace TableModel.Ddl

def DeclaredOption.option : DeclaredOption → ColumnOption
  | .notNull => .notNull
  | .primaryKey => .other "PRIMARY KEY"
  | .unique => .other "UNIQUE"
  | .autoIncrement => .other "AUTO_INCREMENT"
  | .comment contents => .comment contents

def DeclaredColumn.definition (column : DeclaredColumn) : ColumnDefinition where
  name := ⟨column.name, some .backquote⟩
  type := ⟨.builtin, column.type.written⟩
  collation := none
  options := column.options.map fun option => (none, option.option)

/-- What is read of a table: its name in backquotes and the definitions of its columns, in order. -/
def DeclaredTable.IsReadAs (table : DeclaredTable) (declaration : TableDeclaration) : Prop :=
  declaration.name.last = ⟨table.name, some .backquote⟩ ∧
    declaration.columns = table.columns.map DeclaredColumn.definition

/-- A statement ends where the tokens end or a semicolon follows. -/
inductive EndsStatement : List Token → Prop where
  | nil : EndsStatement []
  | semicolon (rest : List Token) : EndsStatement (.symbol [';'] :: rest)

theorem quiet_options (options : List DeclaredOption) {c : Char} (hc : c = ',' ∨ c = ')')
    (rest : List Token) :
    Quiet (options.flatMap DeclaredOption.tokens ++ .symbol [c] :: rest) := by
  cases options with
  | nil => exact Quiet.mark c hc rest
  | cons option more =>
    rw [List.flatMap_cons, List.append_assoc]
    exact Quiet.option option _

namespace Parser

variable (nested : Nested)

/-! ### Columns -/

theorem columnOption_tokens (option : DeclaredOption) {rest : List Token} (hrest : Quiet rest) :
    columnOption nested (option.tokens ++ rest) = .ok (some option.option, rest) := by
  cases option with
  | notNull => rfl
  | primaryKey =>
    change (timing >>= fun words =>
      pure (some (ColumnOption.other (Text.phrase ["PRIMARY KEY".toList, words])))) rest =
        .ok (some (.other "PRIMARY KEY".toList), rest)
    exact (bind_of_ok hrest.timing).trans rfl
  | unique =>
    change (timing >>= fun words =>
      pure (some (ColumnOption.other (Text.phrase ["UNIQUE".toList, words])))) rest =
        .ok (some (.other "UNIQUE".toList), rest)
    exact (bind_of_ok hrest.timing).trans rfl
  | autoIncrement => rfl
  | comment contents => rfl

/-- Options are read one by one up to the end of the item. The number of steps is any that the
options fit in, for the reader is given as many as there are tokens. -/
theorem columnOptionSteps_tokens {c : Char} (hc : c = ',' ∨ c = ')') (rest : List Token) :
    ∀ (options : List DeclaredOption) (steps : Nat), options.length ≤ steps →
      columnOptionSteps nested none steps
          (options.flatMap DeclaredOption.tokens ++ .symbol [c] :: rest) =
        .ok ((none, options.map fun option => (none, option.option)), .symbol [c] :: rest)
  | [], 0, _ => rfl
  | [], steps + 1, _ => by rcases hc with rfl | rfl <;> rfl
  | option :: more, steps + 1, hsteps => by
    -- The first option is read in front of the others, which are quiet.
    have hmore := columnOptionSteps_tokens hc rest more steps (by simpa using hsteps)
    have hoption := columnOption_tokens nested option (quiet_options more hc rest)
    have hname : ∀ tail, keyword "CONSTRAINT" (option.tokens ++ tail) =
        .ok (false, option.tokens ++ tail) := by
      intro tail
      cases option <;> rfl
    rw [List.flatMap_cons, List.append_assoc]
    refine (bind_of_ok (hname _)).trans ((bind_of_ok hoption).trans ?_)
    exact (bind_of_ok hmore).trans rfl

theorem length_le_length_options (options : List DeclaredOption) :
    options.length ≤ (options.flatMap DeclaredOption.tokens).length := by
  induction options with
  | nil => simp
  | cons option rest ih =>
    have hone : 1 ≤ option.tokens.length := by cases option <;> simp [DeclaredOption.tokens]
    simp only [List.flatMap_cons, List.length_append, List.length_cons]
    omega

theorem columnDefinition_tokens (column : DeclaredColumn) {c : Char} (hc : c = ',' ∨ c = ')')
    (rest : List Token) :
    columnDefinition nested (column.tokens ++ .symbol [c] :: rest) =
      .ok (column.definition, .symbol [c] :: rest) := by
  have hquiet := quiet_options column.options hc rest
  have htype := dataType_tokens column.type hquiet
  have hlength := length_le_length_options column.options
  have hoptions := columnOptionSteps_tokens nested hc rest column.options
    ((column.options.flatMap DeclaredOption.tokens ++ .symbol [c] :: rest).length + 1)
    (by simp only [List.length_append]; omega)
  rw [DeclaredColumn.tokens, List.cons_append, List.append_assoc]
  refine (bind_of_ok (p := identifier) rfl).trans ((bind_of_ok htype).trans ?_)
  refine (bind_of_ok (hquiet.keyword (by decide))).trans ?_
  refine (bind_of_ok (p := pure none) rfl).trans ?_
  refine (bind_of_ok (p := get) rfl).trans ?_
  exact (bind_of_ok hoptions).trans rfl

/-! ### Keys -/

theorem indexOptionSteps_mark {c : Char} (hc : c = ',' ∨ c = ')') (rest : List Token)
    (steps : Nat) : indexOptionSteps steps (.symbol [c] :: rest) = .ok ([], .symbol [c] :: rest) := by
  cases steps with
  | zero => rfl
  | succ steps => rcases hc with rfl | rfl <;> rfl

def writtenColumns (names : List Text) : Text :=
  writeColumns (names.map fun name => ⟨name, some .backquote⟩)

theorem indexColumns_nameTokens {columns : List Text} (hne : columns ≠ []) (rest : List Token) :
    indexColumns (nameTokens columns ++ rest) = .ok (writtenColumns columns, rest) :=
  (bind_of_ok (columnNames_nameTokens hne rest)).trans rfl

theorem keyBody_tokens (name : Option Text) {columns : List Text} (hne : columns ≠ []) {c : Char}
    (hc : c = ',' ∨ c = ')') (rest : List Token) :
    ∃ text, keyBody ((name.elim [] fun name => [.quotedName name]) ++
      (nameTokens columns ++ .symbol [c] :: rest)) = .ok (text, .symbol [c] :: rest) := by
  have hname : ∃ text, indexName ((name.elim [] fun name => [.quotedName name]) ++
      (nameTokens columns ++ .symbol [c] :: rest)) =
        .ok (text, nameTokens columns ++ .symbol [c] :: rest) := by
    cases name <;> exact ⟨_, rfl⟩
  obtain ⟨text, hname⟩ := hname
  have hoptions := indexOptionSteps_mark hc rest
  refine ⟨Text.phrase [text, [], writtenColumns columns, [], []], (bind_of_ok hname).trans ?_⟩
  refine (bind_of_ok (p := indexMethod) (a := [])
    (t := nameTokens columns ++ .symbol [c] :: rest) rfl).trans ?_
  refine (bind_of_ok (indexColumns_nameTokens hne _)).trans ?_
  refine (bind_of_ok (p := get) (t := .symbol [c] :: rest) rfl).trans ?_
  refine (bind_of_ok (hoptions _)).trans ?_
  exact (bind_of_ok (Quiet.mark c hc rest).timing).trans rfl

/-- A constraint without a name is read after its first word. -/
theorem tableConstraint_cons {first : Token} {tokens rest : List Token} {text : Text}
    (hfirst : keyword "CONSTRAINT" (first :: tokens) = .ok (false, first :: tokens))
    (h : constraintAfter nested false first tokens = .ok (some text, rest)) :
    tableConstraint nested (first :: tokens) = .ok (some text, rest) := by
  refine (bind_of_ok hfirst).trans ?_
  refine (bind_of_ok (p := get) rfl).trans ((bind_of_ok (p := set tokens) rfl).trans ?_)
  exact (bind_of_ok h).trans rfl

theorem tableConstraint_tokens (key : DeclaredKey) {c : Char} (hc : c = ',' ∨ c = ')')
    (rest : List Token) :
    ∃ text, tableConstraint nested (key.tokens ++ .symbol [c] :: rest) =
      .ok (some text, .symbol [c] :: rest) := by
  obtain ⟨kind, columns, hne⟩ := key
  rw [DeclaredKey.tokens, List.append_assoc]
  cases kind with
  | primary =>
    obtain ⟨text, hbody⟩ := keyBody_tokens none hne hc rest
    refine ⟨Text.phrase ["PRIMARY KEY".toList, text], tableConstraint_cons nested rfl ?_⟩
    refine (bind_of_ok (p := expectKeyword "KEY") rfl).trans ?_
    exact (bind_of_ok hbody).trans rfl
  | index name =>
    -- An index is no constraint: it has neither options nor a time at which it is checked.
    refine ⟨Text.phrase ["KEY".toList, Quote.backquote.write name, [], writtenColumns columns],
      tableConstraint_cons nested rfl ?_⟩
    refine (bind_of_ok (p := atKeyword "USING") rfl).trans ?_
    refine (bind_of_ok (p := indexName) (a := Quote.backquote.write name)
      (t := nameTokens columns ++ .symbol [c] :: rest) rfl).trans ?_
    refine (bind_of_ok (p := indexMethod) (a := [])
      (t := nameTokens columns ++ .symbol [c] :: rest) rfl).trans ?_
    exact (bind_of_ok (indexColumns_nameTokens hne _)).trans rfl
  | unique name =>
    obtain ⟨text, hbody⟩ := keyBody_tokens (some name) hne hc rest
    refine ⟨Text.phrase ["UNIQUE".toList, "KEY".toList, text], tableConstraint_cons nested rfl ?_⟩
    refine (bind_of_ok (p := oneWord ["KEY", "INDEX"]) rfl).trans ?_
    exact (bind_of_ok hbody).trans rfl

/-! ### Items -/

theorem tableItem_tokens (item : DeclaredItem) {c : Char} (hc : c = ',' ∨ c = ')')
    (rest : List Token) :
    ∃ read, tableItem nested (item.tokens ++ .symbol [c] :: rest) =
        .ok (read, .symbol [c] :: rest) ∧
      read.column? = item.column?.map DeclaredColumn.definition := by
  cases item with
  | column declared =>
    have hcolumn := columnDefinition_tokens nested declared hc rest
    refine ⟨.column declared.definition, ?_, rfl⟩
    refine (bind_of_ok (p := tableConstraint nested) (a := none) rfl).trans ?_
    refine (bind_of_ok (p := peek) rfl).trans ?_
    exact (bind_of_ok hcolumn).trans rfl
  | key declared =>
    obtain ⟨text, hkey⟩ := tableConstraint_tokens nested declared hc rest
    exact ⟨.constraint text, (bind_of_ok hkey).trans rfl, rfl⟩

/-- The items up to the closing parenthesis are read: each column in its place, and nothing for a
key. -/
theorem tableItemSteps_tokens (rest : List Token) :
    ∀ (items : List DeclaredItem) (steps : Nat), items ≠ [] → items.length ≤ steps →
      ∃ read, tableItemSteps nested steps
          (commaTokens (items.map DeclaredItem.tokens) ++ .symbol [')'] :: rest) =
            .ok (read, rest) ∧
        read.filterMap TableItem.column? =
          (items.filterMap DeclaredItem.column?).map DeclaredColumn.definition
  | [], _, hne, _ => absurd rfl hne
  | [item], steps + 1, _, _ => by
    obtain ⟨read, hitem, hcolumn⟩ := tableItem_tokens nested item (Or.inr rfl) rest
    have htokens : commaTokens ([item].map DeclaredItem.tokens) = item.tokens := by
      simp [commaTokens]
    refine ⟨[read], ?_, ?_⟩
    · rw [htokens]
      refine (bind_of_ok hitem).trans ((bind_of_ok (p := symbol ",") rfl).trans ?_)
      exact (bind_of_ok (p := symbol ")") rfl).trans rfl
    · simp only [List.filterMap_cons, hcolumn]
      cases item.column? <;> rfl
  | item :: next :: more, steps + 1, _, hsteps => by
    have htokens : commaTokens ((item :: next :: more).map DeclaredItem.tokens) =
        item.tokens ++ .symbol [','] :: commaTokens ((next :: more).map DeclaredItem.tokens) := by
      simp [commaTokens]
    obtain ⟨others, hothers, hcolumns⟩ :=
      tableItemSteps_tokens rest (next :: more) steps (by simp) (by simpa using hsteps)
    obtain ⟨read, hitem, hcolumn⟩ := tableItem_tokens nested item (Or.inl rfl)
      (commaTokens ((next :: more).map DeclaredItem.tokens) ++ .symbol [')'] :: rest)
    refine ⟨read :: others, ?_, ?_⟩
    · rw [htokens, List.append_assoc]
      refine (bind_of_ok hitem).trans ((bind_of_ok (p := symbol ",") rfl).trans ?_)
      exact (bind_of_ok hothers).trans rfl
    · rw [List.filterMap_cons, List.filterMap_cons, hcolumn]
      cases item.column? <;> simp [hcolumns]

theorem symbol_items {items : List DeclaredItem} (hne : items ≠ []) (rest : List Token) :
    symbol ")" (commaTokens (items.map DeclaredItem.tokens) ++ rest) =
      .ok (false, commaTokens (items.map DeclaredItem.tokens) ++ rest) := by
  obtain ⟨item, more, rfl⟩ := List.exists_cons_of_ne_nil hne
  have hfirst : ∃ tokens,
      commaTokens ((item :: more).map DeclaredItem.tokens) = item.tokens ++ tokens := by
    cases more with
    | nil => exact ⟨[], by simp [commaTokens]⟩
    | cons next others => exact ⟨_, by simp only [commaTokens, List.map_cons,
        List.intercalate_cons_cons, List.append_assoc]; rfl⟩
  obtain ⟨tokens, htokens⟩ := hfirst
  rw [htokens]
  cases item with
  | column declared => rfl
  | key declared =>
    obtain ⟨kind, columns, _⟩ := declared
    cases kind <;> rfl

/-- The items of a table in parentheses are read. -/
theorem tableItems_tokens {items : List DeclaredItem} (hne : items ≠ []) (rest : List Token) :
    ∃ read, tableItems nested
        (tokensInParentheses (commaTokens (items.map DeclaredItem.tokens)) ++ rest) =
          .ok (read, rest) ∧
      read.filterMap TableItem.column? =
        (items.filterMap DeclaredItem.column?).map DeclaredColumn.definition := by
  have hlength := length_le_length_commaTokens (items.map DeclaredItem.tokens)
  obtain ⟨read, hitems, hcolumns⟩ := tableItemSteps_tokens nested rest items
    (commaTokens (items.map DeclaredItem.tokens) ++ .symbol [')'] :: rest).length hne
    (by simp only [List.length_append, List.length_cons, List.length_map] at hlength ⊢; omega)
  refine ⟨read, ?_, hcolumns⟩
  rw [tokensInParentheses, List.cons_append, List.append_assoc]
  refine (bind_of_ok (p := symbol "(") rfl).trans ?_
  refine (bind_of_ok (symbol_items hne _)).trans ((bind_of_ok (p := get) rfl).trans ?_)
  exact hitems

/-! ### Tables -/

theorem objectName_nameTokens (table : DeclaredTable) (rest : List Token) :
    ∃ qualifiers, objectName (table.nameTokens ++ .symbol ['('] :: rest) =
      .ok (⟨qualifiers, ⟨table.name, some .backquote⟩⟩, .symbol ['('] :: rest) := by
  unfold DeclaredTable.nameTokens
  cases table.qualifier with
  | none => exact ⟨[], rfl⟩
  | some qualifier => exact ⟨[⟨qualifier, some .backquote⟩], rfl⟩

/-- No option of a table is read where the statement ends. -/
theorem tableOptions_of_endsStatement {rest : List Token} (hrest : EndsStatement rest) :
    ∃ options, tableOptions nested rest = .ok (options, rest) := by
  cases hrest <;> exact ⟨_, rfl⟩

theorem tableDeclaration_tokens (table : DeclaredTable) {rest : List Token}
    (hrest : EndsStatement rest) :
    ∃ declaration, tableDeclaration nested []
        (table.nameTokens ++
          (tokensInParentheses (commaTokens (table.items.map DeclaredItem.tokens)) ++ rest)) =
          .ok (declaration, rest) ∧
      table.IsReadAs declaration := by
  obtain ⟨qualifiers, hname⟩ := objectName_nameTokens table
    (commaTokens (table.items.map DeclaredItem.tokens) ++ [.symbol [')']] ++ rest)
  obtain ⟨items, hitems, hcolumns⟩ := tableItems_tokens nested table.nonempty rest
  obtain ⟨options, hoptions⟩ := tableOptions_of_endsStatement nested hrest
  have hguard : written ["IF", "NOT", "EXISTS"] (table.nameTokens ++
      (tokensInParentheses (commaTokens (table.items.map DeclaredItem.tokens)) ++ rest)) =
        .ok ([], table.nameTokens ++
          (tokensInParentheses (commaTokens (table.items.map DeclaredItem.tokens)) ++ rest)) := by
    unfold DeclaredTable.nameTokens
    cases table.qualifier <;> rfl
  -- The written form is made of every part of the declaration; nothing depends on which it is.
  have hread : ∃ text, tableDeclaration nested [] (table.nameTokens ++
      (tokensInParentheses (commaTokens (table.items.map DeclaredItem.tokens)) ++ rest)) =
        .ok (⟨⟨qualifiers, ⟨table.name, some .backquote⟩⟩, items.filterMap TableItem.column?, text⟩,
          rest) :=
    ⟨_, (bind_of_ok hguard).trans <| (bind_of_ok hname).trans <|
      (bind_of_ok (p := part ["ON", "CLUSTER"] writtenIdentifier) rfl).trans <|
      (bind_of_ok (p := copiedTable ["LIKE", "ILIKE"] "LIKE") rfl).trans <|
      (bind_of_ok (p := copiedTable ["CLONE"] "CLONE") rfl).trans <|
      (bind_of_ok hitems).trans <| (bind_of_ok hoptions).trans rfl⟩
  obtain ⟨text, hread⟩ := hread
  exact ⟨_, hread, rfl, hcolumns⟩

/-- **The statement of a declaration is read**, up to what ends it and whatever comes behind. -/
theorem statementWith_tokens (rows : Parser Text) (statement : Parser Statement)
    (table : DeclaredTable) {rest : List Token} (hrest : EndsStatement rest) :
    ∃ declaration, statementWith nested rows statement (table.tokens ++ rest) =
        .ok (.table declaration, rest) ∧
      table.IsReadAs declaration := by
  obtain ⟨declaration, hdeclaration, hread⟩ := tableDeclaration_tokens nested table hrest
  have htokens : table.tokens ++ rest = .word "CREATE".toList :: .word "TABLE".toList ::
      (table.nameTokens ++
        (tokensInParentheses (commaTokens (table.items.map DeclaredItem.tokens)) ++ rest)) := by
    simp [DeclaredTable.tokens]
  refine ⟨declaration, ?_, hread⟩
  rw [htokens]
  refine (bind_of_ok (p := keyword "CREATE") rfl).trans ?_
  refine (bind_of_ok (p := creationScope) rfl).trans ?_
  refine (bind_of_ok (p := keyword "TABLE") rfl).trans ?_
  exact (bind_of_ok hdeclaration).trans rfl

end Parser

end TableModel.Ddl
