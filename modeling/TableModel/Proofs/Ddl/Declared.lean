import TableModel.Ddl.DataType
import TableModel.Proofs.Ddl.Layout

/-!
# Declarations and their text

The declarations that reading is shown to recover: `CREATE TABLE` with backquoted names, any number
of columns and keys in any order, the common data types, and column options in any order and number.
`DeclaredTable.text` is the SQL text of a declaration, with one space between words and none around
commas, and `DeclaredTable.tokens` are its tokens (`DeclaredTable.spells_text`).

A name is any text, since a backquote in it is doubled, and so are the contents of a string. The
word of an integer type may be spelled in any letter case.
-/

namespace TableModel.Ddl

/-! ### Declarations -/

inductive IntegerType where
  | tinyint
  | smallint
  | mediumint
  | int
  | integer
  | bigint
  deriving DecidableEq, Repr

/-- The word of an integer type in capitals. A declaration may spell it in any letter case. -/
def IntegerType.word : IntegerType → String
  | .tinyint => "TINYINT"
  | .smallint => "SMALLINT"
  | .mediumint => "MEDIUMINT"
  | .int => "INT"
  | .integer => "INTEGER"
  | .bigint => "BIGINT"

/-- A type whose values are taken from the members that are listed. -/
inductive EnumerationKind where
  | enum
  | set
  deriving DecidableEq, Repr

def EnumerationKind.word : EnumerationKind → String
  | .enum => "ENUM"
  | .set => "SET"

/-- A spelling of an upper-case word in any letter case. -/
def Spelling (word : String) := {t : Text // t.map Char.toUpper = word.toList}

/-- The type of a declared column. What stands behind the word of the type belongs to it: the width
of an integer and its sign, the length of a text, the precision and the scale of a number, and the
members of an enumeration, of which there is at least one. -/
inductive DeclaredType where
  | integer (type : IntegerType) (spelling : Spelling type.word) (width : Option UInt64)
    (unsigned : Bool)
  | varchar (length : UInt64)
  | decimal (precision scale : UInt64)
  | dateTime
  | enumeration (kind : EnumerationKind) (members : List Text) (nonempty : members ≠ [])

/-- An option of a declared column. Options come in any number and any order behind the type, and
the same one may stand there twice. -/
inductive DeclaredOption where
  | notNull
  | primaryKey
  | unique
  | autoIncrement
  | comment (contents : Text)
  deriving DecidableEq, Repr

/-- A declared column, under any name whatever: a name stands in backquotes, and those in it are
doubled. -/
structure DeclaredColumn where
  name : Text
  type : DeclaredType
  options : List DeclaredOption

/-- What a declared key is: the primary one, or an index under a name, which may be unique. -/
inductive KeyKind where
  | primary
  | index (name : Text)
  | unique (name : Text)
  deriving DecidableEq, Repr

structure DeclaredKey where
  kind : KeyKind
  columns : List Text
  nonempty : columns ≠ []

/-- An item between the parentheses of a declaration. Columns and keys may stand in any order, and
there may be no column at all. -/
inductive DeclaredItem where
  | column (declared : DeclaredColumn)
  | key (declared : DeclaredKey)

def DeclaredItem.column? : DeclaredItem → Option DeclaredColumn
  | .column declared => some declared
  | .key _ => none

/-- A declared table. Its name may be qualified by that of a database, which is no part of what is
read; there is at least one item, and every item stands for a column or a key. -/
structure DeclaredTable where
  qualifier : Option Text
  name : Text
  items : List DeclaredItem
  nonempty : items ≠ []

/-- The declared columns in the order of their items. Keys are passed over. -/
def DeclaredTable.columns (table : DeclaredTable) : List DeclaredColumn :=
  table.items.filterMap DeclaredItem.column?

/-! ### Text -/

def quotedNames (names : List Text) : Text := inParentheses (Text.join [','] (names.map quoteName))

def DeclaredType.sizeText (n : UInt64) : Text := inParentheses (Text.ofNat n.toNat)

/-- The SQL text of a type. The word of an integer type is written as it is spelled, every other
word in capitals; nothing stands in front of an opening parenthesis, and nothing but the comma
between two members. -/
def DeclaredType.text : DeclaredType → Text
  | .integer _ spelling width unsigned =>
    spelling.val ++ (width.elim [] sizeText ++ wordsIf unsigned " UNSIGNED")
  | .varchar length => "VARCHAR" ++ sizeText length
  | .decimal precision scale =>
    "DECIMAL" ++ inParentheses (Text.ofNat precision.toNat ++ ',' :: Text.ofNat scale.toNat)
  | .dateTime => "DATETIME"
  | .enumeration kind members _ =>
    kind.word ++ inParentheses (Text.join [','] (members.map quoteString))

def DeclaredOption.text : DeclaredOption → Text
  | .notNull => "NOT NULL"
  | .primaryKey => "PRIMARY KEY"
  | .unique => "UNIQUE"
  | .autoIncrement => "AUTO_INCREMENT"
  | .comment contents => "COMMENT " ++ quoteString contents

def DeclaredColumn.text (column : DeclaredColumn) : Text :=
  quoteName column.name ++ ' ' :: (column.type.text ++
    column.options.flatMap fun option => ' ' :: option.text)

def KeyKind.text : KeyKind → Text
  | .primary => "PRIMARY KEY"
  | .index name => "KEY " ++ quoteName name
  | .unique name => "UNIQUE KEY " ++ quoteName name

def DeclaredKey.text (key : DeclaredKey) : Text := key.kind.text ++ ' ' :: quotedNames key.columns

def DeclaredItem.text : DeclaredItem → Text
  | .column declared => declared.text
  | .key declared => declared.text

def DeclaredTable.nameText (table : DeclaredTable) : Text :=
  match table.qualifier with
  | none => quoteName table.name
  | some qualifier => quoteName qualifier ++ '.' :: quoteName table.name

/-- The SQL text of a table, with every name in backquotes and every string in single quotes, so
that names and comments may hold any character whatever. -/
def DeclaredTable.text (table : DeclaredTable) : Text :=
  "CREATE TABLE " ++ (table.nameText ++
    ' ' :: inParentheses (Text.join [','] (table.items.map DeclaredItem.text)))

example : DeclaredTable.text ⟨none, "t".toList,
    [.column ⟨"c".toList, .integer .int ⟨"Int".toList, by decide⟩ none true, [.notNull]⟩,
     .key ⟨.index "i".toList, ["c".toList], by decide⟩], by simp⟩ =
    ("CREATE TABLE \x60t\x60 (\x60c\x60 Int UNSIGNED NOT NULL," ++
      "KEY \x60i\x60 (\x60c\x60))").toList := by
  decide

/-! ### Tokens -/

def tokensInParentheses (tokens : List Token) : List Token :=
  .symbol ['('] :: (tokens ++ [.symbol [')']])

/-- The tokens of items with commas between them, as they stand between parentheses. -/
def commaTokens (items : List (List Token)) : List Token :=
  List.intercalate [.symbol [',']] items

def nameTokens (names : List Text) : List Token :=
  tokensInParentheses (commaTokens (names.map fun name => [.quotedName name]))

/-- The tokens of a type. -/
def DeclaredType.tokens : DeclaredType → List Token
  | .integer _ spelling width unsigned =>
    .word spelling.val :: ((width.elim [] fun n => tokensInParentheses [numberToken n]) ++
      if unsigned then [.word "UNSIGNED".toList] else [])
  | .varchar length => .word "VARCHAR".toList :: tokensInParentheses [numberToken length]
  | .decimal precision scale =>
    .word "DECIMAL".toList ::
      tokensInParentheses [numberToken precision, .symbol [','], numberToken scale]
  | .dateTime => [.word "DATETIME".toList]
  | .enumeration kind members _ =>
    .word kind.word.toList ::
      tokensInParentheses (commaTokens (members.map fun member => [.string .single member]))

def DeclaredOption.tokens : DeclaredOption → List Token
  | .notNull => [.word "NOT".toList, .word "NULL".toList]
  | .primaryKey => [.word "PRIMARY".toList, .word "KEY".toList]
  | .unique => [.word "UNIQUE".toList]
  | .autoIncrement => [.word "AUTO_INCREMENT".toList]
  | .comment contents => [.word "COMMENT".toList, .string .single contents]

def DeclaredColumn.tokens (column : DeclaredColumn) : List Token :=
  .quotedName column.name :: (column.type.tokens ++ column.options.flatMap DeclaredOption.tokens)

def KeyKind.tokens : KeyKind → List Token
  | .primary => [.word "PRIMARY".toList, .word "KEY".toList]
  | .index name => [.word "KEY".toList, .quotedName name]
  | .unique name => [.word "UNIQUE".toList, .word "KEY".toList, .quotedName name]

def DeclaredKey.tokens (key : DeclaredKey) : List Token := key.kind.tokens ++ nameTokens key.columns

def DeclaredItem.tokens : DeclaredItem → List Token
  | .column declared => declared.tokens
  | .key declared => declared.tokens

def DeclaredTable.nameTokens (table : DeclaredTable) : List Token :=
  match table.qualifier with
  | none => [.quotedName table.name]
  | some qualifier => [.quotedName qualifier, .symbol ['.'], .quotedName table.name]

/-- The tokens of a table, put together from those of its parts in the same way as the text is.
Which of them the text is cut into is the matter of `DeclaredTable.spells_text`, and it is from them
alone that the declaration is read. -/
def DeclaredTable.tokens (table : DeclaredTable) : List Token :=
  .word "CREATE".toList :: .word "TABLE".toList ::
    (table.nameTokens ++ tokensInParentheses (commaTokens (table.items.map DeclaredItem.tokens)))

/-! ### The tokens of the text -/

theorem Spelling.isWord {word : String} (spelling : Spelling word)
    (hword : word.toList ≠ [] ∧ word.toList.all Char.isAlpha = true) : IsWord spelling.val := by
  obtain ⟨t, ht⟩ := spelling
  have halpha : ∀ c ∈ t, c.isAlpha = true := by
    intro c hc
    have hupper : c.toUpper ∈ word.toList := ht ▸ List.mem_map_of_mem hc
    exact isAlpha_of_isAlpha_toUpper (List.all_eq_true.mp hword.2 _ hupper)
  cases t with
  | nil => exact absurd ht.symm hword.1
  | cons c rest =>
    exact isWord_iff.mpr ⟨by simpa using halpha c (by simp), fun d hd => Or.inl (halpha d hd)⟩

theorem IntegerType.isWord {type : IntegerType} (spelling : Spelling type.word) :
    IsWord spelling.val :=
  spelling.isWord (by cases type <;> decide)

theorem EnumerationKind.isWord (kind : EnumerationKind) : IsWord kind.word.toList := by
  cases kind <;> decide

theorem spells_sizeText (n : UInt64) :
    Spells (DeclaredType.sizeText n) (tokensInParentheses [numberToken n]) :=
  (Spells.number n).inParentheses

theorem AtBorder.inParentheses (t : Text) : AtBorder (inParentheses t) := AtBorder.cons (by decide) _

theorem spells_unsigned (unsigned : Bool) :
    AtBorder (wordsIf unsigned " UNSIGNED") ∧
      Spells (wordsIf unsigned " UNSIGNED")
        (if unsigned then [.word "UNSIGNED".toList] else []) := by
  cases unsigned
  · exact ⟨AtBorder.nil, Spells.nil⟩
  · have hword : Spells "UNSIGNED".toList [.word "UNSIGNED".toList] := Spells.word (by decide)
    exact ⟨AtBorder.cons (by decide) _, hword.space⟩

theorem DeclaredType.spells_text : ∀ type : DeclaredType, Spells type.text type.tokens
  | .integer type spelling width unsigned => by
    have hword := Spells.word (IntegerType.isWord spelling)
    obtain ⟨hborder, hunsigned⟩ := spells_unsigned unsigned
    cases width with
    | none => exact hword.append hborder hunsigned
    | some n =>
      exact hword.append ((AtBorder.inParentheses _).append hborder)
        ((spells_sizeText n).append hborder hunsigned)
  | .varchar length =>
    (Spells.word (by decide)).append (AtBorder.inParentheses _) (spells_sizeText length)
  | .decimal precision scale => by
    have hscale := Spells.mark (c := ',') (by simp) (Spells.number scale)
    have hsizes := (Spells.number precision).append (AtBorder.cons (by decide) _) hscale
    exact (Spells.word (by decide)).append (AtBorder.inParentheses _) hsizes.inParentheses
  | .dateTime => Spells.word (by decide)
  | .enumeration kind members _ => by
    have hmembers := Spells.join members fun member _ => Spells.string member
    exact (Spells.word kind.isWord).append (AtBorder.inParentheses _) hmembers.inParentheses

theorem DeclaredOption.spells_text : ∀ option : DeclaredOption, Spells option.text option.tokens
  | .notNull => Spells.wordBefore (w := "NOT".toList) (by decide) (Spells.word (by decide))
  | .primaryKey => Spells.wordBefore (w := "PRIMARY".toList) (by decide) (Spells.word (by decide))
  | .unique => Spells.word (by decide)
  | .autoIncrement => Spells.word (by decide)
  | .comment contents =>
    Spells.wordBefore (w := "COMMENT".toList) (by decide) (Spells.string contents)

/-- Options begin at a border, and each of them stands after a space. -/
theorem spells_options (options : List DeclaredOption) :
    AtBorder (options.flatMap fun option => ' ' :: option.text) ∧
      Spells (options.flatMap fun option => ' ' :: option.text)
        (options.flatMap DeclaredOption.tokens) := by
  induction options with
  | nil => exact ⟨AtBorder.nil, Spells.nil⟩
  | cons option rest ih =>
    rw [List.flatMap_cons, List.flatMap_cons]
    exact ⟨AtBorder.cons (by decide) _, (option.spells_text.append ih.1 ih.2).space⟩

theorem DeclaredColumn.spells_text (column : DeclaredColumn) :
    Spells column.text column.tokens := by
  obtain ⟨hborder, hoptions⟩ := spells_options column.options
  have htype := column.type.spells_text.append hborder hoptions
  exact (Spells.name column.name).append (AtBorder.cons (by decide) _) htype.space

theorem KeyKind.spells_text : ∀ kind : KeyKind, Spells kind.text kind.tokens
  | .primary => Spells.wordBefore (w := "PRIMARY".toList) (by decide) (Spells.word (by decide))
  | .index name => Spells.wordBefore (w := "KEY".toList) (by decide) (Spells.name name)
  | .unique name =>
    Spells.wordBefore (w := "UNIQUE".toList) (by decide)
      (Spells.wordBefore (w := "KEY".toList) (by decide) (Spells.name name))

theorem DeclaredKey.spells_text (key : DeclaredKey) : Spells key.text key.tokens := by
  have hcolumns := Spells.join key.columns fun name _ => Spells.name name
  exact key.kind.spells_text.append (AtBorder.cons (by decide) _) hcolumns.inParentheses.space

theorem DeclaredItem.spells_text : ∀ item : DeclaredItem, Spells item.text item.tokens
  | .column declared => declared.spells_text
  | .key declared => declared.spells_text

theorem DeclaredTable.spells_nameText (table : DeclaredTable) :
    Spells table.nameText table.nameTokens := by
  unfold DeclaredTable.nameText DeclaredTable.nameTokens
  cases table.qualifier with
  | none => exact Spells.name table.name
  | some qualifier => exact Spells.qualifiedName qualifier table.name

/-- **The tokens of a declaration's text.** The proof goes through the parts of the declaration as
the text does, with `Spells.append` between a part and the border that follows it. -/
theorem DeclaredTable.spells_text (table : DeclaredTable) : Spells table.text table.tokens := by
  have hitems := Spells.join table.items fun item _ => item.spells_text
  -- From the inside out: the items, the name in front of them, and the words in front of that.
  have hname := table.spells_nameText.append (AtBorder.cons (by decide) _) hitems.inParentheses.space
  have htable := Spells.wordBefore (w := "TABLE".toList) (by decide) hname
  exact Spells.wordBefore (w := "CREATE".toList) (by decide) htable

end TableModel.Ddl
