import TableModel.Model

/-!
# Reading a string literal back

Between the double quotes of a string a backslash stands for the character behind it, and the first
quote that no backslash protects ends the string. A text that was made fit for such a place is read
back as it was, up to the quote that was put behind it (`readGoString_goStringBody`): its own quotes
and backslashes are protected, and a backslash at its end does not reach the closing quote.

The method that gives the name of the table has such a string, so the name of the table can be read
off it, whatever the name is (`Draft.readGoString_accessorText`).
-/

namespace TableModel

/-- What a string says whose opening quote has been read, and the text behind its closing quote;
`none` if nothing closes it. -/
def readGoString : Text → Option (Text × Text)
  | [] => none
  | [c] => if c = '"' then some ([], []) else none
  | c :: d :: rest =>
    if c = '"' then some ([], d :: rest)
    else if c = '\\' then (readGoString rest).map fun (body, after) => (d :: body, after)
    else (readGoString (d :: rest)).map fun (body, after) => (c :: body, after)

theorem readGoString_quote (after : Text) : readGoString ('"' :: after) = some ([], after) := by
  cases after <;> simp [readGoString]

theorem readGoString_backslash (c : Char) (rest : Text) :
    readGoString ('\\' :: c :: rest) =
      (readGoString rest).map fun (body, after) => (c :: body, after) := by
  simp [readGoString]

theorem readGoString_cons_of_ne {c : Char} (hquote : c ≠ '"') (hslash : c ≠ '\\') {rest : Text}
    (hrest : rest ≠ []) :
    readGoString (c :: rest) =
      (readGoString rest).map fun (body, after) => (c :: body, after) := by
  obtain ⟨d, more, rfl⟩ := List.exists_cons_of_ne_nil hrest
  simp [readGoString, hquote, hslash]

/-! ### Making a text fit -/

theorem goStringBody_cons (c : Char) (rest : Text) :
    goStringBody (c :: rest) =
      (if c = '\\' || c = '"' then ['\\', c] else [c]) ++ goStringBody rest := rfl

/-- **A string says what it was made for**, and ends at the quote behind it. -/
theorem readGoString_goStringBody (t after : Text) :
    readGoString (goStringBody t ++ '"' :: after) = some (t, after) := by
  induction t with
  | nil => exact readGoString_quote after
  | cons c rest ih =>
    rw [goStringBody_cons, List.append_assoc]
    by_cases hmark : c = '\\' ∨ c = '"'
    · rw [if_pos (by simpa using hmark), List.cons_append, List.singleton_append,
        readGoString_backslash, ih]
      rfl
    · have hne : goStringBody rest ++ '"' :: after ≠ [] := by simp
      rw [if_neg (by simpa using hmark), List.singleton_append,
        readGoString_cons_of_ne (fun h => hmark (Or.inr h)) (fun h => hmark (Or.inl h)) hne, ih]
      rfl

/-- The text with a backslash in front of each occurrence of the character: one pass over the text,
which knows nothing of any other character. -/
def protect (mark : Char) (t : Text) : Text :=
  t.flatMap fun c => if c = mark then ['\\', c] else [c]

theorem protect_cons (mark c : Char) (rest : Text) :
    protect mark (c :: rest) = (if c = mark then ['\\', c] else [c]) ++ protect mark rest := rfl

/-- Two passes make a text fit as well: the one for quotes leaves alone what the one for backslashes
has put in. -/
theorem goStringBody_eq_protect (t : Text) : goStringBody t = protect '"' (protect '\\' t) := by
  induction t with
  | nil => rfl
  | cons c rest ih =>
    rw [goStringBody_cons, protect_cons, ih]
    by_cases hslash : c = '\\'
    · subst hslash
      rfl
    · rw [if_neg hslash, List.singleton_append, protect_cons]
      simp only [hslash, decide_false, Bool.false_or, decide_eq_true_eq]

/-! ### The method that gives the name of the table -/

/-- The method for a type differs from table to table. -/
theorem Draft.accessorText_inj {draft other : Draft} (h : other.typeName = draft.typeName) :
    other.accessorText = draft.accessorText ↔ other.tableName = draft.tableName := by
  constructor
  · intro heq
    unfold accessorText at heq
    rw [h] at heq
    have hbody : goStringBody other.tableName = goStringBody draft.tableName :=
      List.append_cancel_left (List.append_cancel_right heq)
    have hread := readGoString_goStringBody other.tableName []
    rw [hbody, readGoString_goStringBody] at hread
    exact (congrArg Prod.fst (Option.some.inj hread)).symm
  · intro heq
    unfold accessorText
    rw [h, heq]

/-- **The name of the table can be read off its method.** Behind the quote that follows `return`
stands a string that says the name of the table and ends where the method's own quote ends it:
only a line feed, the closing brace and another line feed follow. The text between the quotes is
the name with first its backslashes and then its quotes protected. So for one type, the methods of
two tables are the same exactly if the tables have the same name. -/
theorem Draft.readGoString_accessorText (draft : Draft) :
    (∃ literal,
      draft.accessorText = "func (m *".toList ++ draft.typeName ++
        ") TableName() string \x7b\n\treturn \"".toList ++ literal ∧
      literal = protect '"' (protect '\\' draft.tableName) ++ "\"\n\x7d\n".toList ∧
      readGoString literal = some (draft.tableName, "\n\x7d\n".toList)) ∧
    ∀ other : Draft, other.typeName = draft.typeName →
      (other.accessorText = draft.accessorText ↔ other.tableName = draft.tableName) := by
  have hclose : "\"\n\x7d\n".toList = '"' :: "\n\x7d\n".toList := by decide
  refine ⟨⟨goStringBody draft.tableName ++ "\"\n\x7d\n".toList, ?_, ?_, ?_⟩,
    fun other htype => accessorText_inj htype⟩
  · unfold accessorText
    rw [List.append_assoc]
  · rw [goStringBody_eq_protect]
  · rw [hclose, readGoString_goStringBody]

/-- A name that ends in a backslash, and one that goes on with a quote. -/
theorem Draft.readGoString_accessorText_backslash :
    let draft := Draft.start "T".toList "a\\".toList
    let other := Draft.start "T".toList "a\\\"".toList
    draft.accessorText =
        "func (m *T) TableName() string \x7b\n\treturn \"a\\\\\"\n\x7d\n".toList ∧
      readGoString "a\\\\\"\n\x7d\n".toList = some ("a\\".toList, "\n\x7d\n".toList) ∧
      other.typeName = draft.typeName ∧ other.accessorText ≠ draft.accessorText := by
  intro draft other
  obtain ⟨⟨literal, htext, hliteral, hread⟩, hother⟩ := draft.readGoString_accessorText
  rw [hliteral] at htext hread
  exact ⟨htext, hread, rfl, fun h => absurd ((hother other rfl).mp h) (by decide)⟩

end TableModel
