import TableModel.Ddl.Statement
import TableModel.Proofs.Ddl.Reader

/-!
# The names that columns are declared under

What an item of a table declaration is, is decided by its first token. If that is one of the words
that begin a constraint, the item is a constraint or is rejected; there is no way back to a column.
So a column's name is never one of these words, unless it stands in quotes.

The argument follows the grammar from the item up to the statements of a text. At each layer it says
of what a reader gives (`Parser.Gives`) that it names columns in this way only.
-/

namespace TableModel.Ddl

namespace Parser

variable {α β : Type} {p : Parser α} {f : α → Parser β} {P : α → Prop} {Q : β → Prop}

/-! ### What a reader gives -/

/-- A sequence of two readers gives what the second one gives on the tokens the first one leaves. -/
theorem bind_eq_ok {s u : List Token} {b : β} :
    (p >>= f) s = .ok (b, u) ↔ ∃ a t, p s = .ok (a, t) ∧ f a t = .ok (b, u) := by
  change (p s >>= fun r => f r.1 r.2) = _ ↔ _
  cases p s with
  | error e => exact ⟨fun h => (nomatch h), fun ⟨_, _, h, _⟩ => (nomatch h)⟩
  | ok r => exact ⟨fun h => ⟨r.1, r.2, rfl, h⟩, fun ⟨_, _, h, h'⟩ => by cases h; exact h'⟩

/-- Whatever the reader gives, on any tokens, has the property. The lemmas below follow the ways in
which readers are put together, so that a property of statements is traced back to the one reader
that makes the part it is about. -/
def Gives (p : Parser α) (P : α → Prop) : Prop := ∀ s a t, p s = .ok (a, t) → P a

namespace Gives

theorem pure {a : α} (h : P a) : Gives (pure a) P := by
  intro s b t hb
  cases hb
  exact h

theorem reject : Gives (reject : Parser α) P := fun _ _ _ h => nomatch h

theorem bind (hp : Gives p P) (hf : ∀ a, P a → Gives (f a) Q) : Gives (p >>= f) Q := by
  intro s b u h
  obtain ⟨a, t, ha, hb⟩ := bind_eq_ok.mp h
  exact hf a (hp s a t ha) t b u hb

/-- What comes last decides on what is given. -/
theorem last (hf : ∀ a, Gives (f a) Q) : Gives (p >>= f) Q :=
  bind (P := fun _ => True) (fun _ _ _ _ => trivial) fun a _ => hf a

theorem ite {c : Prop} [Decidable c] {p q : Parser α} (hp : c → Gives p P) (hq : ¬ c → Gives q P) :
    Gives (if c then p else q) P := by
  by_cases h : c
  · rw [if_pos h]
    exact hp h
  · rw [if_neg h]
    exact hq h

end Gives

/-! ### Items -/

def unnamedConstraintWords : List String :=
  ["UNIQUE", "PRIMARY", "FOREIGN", "CHECK", "INDEX", "KEY", "FULLTEXT", "SPATIAL"]

/-- The words that begin a constraint or an index. -/
def constraintWords : List String := "CONSTRAINT" :: unnamedConstraintWords

variable (nested : Nested)

/-- There is no constraint only after a token that is none of the words. -/
theorem constraintAfter_none (first : Token) :
    Gives (constraintAfter nested false first) fun constraint =>
      constraint = none → ∀ k ∈ unnamedConstraintWords, first.isKeyword k = false := by
  rw [constraintAfter]
  refine .ite (fun _ => ?_) fun h1 => .ite (fun _ => ?_) fun h2 => .ite (fun _ => ?_) fun h3 =>
    .ite (fun _ => ?_) fun h4 => .ite (fun _ => ?_) fun h5 => .ite (fun _ => ?_) fun h6 => ?_
  -- Each of the words leads to a constraint or a rejection.
  · exact .last fun _ => .last fun _ => .pure nofun
  · exact .last fun _ => .last fun _ => .pure nofun
  · exact .last fun _ => .last fun _ => .pure nofun
  · exact .last fun _ => .pure nofun
  · refine .last fun _ => .ite (fun _ => ?_) fun _ => ?_ <;>
      exact .last fun _ => .last fun _ => .last fun _ => .pure nofun
  · exact .last fun _ => .last fun _ => .last fun _ => .pure nofun
  · refine .pure fun _ => ?_
    simp only [Bool.not_false, Bool.and_true, Bool.or_eq_true, not_or] at h5 h6
    simp [unnamedConstraintWords, h1, h2, h3, h4, h5, h6]

/-- Where there is no constraint, nothing is taken and the next token begins none. -/
theorem tableConstraint_none {s t : List Token} (h : tableConstraint nested s = .ok (none, t)) :
    t = s ∧ ∀ first ∈ s.head?, ∀ k ∈ constraintWords, first.isKeyword k = false := by
  cases s with
  | nil =>
    cases h
    exact ⟨rfl, fun _ hfirst => (nomatch hfirst)⟩
  | cons first rest =>
    obtain ⟨constraint, u, hkeyword, h⟩ := bind_eq_ok.mp h
    rw [keyword_cons] at hkeyword
    cases hfirst : first.isKeyword "CONSTRAINT" with
    | true =>
      -- The constraint has a name, so one has to follow.
      rw [hfirst] at hkeyword
      cases hkeyword
      refine absurd rfl ((?_ : Gives _ (· ≠ none)) _ _ _ h)
      refine .last fun _ => .last fun _ => .last fun constraint => ?_
      cases constraint with
      | some text => exact .pure nofun
      | none => exact .reject
    | false =>
      rw [hfirst] at hkeyword
      cases hkeyword
      obtain ⟨_, _, hget, h⟩ := bind_eq_ok.mp h
      cases hget
      obtain ⟨_, _, hset, h⟩ := bind_eq_ok.mp h
      cases hset
      obtain ⟨constraint, v, hafter, h⟩ := bind_eq_ok.mp h
      cases constraint with
      | some text => cases h
      | none =>
        cases h
        refine ⟨rfl, fun token htoken k hk => ?_⟩
        obtain rfl := Option.some.inj htoken
        rcases List.mem_cons.mp hk with rfl | hk
        · exact hfirst
        · exact constraintAfter_none nested first _ _ _ hafter rfl k hk

theorem identifier_eq_ok {s t : List Token} {name : Identifier} (h : identifier s = .ok (name, t)) :
    ∃ first, s = first :: t ∧ first.identifier? = some name := by
  cases s with
  | nil => exact nomatch h
  | cons first rest =>
    obtain ⟨token, u, hnext, h⟩ := bind_eq_ok.mp h
    cases hnext
    cases hname : first.identifier? with
    | none =>
      rw [hname] at h
      exact nomatch h
    | some found =>
      rw [hname] at h
      cases h
      exact ⟨first, rfl, hname⟩

theorem columnDefinition_name {s t : List Token} {definition : ColumnDefinition}
    (h : columnDefinition nested s = .ok (definition, t)) :
    ∃ first rest, s = first :: rest ∧ first.identifier? = some definition.name := by
  obtain ⟨name, u, hname, h⟩ := bind_eq_ok.mp h
  obtain ⟨first, hs, hfirst⟩ := identifier_eq_ok hname
  have hdefinition : definition.name = name := by
    refine Gives.last (Q := fun d => d.name = name) (fun type => .last fun collated => .ite
      (fun _ => ?_) fun _ => ?_) _ _ _ h
    all_goals exact .last fun _ => .last fun _ => .last fun _ => .pure rfl
  exact ⟨first, u, hs, hdefinition ▸ hfirst⟩

/-- A column begins with its name, which is a word or stands in backquotes, and with none of the
words that begin a constraint. -/
theorem tableItem_column {s t : List Token} {definition : ColumnDefinition}
    (h : tableItem nested s = .ok (.column definition, t)) :
    ∃ first rest, s = first :: rest ∧ first.identifier? = some definition.name ∧
      first.wordText?.isSome ∧ ∀ k ∈ constraintWords, first.isKeyword k = false := by
  obtain ⟨constraint, u, hconstraint, hitem⟩ := bind_eq_ok.mp h
  cases constraint with
  | some text => cases hitem
  | none =>
    obtain ⟨rfl, hwords⟩ := tableConstraint_none nested hconstraint
    obtain ⟨token, v, hpeek, hitem⟩ := bind_eq_ok.mp hitem
    cases hpeek
    cases u with
    | nil => exact nomatch hitem
    | cons first rest =>
      have hcolumn : first.wordText?.isSome ∧
          (columnDefinition nested >>= fun definition => pure (TableItem.column definition))
            (first :: rest) = .ok (.column definition, t) := by
        cases first with
        | word text => exact ⟨rfl, hitem⟩
        | quotedName text => exact ⟨rfl, hitem⟩
        | _ => exact nomatch hitem
      obtain ⟨htext, hcolumn⟩ := hcolumn
      obtain ⟨found, w, hfound, hcolumn⟩ := bind_eq_ok.mp hcolumn
      cases hcolumn
      obtain ⟨_, _, hcons, hname⟩ := columnDefinition_name nested hfound
      cases hcons
      exact ⟨first, rest, rfl, hname, htext, hwords first rfl⟩

/-- An item that begins with a name in backquotes is a column under this name, be the name a word
like `KEY` that begins something else where it stands without quotes. -/
theorem tableItem_quotedName {text : Text} {rest t : List Token} {item : TableItem}
    (h : tableItem nested (.quotedName text :: rest) = .ok (item, t)) :
    ∃ definition, item = .column definition ∧ definition.name = ⟨text, some .backquote⟩ := by
  obtain ⟨constraint, u, hconstraint, hitem⟩ := bind_eq_ok.mp h
  cases hconstraint
  obtain ⟨token, v, hpeek, hitem⟩ := bind_eq_ok.mp hitem
  cases hpeek
  obtain ⟨definition, w, hdefinition, hitem⟩ := bind_eq_ok.mp hitem
  cases hitem
  obtain ⟨first, _, hcons, hname⟩ := columnDefinition_name nested hdefinition
  cases hcons
  exact ⟨definition, rfl, (Option.some.inj hname).symm⟩

end Parser

/-- The names that a column can be declared under: a word only if it begins no constraint, and
anything in backquotes. -/
inductive Identifier.NamesColumn : Identifier → Prop
  | word {text : Text}
      (h : ∀ k ∈ Parser.constraintWords, Unicode.toUpper text ≠ k.toList) :
      NamesColumn ⟨text, none⟩
  | quoted (text : Text) : NamesColumn ⟨text, some .backquote⟩

/-- The names of the columns that a statement declares, if any, are such names. Statements that
declare no table satisfy this, since nothing of them but their words is kept. -/
def Statement.NamesColumns : Statement → Prop
  | .table declaration => ∀ definition ∈ declaration.columns, definition.name.NamesColumn
  | .explanation _ | .other _ => True

namespace Parser

variable (nested : Nested)

theorem gives_tableItem : Gives (tableItem nested) fun item =>
    ∀ definition ∈ item.column?, definition.name.NamesColumn := by
  intro s item t h definition hdefinition
  cases item with
  | constraint text => exact nomatch hdefinition
  | column found =>
    obtain rfl := Option.some.inj hdefinition
    obtain ⟨first, rest, -, hname, htext, hwords⟩ := tableItem_column nested h
    cases first with
    | word text =>
      obtain hname := Option.some.inj hname
      rw [← hname]
      exact .word fun k hk => by simpa [Token.isKeyword] using hwords k hk
    | quotedName text =>
      obtain hname := Option.some.inj hname
      rw [← hname]
      exact .quoted text
    | _ => exact nomatch htext

theorem gives_tableItemSteps (steps : Nat) : Gives (tableItemSteps nested steps) fun items =>
    ∀ definition ∈ items.filterMap TableItem.column?, definition.name.NamesColumn := by
  induction steps with
  | zero => exact .reject
  | succ steps ih =>
    refine .bind (gives_tableItem nested) fun item hitem => .last fun _ => .ite (fun _ => ?_)
      fun _ => .last fun _ => .ite (fun _ => ?_) fun _ => .reject
    · refine .bind ih fun items hitems => .pure ?_
      cases item with
      | column found => exact List.forall_mem_cons.mpr ⟨hitem found rfl, hitems⟩
      | constraint text => exact hitems
    · refine .pure ?_
      cases item with
      | column found => exact List.forall_mem_cons.mpr ⟨hitem found rfl, by simp⟩
      | constraint text => simp [TableItem.column?]

theorem gives_tableItems : Gives (tableItems nested) fun items =>
    ∀ definition ∈ items.filterMap TableItem.column?, definition.name.NamesColumn := by
  refine .last fun _ => .ite (fun _ => .last fun _ => .ite (fun _ => .pure ?_) fun _ =>
    .last fun _ => gives_tableItemSteps nested _) fun _ => .pure ?_ <;> simp

/-! ### Statements -/

theorem gives_tableDeclaration (modifiers : Text) :
    Gives (tableDeclaration nested modifiers) fun declaration =>
      ∀ definition ∈ declaration.columns, definition.name.NamesColumn :=
  .last fun _ => .last fun _ => .last fun _ => .last fun _ => .last fun _ =>
    .bind (gives_tableItems nested) fun _ hitems => .last fun _ => .pure hitems

theorem gives_externalTable (modifiers : Text) :
    Gives (externalTable nested modifiers) fun declaration =>
      ∀ definition ∈ declaration.columns, definition.name.NamesColumn :=
  .last fun _ => .last fun _ => .last fun _ => .bind (gives_tableItems nested) fun _ hitems =>
    .last fun _ => .last fun _ => .last fun _ => .pure hitems

theorem gives_creation (statement : Parser Statement) :
    Gives (creation nested statement) Statement.NamesColumns := by
  refine .last fun _ => .last fun _ => .ite (fun _ => ?_) fun _ => .last fun _ =>
    .ite (fun _ => ?_) fun _ => .last fun _ => .ite (fun _ => ?_) fun _ => ?_
  · exact .bind (gives_tableDeclaration nested _) fun _ h => .pure h
  · exact .bind (gives_externalTable nested _) fun _ h => .pure h
  · exact .last fun _ => .pure trivial
  · exact .last fun _ => .pure trivial

theorem gives_explanation (statement : Parser Statement) (word : String) :
    Gives (explanation statement word) Statement.NamesColumns := by
  refine .last fun _ => .last fun explained => ?_
  match explained with
  | some (.explanation _) => exact .reject
  | some (.table _) | some (.other _) => exact .pure trivial
  | none => exact .last fun _ => .last fun _ => .pure trivial

/-- A statement names its columns well, whatever stands inside it. -/
theorem gives_statementWith (rows : Parser Text) (statement : Parser Statement) :
    Gives (statementWith nested rows statement) Statement.NamesColumns := by
  refine .last fun _ => .ite (fun _ => gives_creation nested statement) fun _ => .last fun _ =>
    .ite (fun _ => .last fun _ => .pure trivial) fun _ => .last fun _ =>
    .ite (fun _ => .last fun _ => .pure trivial) fun _ => .last fun _ =>
    .ite (fun _ => .pure trivial) fun _ => .last fun word => ?_
  cases word with
  | some word => exact gives_explanation statement word
  | none =>
    refine .last fun _ => .ite (fun _ => ?_) fun _ => ?_ <;> exact .last fun _ => .pure trivial

theorem gives_statement (rows : Parser Text) :
    ∀ depth, Gives (statement rows depth) Statement.NamesColumns
  | 0 => fun _ _ _ h => nomatch h
  | _ + 1 => gives_statementWith _ rows _

/-- What holds of every statement holds of every one in a sequence. -/
theorem gives_statementSteps {statement : Parser Statement} {P : Statement → Prop}
    (h : Gives statement P) (steps : Nat) :
    Gives (statementSteps statement steps) fun found => ∀ s ∈ found, P s := by
  induction steps with
  | zero => exact .pure (by simp)
  | succ steps ih =>
    refine .last fun _ => .last fun _ => .ite (fun _ => .pure (by simp)) fun _ =>
      .bind h fun first hfirst => .last fun token => ?_
    have hone : ∀ s ∈ [first], P s := by simpa using hfirst
    cases token with
    | none => exact .pure hone
    | some token =>
      exact .ite (fun _ => .bind ih fun rest hrest => .pure (List.forall_mem_cons.mpr
        ⟨hfirst, hrest⟩)) fun _ => .ite (fun _ => .pure hone) fun _ => .reject

end Parser

/-- **Every column of a text is declared under a name that names no constraint.** Of the statements
that are read from a text, whatever they are, none declares a column under one of the words that
begin a constraint, `KEY` among them, unless it stands in backquotes. -/
theorem Statement.namesColumns_of_read {sql : Text} {statements : List Statement}
    (h : Statement.read sql = .ok statements) : ∀ s ∈ statements, s.NamesColumns := by
  rw [read] at h
  cases hlexemes : Lexeme.scan sql with
  | error error => rw [hlexemes] at h; cases h
  | ok lexemes =>
    simp only [hlexemes] at h
    have hgives : Parser.Gives (Parser.statements
        (Parser.statement (Parser.inlineRows lexemes) nestingLimit)) fun found =>
          ∀ s ∈ found, s.NamesColumns :=
      .last fun _ => Parser.gives_statementSteps (Parser.gives_statement _ _) _
    cases hfound : Parser.statements (Parser.statement (Parser.inlineRows lexemes) nestingLimit)
        (Lexeme.tokens lexemes) with
    | error error => rw [hfound] at h; cases h
    | ok found =>
      rw [hfound] at h
      cases h
      exact hgives _ _ _ hfound

end TableModel.Ddl
