import Mathlib.Data.List.Infix
import TableModel.Ddl.Identifier
import TableModel.Ddl.Token.Lexer

/-!
# Quoting by doubling

SQL text protects the characters that end a quoted piece by writing them twice: the backquote in a
quoted name, the quote and the backslash in a string (`quoteName`, `quoteString`). Reading such a
piece gives the text back (`nameBody_doubled`, `stringBody_doubled`).

Writing a quoted piece does not undo that. `doubleQuotes` takes a pair of quotes, and any quote
behind a backslash, for already doubled and leaves it alone. So what it gives is the doubled text
exactly if neither occurs (`doubleQuotes_eq_doubled_iff`).
-/

namespace TableModel.Ddl

/-- The text in which every character that satisfies the condition stands twice. This is how a
quoted name holds backquotes and a string holds quotes and backslashes. -/
def doubled (p : Char → Bool) (t : Text) : Text := t.flatMap fun c => if p c then [c, c] else [c]

@[simp] theorem doubled_nil (p : Char → Bool) : doubled p [] = [] := rfl

theorem doubled_cons_of_pos {p : Char → Bool} {c : Char} (h : p c = true) (t : Text) :
    doubled p (c :: t) = c :: c :: doubled p t := by
  simp [doubled, h]

theorem doubled_cons_of_neg {p : Char → Bool} {c : Char} (h : p c = false) (t : Text) :
    doubled p (c :: t) = c :: doubled p t := by
  simp [doubled, h]

def isBackquote (c : Char) : Bool := c == '\x60'

/-- Whether the character ends a string in single quotes or begins an escape in it. -/
def isStringMark (c : Char) : Bool := c == '\'' || c == '\\'

/-- A name in backquotes, as it stands in SQL text: backquotes in the name are doubled, so that no
name is too strange to be declared. -/
def quoteName (name : Text) : Text := '\x60' :: (doubled isBackquote name ++ ['\x60'])

/-- A string in single quotes, as it stands in SQL text. Quotes and backslashes in it are doubled,
because a backslash begins an escape there. -/
def quoteString (contents : Text) : Text := '\'' :: (doubled isStringMark contents ++ ['\''])

/-! ### Reading -/

theorem nameBody_cons_of_ne {c : Char} (hc : c ≠ '\x60') {t : Text} (ht : t ≠ []) :
    nameBody (c :: t) = (nameBody t).map fun (body, after) => (c :: body, after) := by
  obtain ⟨d, rest, rfl⟩ := List.exists_cons_of_ne_nil ht
  exact if_neg hc

theorem nameBody_backquote {follow : Text} (h : follow.head? ≠ some '\x60') :
    nameBody ('\x60' :: follow) = some ([], follow) := by
  cases follow with
  | nil => rfl
  | cons d rest =>
    have hd : d ≠ '\x60' := by simpa using h
    exact (if_pos rfl).trans (if_neg hd)

/-- **Reading a quoted name** gives the name, if no further backquote follows. -/
theorem nameBody_doubled (name : Text) {follow : Text} (h : follow.head? ≠ some '\x60') :
    nameBody (doubled isBackquote name ++ '\x60' :: follow) = some (name, follow) := by
  induction name with
  | nil => exact nameBody_backquote h
  | cons c rest ih =>
    by_cases hc : c = '\x60'
    · subst hc
      rw [doubled_cons_of_pos rfl, List.cons_append, List.cons_append]
      refine ((if_pos rfl).trans (if_pos rfl)).trans ?_
      rw [ih]
      rfl
    · rw [doubled_cons_of_neg (by simpa [isBackquote] using hc), List.cons_append,
        nameBody_cons_of_ne hc (by simp), ih]
      rfl

theorem stringBody_cons_of_not_mark {c : Char} (hc : isStringMark c = false) {t : Text}
    (ht : t ≠ []) :
    stringBody '\'' (c :: t) = (stringBody '\'' t).map fun (body, after) => (c :: body, after) := by
  simp only [isStringMark, Bool.or_eq_false_iff, beq_eq_false_iff_ne] at hc
  obtain ⟨d, rest, rfl⟩ := List.exists_cons_of_ne_nil ht
  exact (if_neg hc.1).trans (if_neg hc.2)

/-- **Reading a string** gives its contents, if no further quote follows. -/
theorem stringBody_doubled (contents : Text) {follow : Text} (h : follow.head? ≠ some '\'') :
    stringBody '\'' (doubled isStringMark contents ++ '\'' :: follow) =
      some (contents, follow) := by
  induction contents with
  | nil =>
    cases follow with
    | nil => rfl
    | cons d rest =>
      have hd : d ≠ '\'' := by simpa using h
      exact (if_pos rfl).trans (if_neg hd)
  | cons c rest ih =>
    cases hc : isStringMark c
    · rw [doubled_cons_of_neg hc, List.cons_append, stringBody_cons_of_not_mark hc (by simp), ih]
      rfl
    · rw [doubled_cons_of_pos hc, List.cons_append, List.cons_append]
      simp only [isStringMark, Bool.or_eq_true, beq_iff_eq] at hc
      rcases hc with rfl | rfl
      · refine ((if_pos rfl).trans (if_pos rfl)).trans ?_
        rw [ih]
        rfl
      · refine ((if_neg (by decide)).trans (if_pos rfl)).trans ?_
        rw [ih]
        rfl

/-! ### Writing

`doubleQuotes` goes through a run of quotes by pairs, whether or not a backslash stands before it: a
pair comes out as it is. Only a quote without a partner, at the end of a run of odd length, is
treated differently: it is doubled unless the run follows a backslash. -/

theorem doubleQuotes_cons_of_ne {quote c : Char} (hc : c ≠ quote) (afterBackslash : Bool)
    (t : Text) :
    doubleQuotes quote afterBackslash (c :: t) = c :: doubleQuotes quote (c == '\\') t := by
  cases t <;> simp [doubleQuotes, hc]

/-- Behind a backslash a quote is left alone, and so are those that follow it. -/
theorem doubleQuotes_true_cons (quote : Char) (t : Text) :
    doubleQuotes quote true (quote :: t) = quote :: doubleQuotes quote true t := by
  cases t <;> simp [doubleQuotes]

theorem doubleQuotes_pair (quote : Char) (afterBackslash : Bool) (t : Text) :
    doubleQuotes quote afterBackslash (quote :: quote :: t) =
      quote :: quote :: doubleQuotes quote afterBackslash t := by
  cases afterBackslash
  · simp [doubleQuotes]
  · rw [doubleQuotes_true_cons, doubleQuotes_true_cons]

/-- A quote without a partner is doubled if its run does not follow a backslash. -/
theorem doubleQuotes_single (quote : Char) {t : Text} (h : t.head? ≠ some quote) :
    doubleQuotes quote false (quote :: t) = quote :: quote :: doubleQuotes quote false t := by
  cases t with
  | nil => simp [doubleQuotes]
  | cons d rest =>
    have hd : d ≠ quote := by simpa using h
    simp [doubleQuotes, hd]

/-- Induction along `doubleQuotes`: over other characters, pairs of quotes, and quotes without a
partner. It spares the lemmas below the look at two characters that the definition takes. -/
theorem doubleQuotes_induction (quote : Char) {motive : Bool → Text → Prop}
    (nil : ∀ b, motive b [])
    (other : ∀ b c t, c ≠ quote → motive (c == '\\') t → motive b (c :: t))
    (pair : ∀ b t, motive b t → motive b (quote :: quote :: t))
    (single : ∀ b t, t.head? ≠ some quote → motive b t → motive b (quote :: t)) (b : Bool) :
    ∀ t, motive b t
  | [] => nil b
  | [c] => by
    by_cases hc : c = quote
    · subst hc
      exact single b [] (by simp) (nil b)
    · exact other b c [] hc (nil _)
  | c :: d :: rest => by
    by_cases hc : c = quote
    · subst hc
      by_cases hd : d = c
      · subst hd
        exact pair b rest (doubleQuotes_induction d nil other pair single b rest)
      · exact single b (d :: rest) (by simpa using hd)
          (doubleQuotes_induction c nil other pair single b (d :: rest))
    · exact other b c (d :: rest) hc
        (doubleQuotes_induction quote nil other pair single _ (d :: rest))

theorem doubleQuotes_of_notMem {quote : Char} {t : Text} (h : quote ∉ t) (b : Bool) :
    doubleQuotes quote b t = t := by
  induction t generalizing b with
  | nil => simp [doubleQuotes]
  | cons c rest ih =>
    obtain ⟨hc, hrest⟩ := not_or.mp (List.mem_cons.not.mp h)
    rw [doubleQuotes_cons_of_ne (Ne.symm hc), ih hrest]

/-- What comes out does not begin with a quote if the text does not. -/
theorem head?_doubleQuotes_ne {quote : Char} (b : Bool) {t : Text} (h : t.head? ≠ some quote) :
    (doubleQuotes quote b t).head? ≠ some quote := by
  cases t with
  | nil => simp [doubleQuotes]
  | cons c rest =>
    have hc : c ≠ quote := by simpa using h
    rw [doubleQuotes_cons_of_ne hc]
    simpa using hc

theorem length_doubleQuotes_le (quote : Char) (b : Bool) (t : Text) :
    (doubleQuotes quote b t).length ≤ (doubled (· == quote) t).length := by
  induction b, t using doubleQuotes_induction quote with
  | nil b => simp [doubleQuotes]
  | other b c t hc ih =>
    rw [doubleQuotes_cons_of_ne hc, doubled_cons_of_neg (by simpa using hc)]
    simpa using ih
  | pair b t ih =>
    rw [doubleQuotes_pair, doubled_cons_of_pos (by simp), doubled_cons_of_pos (by simp)]
    simp only [List.length_cons]
    omega
  | single b t ht ih =>
    rw [doubled_cons_of_pos (by simp)]
    cases b
    · rw [doubleQuotes_single quote ht]
      simpa using ih
    · rw [doubleQuotes_true_cons]
      simp only [List.length_cons]
      omega

/-- **Writing is doubling** exactly for texts in which no quote stands next to another one or behind
a backslash. -/
theorem doubleQuotes_eq_doubled_iff {quote : Char} (hquote : quote ≠ '\\') (b : Bool) (t : Text) :
    doubleQuotes quote b t = doubled (· == quote) t ↔
      (b = true → t.head? ≠ some quote) ∧ ¬ [quote, quote] <:+: t ∧ ¬ ['\\', quote] <:+: t := by
  induction b, t using doubleQuotes_induction quote with
  | nil b => simp [doubleQuotes]
  | other b c t hc ih =>
    rw [doubleQuotes_cons_of_ne hc, doubled_cons_of_neg (by simpa using hc), List.cons_inj_right,
      ih]
    have hhead : ['\\', quote] <+: c :: t ↔ c = '\\' ∧ t.head? = some quote := by
      rw [List.cons_prefix_cons, eq_comm]
      cases t <;> simp [eq_comm]
    have hpair : ¬ [quote, quote] <+: c :: t := by simp [List.cons_prefix_cons, Ne.symm hc]
    simp only [List.infix_cons_iff, hhead, hpair, false_or, List.head?_cons, beq_iff_eq]
    have hne : some c ≠ some quote := by simpa using hc
    constructor
    · rintro ⟨hslash, hinfix, hslashes⟩
      exact ⟨fun _ => hne, hinfix, fun h => h.elim (fun h => hslash h.1 h.2) hslashes⟩
    · rintro ⟨-, hinfix, hslashes⟩
      exact ⟨fun h h' => hslashes (Or.inl ⟨h, h'⟩), hinfix, fun h => hslashes (Or.inr h)⟩
  | pair b t ih =>
    have hlength := length_doubleQuotes_le quote b t
    -- Doubling makes four quotes of the pair and `doubleQuotes` two, so lengths tell them apart.
    refine iff_of_false (fun h => ?_) fun h => h.2.1 ⟨[], t, rfl⟩
    rw [doubleQuotes_pair, doubled_cons_of_pos (by simp), doubled_cons_of_pos (by simp)] at h
    have hcount := congrArg List.length h
    simp only [List.length_cons] at hcount
    omega
  | single b t ht ih =>
    rw [doubled_cons_of_pos (by simp)]
    cases b
    · have hpair : ¬ [quote, quote] <+: quote :: t := by
        rw [List.cons_prefix_cons]
        cases t with
        | nil => simp
        | cons d rest => simpa [List.cons_prefix_cons, eq_comm] using ht
      have hslash : ¬ ['\\', quote] <+: quote :: t := by
        rw [List.cons_prefix_cons]
        exact fun h => hquote h.1.symm
      rw [doubleQuotes_single quote ht, List.cons_inj_right, List.cons_inj_right, ih]
      simp only [List.infix_cons_iff, hpair, hslash, false_or, Bool.false_eq_true, false_implies]
    · -- Behind a backslash the quote comes out single, and again the text is too short.
      have hlength := length_doubleQuotes_le quote true t
      refine iff_of_false (fun h => ?_) fun h => h.1 rfl rfl
      have hcount := congrArg List.length h
      rw [doubleQuotes_true_cons] at hcount
      simp only [List.length_cons] at hcount
      omega

end TableModel.Ddl
