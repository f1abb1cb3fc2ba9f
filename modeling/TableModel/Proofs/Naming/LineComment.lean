import TableModel.Naming
import TableModel.Proofs.Naming.Unquoting

/-!
# Comments on one line

A text is read from the left as characters and line breaks: a carriage return with the line feed
behind it is one break, and so is any carriage return or line feed that is left. There is exactly
one such reading (`Reads.eq`), and joining lines writes it down again with a space for each break
(`Reads.joinLines_eq`). That is also what two passes over the text give, the first of which looks
for pairs only (`joinLines_eq_map_joinPairs`).

So a comment for a field is its clean text with as many spaces more as it had line breaks
(`lineComment_reads`). Cleaning takes a comment for a name, though: one that begins with a quote and
ends with one loses both, whether they belong together or not (`lineComment_eq_iff`).
-/

namespace TableModel.Naming

/-! ### Line breaks -/

/-- What a text is made of when its lines matter: characters, and line breaks, each of which is a
line feed, a carriage return or the two together. -/
inductive LineItem where
  | character (c : Char)
  | lineBreak
  deriving DecidableEq, Repr

def LineItem.joined : LineItem → Char
  | .character c => c
  | .lineBreak => ' '

/-- How a text is read from the left. A carriage return is a break of its own only if no line feed
is behind it. -/
inductive Reads : Text → List LineItem → Prop
  | done : Reads [] []
  | character {c : Char} {t : Text} {items : List LineItem} (hreturn : c ≠ '\r') (hfeed : c ≠ '\n')
      (h : Reads t items) : Reads (c :: t) (.character c :: items)
  | pair {t : Text} {items : List LineItem} (h : Reads t items) :
      Reads ('\r' :: '\n' :: t) (.lineBreak :: items)
  | carriageReturn {t : Text} {items : List LineItem} (hfollow : t.head? ≠ some '\n')
      (h : Reads t items) : Reads ('\r' :: t) (.lineBreak :: items)
  | lineFeed {t : Text} {items : List LineItem} (h : Reads t items) :
      Reads ('\n' :: t) (.lineBreak :: items)

theorem exists_reads (t : Text) : ∃ items, Reads t items := by
  -- What is read next may take two characters, so the induction is on the length.
  induction hlength : t.length using Nat.strong_induction_on generalizing t with
  | _ n ih =>
    cases t with
    | nil => exact ⟨[], .done⟩
    | cons c rest =>
      obtain ⟨items, hitems⟩ := ih rest.length (by rw [← hlength]; exact Nat.lt_succ_self _) rest rfl
      by_cases hfeed : c = '\n'
      · subst hfeed
        exact ⟨_, .lineFeed hitems⟩
      by_cases hreturn : c = '\r'
      · subst hreturn
        by_cases hfollow : rest.head? = some '\n'
        · obtain ⟨more, rfl⟩ := List.head?_eq_some_iff.mp hfollow
          have hmore : more.length < n := by
            rw [← hlength, List.length_cons, List.length_cons]
            omega
          obtain ⟨others, hothers⟩ := ih more.length hmore more rfl
          exact ⟨_, .pair hothers⟩
        · exact ⟨_, .carriageReturn hfollow hitems⟩
      · exact ⟨_, .character hreturn hfeed hitems⟩

/-- There is only one way to read a text, because a carriage return in front of a line feed is
always read with it. -/
theorem Reads.eq {t : Text} {items others : List LineItem} (h : Reads t items)
    (h' : Reads t others) : items = others := by
  induction h generalizing others with
  | done => cases h'; rfl
  | character hreturn hfeed _ ih =>
    cases h' with
    | character _ _ hrest => rw [ih hrest]
    | pair => exact absurd rfl hreturn
    | carriageReturn => exact absurd rfl hreturn
    | lineFeed => exact absurd rfl hfeed
  | pair _ ih =>
    cases h' with
    | character hreturn => exact absurd rfl hreturn
    | pair hrest => rw [ih hrest]
    | carriageReturn hfollow => exact absurd rfl hfollow
  | carriageReturn hfollow _ ih =>
    cases h' with
    | character hreturn => exact absurd rfl hreturn
    | pair => exact absurd rfl hfollow
    | carriageReturn _ hrest => rw [ih hrest]
  | lineFeed _ ih =>
    cases h' with
    | character _ hfeed => exact absurd rfl hfeed
    | lineFeed hrest => rw [ih hrest]

/-! ### Joining lines -/

theorem joinLines_cons_of_ne {c : Char} (hreturn : c ≠ '\r') (hfeed : c ≠ '\n') (t : Text) :
    joinLines (c :: t) = c :: joinLines t := by
  cases t <;> simp [joinLines, hreturn, hfeed]

theorem joinLines_pair (t : Text) : joinLines ('\r' :: '\n' :: t) = ' ' :: joinLines t := by
  simp [joinLines]

theorem joinLines_carriageReturn {t : Text} (h : t.head? ≠ some '\n') :
    joinLines ('\r' :: t) = ' ' :: joinLines t := by
  cases t with
  | nil => simp [joinLines]
  | cons d rest =>
    have hd : d ≠ '\n' := by simpa using h
    simp [joinLines, hd]

theorem joinLines_lineFeed (t : Text) : joinLines ('\n' :: t) = ' ' :: joinLines t := by
  cases t <;> simp [joinLines]

/-- Joining lines is writing down what was read, with a space for each break. -/
theorem Reads.joinLines_eq {t : Text} {items : List LineItem} (h : Reads t items) :
    joinLines t = items.map LineItem.joined := by
  induction h with
  | done => rfl
  | character hreturn hfeed _ ih =>
    rw [joinLines_cons_of_ne hreturn hfeed, ih, List.map_cons, LineItem.joined]
  | pair _ ih => rw [joinLines_pair, ih, List.map_cons, LineItem.joined]
  | carriageReturn hfollow _ ih =>
    rw [joinLines_carriageReturn hfollow, ih, List.map_cons, LineItem.joined]
  | lineFeed _ ih => rw [joinLines_lineFeed, ih, List.map_cons, LineItem.joined]

theorem ne_of_mem_joinLines {c : Char} {t : Text} (h : c ∈ joinLines t) :
    c ≠ '\r' ∧ c ≠ '\n' := by
  obtain ⟨items, hitems⟩ := exists_reads t
  have hspace : LineItem.lineBreak.joined ≠ '\r' ∧ LineItem.lineBreak.joined ≠ '\n' := by decide
  rw [hitems.joinLines_eq] at h
  induction hitems with
  | done => exact absurd h List.not_mem_nil
  | character hreturn hfeed _ ih =>
    rcases List.mem_cons.mp h with rfl | hrest
    · exact ⟨hreturn, hfeed⟩
    · exact ih hrest
  | pair _ ih | carriageReturn _ _ ih | lineFeed _ ih =>
    rcases List.mem_cons.mp h with rfl | hrest
    · exact hspace
    · exact ih hrest

/-- Joined lines have a space more for each line break. -/
theorem Reads.count_joinLines {t : Text} {items : List LineItem} (h : Reads t items) :
    (joinLines t).count ' ' = t.count ' ' + items.count .lineBreak := by
  rw [h.joinLines_eq]
  induction h with
  | done => rfl
  | @character c t items _ _ _ ih =>
    rw [List.map_cons, LineItem.joined, List.count_cons, ih, List.count_cons,
      List.count_cons_of_ne (by simp), Nat.add_right_comm]
  | pair _ ih | carriageReturn _ _ ih | lineFeed _ ih =>
    rw [List.map_cons, LineItem.joined, List.count_cons_self, ih, List.count_cons_self]
    simp only [List.count_cons, Char.reduceBEq, Bool.false_eq_true, if_false]
    omega

theorem joinLines_eq_self {t : Text} (hreturn : '\r' ∉ t) (hfeed : '\n' ∉ t) :
    joinLines t = t := by
  induction t with
  | nil => rfl
  | cons c rest ih =>
    rw [List.mem_cons, not_or] at hreturn hfeed
    rw [joinLines_cons_of_ne (Ne.symm hreturn.1) (Ne.symm hfeed.1), ih hreturn.2 hfeed.2]

/-- The text in which every carriage return with a line feed behind it has become a space. -/
def joinPairs : Text → Text
  | [] => []
  | [c] => [c]
  | c :: d :: rest =>
    if c = '\r' && d = '\n' then ' ' :: joinPairs rest else c :: joinPairs (d :: rest)

/-- What becomes of a character that is left when pairs are gone: a carriage return or a line feed
becomes a space, another character stays. -/
def joinSingle (c : Char) : Char := if c = '\r' || c = '\n' then ' ' else c

/-- Two passes join lines as well: the first looks for pairs, the second for what it leaves. -/
theorem joinLines_eq_map_joinPairs (t : Text) :
    joinLines t = (joinPairs t).map joinSingle := by
  fun_induction joinLines t with
  | case1 => rfl
  | case2 c hbreak => simp [joinPairs, joinSingle, hbreak]
  | case3 c hbreak => simp [joinPairs, joinSingle, hbreak]
  | case4 c d rest hpair ih =>
    rw [joinPairs, if_pos hpair, List.map_cons, ← ih]
    rfl
  | case5 c d rest hpair ih => rw [joinPairs, if_neg hpair, List.map_cons, ← ih, joinSingle]

/-! ### Comments -/

/-- There is no line break in the comment for a field. -/
theorem ne_of_mem_lineComment {c : Char} {comment : Option Text} (h : c ∈ lineComment comment) :
    c ≠ '\r' ∧ c ≠ '\n' := by
  cases comment with
  | none => exact absurd h List.not_mem_nil
  | some comment =>
    rcases List.mem_append.mp h with hmem | hmem
    · exact ⟨ne_of_mem_of_not_mem hmem (by decide), ne_of_mem_of_not_mem hmem (by decide)⟩
    · exact ne_of_mem_joinLines hmem

/-- **A comment stays on its line.** Its clean text can be read in exactly one way as characters and
line breaks, and what is shown is this reading with a space for each break. There is no carriage
return and no line feed in it, the spaces it has more than the clean text are as many as the breaks,
and two passes over the clean text, for pairs and then for what is left, give the same. -/
theorem lineComment_reads (comment : Text) :
    ∃ items, (∀ others, Reads (cleanName comment) others ↔ others = items) ∧
      lineComment (some comment) = " // ".toList ++ items.map LineItem.joined ∧
      '\r' ∉ lineComment (some comment) ∧ '\n' ∉ lineComment (some comment) ∧
      (lineComment (some comment)).count ' ' =
        " // ".toList.count ' ' + (cleanName comment).count ' ' + items.count .lineBreak ∧
      lineComment (some comment) =
        " // ".toList ++ (joinPairs (cleanName comment)).map joinSingle := by
  obtain ⟨items, hitems⟩ := exists_reads (cleanName comment)
  have hunique : ∀ others, Reads (cleanName comment) others ↔ others = items := by
    intro others
    constructor
    · intro hothers
      exact hothers.eq hitems
    · rintro rfl
      exact hitems
  refine ⟨items, hunique, ?_, fun hmem => (ne_of_mem_lineComment hmem).1 rfl,
    fun hmem => (ne_of_mem_lineComment hmem).2 rfl, ?_, ?_⟩
  · rw [lineComment, hitems.joinLines_eq]
  · rw [lineComment, List.count_append, hitems.count_joinLines, Nat.add_assoc]
  · rw [lineComment, joinLines_eq_map_joinPairs]

example : lineComment (some "a\r\r\nb\n\rc".toList) = " // a  b  c".toList := by decide

/-- **A comment is shown as it was written** exactly if it does not begin and end with a pair of
quotes; this is about comments on one line without blanks at the ends. Between quotes, what is shown
is the text between them with its pairs collapsed. Not all of those are in quotes as a whole: a
comment is so exactly if no closing quote stands alone between its ends. -/
theorem lineComment_eq_iff {comment : Text} (htrim : Text.trim comment = comment)
    (hreturn : '\r' ∉ comment) (hfeed : '\n' ∉ comment) :
    (lineComment (some comment) = " // ".toList ++ comment ↔
      ∀ quotes : NameQuotes, ¬ quotes.Enclose comment) ∧
    ∀ (quotes : NameQuotes) (body : Text),
      comment = quotes.opening :: (body ++ [quotes.closing]) →
        lineComment (some comment) =
          " // ".toList ++ Text.trim (collapsePairs quotes.closing body) ∧
        ((∃ t, comment = quotes.around t) ↔
          Ddl.doubled (· == quotes.closing) (collapsePairs quotes.closing body) = body) := by
  have hshown : lineComment (some comment) = " // ".toList ++ cleanName comment := by
    rw [lineComment, joinLines_eq_self (fun h => hreturn (mem_of_mem_cleanName h))
      fun h => hfeed (mem_of_mem_cleanName h)]
  constructor
  · rw [hshown, List.append_right_inj, cleanName_eq_self_iff htrim]
  · rintro quotes body rfl
    refine ⟨?_, NameQuotes.exists_eq_around_iff⟩
    rw [hshown, cleanName_of_enclosed htrim]

/-- Two words, each in quotes: the first quote and the last are lost. -/
theorem lineComment_eq_iff_twoWords :
    let comment := "'a' and 'b'".toList
    Text.trim comment = comment ∧ '\r' ∉ comment ∧ '\n' ∉ comment ∧
      (∀ (quotes : NameQuotes) (t : Text), comment ≠ quotes.around t) ∧
      lineComment (some comment) = " // a' and 'b".toList ∧
      lineComment (some comment) ≠ " // ".toList ++ comment := by
  intro comment
  have htrim : Text.trim comment = comment := by decide
  have hreturn : '\r' ∉ comment := by decide
  have hfeed : '\n' ∉ comment := by decide
  obtain ⟨hshown, hquoted⟩ := lineComment_eq_iff htrim hreturn hfeed
  have hbetween := hquoted .singleQuotes "a' and 'b".toList (by decide)
  refine ⟨htrim, hreturn, hfeed, fun quotes t => ?_, ?_, ?_⟩
  · intro heq
    have hopening : quotes.opening = '\'' := (Option.some.inj (congrArg List.head? heq)).symm
    cases quotes with
    | singleQuotes => exact absurd (hbetween.2.mp ⟨t, heq⟩) (by decide)
    | backquotes | doubleQuotes | brackets => exact absurd hopening (by decide)
  · rw [hbetween.1]
    decide
  · intro heq
    exact hshown.mp heq .singleQuotes (by decide)

end TableModel.Naming
