import TableModel.Ddl.DataType
import TableModel.Proofs.Ddl.Quoting
import TableModel.Proofs.Text.Words
import TableModel.Schema

/-!
# The name of a written type

What stands in parentheses belongs to no type name, as long as the parentheses and the quotes inside
are what they seem (`outside_inParentheses`). The members of an enumeration are written with a quote
behind a backslash left single, and that quote changes sides: from there on, what is inside quotes
is read as if it was outside. `exposed` is what of the members is then read as part of the type, and
the type keeps its name and is not unsigned exactly if the words in it are words on the sign other
than `UNSIGNED` (`ofText_enumeration_iff`).

That takes a quote behind a backslash in some member and a closing parenthesis in some member:
without the former the quotes are balanced (`exposed_eq_nil`), without the latter the parentheses
never close too early (`words_exposed_eq_nil`).
-/

namespace TableModel.TypeName

open Ddl

/-! ### Outside parentheses -/

theorem outside_append {t : Text} (h : '(' ∉ t) (u : Text) :
    outside 0 false (t ++ u) = t ++ outside 0 false u := by
  induction t with
  | nil => rfl
  | cons c rest ih =>
    obtain ⟨hc, hrest⟩ := not_or.mp (List.mem_cons.not.mp h)
    rw [List.cons_append, outside, ih hrest]
    simp [Ne.symm hc]

theorem outside_eq_self {t : Text} (h : '(' ∉ t) : outside 0 false t = t := by
  have happend := outside_append h []
  rwa [List.append_nil, outside, List.append_nil] at happend

/-- Inside parentheses, a character that is no quote and no parenthesis is passed over. -/
theorem outside_cons_inside {c : Char} (hc : c ≠ '\'' ∧ c ≠ '(' ∧ c ≠ ')') (depth : Nat)
    (quoted : Bool) (t : Text) :
    outside (depth + 1) quoted (c :: t) = outside (depth + 1) quoted t := by
  rw [outside]
  simp [hc]

/-- Parentheses that hold no quotes and no parentheses leave a space. -/
theorem outside_inParentheses {t : Text} (h : ∀ c ∈ t, c ≠ '\'' ∧ c ≠ '(' ∧ c ≠ ')') (u : Text) :
    outside 0 false (inParentheses t ++ u) = ' ' :: outside 0 false u := by
  have hinside : outside 1 false (t ++ ')' :: u) = outside 0 false u := by
    induction t with
    | nil => rfl
    | cons c rest ih =>
      rw [List.cons_append, outside_cons_inside (h c (by simp)),
        ih fun d hd => h d (List.mem_cons_of_mem c hd)]
  rw [inParentheses, List.cons_append, List.append_assoc]
  exact congrArg (' ' :: ·) hinside

/-! ### Members of an enumeration -/

/-- What of the written members, which an opening parenthesis stands before and a closing one
behind, is read as standing outside parentheses. -/
def exposed (members : List Text) : Text := outside 1 false (writeMembers members ++ [')'])

theorem join_cons_eq_self_iff (w : Text) (rest : List Text) :
    Text.join [' '] (w :: rest) = w ↔ rest = [] := by
  cases rest with
  | nil => simp
  | cons u more =>
    refine iff_of_false (fun h => ?_) (by simp)
    have hlength := congrArg List.length h
    simp at hlength

theorem isUnsignedWord_eq_false {word : Text} (h : isSignWord word = false) :
    isUnsignedWord word = false := by
  rw [isSignWord, Bool.or_eq_false_iff, Bool.or_eq_false_iff] at h
  exact h.1.1

/-- The word of an enumeration is followed by what is exposed of its members. -/
theorem outside_enumeration {word : Text} (hword : '(' ∉ word) (members : List Text) :
    outside 0 false (word ++ inParentheses (writeMembers members)) =
      word ++ ' ' :: exposed members := by
  rw [outside_append hword]
  rfl

/-- **Enumerations keep their name** exactly if the words that are exposed are words on the sign
other than `UNSIGNED`. -/
theorem ofText_enumeration_iff {word : Text} (hparenthesis : '(' ∉ word)
    (hword : Text.words word = [word]) (hsign : isSignWord word = false) (members : List Text) :
    ofText (word ++ inParentheses (writeMembers members)) = ⟨word, false⟩ ↔
      ∀ w ∈ Text.words (exposed members), isSignWord w = true ∧ isUnsignedWord w = false := by
  have hwords : Text.words (outside 0 false (word ++ inParentheses (writeMembers members))) =
      word :: Text.words (exposed members) := by
    rw [outside_enumeration hparenthesis, Text.words_append_blank (by decide), hword]
    rfl
  -- The word itself is not on the sign, so both fields depend on the exposed words alone.
  have hunsigned := isUnsignedWord_eq_false hsign
  simp only [ofText, hwords, mk.injEq, List.filter_cons, hsign, Bool.not_false, if_true,
    join_cons_eq_self_iff, List.any_cons, hunsigned, Bool.false_or, List.any_eq_false,
    List.filter_eq_nil_iff]
  constructor
  · rintro ⟨hsigns, hunsigned⟩ w hw
    exact ⟨by simpa using hsigns w hw, by simpa using hunsigned w hw⟩
  · intro h
    exact ⟨fun w hw => by simp [(h w hw).1], fun w hw => by simp [(h w hw).2]⟩

/-! ### Nothing is exposed -/

/-- Between quotes, a text in which no quote stands behind a backslash is passed over. -/
theorem outside_doubleQuotes (b : Bool) (t u : Text) (hb : b = true → t.head? ≠ some '\'')
    (h : ¬ ['\\', '\''] <:+: t) :
    outside 1 true (doubleQuotes '\'' b t ++ u) = outside 1 true u := by
  induction b, t using doubleQuotes_induction '\'' with
  | nil b => rfl
  | other b c t hc ih =>
    rw [List.infix_cons_iff, not_or] at h
    have hhead : (c == '\\') = true → t.head? ≠ some '\'' := by
      intro hslash ht
      refine h.1 ?_
      rw [beq_iff_eq] at hslash
      cases t with
      | nil => simp at ht
      | cons d rest =>
        obtain rfl : d = '\'' := by simpa using ht
        subst hslash
        exact ⟨rest, rfl⟩
    rw [doubleQuotes_cons_of_ne hc, List.cons_append, outside]
    simp [hc, ih hhead h.2]
  | pair b t ih =>
    -- Two quotes lead out of the quotes and back in.
    have hb : b = false := by simpa using hb
    subst hb
    rw [List.infix_cons_iff, List.infix_cons_iff, not_or, not_or] at h
    rw [doubleQuotes_pair]
    exact ih (by simp) h.2.2
  | single b t ht ih =>
    -- No backslash stands in front of this quote, so it is written as two.
    have hb : b = false := by simpa using hb
    subst hb
    rw [List.infix_cons_iff, not_or] at h
    rw [doubleQuotes_single '\'' ht]
    exact ih (by simp) h.2

/-- **Nothing is exposed** of members in which no quote stands behind a backslash. -/
theorem exposed_eq_nil {members : List Text} (h : ∀ member ∈ members, ¬ ['\\', '\''] <:+: member) :
    exposed members = [] := by
  have hone : ∀ member ∈ members, ∀ u : Text,
      outside 1 false (Quote.single.write member ++ u) = outside 1 false u := by
    intro member hmember u
    have hbody := outside_doubleQuotes false member ('\'' :: u) (by simp) (h member hmember)
    rw [Quote.write, List.cons_append, List.append_assoc]
    exact hbody
  have hall : ∀ u : Text, outside 1 false (writeMembers members ++ u) = outside 1 false u := by
    unfold writeMembers Text.commaList
    induction members with
    | nil => simp
    | cons member rest ih =>
      intro u
      have hmember := hone member (by simp)
      have hrest := ih (fun m hm => h m (List.mem_cons_of_mem member hm))
        (fun m hm => hone m (List.mem_cons_of_mem member hm)) u
      cases rest with
      | nil => exact hmember u
      | cons next more =>
        -- The comma and the space in front of the next member are passed over.
        rw [List.map_cons, List.map_cons, Text.join_cons_cons, List.append_assoc, List.append_assoc,
          hmember]
        exact hrest
  exact (hall [')']).trans rfl

theorem eq_space_of_mem_outside {t : Text} (h : ')' ∉ t) (depth : Nat) (quoted : Bool) :
    ∀ c ∈ outside (depth + 1) quoted (t ++ [')']), c = ' ' := by
  induction t generalizing depth quoted with
  | nil => cases quoted <;> simp [outside]
  | cons d rest ih =>
    obtain ⟨hd, hrest⟩ := not_or.mp (List.mem_cons.not.mp h)
    rw [List.cons_append, outside]
    by_cases hquote : d = '\''
    · simpa [hquote] using ih hrest depth (!quoted)
    · by_cases hopen : d = '(' ∧ quoted = false
      · simpa [hopen] using ih hrest (depth + 1) false
      · simpa [hquote, hopen, Ne.symm hd] using ih hrest depth quoted

theorem mem_of_mem_doubleQuotes {quote c : Char} (b : Bool) (t : Text)
    (h : c ∈ doubleQuotes quote b t) : c ∈ t := by
  induction b, t using doubleQuotes_induction quote with
  | nil b => simp [doubleQuotes] at h
  | other b d t hd ih =>
    rw [doubleQuotes_cons_of_ne hd] at h
    exact List.mem_cons.mpr ((List.mem_cons.mp h).imp_right ih)
  | pair b t ih =>
    rw [doubleQuotes_pair] at h
    simp only [List.mem_cons] at h ⊢
    exact h.imp_right (Or.imp_right ih)
  | single b t ht ih =>
    cases b
    · rw [doubleQuotes_single quote ht] at h
      simp only [List.mem_cons] at h ⊢
      rcases h with h | h | h
      exacts [Or.inl h, Or.inl h, Or.inr (ih h)]
    · rw [doubleQuotes_true_cons] at h
      exact List.mem_cons.mpr ((List.mem_cons.mp h).imp_right ih)

theorem parenthesis_notMem_writeMembers {members : List Text}
    (h : ∀ member ∈ members, ')' ∉ member) : ')' ∉ writeMembers members := by
  intro hmem
  rcases Text.mem_of_mem_join hmem with hcomma | ⟨written, hwritten, hmem⟩
  · exact absurd hcomma (by decide)
  · obtain ⟨member, hmember, rfl⟩ := List.mem_map.mp hwritten
    have hbody : ')' ∈ doubleQuotes '\'' false member := by
      simpa [Quote.write, Quote.char] using hmem
    exact h member hmember (mem_of_mem_doubleQuotes false member hbody)

/-- **No words are exposed** of members without a closing parenthesis. -/
theorem words_exposed_eq_nil {members : List Text} (h : ∀ member ∈ members, ')' ∉ member) :
    Text.words (exposed members) = [] := by
  refine Text.words_eq_nil fun c hc => ?_
  rw [eq_space_of_mem_outside (parenthesis_notMem_writeMembers h) 0 false c hc]
  rfl

end TableModel.TypeName
