import TableModel.Ddl.DataType
import TableModel.Proofs.Ddl.Declared

/-!
# Readers on known tokens

A reader in front of tokens that are known takes a known number of them. The equations here are
those of the readers that look at a spelling, a number or a list; where a reader asks for one fixed
token after another, its equation holds by computation.
-/

namespace TableModel.Ddl.Parser

variable {α β : Type}

theorem bind_of_ok {p : Parser α} {f : α → Parser β} {s t : List Token} {a : α}
    (h : p s = .ok (a, t)) : (p >>= f) s = f a t := by
  change (p s >>= fun r => f r.1 r.2) = _
  rw [h]
  rfl

/-! ### Numbers -/

theorem toNat?_ofNat (n : Nat) : Text.toNat? (Text.ofNat n) = some n := by
  have hdigits := isDigit_ofNat n
  have hne : Text.ofNat n ≠ [] := Nat.toDigits_ne_nil
  have hvalue : Nat.ofDigitChars 10 (Nat.toDigits 10 n) 0 = n := Nat.ofDigitChars_ten_toDigits
  rw [Text.toNat?, if_neg]
  · rw [Nat.ofDigitChars_eq_foldl] at hvalue
    exact congrArg some hvalue
  · simpa [hne] using hdigits

theorem natural_numberToken (n : UInt64) (rest : List Token) :
    natural sizeBound (numberToken n :: rest) = .ok (n.toNat, rest) := by
  refine (bind_of_ok (p := next) rfl).trans ?_
  simp only [numberToken, toNat?_ofNat]
  exact congrFun (if_pos n.toNat_lt) rest

/-! ### Lists -/

/-- A reader of one item reads the items of a list up to a closing parenthesis. -/
theorem commaSeparatedSteps_commaTokens {p : Parser α} {f : β → List Token} {g : β → α}
    (hitem : ∀ b rest, p (f b ++ rest) = .ok (g b, rest)) (rest : List Token) :
    ∀ (items : List β) (steps : Nat), items ≠ [] → items.length ≤ steps →
      commaSeparatedSteps p steps (commaTokens (items.map f) ++ .symbol [')'] :: rest) =
        .ok (items.map g, .symbol [')'] :: rest)
  | [], _, hne, _ => absurd rfl hne
  | [b], steps + 1, _, _ => by
    have htokens : commaTokens ([b].map f) = f b := by simp [commaTokens]
    rw [htokens]
    exact (bind_of_ok (hitem b _)).trans rfl
  | b :: c :: more, steps + 1, _, hsteps => by
    have hmore := commaSeparatedSteps_commaTokens hitem rest (c :: more) steps (by simp)
      (by simpa using hsteps)
    have htokens : commaTokens ((b :: c :: more).map f) =
        f b ++ .symbol [','] :: commaTokens ((c :: more).map f) := by
      simp [commaTokens]
    rw [htokens, List.append_assoc]
    refine (bind_of_ok (hitem b _)).trans ((bind_of_ok (p := symbol ",") rfl).trans ?_)
    exact (bind_of_ok hmore).trans rfl

/-- A list has no more items than tokens between which the commas stand, but for the last one. -/
theorem length_le_length_commaTokens : ∀ items : List (List Token),
    items.length ≤ (commaTokens items).length + 1
  | [] | [_] => by simp
  | a :: b :: rest => by
    have hrest := length_le_length_commaTokens (b :: rest)
    simp only [commaTokens, List.intercalate_cons_cons, List.length_append, List.length_cons,
      List.length_nil] at hrest ⊢
    omega

/-- The items of a list in parentheses are read. -/
theorem parenthesized_commaTokens {p : Parser α} {f : β → List Token} {g : β → α}
    (hitem : ∀ b rest, p (f b ++ rest) = .ok (g b, rest)) {items : List β} (hne : items ≠ [])
    (rest : List Token) :
    parenthesized (commaSeparated p) (tokensInParentheses (commaTokens (items.map f)) ++ rest) =
      .ok (items.map g, rest) := by
  -- There are at least as many tokens as steps are needed for, one for each item.
  have hlength := length_le_length_commaTokens (items.map f)
  have hitems : commaSeparated p (commaTokens (items.map f) ++ .symbol [')'] :: rest) =
      .ok (items.map g, .symbol [')'] :: rest) :=
    commaSeparatedSteps_commaTokens hitem rest items _ hne (by simp at hlength ⊢; omega)
  rw [tokensInParentheses, List.cons_append, List.append_assoc]
  exact (bind_of_ok (p := expectSymbol "(") rfl).trans ((bind_of_ok hitems).trans rfl)

theorem columnNames_nameTokens {names : List Text} (hne : names ≠ []) (rest : List Token) :
    columnNames (nameTokens names ++ rest) =
      .ok (names.map fun name => ⟨name, some .backquote⟩, rest) :=
  parenthesized_commaTokens (fun _ _ => rfl) hne rest

/-! ### Words -/

theorem keyword_cons (k : String) (first : Token) (rest : List Token) :
    keyword k (first :: rest) =
      if first.isKeyword k then .ok (true, rest) else .ok (false, first :: rest) := by
  refine (bind_of_ok (p := get) rfl).trans ?_
  cases hfirst : first.isKeyword k <;> simp only [hfirst] <;> rfl

theorem keyword_word (k : String) (spelling : Text) (rest : List Token) :
    keyword k (.word spelling :: rest) =
      if Unicode.toUpper spelling == k.toList then .ok (true, rest)
      else .ok (false, .word spelling :: rest) :=
  keyword_cons k _ rest

/-- A built-in type is the first in the table whose word is next. -/
theorem builtinType_word (spelling : Text) (rest : List Token)
    {table : List (String × String × TypeArguments)} {k written : String}
    {arguments : TypeArguments}
    (h : table.find? (fun entry => Unicode.toUpper spelling == entry.1.toList) =
      some (k, written, arguments)) :
    builtinType table (.word spelling :: rest) = .ok (some (written, arguments), rest) := by
  induction table with
  | nil => cases h
  | cons entry more ih =>
    have hkeyword := keyword_word entry.1 spelling rest
    cases hword : Unicode.toUpper spelling == entry.1.toList
    · simp only [List.find?_cons, hword] at h
      rw [hword] at hkeyword
      exact (bind_of_ok hkeyword).trans (ih h)
    · simp only [List.find?_cons, hword, Option.some.injEq] at h
      subst h
      rw [hword] at hkeyword
      exact (bind_of_ok hkeyword).trans rfl

theorem toUpper_spelling {word : String} (spelling : Spelling word) (hword : IsWord spelling.val) :
    Unicode.toUpper spelling.val = word.toList := by
  rw [Unicode.toUpper_of_lt, spelling.property]
  intro c hc
  rcases (isWord_iff.mp hword).2 c hc with hc | rfl
  · exact toNat_lt_of_isAlpha hc
  · decide

end TableModel.Ddl.Parser
