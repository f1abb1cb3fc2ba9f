import TableModel.Ddl.Column
import TableModel.Proofs.Ddl.Reader

/-!
# Reading declared types

A declared type is read into its written form (`dataType_tokens`): the word in upper case, whatever
its spelling was, and the arguments as `DeclaredType.written` has them. What follows a type must not
look like a part of it. It is an option, a comma or a closing parenthesis (`Quiet`), and the same
holds of what follows an option, where the reader looks for words on when a key is checked.
-/

namespace TableModel.Ddl

/-- The written form of a type, which is what is kept of it when it is read. Words are in capitals
there however they were spelled, and the width of an integer and the members of an enumeration are
part of it. -/
def DeclaredType.written : DeclaredType → Text
  | .integer type _ width unsigned =>
    type.word ++ (width.elim [] sizeText ++ wordsIf unsigned " UNSIGNED")
  | .varchar length => "VARCHAR" ++ sizeText length
  | .decimal precision scale =>
    "DECIMAL" ++ inParentheses (Text.ofNat precision.toNat ++ ',' :: Text.ofNat scale.toNat)
  | .dateTime => "DATETIME"
  | .enumeration kind members _ => kind.word ++ inParentheses (writeMembers members)

/-- Tokens that begin with an option, a comma or a closing parenthesis. This is what stands behind
the type of a column, and behind each of its options; no reader of a type takes anything of it, so
that the type ends where it should. -/
inductive Quiet : List Token → Prop where
  | mark (c : Char) (hc : c = ',' ∨ c = ')') (rest : List Token) : Quiet (.symbol [c] :: rest)
  | option (option : DeclaredOption) (rest : List Token) : Quiet (option.tokens ++ rest)

/-! ### What is not there -/

def optionWords : List String := ["NOT", "PRIMARY", "UNIQUE", "AUTO_INCREMENT", "COMMENT"]

/-- No other keyword stands in front of an option or of the end of an item. -/
theorem Quiet.keyword {tokens : List Token} (h : Quiet tokens) {k : String}
    (hk : k ∉ optionWords) : Parser.keyword k tokens = .ok (false, tokens) := by
  cases h with
  | mark c hc rest => rfl
  | option option rest =>
    obtain ⟨word, more, hword, htokens, hupper⟩ : ∃ word more, word ∈ optionWords ∧
        option.tokens = .word word.toList :: more ∧
        Unicode.toUpper word.toList = word.toList := by
      cases option <;> exact ⟨_, _, by decide, rfl, by decide⟩
    have hne : word.toList ≠ k.toList := fun heq => hk (String.toList_inj.mp heq ▸ hword)
    rw [htokens, List.cons_append, Parser.keyword_word, hupper, if_neg (by simpa using hne)]

/-- No other mark stands there either. -/
theorem Quiet.symbol {tokens : List Token} (h : Quiet tokens) {s : String}
    (hs : s ≠ "," ∧ s ≠ ")") : Parser.symbol s tokens = .ok (false, tokens) := by
  cases h with
  | mark c hc rest =>
    have hne : [c] ≠ s.toList := by
      rintro heq
      rcases hc with rfl | rfl
      exacts [hs.1 (String.toList_inj.mp heq.symm), hs.2 (String.toList_inj.mp heq.symm)]
    have hsymbol : (Token.symbol [c]).isSymbol s = false := by simpa [Token.isSymbol] using hne
    refine (Parser.bind_of_ok (p := get) rfl).trans ?_
    simp only [hsymbol]
    rfl
  | option option rest => cases option <;> rfl

theorem Quiet.optionalSize {tokens : List Token} (h : Quiet tokens) :
    Parser.optionalSize tokens = .ok ([], tokens) :=
  (Parser.bind_of_ok (h.symbol (by decide))).trans rfl

theorem Quiet.brackets {tokens : List Token} (h : Quiet tokens) (steps : Nat) :
    Parser.bracketSteps steps tokens = .ok ([], tokens) := by
  cases steps with
  | zero => rfl
  | succ steps => exact (Parser.bind_of_ok (h.symbol (by decide))).trans rfl

/-- `NOT` is the only word here that could begin what is said on timing, but `NULL` follows it. -/
theorem Quiet.timing {tokens : List Token} (h : Quiet tokens) :
    Parser.timing tokens = .ok ([], tokens) := by
  cases h with
  | mark c hc rest => rcases hc with rfl | rfl <;> rfl
  | option option rest => cases option <;> rfl

namespace Parser

/-! ### Types -/

/-- A built-in type that is written as its word is read by the word and its arguments. -/
theorem dataType_builtin {spelling : Text} (word : String) (arguments : TypeArguments)
    (hspelling : Unicode.toUpper spelling = word.toList)
    (hfind : builtinTypes.find? (fun entry => word.toList == entry.1.toList) =
      some (word, word, arguments))
    (harray : word.toList ≠ "ARRAY".toList) (hinterval : word ≠ "INTERVAL")
    {tokens rest : List Token} {text : Text}
    (harguments : typeArguments arguments tokens = .ok (text, rest)) (hrest : Quiet rest) :
    dataType (.word spelling :: tokens) = .ok (⟨.builtin, word.toList ++ text⟩, rest) := by
  have hkeyword : keyword "ARRAY" (.word spelling :: tokens) =
      .ok (false, .word spelling :: tokens) := by
    rw [keyword_word, hspelling, if_neg (by simpa using harray)]
  have hbuiltin := builtinType_word spelling tokens (hspelling ▸ hfind)
  have hkind : (if word == "INTERVAL" then TypeKind.interval else .builtin) = .builtin :=
    if_neg (by simpa using hinterval)
  have hplain : ∀ element, plainType element (.word spelling :: tokens) =
      .ok ((⟨.builtin, word.toList ++ text⟩, false), rest) := by
    intro element
    refine (bind_of_ok (p := peek) rfl).trans ?_
    refine (bind_of_ok hkeyword).trans ((bind_of_ok hbuiltin).trans ?_)
    refine (bind_of_ok harguments).trans ?_
    rw [hkind]
    rfl
  have hnested : ∀ depth, nestedType (depth + 1) (.word spelling :: tokens) =
      .ok ((⟨.builtin, word.toList ++ text⟩, false), rest) := by
    intro depth
    refine (bind_of_ok (hplain _)).trans ((bind_of_ok (p := get) (t := rest) rfl).trans ?_)
    exact (bind_of_ok (hrest.brackets rest.length)).trans rfl
  refine (bind_of_ok (p := get) rfl).trans ?_
  exact (bind_of_ok (hnested _)).trans rfl

theorem optionalSize_numberToken (n : UInt64) (rest : List Token) :
    optionalSize (tokensInParentheses [numberToken n] ++ rest) =
      .ok (DeclaredType.sizeText n, rest) := by
  refine (bind_of_ok (p := symbol "(") rfl).trans ?_
  exact (bind_of_ok (natural_numberToken n _)).trans rfl

theorem signedSize_tokens (width : Option UInt64) (unsigned : Bool) {rest : List Token}
    (hrest : Quiet rest) :
    typeArguments .signedSize
        ((width.elim [] fun n => tokensInParentheses [numberToken n]) ++
          ((if unsigned then [.word "UNSIGNED".toList] else []) ++ rest)) =
      .ok (width.elim [] DeclaredType.sizeText ++ wordsIf unsigned " UNSIGNED", rest) := by
  have hsize : ∀ more, optionalSize more = .ok ([], more) →
      optionalSize ((width.elim [] fun n => tokensInParentheses [numberToken n]) ++ more) =
        .ok (width.elim [] DeclaredType.sizeText, more) := by
    intro more hmore
    cases width with
    | none => exact hmore
    | some n => exact optionalSize_numberToken n more
  cases unsigned
  · refine (bind_of_ok (hsize rest hrest.optionalSize)).trans ?_
    refine (bind_of_ok (hrest.keyword (by decide))).trans ?_
    exact congrArg (fun t => Except.ok (t, rest)) (List.append_nil _).symm
  · refine (bind_of_ok (hsize (.word "UNSIGNED".toList :: rest) rfl)).trans ?_
    exact (bind_of_ok (p := keyword "UNSIGNED") (t := rest) rfl).trans rfl

theorem optionalCharacters_numberToken (n : UInt64) (rest : List Token) :
    optionalCharacters (tokensInParentheses [numberToken n] ++ rest) =
      .ok (DeclaredType.sizeText n, rest) := by
  have hne : Text.ofNat n.toNat ≠ [] := Nat.toDigits_ne_nil
  have hphrase : Text.phrase [Text.ofNat n.toNat, []] = Text.ofNat n.toNat := by
    simp [Text.phrase, hne]
  refine (bind_of_ok (p := symbol "(") rfl).trans ?_
  refine (bind_of_ok (p := keyword "MAX") rfl).trans ?_
  refine (bind_of_ok (natural_numberToken n _)).trans ?_
  refine (bind_of_ok (p := oneOf _) (a := none) rfl).trans ?_
  exact congrArg (fun t => Except.ok (inParentheses t, rest)) hphrase

theorem optionalPrecision_numberTokens (precision scale : UInt64) (rest : List Token) :
    optionalPrecision
        (tokensInParentheses [numberToken precision, .symbol [','], numberToken scale] ++ rest) =
      .ok (inParentheses (Text.ofNat precision.toNat ++ ',' :: Text.ofNat scale.toNat), rest) := by
  refine (bind_of_ok (p := symbol "(") rfl).trans ?_
  refine (bind_of_ok (natural_numberToken precision _)).trans ?_
  refine (bind_of_ok (p := symbol ",") rfl).trans ?_
  exact (bind_of_ok (natural_numberToken scale _)).trans rfl

theorem members_tokens {members : List Text} (hne : members ≠ []) (rest : List Token) :
    typeArguments .members
        (tokensInParentheses (commaTokens (members.map fun t => [.string .single t])) ++ rest) =
      .ok (inParentheses (writeMembers members), rest) := by
  have hmembers := parenthesized_commaTokens (p := singleQuoted)
    (f := fun t => [.string .single t]) (g := id) (fun _ _ => rfl) hne rest
  rw [List.map_id] at hmembers
  exact (bind_of_ok hmembers).trans rfl

/-- **A declared type is read into its written form.** -/
theorem dataType_tokens (type : DeclaredType) {rest : List Token} (hrest : Quiet rest) :
    dataType (type.tokens ++ rest) = .ok (⟨.builtin, type.written⟩, rest) := by
  cases type with
  | integer type spelling width unsigned =>
    have hspelling := toUpper_spelling spelling (IntegerType.isWord spelling)
    have harguments := signedSize_tokens width unsigned hrest
    rw [DeclaredType.tokens, List.cons_append, List.append_assoc]
    refine dataType_builtin type.word .signedSize hspelling ?_ ?_ ?_ harguments hrest
    all_goals cases type <;> decide
  | varchar length =>
    have harguments := optionalCharacters_numberToken length rest
    exact dataType_builtin "VARCHAR" .characters (by decide) (by decide) (by decide) (by decide)
      harguments hrest
  | decimal precision scale =>
    have harguments := optionalPrecision_numberTokens precision scale rest
    exact dataType_builtin "DECIMAL" .precision (by decide) (by decide) (by decide) (by decide)
      harguments hrest
  | dateTime =>
    exact dataType_builtin "DATETIME" .size (by decide) (by decide) (by decide) (by decide)
      hrest.optionalSize hrest
  | enumeration kind members hne =>
    have hkind : Unicode.toUpper kind.word.toList = kind.word.toList := by cases kind <;> decide
    refine dataType_builtin kind.word .members hkind ?_ ?_ ?_ (members_tokens hne rest) hrest
    all_goals cases kind <;> decide

end Parser

end TableModel.Ddl
