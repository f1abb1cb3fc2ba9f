import Mathlib.Data.List.TakeWhile
import TableModel.Ddl.Parser
import TableModel.Proofs.Ddl.Quoting
import TableModel.Proofs.Unicode.AsciiCase

/-!
# The tokens of written text

`Scans t tokens` says that a text has the given tokens. Text is written piece by piece, so the rules
here put one piece in front of a text whose tokens are known. What follows a piece matters only for
where the piece ends: it has to begin with a character that the piece does not go on with.
-/

namespace TableModel.Ddl

/-- The text is cut into lexemes, and these are the tokens among them. Any number of steps will do
that is not smaller than the length of the text, so that the scan of a text goes through that of
what stands behind its first lexeme. -/
def Scans (t : Text) (tokens : List Token) : Prop :=
  ∀ steps, t.length ≤ steps →
    ∃ lexemes, scanSteps steps t = .ok lexemes ∧ Lexeme.tokens lexemes = tokens

theorem Scans.exists_scan {t : Text} {tokens : List Token} (h : Scans t tokens) :
    ∃ lexemes, Lexeme.scan t = .ok lexemes ∧ Lexeme.tokens lexemes = tokens :=
  h t.length le_rfl

theorem Scans.nil : Scans [] [] := fun steps _ => ⟨[], by cases steps <;> rfl, rfl⟩

/-- One step of the scan, as long as it does not lengthen the text. -/
theorem Scans.step (lexeme : Lexeme) {c : Char} {rest follow : Text} {tokens : List Token}
    (hone : scanOne c rest = .ok (lexeme, follow)) (hlength : follow.length ≤ rest.length)
    (h : Scans follow tokens) : Scans (c :: rest) (lexeme.token?.toList ++ tokens) := by
  intro steps hsteps
  -- The step takes a character, so one less will do for what follows.
  obtain ⟨n, rfl⟩ : ∃ n, steps = n + 1 := Nat.exists_eq_add_one.mpr (by simp at hsteps; omega)
  obtain ⟨lexemes, hscan, htokens⟩ := h n (by simp at hsteps; omega)
  refine ⟨lexeme :: lexemes, ?_, ?_⟩
  · simp [scanSteps, hone, hscan, bind, Except.bind]
  · rw [← htokens]
    cases lexeme <;> rfl

/-! ### Spaces and marks -/

theorem Scans.space {t : Text} {tokens : List Token} (h : Scans t tokens) :
    Scans (' ' :: t) tokens :=
  Scans.step (.gap [' ']) rfl le_rfl h

theorem Scans.mark {c : Char} (hc : c = '(' ∨ c = ')' ∨ c = ',' ∨ c = ';') {t : Text}
    {tokens : List Token} (h : Scans t tokens) : Scans (c :: t) (.symbol [c] :: tokens) := by
  refine Scans.step (.token (.symbol [c])) ?_ le_rfl h
  rcases hc with rfl | rfl | rfl | rfl <;> rfl

/-- A point is a mark of its own unless a digit follows. -/
theorem Scans.point {t : Text} {tokens : List Token}
    (ht : ∀ c, t.head? = some c → c.isDigit = false)
    (h : Scans t tokens) : Scans ('.' :: t) (.symbol ['.'] :: tokens) := by
  refine Scans.step (.token (.symbol ['.'])) ?_ le_rfl h
  have hdigits : t.takeWhile Char.isDigit = [] := by
    cases t with
    | nil => rfl
    | cons c rest => exact List.takeWhile_cons_of_neg (by simp [ht c rfl])
  have hnumber : numberAt ('.' :: t) = (.symbol ['.'], t) := by
    simp only [numberAt]
    rw [show ('.' :: t).takeWhile Char.isDigit = [] from rfl,
      show ('.' :: t).dropWhile Char.isDigit = '.' :: t from rfl]
    simp only [hdigits]
    rfl
  change Except.ok (Lexeme.token (numberAt ('.' :: t)).1, (numberAt ('.' :: t)).2) = _
  rw [hnumber]

/-! ### Quoted pieces -/

theorem Scans.name (name : Text) {t : Text} {tokens : List Token} (ht : t.head? ≠ some '\x60')
    (h : Scans t tokens) : Scans (quoteName name ++ t) (.quotedName name :: tokens) := by
  rw [quoteName, List.cons_append, List.append_assoc]
  refine Scans.step (.token (.quotedName name)) ?_ (by simp; omega) h
  have hbody := nameBody_doubled name ht
  change nameAt (doubled isBackquote name ++ '\x60' :: t) = _
  rw [nameAt, hbody]

theorem Scans.string (contents : Text) {t : Text} {tokens : List Token} (ht : t.head? ≠ some '\'')
    (h : Scans t tokens) :
    Scans (quoteString contents ++ t) (.string .single contents :: tokens) := by
  rw [quoteString, List.cons_append, List.append_assoc]
  refine Scans.step (.token (.string .single contents)) ?_ (by simp; omega) h
  have hbody := stringBody_doubled contents ht
  change stringAt (.string .single) '\'' (doubled isStringMark contents ++ '\'' :: t) = _
  rw [stringAt, hbody]

/-! ### Words -/

theorem takeWhile_dropWhile_append {p : Char → Bool} {piece t : Text}
    (hpiece : ∀ c ∈ piece, p c = true) (ht : ∀ c, t.head? = some c → p c = false) :
    (piece ++ t).takeWhile p = piece ∧ (piece ++ t).dropWhile p = t := by
  have hstop : t.takeWhile p = [] ∧ t.dropWhile p = t := by
    cases t with
    | nil => exact ⟨rfl, rfl⟩
    | cons c rest => simp [ht c rfl]
  rw [List.takeWhile_append_of_pos hpiece, List.dropWhile_append_of_pos hpiece, hstop.1, hstop.2,
    List.append_nil]
  exact ⟨rfl, rfl⟩

theorem isAlpha_of_isAlpha_toUpper {c : Char} (h : c.toUpper.isAlpha = true) :
    c.isAlpha = true := by
  by_cases hlower : 97 ≤ c.toNat ∧ c.toNat ≤ 122
  · exact isAlpha_iff.mpr (Or.inr hlower)
  · have hupper : c.toUpper = c := dif_neg hlower
    rwa [hupper] at h

theorem startsWord_of_isAlpha {c : Char} (h : c.isAlpha = true) : startsWord c = true := by
  simp [startsWord, Unicode.isAlphabetic, toNat_lt_of_isAlpha h, h]

theorem symbolAt_of_isAlpha {c : Char} (h : c.isAlpha = true) (rest : Text) :
    symbolAt (c :: rest) = none := by
  have hsymbols : ∀ s ∈ symbols, s.toList.head?.any (fun d => !d.isAlpha) = true := by
    decide +kernel
  rw [symbolAt, Option.map_eq_none_iff, List.find?_eq_none]
  intro s hs
  have hfirst := hsymbols s hs
  cases hlist : s.toList with
  | nil => simp [hlist] at hfirst
  | cons d more =>
    have hd : d.isAlpha = false := by simpa [hlist] using hfirst
    have hne : d ≠ c := by
      rintro rfl
      exact Bool.noConfusion (h.symm.trans hd)
    simp [hne]

/-- A letter begins a word, unless the letter marks a string. -/
theorem scanOne_of_isAlpha {c : Char} (h : c.isAlpha = true) {rest : Text}
    (hrest : rest.head? ≠ some '\'') :
    scanOne c rest =
      .ok (.token (.word (c :: rest.takeWhile continuesWord)), rest.dropWhile continuesWord) := by
  -- The cases of `scanOne` are for single characters; only the marks of strings are letters.
  unfold scanOne
  split
  all_goals try exact absurd h (by decide)
  all_goals try exact absurd rfl hrest
  have hpoint : c ≠ '.' := by
    rintro rfl
    exact absurd h (by decide)
  rw [if_neg (by simp [not_isDigit_of_isAlpha h, hpoint]), symbolAt_of_isAlpha h,
    if_pos (startsWord_of_isAlpha h)]
  rfl

/-- A word of the grammar is made of letters and underscores and begins with a letter. -/
def IsWord (w : Text) : Prop :=
  (w.head?.any Char.isAlpha && w.all fun c => c.isAlpha || c == '_') = true

instance (w : Text) : Decidable (IsWord w) := inferInstanceAs (Decidable (_ = true))

theorem isWord_iff {w : Text} :
    IsWord w ↔ w.head?.any Char.isAlpha = true ∧ ∀ c ∈ w, c.isAlpha = true ∨ c = '_' := by
  simp [IsWord]

/-- A word ends where a character follows that it does not go on with. In front of a quote a single
letter could be the mark of a string. -/
theorem Scans.word {w : Text} (hw : IsWord w) {t : Text} {tokens : List Token}
    (ht : ∀ c, t.head? = some c → continuesWord c = false ∧ c ≠ '\'') (h : Scans t tokens) :
    Scans (w ++ t) (.word w :: tokens) := by
  obtain ⟨hfirst, hall⟩ := isWord_iff.mp hw
  cases w with
  | nil => cases hfirst
  | cons c rest =>
    have hrest : ∀ d ∈ rest, continuesWord d = true := by
      intro d hd
      rcases hall d (List.mem_cons_of_mem c hd) with hd | rfl
      · simp [continuesWord, startsWord_of_isAlpha hd]
      · rfl
    have hquote : (rest ++ t).head? ≠ some '\'' := by
      cases rest with
      | nil => exact fun hc => (ht '\'' hc).2 rfl
      | cons d more =>
        intro hd
        cases hd
        exact absurd (hrest '\'' (by simp)) (by decide)
    have hends := takeWhile_dropWhile_append hrest fun c hc => (ht c hc).1
    rw [List.cons_append]
    refine Scans.step (.token (.word (c :: rest))) ?_ (by simp) h
    rw [scanOne_of_isAlpha hfirst hquote, hends.1, hends.2]

/-! ### Numbers -/

theorem isDigit_ofNat (n : Nat) (c : Char) (hc : c ∈ Text.ofNat n) : c.isDigit = true :=
  Nat.isDigit_of_mem_toDigits (by decide) (by decide) hc

theorem scanOne_of_isDigit {c : Char} (h : c.isDigit = true) (rest : Text) :
    scanOne c rest = .ok (.token (numberAt (c :: rest)).1, (numberAt (c :: rest)).2) := by
  unfold scanOne
  split
  all_goals try exact absurd h (by decide)
  exact if_pos (by simp [h])

/-- Digits are a number where neither a point nor what a word goes on with follows. -/
theorem numberAt_append {digits t : Text} (hdigits : ∀ c ∈ digits, c.isDigit = true)
    (ht : ∀ c, t.head? = some c → continuesWord c = false ∧ c ≠ '.') :
    numberAt (digits ++ t) = (.number digits false, t) := by
  have hends := takeWhile_dropWhile_append hdigits fun c hc =>
    (Bool.or_eq_false_iff.mp (ht c hc).1).2
  have htail : numberTail digits t = (.number digits false, t) := by
    cases t with
    | nil => rfl
    | cons c rest =>
      obtain ⟨hc, -⟩ := ht c rfl
      -- The letters of exponents and the suffix are letters that a word goes on with.
      have hletter : ∀ d, continuesWord d = true → c ≠ d := by
        rintro d hd rfl
        exact Bool.noConfusion (hc.symm.trans hd)
      have he := hletter 'e' rfl
      have hE := hletter 'E' rfl
      have hL := hletter 'L' rfl
      have hexponent : exponentAt (c :: rest) = none := by
        cases rest with
        | nil => rfl
        | cons s more => simp [exponentAt, he, hE]
      rw [numberTail, hexponent]
      simp only [List.takeWhile_cons_of_neg (Bool.eq_false_iff.mp hc), List.isEmpty_nil,
        Bool.or_true, if_true]
      rw [numberTail.suffixed]
      rintro more ⟨⟩
      exact hL rfl
  rw [numberAt]
  simp only [hends.1, hends.2]
  split
  · exact absurd (ht 'x' rfl).1 (by decide)
  · exact absurd rfl (ht '.' rfl).2
  · exact htail

theorem Scans.number (n : Nat) {t : Text} {tokens : List Token}
    (ht : ∀ c, t.head? = some c → continuesWord c = false ∧ c ≠ '.') (h : Scans t tokens) :
    Scans (Text.ofNat n ++ t) (.number (Text.ofNat n) false :: tokens) := by
  have hdigits := isDigit_ofNat n
  obtain ⟨c, rest, hlist⟩ := List.exists_cons_of_ne_nil
    (show Text.ofNat n ≠ [] from Nat.toDigits_ne_nil)
  rw [hlist] at hdigits ⊢
  rw [List.cons_append]
  refine Scans.step (.token (.number (c :: rest) false)) ?_ (by simp) h
  rw [scanOne_of_isDigit (hdigits c (by simp)), ← List.cons_append, numberAt_append hdigits ht]

end TableModel.Ddl
