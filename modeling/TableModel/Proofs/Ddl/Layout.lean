import Mathlib.Data.List.Chain
import TableModel.Proofs.Ddl.Scan

/-!
# Layouts

A text can be laid out in pieces (`Piece`): words, names, numbers, strings and marks as they are
written, with blanks and comments anywhere between them. A piece may stand right behind another one
unless that one would go on with its first character. So a word may follow a word only behind a
blank or a comment, and a name may follow a name only so, but a mark may follow anything. The tokens
of such a text are those of its pieces (`scans_pieces`).

`Spells t tokens` says that a text can be laid out so that its pieces have the given tokens. Texts
are put together by `Spells.append`, which asks the second one to begin with a character that no
piece goes on with (`AtBorder`).

A blank is white space between tokens. What is white space beyond ASCII does not stand between
tokens but begins words.
-/

namespace TableModel.Ddl

/-! ### Pieces -/

/-- Whether the character is white space that no word begins with. -/
def isGap (c : Char) : Bool := Text.isBlank c && !startsWord c

def numberToken (n : UInt64) : Token := .number (Text.ofNat n.toNat) false

/-- A piece of a text: a token as it is written, or a blank or a comment between tokens. -/
inductive Piece where
  | word (text : Text) (isWord : IsWord text)
  | name (text : Text)
  | number (n : UInt64)
  | string (contents : Text)
  | mark (c : Char) (isMark : c = '(' ∨ c = ')' ∨ c = ',' ∨ c = ';')
  | point
  | blank (c : Char) (isBlank : isGap c = true)
  | comment (body : Text) (isPlain : '*' ∉ body ∧ '/' ∉ body)

namespace Piece

def text : Piece → Text
  | .word text _ => text
  | .name text => quoteName text
  | .number n => Text.ofNat n.toNat
  | .string contents => quoteString contents
  | .mark c _ | .blank c _ => [c]
  | .point => ['.']
  | .comment body _ => '/' :: '*' :: (body ++ ['*', '/'])

/-- The token of a piece, unless it stands between tokens, as blanks and comments do. -/
def token? : Piece → Option Token
  | .word text _ => some (.word text)
  | .name text => some (.quotedName text)
  | .number n => some (numberToken n)
  | .string contents => some (.string .single contents)
  | .mark c _ => some (.symbol [c])
  | .point => some (.symbol ['.'])
  | .blank _ _ | .comment _ _ => none

/-- Whether the piece could be read together with the character, if that came next. It would go on
with it, or it is a word of one letter, which could be the mark of a string. -/
def goesOnWith : Piece → Char → Bool
  | .word _ _, c => continuesWord c || c == '\''
  | .name _, c => c == '\x60'
  | .number _, c => continuesWord c || c == '.'
  | .string _, c => c == '\''
  | .point, c => c.isDigit
  | .mark _ _, _ | .blank _ _, _ | .comment _ _, _ => false

end Piece

/-! ### Gaps -/

/-- The blanks are six ASCII characters; all other white space begins words. A no-break space in
front of a word of the grammar is part of it and makes it another word. -/
theorem mem_of_isGap {c : Char} (h : isGap c = true) :
    c = '\t' ∨ c = '\n' ∨ c = Char.ofNat 11 ∨ c = Char.ofNat 12 ∨ c = '\r' ∨ c = ' ' := by
  obtain ⟨hblank, hword⟩ := Bool.and_eq_true_iff.mp h
  have hoff : ¬ (0x80 ≤ c.toNat ∧ c.toNat ≤ 0xFFFF) := by
    rintro hin
    simp [startsWord, hin] at hword
  simp only [← Char.toNat_inj]
  simp only [Text.isBlank, Bool.or_eq_true, Bool.and_eq_true, decide_eq_true_eq] at hblank
  change c.toNat = 9 ∨ c.toNat = 10 ∨ c.toNat = 11 ∨ c.toNat = 12 ∨ c.toNat = 13 ∨ c.toNat = 32
  omega

/-- The tokens behind a character that is no part of a token. -/
theorem Scans.of_cons {c : Char} {t : Text} {tokens : List Token} {lexeme : Lexeme}
    (hone : scanOne c t = .ok (lexeme, t)) (hlexeme : lexeme.token? = none)
    (h : Scans (c :: t) tokens) : Scans t tokens := by
  intro steps hsteps
  obtain ⟨lexemes, hscan, htokens⟩ := h (steps + 1) (by simpa using hsteps)
  rw [scanSteps, hone] at hscan
  change scanSteps steps t >>= _ = _ at hscan
  cases hrest : scanSteps steps t with
  | error error =>
    rw [hrest] at hscan
    cases hscan
  | ok rest =>
    rw [hrest] at hscan
    cases hscan
    refine ⟨rest, rfl, ?_⟩
    rw [← htokens, Lexeme.tokens, Lexeme.tokens, List.filterMap_cons_none hlexeme]

theorem Scans.blank {c : Char} (hc : isGap c = true) {t : Text} {tokens : List Token}
    (h : Scans t tokens) : Scans (c :: t) tokens := by
  rcases mem_of_isGap hc with rfl | rfl | rfl | rfl | rfl | rfl
  · exact Scans.step .separator rfl le_rfl h
  · exact Scans.step .separator rfl le_rfl h
  · exact Scans.step (.gap [' ']) rfl le_rfl h
  · exact Scans.step (.gap [' ']) rfl le_rfl h
  · -- A line feed right behind a carriage return ends the same line.
    by_cases hfeed : t.head? = some '\n'
    · obtain ⟨rest, rfl⟩ := List.head?_eq_some_iff.mp hfeed
      exact Scans.step .separator rfl (by simp) (h.of_cons rfl rfl)
    · refine Scans.step .separator ?_ le_rfl h
      unfold scanOne
      split <;> simp_all
  · exact h.space

/-- A comment without stars and slashes inside ends where it is closed. -/
theorem commentBody_append : ∀ {body : Text} {last : Char}, '*' ∉ body ∧ '/' ∉ body → last ≠ '/' →
    ∀ t : Text, commentBody 0 last (body ++ '*' :: '/' :: t) = some (body ++ ['*', '/'], t)
  | [], last, _, hlast, t => by simp [commentBody, hlast]
  | c :: rest, last, ⟨hstar, hslash⟩, hlast, t => by
    obtain ⟨hstar, hstars⟩ := not_or.mp (mt List.mem_cons.mpr hstar)
    obtain ⟨hslash, hslashes⟩ := not_or.mp (mt List.mem_cons.mpr hslash)
    have hrest := commentBody_append ⟨hstars, hslashes⟩ (Ne.symm hslash) t
    simp [commentBody, Ne.symm hstar, Ne.symm hslash, hrest]

theorem Scans.comment {body : Text} (hbody : '*' ∉ body ∧ '/' ∉ body) {t : Text}
    {tokens : List Token} (h : Scans t tokens) :
    Scans ('/' :: '*' :: (body ++ '*' :: '/' :: t)) tokens := by
  refine Scans.step (.gap ('/' :: '*' :: (body ++ ['*', '/']))) ?_ (by simp; omega) h
  have hclosed := commentBody_append hbody (show ' ' ≠ '/' by decide) t
  simp only [scanOne, hclosed]
  rfl

/-! ### The tokens of pieces -/

theorem Piece.text_ne_nil : ∀ piece : Piece, piece.text ≠ []
  | .word text isWord => by
    rintro (rfl : text = [])
    cases isWord
  | .name _ | .string _ | .mark _ _ | .blank _ _ | .point | .comment _ _ => List.cons_ne_nil _ _
  | .number _ => Nat.toDigits_ne_nil

/-- A piece in front of a text that it does not go on with. -/
theorem Piece.scans (piece : Piece) {t : Text} {tokens : List Token}
    (ht : ∀ c, t.head? = some c → piece.goesOnWith c = false) (h : Scans t tokens) :
    Scans (piece.text ++ t) (piece.token?.toList ++ tokens) := by
  cases piece with
  | word text isWord => exact Scans.word isWord (fun c hc => by simpa [goesOnWith] using ht c hc) h
  | name text => exact Scans.name text (fun hc => Bool.noConfusion (ht _ hc)) h
  | number n => exact Scans.number n.toNat (fun c hc => by simpa [goesOnWith] using ht c hc) h
  | string contents => exact Scans.string contents (fun hc => Bool.noConfusion (ht _ hc)) h
  | mark c isMark => exact Scans.mark isMark h
  | point => exact Scans.point ht h
  | blank c isBlank => exact Scans.blank isBlank h
  | comment body isPlain => simpa [text, token?] using Scans.comment isPlain h

/-- **The tokens of pieces**, none of which goes on with the next one. Only neighbours matter, and
of the next piece only its first character. -/
theorem scans_pieces : ∀ {pieces : List Piece},
    pieces.IsChain (fun piece next => next.text.head?.any piece.goesOnWith = false) →
      Scans (pieces.flatMap Piece.text) (pieces.filterMap Piece.token?)
  | [], _ => Scans.nil
  | piece :: rest, hpieces => by
    obtain ⟨hnext, hmore⟩ := List.isChain_cons.mp hpieces
    have hrest := scans_pieces hmore
    have hends : ∀ c, (rest.flatMap Piece.text).head? = some c → piece.goesOnWith c = false := by
      intro c hc
      cases rest with
      | nil => cases hc
      | cons next more =>
        rw [List.flatMap_cons, List.head?_append_of_ne_nil _ next.text_ne_nil] at hc
        simpa [hc] using hnext next rfl
    have hpiece := piece.scans hends hrest
    cases htoken : piece.token? <;> simpa [htoken] using hpiece

/-! ### Borders -/

/-- Whether the character ends every piece: a blank, a mark, or what begins a comment. -/
def isBorder (c : Char) : Bool :=
  isGap c || c == '(' || c == ')' || c == ',' || c == ';' || c == '/'

theorem Piece.goesOnWith_of_isBorder {c : Char} (hc : isBorder c = true) (piece : Piece) :
    piece.goesOnWith c = false := by
  have hends : continuesWord c = false ∧ c.isDigit = false ∧ c ≠ '\'' ∧ c ≠ '\x60' ∧ c ≠ '.' := by
    simp only [isBorder, Bool.or_eq_true, beq_iff_eq] at hc
    rcases hc with ((((hgap | rfl) | rfl) | rfl) | rfl) | rfl
    · rcases mem_of_isGap hgap with rfl | rfl | rfl | rfl | rfl | rfl <;> decide
    all_goals decide
  obtain ⟨hword, hdigit, hquote, hbackquote, hpoint⟩ := hends
  cases piece <;> simp [goesOnWith, hword, hdigit, hquote, hbackquote, hpoint]

/-- The text begins with a character that ends every piece, or it is empty. Whatever stands in front
of such a text keeps its tokens. -/
def AtBorder (t : Text) : Prop := ∀ c, t.head? = some c → isBorder c = true

theorem AtBorder.nil : AtBorder [] := fun _ h => by cases h

theorem AtBorder.cons {c : Char} (hc : isBorder c = true) (t : Text) : AtBorder (c :: t) := by
  intro d hd
  cases hd
  exact hc

theorem AtBorder.append {t u : Text} (ht : AtBorder t) (hu : AtBorder u) : AtBorder (t ++ u) := by
  cases t with
  | nil => exact hu
  | cons c rest => exact AtBorder.cons (ht c rfl) _

/-! ### Texts that are laid out -/

/-- The text can be laid out in pieces that have the given tokens, none of which goes on with the
next one. Texts are put together by putting their pieces together, as long as the second begins at a
border, and in the end the scanner is run once over all pieces. -/
def Spells (t : Text) (tokens : List Token) : Prop :=
  ∃ pieces : List Piece,
    pieces.IsChain (fun piece next => next.text.head?.any piece.goesOnWith = false) ∧
      pieces.flatMap Piece.text = t ∧ pieces.filterMap Piece.token? = tokens

namespace Spells

variable {t u : Text} {tokens more : List Token}

/-- The tokens of the pieces are those of the text. -/
theorem scans (h : Spells t tokens) : Scans t tokens := by
  obtain ⟨pieces, hpieces, rfl, rfl⟩ := h
  exact scans_pieces hpieces

theorem nil : Spells [] [] := ⟨[], .nil, rfl, rfl⟩

theorem piece (piece : Piece) : Spells piece.text piece.token?.toList := by
  refine ⟨[piece], .singleton piece, List.flatMap_singleton _ _, ?_⟩
  cases htoken : piece.token? <;> simp [htoken]

/-- A text in front of another one that begins at a border. -/
theorem append (ht : Spells t tokens) (hborder : AtBorder u) (hu : Spells u more) :
    Spells (t ++ u) (tokens ++ more) := by
  obtain ⟨front, hfront, rfl, rfl⟩ := ht
  obtain ⟨back, hback, rfl, rfl⟩ := hu
  refine ⟨front ++ back, List.isChain_append.mpr ⟨hfront, hback, ?_⟩, List.flatMap_append,
    List.filterMap_append⟩
  intro last _ next hnext
  obtain ⟨rest, rfl⟩ := List.head?_eq_some_iff.mp hnext
  -- The text of the pieces behind begins with the first character of the first of them.
  rw [List.flatMap_cons] at hborder
  cases hhead : next.text.head? with
  | none => rfl
  | some c =>
    have hc : isBorder c = true := hborder c (by rw [List.head?_append, hhead, Option.some_or])
    exact last.goesOnWith_of_isBorder hc

theorem cons (front : Piece) (hfront : ∀ c, front.goesOnWith c = false) (ht : Spells t tokens) :
    Spells (front.text ++ t) (front.token?.toList ++ tokens) := by
  obtain ⟨pieces, hpieces, rfl, rfl⟩ := ht
  refine ⟨front :: pieces, List.isChain_cons.mpr ⟨fun next _ => ?_, hpieces⟩, rfl, ?_⟩
  · cases next.text.head? with
    | none => rfl
    | some c => exact hfront c
  · cases htoken : front.token? <;> simp [htoken]

theorem space (h : Spells t tokens) : Spells (' ' :: t) tokens :=
  cons (.blank ' ' (by decide)) (fun _ => rfl) h

theorem mark {c : Char} (hc : c = '(' ∨ c = ')' ∨ c = ',' ∨ c = ';') (h : Spells t tokens) :
    Spells (c :: t) (.symbol [c] :: tokens) :=
  cons (.mark c hc) (fun _ => rfl) h

theorem word {w : Text} (hw : IsWord w) : Spells w [.word w] := piece (.word w hw)

theorem number (n : UInt64) : Spells (Text.ofNat n.toNat) [numberToken n] := piece (.number n)

theorem name (name : Text) : Spells (quoteName name) [.quotedName name] := piece (.name name)

theorem string (contents : Text) : Spells (quoteString contents) [.string .single contents] :=
  piece (.string contents)

theorem wordBefore {w : Text} (hw : IsWord w) (h : Spells t tokens) :
    Spells (w ++ ' ' :: t) (.word w :: tokens) :=
  (word hw).append (AtBorder.cons (by decide) t) h.space

theorem qualifiedName (qualifier name : Text) :
    Spells (quoteName qualifier ++ '.' :: quoteName name)
      [.quotedName qualifier, .symbol ['.'], .quotedName name] := by
  refine ⟨[.name qualifier, .point, .name name], ?_, by simp [Piece.text], rfl⟩
  simp [Piece.text, Piece.goesOnWith, quoteName]

theorem inParentheses (h : Spells t tokens) :
    Spells (inParentheses t) (.symbol ['('] :: (tokens ++ [.symbol [')']])) :=
  mark (by simp) (h.append (AtBorder.cons (by decide) []) (mark (by simp) nil))

theorem join {α : Type} {write : α → Text} {tokens : α → List Token} :
    ∀ items : List α, (∀ a ∈ items, Spells (write a) (tokens a)) →
      Spells (Text.join [','] (items.map write))
        (List.intercalate [.symbol [',']] (items.map tokens))
  | [], _ => nil
  | [a], h => by simpa using h a (by simp)
  | a :: b :: rest, h => by
    have hrest := join (b :: rest) fun x hx => h x (List.mem_cons_of_mem a hx)
    have hcomma := mark (c := ',') (by simp) hrest
    simpa using (h a (by simp)).append (AtBorder.cons (by decide) _) hcomma

end Spells

end TableModel.Ddl
