import TableModel.Proofs.Naming.AsciiWords

/-!
# Separators, spellings and initialisms

What the exported name of an ASCII name depends on. Separators only divide it: the exported name is
put together from those of the parts between them (`exportedName_eq_flatMap_nameParts`), whichever
separators these are. Words of small letters can be spelled in five ways, with separators or with
capitals between them, and have one exported name (`goWords_write`). A word that is written in
capitals in Go is so between any two names, if the cuts of the name leave it in one piece.
-/

namespace TableModel

open Unicode

namespace Naming

/-! ### Separators -/

/-- The text has nothing but ASCII characters that are no letters or digits. -/
def IsSeparating (t : Text) : Prop := ∀ c ∈ t, c.toNat < 128 ∧ c.isAlphanum = false

instance (t : Text) : Decidable (IsSeparating t) := List.decidableBAll _ t

/-- The parts of a name between separators, where anything counts as a separator that is no ASCII
letter or digit, and no part is empty. -/
def nameParts (name : Text) : List Text := Text.pieces (!·.isAlphanum) name

theorem exportedName_append_separator {c : Char} (hc : c.isAlphanum = false) {t u : Text}
    (h : Text.IsAscii (t ++ c :: u)) :
    exportedName (t ++ c :: u) = exportedName t ++ exportedName u := by
  rw [exportedName_eq_flatMap, exportedName_eq_flatMap, exportedName_eq_flatMap,
    goWords_append_separator hc h, List.flatMap_append]

theorem IsSeparating.isAscii {t : Text} (h : IsSeparating t) : t.IsAscii := fun c hc => (h c hc).1

/-- Separators in front of a name leave no trace. -/
theorem exportedName_separating_append {gap : Text} (hgap : IsSeparating gap) {t : Text}
    (h : t.IsAscii) : exportedName (gap ++ t) = exportedName t := by
  induction gap with
  | nil => rfl
  | cons c rest ih =>
    obtain ⟨hc, hrest⟩ := List.forall_mem_cons.mp hgap
    have hascii : Text.IsAscii (c :: rest ++ t) := Text.isAscii_append.mpr ⟨hgap.isAscii, h⟩
    exact (exportedName_append_separator hc.2 (t := []) hascii).trans (ih hrest)

theorem exportedName_append_separating {gap : Text} (hgap : IsSeparating gap) {t : Text}
    (h : t.IsAscii) : exportedName (t ++ gap) = exportedName t := by
  cases gap with
  | nil => rw [List.append_nil]
  | cons c rest =>
    obtain ⟨hc, hrest⟩ := List.forall_mem_cons.mp hgap
    have hnone := exportedName_separating_append hrest (t := []) (List.forall_mem_nil _)
    rw [List.append_nil] at hnone
    rw [exportedName_append_separator hc.2 (Text.isAscii_append.mpr ⟨h, hgap.isAscii⟩), hnone]
    exact List.append_nil _

/-- The exported name is that of the parts between separators, put together. -/
theorem exportedName_eq_flatMap_nameParts {name : Text} (h : name.IsAscii) :
    exportedName name = (nameParts name).flatMap exportedName := by
  by_cases hall : ∀ c ∈ name, c.isAlphanum = true
  · have hpiece : Text.splitAt (!·.isAlphanum) name = [name] :=
      Text.splitAt_eq_singleton fun c hc => by rw [hall c hc]; rfl
    rw [nameParts, Text.pieces, hpiece]
    cases name with
    | nil => rfl
    | cons c rest => exact (List.flatMap_singleton _ _).symm
  · push Not at hall
    obtain ⟨c, hmem, hc⟩ := hall
    rw [← Bool.eq_false_iff] at hc
    obtain ⟨front, back, hname⟩ := List.append_of_mem hmem
    have hshorter : front.length < name.length ∧ back.length < name.length := by
      rw [hname, List.length_append, List.length_cons]
      omega
    have hascii := hname ▸ h
    obtain ⟨hfront, hback⟩ := Text.isAscii_append.mp hascii
    have hparts : nameParts name = nameParts front ++ nameParts back := by
      rw [hname]
      exact Text.pieces_append_cut (by rw [hc]; rfl) front back
    rw [hparts, List.flatMap_append, ← exportedName_eq_flatMap_nameParts hfront,
      ← exportedName_eq_flatMap_nameParts (Text.isAscii_cons.mp hback).2, hname,
      exportedName_append_separator hc hascii]
termination_by name.length
decreasing_by
  · exact hshorter.1
  · exact hshorter.2

/-- **Separators divide a name and nothing crosses them.** With an ASCII character between them that
is no letter or digit, two ASCII texts have their exported names one after the other; so they have
with any number of such characters between them and around them. The exported name of a text is
therefore put together from those of its parts between separators. -/
theorem exportedName_separated (a b : Text) (ha : a.IsAscii) (hb : b.IsAscii) :
    (∀ c : Char, c.toNat < 128 → c.isAlphanum = false →
      exportedName (a ++ [c] ++ b) = exportedName a ++ exportedName b) ∧
    (∀ front gap back : Text, IsSeparating front → IsSeparating gap → IsSeparating back → gap ≠ [] →
      exportedName (front ++ a ++ gap ++ b ++ back) = exportedName a ++ exportedName b) ∧
    exportedName a = (nameParts a).flatMap exportedName := by
  have hgaps : ∀ gap : Text, IsSeparating gap → gap ≠ [] →
      exportedName (a ++ gap ++ b) = exportedName a ++ exportedName b := by
    intro gap hgap hne
    obtain ⟨c, rest, rfl⟩ := List.exists_cons_of_ne_nil hne
    obtain ⟨hc, hrest⟩ := List.forall_mem_cons.mp hgap
    have hascii : Text.IsAscii (a ++ c :: (rest ++ b)) :=
      Text.isAscii_append.mpr ⟨ha, Text.isAscii_cons.mpr
        ⟨hc.1, Text.isAscii_append.mpr ⟨IsSeparating.isAscii hrest, hb⟩⟩⟩
    rw [List.append_assoc, List.cons_append, exportedName_append_separator hc.2 hascii,
      exportedName_separating_append hrest hb]
  refine ⟨fun c hlt hc => hgaps [c] (by simp [IsSeparating, hlt, hc]) (List.cons_ne_nil c []), ?_,
    exportedName_eq_flatMap_nameParts ha⟩
  intro front gap back hfront hgap hback hne
  have hmiddle : Text.IsAscii (a ++ gap ++ b) :=
    Text.isAscii_append.mpr ⟨Text.isAscii_append.mpr ⟨ha, hgap.isAscii⟩, hb⟩
  have hbehind := exportedName_append_separating hback hmiddle
  rw [← hgaps gap hgap hne, ← hbehind,
    ← exportedName_separating_append hfront (Text.isAscii_append.mpr ⟨hmiddle, hback.isAscii⟩)]
  simp only [List.append_assoc]

/-- Several separators, one of them a line end, and letters and digits that would make words of
their own without them. -/
theorem exportedName_separated_lineEnd :
    exportedName "$userX\r\nDay2.".toList = "UserXDay2".toList ∧
      exportedName "x.y".toList = exportedName "x_y".toList := by
  have hsplit := exportedName_separated "userX".toList "Day2".toList (by decide) (by decide)
  have hpoint := exportedName_separated "x".toList "y".toList (by decide) (by decide)
  constructor
  · refine (hsplit.2.1 ['$'] ['\r', '\n'] ['.'] ?_ ?_ ?_ ?_).trans (by decide +kernel) <;> decide
  · exact (hpoint.1 '.' (by decide) (by decide)).trans (hpoint.1 '_' (by decide) (by decide)).symm

/-! ### Spellings -/

/-- Where a word ends is seen alike in small letters and in capitals: between a letter and a
digit. -/
theorem endsWord_map_toLower (c : Char) (rest : Text) :
    endsWord c.toLower (rest.map Char.toLower) = endsWord c.toUpper (rest.map Char.toUpper) := by
  cases rest with
  | nil => simp [endsWord]
  | cons d more =>
    have hthird : (more.head?.map Char.toUpper).any Char.isLower = false := by
      cases more <;> simp
    simp [endsWord, hthird]

/-- The words of a name are the same in small letters and in capitals. -/
theorem asciiWords_map_toLower (t : Text) :
    asciiWords (t.map Char.toLower) = asciiWords (t.map Char.toUpper) := by
  induction t with
  | nil => rfl
  | cons c rest ih =>
    simp only [List.map_cons, asciiWords, endsWord_map_toLower, ih, isAlphanum_toLower,
      isAlphanum_toUpper, Char.toLower_toLower_eq_toLower, Char.toLower_toUpper_eq_toLower]

/-- The usual spellings of a name that is made of words: in small letters with underscores between
the words, the same with hyphens, in capitals with underscores, and without anything between the
words but a capital at the beginning of each, of the first word as well or of all but the first. -/
inductive Spelling
  | snake
  | kebab
  | screamingSnake
  | camel
  | pascal
  deriving DecidableEq, Repr

def capitalized (word : Text) : Text := word.modifyHead Char.toUpper

/-- A name that is made of words, as it is spelled. The words are meant to be in small letters,
since those of `snake` and `kebab` are left as they are. -/
def Spelling.write : Spelling → List Text → Text
  | snake, words => Text.join ['_'] words
  | kebab, words => Text.join ['-'] words
  | screamingSnake, words => Text.join ['_'] (words.map (·.map Char.toUpper))
  | camel, [] => []
  | camel, word :: rest => word ++ rest.flatMap capitalized
  | pascal, words => words.flatMap capitalized

/-- A word of at least two small ASCII letters. Of a single letter nothing tells where it ends when
the words are written with capitals and nothing between them. -/
def IsSmallWord (word : Text) : Prop := 2 ≤ word.length ∧ ∀ c ∈ word, c.isLower = true

instance (word : Text) : Decidable (IsSmallWord word) :=
  decidable_of_iff (2 ≤ word.length ∧ word.all Char.isLower = true)
    (and_congr_right' List.all_eq_true)

theorem toLower_of_isLower {c : Char} (h : c.isLower = true) : c.toLower = c :=
  Char.toLower_eq_of_not_isUpper (Char.not_isUpper_of_isLower h)

theorem endsWord_of_isLower {c : Char} (hc : c.isAlpha = true) {rest : Text}
    (hrest : ∀ d ∈ rest, d.isLower = true) : endsWord c rest = false := by
  cases rest with
  | nil => simp [endsWord]
  | cons d more =>
    have hd := hrest d List.mem_cons_self
    have hupper : d.isUpper = false := by simpa using Char.not_isUpper_of_isLower hd
    have hdigit : d.isDigit = false := not_isDigit_of_isAlpha (by simp [Char.isAlpha, hd])
    simp [endsWord, not_isDigit_of_isAlpha hc, hupper, hdigit]

theorem asciiWords_cons_of_isLower {c : Char} (hc : c.isAlpha = true) {rest : Text}
    (hrest : ∀ d ∈ rest, d.isLower = true) : asciiWords (c :: rest) = [c.toLower :: rest] := by
  induction rest generalizing c with
  | nil => simp [asciiWords, endsWord, Char.isAlphanum, hc, Text.consPiece]
  | cons d more ih =>
    obtain ⟨hd, hmore⟩ := List.forall_mem_cons.mp hrest
    rw [asciiWords, endsWord_of_isLower hc hrest, ih (by simp [Char.isAlpha, hd]) hmore,
      toLower_of_isLower hd]
    simp [Char.isAlphanum, hc, Text.consPiece]

theorem IsSmallWord.isAscii {word : Text} (h : IsSmallWord word) : word.IsAscii :=
  fun c hc => toNat_lt_of_isAlpha (by simp [Char.isAlpha, h.2 c hc])

/-- A small word has one word, and so it has with a capital in front. -/
theorem goWords_of_isSmallWord {word : Text} (h : IsSmallWord word) :
    goWords word = [word] ∧ goWords (capitalized word) = [word] := by
  have hascii := h.isAscii
  obtain ⟨hlength, hlower⟩ := h
  cases word with
  | nil => exact absurd hlength (by decide)
  | cons c rest =>
    obtain ⟨hc, hrest⟩ := List.forall_mem_cons.mp hlower
    have halpha : c.isAlpha = true := by simp [Char.isAlpha, hc]
    have hcapital : c.toUpper.isAlpha = true := by rw [Char.isAlpha_toUpper_eq_isAlpha, halpha]
    have hcapitalized : Text.IsAscii (c.toUpper :: rest) :=
      Text.isAscii_cons.mpr ⟨toNat_lt_of_isAlpha hcapital, (Text.isAscii_cons.mp hascii).2⟩
    rw [capitalized, List.modifyHead_cons, goWords_of_isAscii hascii,
      goWords_of_isAscii hcapitalized, asciiWords_cons_of_isLower halpha hrest,
      asciiWords_cons_of_isLower hcapital hrest, Char.toLower_toUpper_eq_toLower,
      toLower_of_isLower hc]
    exact ⟨rfl, rfl⟩

/-- The words of texts that are joined by a separator are those of the texts, since no word reaches
over the separator. -/
theorem goWords_join {c : Char} (hc : c.isAlphanum = false) (hlt : c.toNat < 128)
    {words : List Text} (h : ∀ word ∈ words, Text.IsAscii word) :
    Text.IsAscii (Text.join [c] words) ∧
      goWords (Text.join [c] words) = words.flatMap goWords := by
  induction words with
  | nil => exact ⟨List.forall_mem_nil _, rfl⟩
  | cons word rest ih =>
    obtain ⟨hword, hrest⟩ := List.forall_mem_cons.mp h
    obtain ⟨hascii, hwords⟩ := ih hrest
    cases rest with
    | nil => exact ⟨hword, (List.append_nil _).symm⟩
    | cons next more =>
      have hjoin : Text.join [c] (word :: next :: more) =
          word ++ c :: Text.join [c] (next :: more) := by simp
      have hall : Text.IsAscii (word ++ c :: Text.join [c] (next :: more)) :=
        Text.isAscii_append.mpr ⟨hword, Text.isAscii_cons.mpr ⟨hlt, hascii⟩⟩
      rw [hjoin, List.flatMap_cons, ← hwords]
      exact ⟨hall, goWords_append_separator hc hall⟩

theorem exists_getLast?_of_isLower {t : Text} (hne : t ≠ []) (h : ∀ c ∈ t, c.isLower = true) :
    ∃ c, t.getLast? = some c ∧ c.isLower = true :=
  ⟨t.getLast hne, List.getLast?_eq_some_getLast hne, h _ (List.getLast_mem hne)⟩

theorem capitalized_ends {word : Text} (h : IsSmallWord word) :
    (∃ d, (capitalized word).head? = some d ∧ d.isUpper = true) ∧
      ∃ c, (capitalized word).getLast? = some c ∧ c.isLower = true := by
  obtain ⟨hlength, hlower⟩ := h
  match word with
  | [] | [_] => exact absurd hlength (by simp)
  | first :: d :: rest =>
    obtain ⟨hfirst, hrest⟩ := List.forall_mem_cons.mp hlower
    refine ⟨⟨first.toUpper, rfl, ?_⟩, ?_⟩
    · rw [Char.isUpper_toUpper_eq_isAlpha, Char.isAlpha, hfirst, Bool.or_true]
    · rw [capitalized, List.modifyHead_cons, List.getLast?_cons_cons]
      exact exists_getLast?_of_isLower (List.cons_ne_nil d rest) hrest

theorem isAscii_capitalized {word : Text} (h : IsSmallWord word) :
    Text.IsAscii (capitalized word) := by
  intro c hc
  have hascii := h.isAscii
  cases word with
  | nil => exact absurd hc List.not_mem_nil
  | cons d rest =>
    rcases List.mem_cons.mp hc with rfl | hmem
    · refine toNat_lt_of_isAlpha ?_
      simp [Char.isAlpha, h.2 d List.mem_cons_self]
    · exact hascii c (List.mem_cons_of_mem d hmem)

/-- Words with capitals in front, behind a text that ends with a small letter, add themselves to the
words of the text. -/
theorem goWords_append_capitalized {words : List Text} (h : ∀ word ∈ words, IsSmallWord word)
    {front : Text} (hfront : front.IsAscii) {c : Char} (hlast : front.getLast? = some c)
    (hc : c.isLower = true) :
    goWords (front ++ words.flatMap capitalized) = goWords front ++ words := by
  induction words generalizing front c with
  | nil => simp
  | cons word rest ih =>
    obtain ⟨hword, hrest⟩ := List.forall_mem_cons.mp h
    obtain ⟨⟨d, hhead, hd⟩, e, hend, he⟩ := capitalized_ends hword
    have hascii : Text.IsAscii (front ++ capitalized word) :=
      Text.isAscii_append.mpr ⟨hfront, isAscii_capitalized hword⟩
    have hnext : (front ++ capitalized word).getLast? = some e := by
      rw [List.getLast?_append, hend]
      rfl
    rw [List.flatMap_cons, ← List.append_assoc, ih hrest hascii hnext he,
      goWords_append_capital hc hd hlast hhead hascii, (goWords_of_isSmallWord hword).2,
      List.append_assoc]
    rfl

theorem isAscii_map_toUpper {t : Text} (h : t.IsAscii) : Text.IsAscii (t.map Char.toUpper) := by
  intro c hc
  obtain ⟨d, hd, rfl⟩ := List.mem_map.mp hc
  have hlt := h d hd
  rw [toNat_toUpper]
  split <;> omega

/-- The words of an ASCII text are the same in small letters and in capitals. -/
theorem goWords_map_toLower {t : Text} (h : t.IsAscii) :
    goWords (t.map Char.toLower) = goWords (t.map Char.toUpper) := by
  have hlower : Text.IsAscii (t.map Char.toLower) := toLower_of_lt h ▸ h.toLower
  rw [goWords_of_isAscii hlower, goWords_of_isAscii (isAscii_map_toUpper h), asciiWords_map_toLower]

theorem goWords_map_toUpper {word : Text} (h : IsSmallWord word) :
    goWords (word.map Char.toUpper) = [word] := by
  have hlower : word.map Char.toLower = word :=
    List.map_congr_left (fun c hc => toLower_of_isLower (h.2 c hc)) |>.trans (List.map_id word)
  rw [← goWords_map_toLower h.isAscii, hlower, (goWords_of_isSmallWord h).1]

/-- **A name has the words that it is made of**, in whichever way it is spelled. Where separators
stand between the words they divide them; where none do, the border between a small letter and a
capital one does. -/
theorem goWords_write {words : List Text} (h : ∀ word ∈ words, IsSmallWord word)
    (spelling : Spelling) : goWords (spelling.write words) = words := by
  have hascii : ∀ word ∈ words, Text.IsAscii word := fun word hword => (h word hword).isAscii
  have hself : words.flatMap goWords = words := by
    rw [List.flatMap_congr fun word hword => (goWords_of_isSmallWord (h word hword)).1]
    exact List.flatMap_singleton' words
  cases spelling with
  | snake => exact (goWords_join (by decide) (by decide) hascii).2.trans hself
  | kebab => exact (goWords_join (by decide) (by decide) hascii).2.trans hself
  | screamingSnake =>
    have hcapitals : ∀ word ∈ words.map (·.map Char.toUpper), Text.IsAscii word := by
      intro word hword
      obtain ⟨small, hsmall, rfl⟩ := List.mem_map.mp hword
      exact isAscii_map_toUpper (hascii small hsmall)
    rw [Spelling.write, (goWords_join (by decide) (by decide) hcapitals).2, List.flatMap_map,
      List.flatMap_congr fun word hword => goWords_map_toUpper (h word hword)]
    exact List.flatMap_singleton' words
  | camel =>
    cases words with
    | nil => rfl
    | cons word rest =>
      obtain ⟨hword, hrest⟩ := List.forall_mem_cons.mp h
      have hne : word ≠ [] := List.ne_nil_of_length_pos (Nat.lt_of_lt_of_le Nat.two_pos hword.1)
      obtain ⟨c, hlast, hc⟩ := exists_getLast?_of_isLower hne hword.2
      rw [Spelling.write, goWords_append_capitalized hrest hword.isAscii hlast hc,
        (goWords_of_isSmallWord hword).1]
      rfl
  | pascal =>
    cases words with
    | nil => rfl
    | cons word rest =>
      obtain ⟨hword, hrest⟩ := List.forall_mem_cons.mp h
      obtain ⟨-, c, hlast, hc⟩ := capitalized_ends hword
      rw [Spelling.write, List.flatMap_cons,
        goWords_append_capitalized hrest (isAscii_capitalized hword) hlast hc,
        (goWords_of_isSmallWord hword).2]
      rfl

/-- A word of a Go name that comes from an ASCII word. -/
theorem goWord_of_isAscii {word : Text} (h : word.IsAscii) :
    goWord word = if String.ofList (word.map Char.toUpper) ∈ initialisms then word.map Char.toUpper
      else capitalized word := by
  have hcapitalize : capitalize word = capitalized word := by
    cases word with
    | nil => rfl
    | cons c rest =>
      rw [capitalize, upperChar_of_lt (h c List.mem_cons_self)]
      rfl
  rw [goWord, toUpper_of_lt h, hcapitalize]
  simp only [isInitialism_iff]

/-- **The spelling of a name does not change its exported name.** An ASCII text has the same one in
small letters and in capitals. The words of a name have the same one in all five spellings: one
after the other, those that Go spells in capitals are in capitals, and each other one has a
capital in front. -/
theorem exportedName_spelling (text : Text) (htext : text.IsAscii) (words : List Text)
    (hwords : ∀ word ∈ words, IsSmallWord word) (spelling : Spelling) :
    exportedName (text.map Char.toLower) = exportedName (text.map Char.toUpper) ∧
      exportedName (spelling.write words) = words.flatMap fun word =>
        if String.ofList (word.map Char.toUpper) ∈ initialisms then word.map Char.toUpper
        else capitalized word := by
  constructor
  · rw [exportedName_eq_flatMap, exportedName_eq_flatMap, goWords_map_toLower htext]
  · rw [exportedName_eq_flatMap, goWords_write hwords]
    exact List.flatMap_congr fun word hword => goWord_of_isAscii (hwords word hword).isAscii

/-- A text with digits, and a name that begins and ends with a word in capitals. -/
theorem exportedName_spelling_userUrl :
    exportedName "utf8mb4".toList = exportedName "UTF8MB4".toList ∧
      exportedName "idOfUserUrl".toList = "IDOfUserURL".toList := by
  have hspelling := exportedName_spelling "Utf8Mb4".toList (by decide)
    (["id", "of", "user", "url"].map String.toList) (by decide) .camel
  exact ⟨hspelling.1, hspelling.2.trans (by decide +kernel)⟩

/-! ### Initialisms -/

/-- All initialisms are in capitals, and all but one are of letters, at least two of them. -/
theorem initialisms_checked :
    (∀ s ∈ initialisms, (s.toList.map Char.toLower).map Char.toUpper = s.toList) ∧
      ∀ s ∈ initialisms, s ≠ "UTF8" → IsSmallWord (s.toList.map Char.toLower) := by
  decide +kernel

/-- An initialism in small letters alone is put in capitals, except that the one with a digit is
taken apart first. -/
theorem exportedName_map_toLower {initialism : String} (h : initialism ∈ initialisms) :
    exportedName (initialism.toList.map Char.toLower) =
      (if initialism = "UTF8" then "Utf8" else initialism).toList := by
  split
  · next heq =>
    rw [heq]
    decide +kernel
  · next hne =>
    have hsmall := initialisms_checked.2 initialism h hne
    rw [exportedName_eq_flatMap, (goWords_of_isSmallWord hsmall).1, List.flatMap_singleton,
      goWord_of_isAscii hsmall.isAscii, initialisms_checked.1 initialism h, String.ofList_toList,
      if_pos h]

/-- What stands between underscores has its own exported name between those around it. -/
theorem exportedName_between_underscores {a word b : Text} (ha : a.IsAscii) (hword : word.IsAscii)
    (hb : b.IsAscii) : exportedName (a ++ ['_'] ++ word ++ ['_'] ++ b) =
      exportedName a ++ exportedName word ++ exportedName b := by
  have hfront : Text.IsAscii (a ++ '_' :: word) :=
    Text.isAscii_append.mpr ⟨ha, Text.isAscii_cons.mpr ⟨by decide, hword⟩⟩
  have hall : Text.IsAscii (a ++ '_' :: word ++ '_' :: b) :=
    Text.isAscii_append.mpr ⟨hfront, Text.isAscii_cons.mpr ⟨by decide, hb⟩⟩
  rw [List.append_assoc a, List.append_assoc _ ['_'] b, List.singleton_append,
    List.singleton_append, exportedName_append_separator (by decide) hall,
    exportedName_append_separator (by decide) hfront]

/-- **Initialisms are honoured in every context, but for one.** An initialism in small letters
between underscores stands in capitals between the exported names of what is around it. The one
exception is the initialism with a digit: the border between letter and digit takes it apart before
words are looked up, so that it is never honoured. -/
theorem exportedName_initialism (initialism : String) (h : initialism ∈ initialisms) (a b : Text)
    (ha : a.IsAscii) (hb : b.IsAscii) :
    let name := a ++ ['_'] ++ initialism.toList.map Char.toLower ++ ['_'] ++ b
    exportedName name = exportedName a ++
        (if initialism = "UTF8" then "Utf8" else initialism).toList ++ exportedName b ∧
      (exportedName name = exportedName a ++ initialism.toList ++ exportedName b ↔
        initialism ≠ "UTF8") := by
  intro name
  have hsmall : Text.IsAscii (initialism.toList.map Char.toLower) := by
    by_cases hdigit : initialism = "UTF8"
    · rw [hdigit]
      decide
    · exact (initialisms_checked.2 initialism h hdigit).isAscii
  have hname : exportedName name = exportedName a ++
      (if initialism = "UTF8" then "Utf8" else initialism).toList ++ exportedName b := by
    rw [exportedName_between_underscores ha hsmall hb, exportedName_map_toLower h]
  refine ⟨hname, ?_⟩
  rw [hname]
  split
  · next heq =>
    rw [heq, List.append_left_inj, List.append_right_inj]
    decide
  · next hne => exact iff_of_true rfl hne

/-- An initialism within a name, and the one with a digit. -/
theorem exportedName_initialism_uuid :
    exportedName "order_uuid_v2".toList = "OrderUUIDV2".toList ∧
      exportedName "a_utf8_b".toList ≠ "AUTF8B".toList := by
  have huuid := exportedName_initialism "UUID" (by decide +kernel) "order".toList "v2".toList
    (by decide) (by decide)
  have hdigit := exportedName_initialism "UTF8" (by decide +kernel) "a".toList "b".toList
    (by decide) (by decide)
  exact ⟨huuid.1.trans (by decide +kernel), fun heq =>
    hdigit.2.mp (heq.trans (by decide +kernel)) rfl⟩

end Naming

end TableModel
