import TableModel.Proofs.Naming.AsciiName
import TableModel.Proofs.Text.Words

/-!
# The words of ASCII names

An ASCII name can be cut into the words of its exported name character by character
(`goWords_of_isAscii`): clusters do not matter, and the two cuts, one at separators and borders and
one at everything that is no letter or digit, become one (`asciiWords`).

What is no letter or digit divides the words (`goWords_append_separator`): no border lies next to
it, and none looks past it. So does the border between a small letter and a capital one
(`goWords_append_capital`).
-/

namespace TableModel

open Unicode

/-! ### Clusters of ASCII texts -/

namespace Unicode

theorem joined_eq_false_of_lt {a b : Char} (ha : a.toNat < 128) (hb : b.toNat < 128)
    (h : ¬ (a = '\r' ∧ b = '\n')) : joined a b = false := by
  have hbeyond (ranges : Ranges) {c : Char} (hall : ∀ range ∈ ranges, 128 ≤ range.1)
      (hc : c.toNat < 128) : ranges.holds c = false := by
    rw [← Bool.not_eq_true, Ranges.holds_iff]
    rintro ⟨range, hmem, hle, -⟩
    have hge := hall range hmem
    omega
  have hjoining := hbeyond joiningRanges (by decide +kernel) hb
  have hprepended := hbeyond prependedRanges (by decide +kernel) ha
  simp [joined, h, hjoining, hprepended]

theorem exists_clusters_cons (c : Char) (t : Text) :
    ∃ cluster more, clusters (c :: t) = (c :: cluster) :: more := by
  rw [clusters]
  rcases clusters t with _ | ⟨_ | ⟨d, cluster⟩, more⟩
  · exact ⟨_, _, rfl⟩
  · exact ⟨_, _, rfl⟩
  · rw [pushCluster]
    split <;> exact ⟨_, _, rfl⟩

/-- An ASCII character is a cluster by itself if no line end begins with it. -/
theorem clusters_cons_of_isAscii {c : Char} {t : Text} (h : Text.IsAscii (c :: t))
    (hne : ¬ (c = '\r' ∧ t.head? = some '\n')) : clusters (c :: t) = [c] :: clusters t := by
  cases t with
  | nil => rfl
  | cons d rest =>
    obtain ⟨cluster, more, hclusters⟩ := exists_clusters_cons d rest
    obtain ⟨hc, hd, -⟩ := (Text.isAscii_cons.trans (and_congr_right' Text.isAscii_cons)).mp h
    have hjoined : joined c d = false := joined_eq_false_of_lt hc hd (by simpa using hne)
    rw [clusters, hclusters, pushCluster, if_neg (by simp [hjoined])]

/-- The first cluster of an ASCII text is a line end of two characters or the first character. -/
theorem clusters_cons_cases {c : Char} {t : Text} (h : Text.IsAscii (c :: t)) :
    (∃ rest, c = '\r' ∧ t = '\n' :: rest ∧ clusters (c :: t) = ['\r', '\n'] :: clusters rest) ∨
      clusters (c :: t) = [c] :: clusters t := by
  by_cases hend : c = '\r' ∧ t.head? = some '\n'
  · obtain ⟨rfl, hhead⟩ := hend
    obtain ⟨rest, rfl⟩ := List.head?_eq_some_iff.mp hhead
    have hfeed : clusters ('\n' :: rest) = ['\n'] :: clusters rest :=
      clusters_cons_of_isAscii (Text.isAscii_cons.mp h).2 (by simp)
    refine .inl ⟨rest, rfl, rfl, ?_⟩
    rw [clusters, hfeed]
    rfl
  · exact .inr (clusters_cons_of_isAscii h hend)

end Unicode

namespace Naming

/-! ### Borders between ASCII characters -/

theorem isUpper_singleton {c : Char} (h : c.toNat < 128) : isUpper [c] = c.isUpper := by
  have htext : Text.IsAscii [c] := fun d hd => List.mem_singleton.mp hd ▸ h
  rw [isUpper, toUpper_of_lt htext, toLower_of_lt htext]
  cases hc : c.isUpper with
  | true =>
    have hupper : c.toUpper = c := Char.toUpper_eq_of_not_isLower (Char.not_isLower_of_isUpper hc)
    have hlower : c ≠ c.toLower := fun heq => by
      simpa [← heq, hc] using Char.isUpper_toLower_eq_false c
    simp [hupper, hlower]
  | false =>
    have hlower : c.toLower = c := Char.toLower_eq_of_not_isUpper (by simp [hc])
    simpa [hlower] using fun hne => Ne.symm hne

theorem isLower_singleton {c : Char} (h : c.toNat < 128) : isLower [c] = c.isLower := by
  have htext : Text.IsAscii [c] := fun d hd => List.mem_singleton.mp hd ▸ h
  rw [isLower, toUpper_of_lt htext, toLower_of_lt htext]
  cases hc : c.isLower with
  | true =>
    have hlower : c.toLower = c := Char.toLower_eq_of_not_isUpper (Char.not_isUpper_of_isLower hc)
    have hupper : c.toUpper ≠ c := fun heq => by
      simpa [heq, hc] using Char.isLower_toUpper_eq_false c
    simp [hlower, hupper]
  | false =>
    have hupper : c.toUpper = c := Char.toUpper_eq_of_not_isLower (by simp [hc])
    simp [hupper]

theorem isDigit_singleton (c : Char) : isDigit [c] = c.isDigit := by
  simp [isDigit]

theorem head?_clusters_any {p : Text → Bool} {q : Char → Bool}
    (hchar : ∀ c, c.toNat < 128 → p [c] = q c) (hline : p ['\r', '\n'] = q '\r')
    {t : Text} (h : t.IsAscii) : (clusters t).head?.any p = t.head?.any q := by
  cases t with
  | nil => rfl
  | cons c rest =>
    obtain ⟨hc, -⟩ := Text.isAscii_cons.mp h
    rcases clusters_cons_cases h with ⟨more, rfl, rfl, hclusters⟩ | hclusters
    · rw [hclusters]
      simpa using hline
    · rw [hclusters]
      simpa using hchar c hc

/-- Whether a word of an ASCII name ends with a character that the text follows. -/
def endsWord (c : Char) (rest : Text) : Bool :=
  (c.isLower && rest.head?.any Char.isUpper) || (c.isAlpha && rest.head?.any Char.isDigit) ||
    (c.isDigit && rest.head?.any Char.isAlpha) ||
    (c.isUpper && rest.head?.any Char.isUpper && rest.tail.head?.any Char.isLower)

theorem of_isAlphanum_eq_false {c : Char} (h : c.isAlphanum = false) :
    c.isUpper = false ∧ c.isLower = false ∧ c.isDigit = false := by
  simpa [Char.isAlphanum, Char.isAlpha, and_assoc] using h

/-- No word ends with what is no letter or digit, as it is in none. -/
theorem endsWord_eq_false {c : Char} (h : c.isAlphanum = false) (rest : Text) :
    endsWord c rest = false := by
  obtain ⟨hupper, hlower, hdigit⟩ := of_isAlphanum_eq_false h
  simp [endsWord, Char.isAlpha, hupper, hlower, hdigit]

theorem borderAfterFirst_cons (a : Text) (rest : List Text) :
    borderAfterFirst (a :: rest) =
      ((isLower a && rest.head?.any isUpper) || (isLower a && rest.head?.any isDigit) ||
        (isUpper a && rest.head?.any isDigit) || (isDigit a && rest.head?.any isLower) ||
        (isDigit a && rest.head?.any isUpper) ||
        (isUpper a && rest.head?.any isUpper && rest.tail.head?.any isLower)) := by
  cases rest <;> simp [borderAfterFirst]

/-- The borders between the clusters of an ASCII text are those between its characters. -/
theorem borderAfterFirst_clusters {c : Char} {rest : Text} (h : Text.IsAscii (c :: rest)) :
    borderAfterFirst ([c] :: clusters rest) = endsWord c rest := by
  obtain ⟨hc, hrest⟩ := Text.isAscii_cons.mp h
  have hupper := head?_clusters_any (fun _ => isUpper_singleton) (by decide) hrest
  have hlower := head?_clusters_any (fun _ => isLower_singleton) (by decide) hrest
  have hdigit := head?_clusters_any (fun d _ => isDigit_singleton d) (by decide) hrest
  have hsecond : (rest.head?.any Char.isUpper && (clusters rest).tail.head?.any isLower) =
      (rest.head?.any Char.isUpper && rest.tail.head?.any Char.isLower) := by
    cases rest with
    | nil => rfl
    | cons d more =>
      cases hd : d.isUpper with
      | false => simp [hd]
      | true =>
        -- A capital letter begins no line end.
        have hne : ¬ (d = '\r' ∧ more.head? = some '\n') := by
          rintro ⟨rfl, -⟩
          exact absurd hd (by decide)
        have hmore := (Text.isAscii_cons.mp hrest).2
        rw [clusters_cons_of_isAscii hrest hne, List.tail_cons, List.tail_cons,
          head?_clusters_any (fun _ => isLower_singleton) (by decide) hmore]
  have halpha : rest.head?.any Char.isAlpha =
      (rest.head?.any Char.isUpper || rest.head?.any Char.isLower) := by
    cases rest <;> rfl
  rw [borderAfterFirst_cons, isUpper_singleton hc, isLower_singleton hc, isDigit_singleton, hupper,
    hlower, hdigit, endsWord, Bool.and_assoc, Bool.and_assoc, hsecond, halpha, Char.isAlpha]
  grind

/-! ### Words of ASCII names -/

/-- The words of an ASCII name in lower case, empty ones included: it is cut at everything that is
no letter or digit, and where a word ends otherwise. -/
def asciiWords : Text → List Text
  | [] => [[]]
  | c :: rest =>
    if !c.isAlphanum then [] :: asciiWords rest
    else if endsWord c rest then [c.toLower] :: asciiWords rest
    else Text.consPiece c.toLower (asciiWords rest)

def wordPieces (word : Text) : List Text :=
  Text.splitAt (!·.isAlphanum) (word.map Char.toLower)

theorem wordsOf_ne_nil (clusters : List Text) : wordsOf clusters ≠ [] := by
  cases clusters with
  | nil => simp [wordsOf]
  | cons a rest =>
    rw [wordsOf]
    split_ifs
    · simp
    · simp
    · cases wordsOf rest <;> simp [consCluster]

/-- A character in front of the first word is in front of its first piece, or cuts it off. -/
theorem flatMap_wordPieces_consCluster {words : List Text} (hne : words ≠ []) (c : Char) :
    (consCluster [c] words).flatMap wordPieces =
      if c.isAlphanum then Text.consPiece c.toLower (words.flatMap wordPieces)
      else [] :: words.flatMap wordPieces := by
  obtain ⟨word, rest, rfl⟩ := List.exists_cons_of_ne_nil hne
  rw [consCluster, List.flatMap_cons, List.flatMap_cons, List.singleton_append, wordPieces,
    List.map_cons, Text.splitAt, isAlphanum_toLower]
  cases c.isAlphanum
  · rfl
  · exact (Text.consPiece_append (Text.splitAt_ne_nil _ _) _ _).symm

theorem isSeparator_singleton {c : Char} (h : c.isAlphanum = true) : isSeparator [c] = false := by
  rw [← Bool.not_eq_true]
  intro hseparator
  simp only [isSeparator, Bool.or_eq_true, beq_iff_eq, List.cons.injEq, and_true] at hseparator
  rcases hseparator with (rfl | rfl) | rfl <;> exact absurd h (by decide)

theorem flatMap_wordPieces_wordsOf {name : Text} (h : name.IsAscii) :
    (wordsOf (clusters name)).flatMap wordPieces = asciiWords name := by
  induction name with
  | nil => rfl
  | cons c rest ih =>
    have hrest := (Text.isAscii_cons.mp h).2
    have ih := ih hrest
    rcases clusters_cons_cases h with ⟨more, rfl, rfl, hclusters⟩ | hclusters
    · have hfirst : wordsOf (clusters ('\r' :: '\n' :: more)) =
          consCluster ['\r'] (wordsOf (clusters ('\n' :: more))) := by
        rw [hclusters, clusters_cons_of_isAscii hrest (by simp)]
        have hborder (a : Text) (ha : isLower a = false ∧ isUpper a = false ∧ isDigit a = false) :
            borderAfterFirst (a :: clusters more) = false := by
          simp [borderAfterFirst_cons, ha]
        rw [wordsOf, wordsOf, hborder _ (by decide), hborder _ (by decide)]
        cases wordsOf (clusters more) <;> rfl
      rw [hfirst, flatMap_wordPieces_consCluster (wordsOf_ne_nil _), ih]
      rfl
    · rw [hclusters, wordsOf, borderAfterFirst_clusters h, asciiWords]
      cases halphanum : c.isAlphanum with
      | false =>
        rw [endsWord_eq_false halphanum]
        cases isSeparator [c] with
        | false => simp [flatMap_wordPieces_consCluster (wordsOf_ne_nil _), halphanum, ih]
        | true => simp [wordPieces, Text.splitAt, ih]
      | true =>
        rw [isSeparator_singleton halphanum]
        cases endsWord c rest with
        | false => simp [flatMap_wordPieces_consCluster (wordsOf_ne_nil _), halphanum, ih]
        | true => simp [wordPieces, Text.splitAt, Text.consPiece, halphanum, ih]

theorem flatMap_filter_not_isEmpty {words : List Text} {f : Text → List Text} (hf : f [] = []) :
    (words.filter (!·.isEmpty)).flatMap f = words.flatMap f := by
  induction words with
  | nil => rfl
  | cons word rest ih =>
    cases word with
    | nil => simpa [hf] using ih
    | cons c more => simpa using ih

/-- **The words of an exported name** of an ASCII name are found character by character. -/
theorem goWords_of_isAscii {name : Text} (h : name.IsAscii) :
    goWords name = (asciiWords name).filter (!·.isEmpty) := by
  have hpieces : ∀ word ∈ nameWords name, Text.pieces (!isAlphanumeric ·) (toLower word) =
      (wordPieces word).filter (!·.isEmpty) := by
    intro word hword
    have hascii : Text.IsAscii word := fun c hc => h c (mem_of_mem_nameWords hword hc)
    have hcut : ∀ c ∈ toLower word, (!isAlphanumeric c) = !c.isAlphanum := fun c hc => by
      rw [isAlphanumeric_of_lt (hascii.toLower c hc)]
    rw [Text.pieces, Text.splitAt_congr hcut, toLower_of_lt hascii, wordPieces]
  rw [goWords, List.flatMap_congr hpieces, nameWords, flatMap_filter_not_isEmpty rfl,
    ← List.filter_flatMap, flatMap_wordPieces_wordsOf h]

/-! ### Where words are divided -/

theorem asciiWords_ne_nil (t : Text) : asciiWords t ≠ [] := by
  cases t with
  | nil => simp [asciiWords]
  | cons c rest =>
    rw [asciiWords]
    split_ifs
    · simp
    · simp
    · cases asciiWords rest <;> simp [Text.consPiece]

/-- Whether a word ends behind a character does not depend on a text further on that begins with no
small letter. -/
theorem endsWord_append {u : Text} (hu : u.head?.any Char.isLower = false) (c d : Char) (t : Text) :
    endsWord c (d :: t ++ u) = endsWord c (d :: t) := by
  cases t with
  | nil => simp [endsWord, hu]
  | cons e more => rfl

/-- A text that begins with no small letter adds words to those in front of it as it does to those
of the character in front of it. -/
theorem asciiWords_append {u : Text} (hu : u.head?.any Char.isLower = false) {words : List Text} :
    ∀ {t : Text} {last : Char}, t.getLast? = some last →
      asciiWords (last :: u) = asciiWords [last] ++ words →
      asciiWords (t ++ u) = asciiWords t ++ words
  | [c], last, hlast, hwords => by
    obtain rfl : c = last := by simpa using hlast
    exact hwords
  | c :: d :: rest, last, hlast, hwords => by
    have ih : asciiWords (d :: rest ++ u) = asciiWords (d :: rest) ++ words :=
      asciiWords_append hu (by simpa using hlast) hwords
    rw [List.cons_append, asciiWords, endsWord_append hu, ih, asciiWords.eq_def (c :: d :: rest)]
    dsimp only
    split_ifs
    · rfl
    · rfl
    · exact Text.consPiece_append (asciiWords_ne_nil _) _ _

/-- What is no letter or digit divides the words. -/
theorem asciiWords_append_separator {c : Char} (hc : c.isAlphanum = false) (t u : Text) :
    asciiWords (t ++ c :: u) = asciiWords t ++ asciiWords u := by
  have hfirst : asciiWords (c :: u) = [] :: asciiWords u := by simp [asciiWords, hc]
  obtain ⟨hupper, hlower, hdigit⟩ := of_isAlphanum_eq_false hc
  rcases t.eq_nil_or_concat' with rfl | ⟨front, last, rfl⟩
  · exact hfirst
  · have hlast : (front ++ [last]).getLast? = some last := by simp
    refine asciiWords_append (by simpa using hlower) hlast ?_
    -- No border lies in front of it.
    have hends : endsWord last (c :: u) = endsWord last [] := by
      simp [endsWord, Char.isAlpha, hupper, hlower, hdigit]
    rw [asciiWords, hends, hfirst, asciiWords]
    split_ifs <;> rfl

/-- The border between a small letter and a capital one divides the words. -/
theorem asciiWords_append_capital {c d : Char} (hc : c.isLower = true) (hd : d.isUpper = true)
    {t u : Text} (ht : t.getLast? = some c) (hu : u.head? = some d) :
    asciiWords (t ++ u) = asciiWords t ++ asciiWords u := by
  have hlower : d.isLower = false := by simpa using Char.not_isLower_of_isUpper hd
  refine asciiWords_append (by simpa [hu] using hlower) ht ?_
  have hends : endsWord c u = true := by simp [endsWord, hc, hu, hd]
  have halone : endsWord c [] = false := by simp [endsWord]
  rw [asciiWords, asciiWords, hends, halone]
  simp [Char.isAlphanum, Char.isAlpha, hc, asciiWords, Text.consPiece]

theorem goWords_append_separator {c : Char} (hc : c.isAlphanum = false) {t u : Text}
    (h : Text.IsAscii (t ++ c :: u)) : goWords (t ++ c :: u) = goWords t ++ goWords u := by
  obtain ⟨ht, hrest⟩ := Text.isAscii_append.mp h
  have hu := (Text.isAscii_cons.mp hrest).2
  rw [goWords_of_isAscii h, goWords_of_isAscii ht, goWords_of_isAscii hu,
    asciiWords_append_separator hc, List.filter_append]

theorem goWords_append_capital {c d : Char} (hc : c.isLower = true) (hd : d.isUpper = true)
    {t u : Text} (ht : t.getLast? = some c) (hu : u.head? = some d) (h : Text.IsAscii (t ++ u)) :
    goWords (t ++ u) = goWords t ++ goWords u := by
  obtain ⟨hfront, hback⟩ := Text.isAscii_append.mp h
  rw [goWords_of_isAscii h, goWords_of_isAscii hfront, goWords_of_isAscii hback,
    asciiWords_append_capital hc hd ht hu, List.filter_append]

end Naming

end TableModel
