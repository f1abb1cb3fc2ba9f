import Mathlib.Data.List.Chain
import TableModel.Text

/-!
# Words

The words of a text are found on either side of a blank separately (`words_append_blank`). So a
blank in front belongs to no word, and a text of blanks has none.

Words with one space between neighbours are the words of the text that they make
(`words_join_space`), and the blanks of this text stand alone (`singlySpaced_join_space`).
-/

namespace TableModel.Text

/-- Putting a character in front of pieces, of which there is at least one, is done to the first. -/
theorem consPiece_append {pieces : List Text} (h : pieces ≠ []) (c : Char) (more : List Text) :
    consPiece c (pieces ++ more) = consPiece c pieces ++ more := by
  cases pieces with
  | nil => exact absurd rfl h
  | cons piece rest => rfl

theorem splitAt_ne_nil (cut : Char → Bool) (t : Text) : splitAt cut t ≠ [] := by
  cases t with
  | nil => simp [splitAt]
  | cons c rest =>
    rw [splitAt]
    split
    · simp
    · cases splitAt cut rest <;> simp [consPiece]

/-- The pieces depend on where the characters of the text itself are cut. -/
theorem splitAt_congr {cut cut' : Char → Bool} {t : Text} (h : ∀ c ∈ t, cut c = cut' c) :
    splitAt cut t = splitAt cut' t := by
  induction t with
  | nil => rfl
  | cons c rest ih =>
    rw [splitAt, splitAt, h c List.mem_cons_self, ih fun d hd => h d (List.mem_cons_of_mem c hd)]

theorem splitAt_append_cut {cut : Char → Bool} {c : Char} (hc : cut c = true) (t u : Text) :
    splitAt cut (t ++ c :: u) = splitAt cut t ++ splitAt cut u := by
  induction t with
  | nil => simp [splitAt, hc]
  | cons d rest ih =>
    rw [List.cons_append, splitAt, splitAt, ih]
    split
    · rfl
    · rw [consPiece_append (splitAt_ne_nil cut rest)]

theorem pieces_append_cut {cut : Char → Bool} {c : Char} (hc : cut c = true) (t u : Text) :
    pieces cut (t ++ c :: u) = pieces cut t ++ pieces cut u := by
  rw [pieces, pieces, pieces, splitAt_append_cut hc, List.filter_append]

/-- The non-empty pieces of a text between cuts, put together, are what is not cut. -/
theorem flatten_pieces (cut : Char → Bool) (t : Text) :
    (pieces cut t).flatten = t.filter (!cut ·) := by
  have hcons (c : Char) (ps : List Text) : (consPiece c ps).flatten = c :: ps.flatten := by
    cases ps <;> rfl
  rw [pieces, List.flatten_filter_not_isEmpty]
  induction t with
  | nil => rfl
  | cons c rest ih =>
    rw [splitAt, List.filter_cons, ← ih]
    cases cut c <;> simp [hcons]

/-- A piece is not empty and has nothing of the text that is cut. -/
theorem of_mem_pieces {cut : Char → Bool} {t piece : Text} (h : piece ∈ pieces cut t) :
    piece ≠ [] ∧ ∀ c ∈ piece, c ∈ t ∧ cut c = false := by
  refine ⟨by simpa using (List.mem_filter.mp h).2, fun c hc => ?_⟩
  have hflatten : c ∈ (pieces cut t).flatten := List.mem_flatten_of_mem h hc
  rw [flatten_pieces, List.mem_filter] at hflatten
  exact ⟨hflatten.1, by simpa using hflatten.2⟩

/-- Where a change to the characters makes no difference to the cuts, the pieces are changed, and
their number and order stay. Letter case is such a change for cuts at blanks. -/
theorem pieces_map {cut : Char → Bool} {f : Char → Char} (h : ∀ c, cut (f c) = cut c) (t : Text) :
    pieces cut (t.map f) = (pieces cut t).map (List.map f) := by
  have hcons (c : Char) (ps : List Text) :
      consPiece (f c) (ps.map (List.map f)) = (consPiece c ps).map (List.map f) := by
    cases ps <;> rfl
  have hsplit : splitAt cut (t.map f) = (splitAt cut t).map (List.map f) := by
    induction t with
    | nil => rfl
    | cons c rest ih =>
      rw [List.map_cons, splitAt, splitAt, h c, ih, hcons]
      split <;> rfl
  have hempty : ((!·.isEmpty) ∘ List.map f : Text → Bool) = (!·.isEmpty) :=
    funext fun piece => by simp
  rw [pieces, pieces, hsplit, List.filter_map, hempty]

theorem splitAt_eq_singleton {cut : Char → Bool} {t : Text} (h : ∀ c ∈ t, cut c = false) :
    splitAt cut t = [t] := by
  induction t with
  | nil => rfl
  | cons c rest ih =>
    rw [splitAt, h c List.mem_cons_self, ih fun d hd => h d (List.mem_cons_of_mem c hd)]
    rfl

theorem words_append_blank {c : Char} (hc : isBlank c = true) (t u : Text) :
    words (t ++ c :: u) = words t ++ words u :=
  pieces_append_cut hc t u

theorem words_map {f : Char → Char} (h : ∀ c, isBlank (f c) = isBlank c) (t : Text) :
    words (t.map f) = (words t).map (List.map f) :=
  pieces_map h t

/-- Blanks in front of a text belong to no word. -/
theorem words_blanks_append {blanks : Text} (h : ∀ c ∈ blanks, isBlank c = true) (t : Text) :
    words (blanks ++ t) = words t := by
  induction blanks with
  | nil => rfl
  | cons c rest ih =>
    have hcut := words_append_blank (h c (by simp)) [] (rest ++ t)
    rw [List.nil_append] at hcut
    rw [List.cons_append, hcut, ih fun d hd => h d (List.mem_cons_of_mem c hd)]
    rfl

theorem words_eq_nil {t : Text} (h : ∀ c ∈ t, isBlank c = true) : words t = [] := by
  have hwords := words_blanks_append h []
  rwa [List.append_nil] at hwords

/-! ### Single spaces -/

/-- The text is one word as it stands: it is not empty and has no blank. -/
def IsUnbroken (t : Text) : Prop := t ≠ [] ∧ ∀ c ∈ t, isBlank c = false

theorem isUnbroken_of_mem_words {t word : Text} (h : word ∈ words t) : IsUnbroken word :=
  (of_mem_pieces h).imp_right fun hall c hc => (hall c hc).2

/-- Words with single spaces between them are the words of the text. -/
theorem words_join_space {ws : List Text} (h : ∀ w ∈ ws, IsUnbroken w) : words (join [' '] ws) = ws := by
  induction ws with
  | nil => rfl
  | cons w rest ih =>
    obtain ⟨⟨hne, hw⟩, hrest⟩ := List.forall_mem_cons.mp h
    have hword : words w = [w] := by
      have hkept : (!List.isEmpty w) = true := by simpa using hne
      rw [words, pieces, splitAt_eq_singleton hw, List.filter_cons, if_pos hkept, List.filter_nil]
    cases rest with
    | nil => exact hword
    | cons next more =>
      have hspace : join [' '] (w :: next :: more) = w ++ ' ' :: join [' '] (next :: more) := by
        rw [join_cons_cons, List.append_assoc, List.singleton_append]
      rw [hspace, words_append_blank (by decide), hword, ih hrest, List.singleton_append]

/-- The blanks of a text stand alone: none at either end and no two of them in a row. -/
structure SinglySpaced (t : Text) : Prop where
  head : ∀ c, t.head? = some c → isBlank c = false
  last : ∀ c, t.getLast? = some c → isBlank c = false
  apart : t.IsChain fun c d => isBlank c = true → isBlank d = false

theorem IsUnbroken.singlySpaced {t : Text} (h : IsUnbroken t) : SinglySpaced t where
  head c hc := h.2 c (List.mem_of_mem_head? hc)
  last c hc := h.2 c (List.mem_of_getLast? hc)
  apart := by
    refine List.Pairwise.isChain (List.pairwise_of_forall_mem_list fun _ _ d hd => ?_)
    exact fun _ => h.2 d hd

theorem SinglySpaced.append_space {t u : Text} (ht : SinglySpaced t) (hu : SinglySpaced u)
    (hne : t ≠ []) (hne' : u ≠ []) : SinglySpaced (t ++ [' '] ++ u) where
  head c hc := by
    rw [List.append_assoc, List.head?_append_of_ne_nil _ hne] at hc
    exact ht.head c hc
  last c hc := by
    rw [List.getLast?_append_of_ne_nil _ hne'] at hc
    exact hu.last c hc
  apart := by
    refine (ht.apart.append (List.isChain_singleton ' ') fun c hc _ _ hblank => ?_).append hu.apart
      fun _ _ d hd _ => hu.head d hd
    -- The last character in front of the space is no blank.
    rw [ht.last c hc] at hblank
    contradiction

/-- The text that words with single spaces between them make has neither a blank at an end nor two
in a row. -/
theorem singlySpaced_join_space {ws : List Text} (h : ∀ w ∈ ws, IsUnbroken w) :
    SinglySpaced (join [' '] ws) := by
  induction ws with
  | nil => exact ⟨by simp, by simp, .nil⟩
  | cons w rest ih =>
    obtain ⟨hw, hrest⟩ := List.forall_mem_cons.mp h
    cases rest with
    | nil => exact hw.singlySpaced
    | cons next more =>
      have hne : join [' '] (next :: more) ≠ [] := fun hnil => by
        have hwords := words_join_space hrest
        rw [hnil] at hwords
        contradiction
      rw [join_cons_cons]
      exact hw.singlySpaced.append_space (ih hrest) hw.1 hne

end TableModel.Text
