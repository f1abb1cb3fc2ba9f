import Mathlib.Data.List.Infix
import Mathlib.Data.Nat.Bits
import TableModel.Proofs.Schema.TypeName

/-!
# Arguments of a type

What stands in parentheses leaves nothing behind in the name of a type or in its sign, whatever it
is: `INT(10) UNSIGNED` says what `INT  UNSIGNED` says (`ofText_erases_arguments`).

At each character the scan is at a `Place`: so many parentheses deep, and inside quotes or not. One
step leads to the next place and leaves at most one character (`outside_cons`), so a text is scanned
in parts, each from the place where the one before it ends (`outside_append_after`). Quotes count
inside parentheses only. Hence the scan is never inside quotes when it is outside of all parentheses
(`Place.Sound`), and whenever it gets there it goes on as from the beginning.

Arguments are well formed if their quotes pair up and the parentheses outside quotes balance
(`Balanced`). That is said by counting, without the scan, and it keeps the scan inside until the
parenthesis behind the arguments closes (`Balanced.staysInside`). While the scan stays inside it
leaves spaces only, and a space belongs to no word.
-/

namespace TableModel.TypeName

/-! ### One step of the scan -/

/-- Where the scan is: how many parentheses deep, and whether inside single quotes. -/
structure Place where
  depth : Nat
  quoted : Bool
  deriving DecidableEq, Repr

def Place.start : Place := ⟨0, false⟩

/-- The place behind a character. Inside of quotes nothing but a quote counts, and outside of all
parentheses a quote does not. -/
def Place.step (place : Place) (c : Char) : Place :=
  if c = '\'' && 0 < place.depth then ⟨place.depth, !place.quoted⟩
  else if c = '(' && !place.quoted then ⟨place.depth + 1, place.quoted⟩
  else if c = ')' && !place.quoted && 0 < place.depth then ⟨place.depth - 1, place.quoted⟩
  else place

def Place.leaves (place : Place) (c : Char) : Text :=
  if c = '(' && !place.quoted then [' '] else if place.depth = 0 then [c] else []

theorem outside_cons (place : Place) (c : Char) (t : Text) :
    outside place.depth place.quoted (c :: t) =
      place.leaves c ++ outside (place.step c).depth (place.step c).quoted t := by
  obtain ⟨depth, quoted⟩ := place
  simp only [outside, Place.leaves, Place.step]
  split_ifs <;> simp_all

/-! ### A text in parts -/

/-- The place behind a text, character by character; what has been left on the way does not matter.
-/
def Place.after (place : Place) (t : Text) : Place := t.foldl Place.step place

theorem Place.after_append (place : Place) (t u : Text) :
    place.after (t ++ u) = (place.after t).after u := List.foldl_append

theorem outside_append_after (place : Place) (t u : Text) :
    outside place.depth place.quoted (t ++ u) = outside place.depth place.quoted t ++
      outside (place.after t).depth (place.after t).quoted u := by
  induction t generalizing place with
  | nil => rfl
  | cons c rest ih =>
    rw [List.cons_append, outside_cons, outside_cons, ih, List.append_assoc]
    rfl

/-- Outside of all parentheses there are no quotes to be inside of. The scan starts in a sound place
and never leaves sound places, so a text that ends outside of all parentheses ends where it began.
-/
def Place.Sound (place : Place) : Prop := place.depth = 0 → place.quoted = false

theorem Place.Sound.step {place : Place} (h : place.Sound) (c : Char) : (place.step c).Sound := by
  obtain ⟨depth, quoted⟩ := place
  unfold Place.Sound at *
  simp only [Place.step]
  split_ifs <;> simp_all
  omega

theorem Place.Sound.after {place : Place} (h : place.Sound) (t : Text) :
    (place.after t).Sound := by
  induction t generalizing place with
  | nil => exact h
  | cons c rest ih => exact ih (h.step c)

theorem Place.after_start {t : Text} (h : (Place.start.after t).depth = 0) :
    Place.start.after t = Place.start := by
  have hsound : Place.start.Sound := fun _ => rfl
  have hquoted := hsound.after t h
  cases hplace : Place.start.after t
  rw [hplace] at h hquoted
  cases h
  cases hquoted
  rfl

/-! ### Inside parentheses -/

/-- The scan of a text stays inside parentheses. -/
def Place.StaysInside (place : Place) (t : Text) : Prop :=
  ∀ p ∈ t.inits, (place.after p).depth ≠ 0

/-- While it stays inside, the scan leaves spaces only. -/
theorem Place.StaysInside.isBlank_of_mem {place : Place} {t : Text} (h : place.StaysInside t) :
    ∀ c ∈ outside place.depth place.quoted t, Text.isBlank c = true := by
  induction t generalizing place with
  | nil => simp [outside]
  | cons d rest ih =>
    have hinside : place.depth ≠ 0 := h [] (by simp)
    have hrest : (place.step d).StaysInside rest := fun p hp => h (d :: p) (by simpa using hp)
    have hleaves : ∀ c ∈ place.leaves d, Text.isBlank c = true := by
      rw [Place.leaves, if_neg hinside]
      split <;> simp [Text.isBlank]
    intro c hc
    rw [outside_cons, List.mem_append] at hc
    exact hc.elim (hleaves c) (ih hrest c)

/-! ### Balanced arguments -/

/-- What of a text stands outside single quotes, if it begins inside them or not. The quotes toggle,
as they do for the scan inside parentheses; a backslash in front of one makes no difference. -/
def unquoted : Bool → Text → Text
  | _, [] => []
  | quoted, c :: rest =>
    if c = '\'' then unquoted (!quoted) rest
    else if quoted then unquoted quoted rest
    else c :: unquoted quoted rest

/-- Single quotes pair up, and the parentheses outside of them balance: up to no place more of them
close than have opened, and in the end as many have. -/
structure Balanced (t : Text) : Prop where
  quotes_even : t.count '\'' % 2 = 0
  closed_le_opened : ∀ p ∈ (unquoted false t).inits, p.count ')' ≤ p.count '('
  closed_eq_opened : (unquoted false t).count ')' = (unquoted false t).count '('

theorem unquoted_prefix_append (quoted : Bool) (t u : Text) :
    unquoted quoted t <+: unquoted quoted (t ++ u) := by
  induction t generalizing quoted with
  | nil => exact List.nil_prefix
  | cons c rest ih =>
    rw [List.cons_append, unquoted, unquoted]
    split_ifs
    · exact ih _
    · exact ih _
    · exact List.cons_prefix_cons.mpr ⟨rfl, ih _⟩

/-- A step over a character outside quotes goes as deep as the character says, if it does not lead
out of the parentheses. -/
theorem Place.step_unquoted {c : Char} (hc : c ≠ '\'') {depth : Nat}
    (h : [c].count ')' ≤ [c].count '(' + depth) :
    ∃ d, Place.step ⟨depth + 1, false⟩ c = ⟨d + 1, false⟩ ∧
      d + [c].count ')' = depth + [c].count '(' := by
  by_cases hopen : c = '('
  · subst hopen
    exact ⟨depth + 1, by simp [Place.step], rfl⟩
  by_cases hclose : c = ')'
  · subst hclose
    obtain ⟨d, rfl⟩ : ∃ d, depth = d + 1 := Nat.exists_eq_add_one.mpr (by simp at h; omega)
    exact ⟨d, by simp [Place.step], rfl⟩
  · refine ⟨depth, by simp [Place.step, hc, hopen, hclose], ?_⟩
    rw [List.count_singleton, List.count_singleton]
    simp [hopen, hclose]

/-- Counting follows the scan: a text that is scanned from inside `depth + 1` parentheses and closes
no more than `depth` of them ends as deep as its parentheses say, and inside quotes as the number of
its quotes says. -/
theorem Place.after_of_counts {t : Text} {depth : Nat} {quoted : Bool}
    (h : ∀ p, p <+: unquoted quoted t → p.count ')' ≤ p.count '(' + depth) :
    ∃ d, Place.after ⟨depth + 1, quoted⟩ t = ⟨d + 1, quoted ^^ (t.count '\'').bodd⟩ ∧
      d + (unquoted quoted t).count ')' = depth + (unquoted quoted t).count '(' := by
  induction t generalizing depth quoted with
  | nil => exact ⟨depth, by simp [Place.after], rfl⟩
  | cons c rest ih =>
    have hafter : Place.after ⟨depth + 1, quoted⟩ (c :: rest) =
        (Place.step ⟨depth + 1, quoted⟩ c).after rest := rfl
    rw [hafter]
    by_cases hc : c = '\''
    · -- A quote changes sides and is no parenthesis.
      subst hc
      have hunquoted : unquoted quoted ('\'' :: rest) = unquoted (!quoted) rest := if_pos rfl
      have hstep : Place.step ⟨depth + 1, quoted⟩ '\'' = ⟨depth + 1, !quoted⟩ := by
        simp [Place.step]
      rw [hunquoted] at h ⊢
      rw [hstep, List.count_cons_self, Nat.bodd_succ, Bool.xor_not, ← Bool.not_xor]
      exact ih h
    rw [List.count_cons_of_ne hc]
    cases quoted with
    | true =>
      have hunquoted : unquoted true (c :: rest) = unquoted true rest := by
        simp [unquoted, hc]
      have hstep : Place.step ⟨depth + 1, true⟩ c = ⟨depth + 1, true⟩ := by
        simp [Place.step, hc]
      rw [hunquoted] at h ⊢
      rw [hstep]
      exact ih h
    | false =>
      have hunquoted : unquoted false (c :: rest) = [c] ++ unquoted false rest := by
        simp [unquoted, hc]
      rw [hunquoted] at h ⊢
      obtain ⟨d, hstep, hd⟩ := Place.step_unquoted hc (h [c] (List.prefix_append _ _))
      have hrest : ∀ p, p <+: unquoted false rest → p.count ')' ≤ p.count '(' + d := by
        intro p hp
        have hp := h ([c] ++ p) ((List.prefix_append_right_inj [c]).mpr hp)
        rw [List.count_append, List.count_append] at hp
        omega
      obtain ⟨e, hend, he⟩ := ih hrest
      refine ⟨e, hstep ▸ hend, ?_⟩
      rw [List.count_append, List.count_append]
      omega

/-- **Balanced arguments keep the scan inside** the parentheses that they stand in, and it is inside
no others and no quotes behind them. -/
theorem Balanced.staysInside {t : Text} (h : Balanced t) :
    Place.StaysInside ⟨1, false⟩ t ∧ Place.after ⟨1, false⟩ t = ⟨1, false⟩ := by
  have hcounts : ∀ p, p <+: unquoted false t → p.count ')' ≤ p.count '(' + 0 := fun p hp =>
    h.closed_le_opened p ((List.mem_inits p _).mpr hp)
  constructor
  · intro p hp
    obtain ⟨more, rfl⟩ := (List.mem_inits p t).mp hp
    obtain ⟨d, hend, -⟩ := Place.after_of_counts fun q hq =>
      hcounts q (hq.trans (unquoted_prefix_append false p more))
    rw [hend]
    exact Nat.succ_ne_zero d
  · obtain ⟨d, hend, hd⟩ := Place.after_of_counts hcounts
    have hquotes : (t.count '\'').bodd = false := by
      have hmod := Nat.mod_two_of_bodd (t.count '\'')
      rw [h.quotes_even] at hmod
      cases hbodd : (t.count '\'').bodd
      · rfl
      · rw [hbodd] at hmod
        cases hmod
    have hzero : d = 0 := by
      have hclosed := h.closed_eq_opened
      omega
    rw [hend, hquotes, hzero]
    rfl

/-! ### Arguments leave nothing behind -/

/-- The name and the sign depend on the words outside parentheses. -/
theorem ofText_congr {t u : Text}
    (h : Text.words (outside 0 false t) = Text.words (outside 0 false u)) :
    ofText t = ofText u := by
  rw [ofText, ofText, h]

/-- Behind a text whose parentheses are closed, the scan goes on as from the beginning. -/
theorem outside_append_of_closed {t : Text} (h : (Place.start.after t).depth = 0) (u : Text) :
    outside 0 false (t ++ u) = outside 0 false t ++ outside 0 false u := by
  have happend := outside_append_after Place.start t u
  rwa [Place.after_start h] at happend

/-- Arguments behind a text whose parentheses are closed have no words. They leave spaces, so that
what stands in front of them and what stands behind are words of their own. -/
theorem words_outside_arguments {t arguments : Text} (h : (Place.start.after t).depth = 0)
    (hinside : Place.StaysInside ⟨1, false⟩ arguments) (u : Text) :
    Text.words (outside 0 false (t ++ '(' :: (arguments ++ u))) =
      Text.words (outside 0 false t) ++
        Text.words (outside (Place.after ⟨1, false⟩ arguments).depth
          (Place.after ⟨1, false⟩ arguments).quoted u) := by
  have hopen : outside 0 false ('(' :: (arguments ++ u)) =
      ' ' :: outside 1 false (arguments ++ u) := rfl
  have harguments := outside_append_after ⟨1, false⟩ arguments u
  rw [outside_append_of_closed h, hopen, Text.words_append_blank (by decide), harguments,
    Text.words_blanks_append hinside.isBlank_of_mem]

/-- **Arguments are erased and nothing else.** Balanced arguments in parentheses may be replaced by
a space, parentheses that are never closed may be left out with all that follows, and of a text
without parentheses the words are kept, other than those on the sign. -/
theorem ofText_erases_arguments :
    (∀ before arguments after : Text, (Place.start.after before).depth = 0 → Balanced arguments →
        ofText (before ++ '(' :: (arguments ++ ')' :: after)) = ofText (before ++ ' ' :: after)) ∧
      (∀ before rest : Text, (Place.start.after before).depth = 0 →
        (∀ p ∈ rest.inits, (Place.start.after (before ++ '(' :: p)).depth ≠ 0) →
          ofText (before ++ '(' :: rest) = ofText before) ∧
      ∀ t : Text, '(' ∉ t →
        (ofText t).name = Text.join [' '] ((Text.words t).filter fun word =>
            !(["UNSIGNED", "SIGNED", "ZEROFILL"].any fun s => Text.sameFolded word s.toList)) ∧
          ((ofText t).isUnsigned = true ↔
            ∃ word ∈ Text.words t, Text.sameFolded word "UNSIGNED".toList = true) := by
  refine ⟨fun before arguments after hbefore harguments => ?_, fun before rest hbefore hrest => ?_,
    fun t ht => ?_⟩
  · obtain ⟨hinside, hend⟩ := harguments.staysInside
    have hspace : outside 0 false (' ' :: after) = ' ' :: outside 0 false after := rfl
    refine ofText_congr ?_
    rw [words_outside_arguments hbefore hinside, hend, outside_append_of_closed hbefore, hspace,
      Text.words_append_blank (by decide)]
    rfl
  · have hinside : Place.StaysInside ⟨1, false⟩ rest := by
      intro p hp
      have hp := hrest p hp
      rwa [Place.after_append, Place.after_start hbefore] at hp
    have hwords := words_outside_arguments hbefore hinside []
    rw [List.append_nil] at hwords
    refine ofText_congr ?_
    rw [hwords, outside]
    exact List.append_nil _
  · rw [ofText, outside_eq_self ht]
    refine ⟨?_, by simp [isUnsignedWord]⟩
    simp [isSignWord, isUnsignedWord, Bool.or_assoc]

/-- Quoted and nested parentheses, a group that a quoted parenthesis does not close, and words on the
sign. -/
theorem ofText_erases_arguments_set :
    ofText "SET('it''s)', (unsigned)) Unsigned".toList = ofText "SET  Unsigned".toList ∧
      ofText "SET(10)(')', unsigned".toList = ofText "SET(10)".toList ∧
      (ofText " long zerofill\tInt".toList).name = "long Int".toList :=
  ⟨ofText_erases_arguments.1 "SET".toList "'it''s)', (unsigned)".toList " Unsigned".toList
      (by decide) ⟨by decide, by decide, by decide⟩,
    ofText_erases_arguments.2.1 "SET(10)".toList "')', unsigned".toList (by decide) (by decide),
    (ofText_erases_arguments.2.2 " long zerofill\tInt".toList (by decide)).1.trans (by decide)⟩

end TableModel.TypeName
