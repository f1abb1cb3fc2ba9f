import TableModel.Naming
import TableModel.Proofs.Ddl.Quoting
import TableModel.Proofs.Text.Trim

/-!
# Clean names of quoted identifiers

Taking a name out of its quotes makes one of each pair of quotes inside. Writing it had put a second
quote only where there was a single one, so both together come to collapsing the pairs of the name
itself (`collapsePairs_doubleQuotes`, `cleanName_write_backquote`). The name survives exactly if it
has no such pair (`cleanName_write_backquote_iff`); a quote behind a backslash does no harm here.
-/

namespace TableModel

open Ddl

/-! ### Collapsing pairs -/

theorem collapsePairs_cons_of_ne {q c : Char} (hc : c ≠ q) (t : Text) :
    collapsePairs q (c :: t) = c :: collapsePairs q t := by
  cases t <;> simp [collapsePairs, hc]

theorem collapsePairs_pair (q : Char) (t : Text) :
    collapsePairs q (q :: q :: t) = q :: collapsePairs q t := by
  simp [collapsePairs]

theorem collapsePairs_single {q : Char} {t : Text} (h : t.head? ≠ some q) :
    collapsePairs q (q :: t) = q :: collapsePairs q t := by
  cases t with
  | nil => simp [collapsePairs]
  | cons d rest =>
    have hd : d ≠ q := by simpa using h
    simp [collapsePairs, hd]

theorem collapsePairs_doubleQuotes (q : Char) (b : Bool) (t : Text) :
    collapsePairs q (doubleQuotes q b t) = collapsePairs q t := by
  induction b, t using doubleQuotes_induction q with
  | nil b => simp [doubleQuotes]
  | other b c t hc ih =>
    rw [doubleQuotes_cons_of_ne hc, collapsePairs_cons_of_ne hc, collapsePairs_cons_of_ne hc, ih]
  | pair b t ih => rw [doubleQuotes_pair, collapsePairs_pair, collapsePairs_pair, ih]
  | single b t ht ih =>
    cases b
    · rw [doubleQuotes_single q ht, collapsePairs_pair, collapsePairs_single ht, ih]
    · rw [doubleQuotes_true_cons, collapsePairs_single (head?_doubleQuotes_ne true ht),
        collapsePairs_single ht, ih]

/-- No pair is collapsed in a text without one, and otherwise the text gets shorter. -/
theorem collapsePairs_cases (q : Char) (t : Text) :
    ([q, q] <:+: t ∧ (collapsePairs q t).length < t.length) ∨
      (¬ [q, q] <:+: t ∧ collapsePairs q t = t) := by
  -- The induction is along the quotes; its flag for a backslash plays no part.
  have hinduction : ∀ b : Bool, ([q, q] <:+: t ∧ (collapsePairs q t).length < t.length) ∨
      (¬ [q, q] <:+: t ∧ collapsePairs q t = t) := by
    intro b
    induction b, t using doubleQuotes_induction q with
    | nil b => simp [collapsePairs]
    | other b c t hc ih =>
      have hpair : ¬ [q, q] <+: c :: t := by simp [List.cons_prefix_cons, Ne.symm hc]
      rw [collapsePairs_cons_of_ne hc, List.infix_cons_iff]
      simpa [hpair] using ih
    | pair b t ih =>
      refine Or.inl ⟨⟨[], t, rfl⟩, ?_⟩
      rw [collapsePairs_pair]
      rcases ih with ⟨-, hlength⟩ | ⟨-, hself⟩
      · simp only [List.length_cons]
        omega
      · simp [hself]
    | single b t ht ih =>
      have hpair : ¬ [q, q] <+: q :: t := by
        rw [List.cons_prefix_cons]
        cases t with
        | nil => simp
        | cons d rest => simpa [List.cons_prefix_cons, eq_comm] using ht
      rw [collapsePairs_single ht, List.infix_cons_iff]
      simpa [hpair] using ih
  exact hinduction false

theorem length_collapsePairs_le (q : Char) (t : Text) :
    (collapsePairs q t).length ≤ t.length := by
  rcases collapsePairs_cases q t with ⟨-, hlength⟩ | ⟨-, hself⟩
  · exact hlength.le
  · rw [hself]

/-- Collapsing pairs leaves one of each pair, so the characters stay the same. -/
theorem mem_collapsePairs_iff {c q : Char} {t : Text} : c ∈ collapsePairs q t ↔ c ∈ t := by
  fun_induction collapsePairs q t with
  | case1 => rfl
  | case2 d => rfl
  | case3 d e rest hpair ih =>
    simp only [Bool.and_eq_true, decide_eq_true_eq] at hpair
    obtain ⟨rfl, rfl⟩ := hpair
    rw [List.mem_cons, ih, List.mem_cons, List.mem_cons, or_self_left]
  | case4 d e rest hpair ih => rw [List.mem_cons, ih, ← List.mem_cons]

/-! ### One layer of quotes -/

theorem isBlank_of_closingQuote? {first close : Char} (h : closingQuote? first = some close) :
    Text.isBlank first = false ∧ Text.isBlank close = false := by
  unfold closingQuote? at h
  split at h
  all_goals cases h
  all_goals decide

theorem trim_quoted {first close : Char} (h : closingQuote? first = some close) (body : Text) :
    Text.trim (first :: (body ++ [close])) = first :: (body ++ [close]) := by
  obtain ⟨hfirst, hclose⟩ := isBlank_of_closingQuote? h
  refine Text.trim_eq_self_iff.mpr ⟨fun c hc => ?_, fun c hc => ?_⟩
  · rwa [← Option.some.inj hc]
  · rw [← List.cons_append, List.getLast?_concat] at hc
    rwa [← Option.some.inj hc]

theorem cleanName_quoted {first close : Char} (h : closingQuote? first = some close)
    (body : Text) :
    cleanName (first :: (body ++ [close])) = Text.trim (collapsePairs close body) := by
  rw [cleanName, trim_quoted h]
  simp only [stripQuotes, h, List.getLast?_append, List.getLast?_singleton, Option.some_or,
    if_true, List.dropLast_concat]

theorem cleanName_write_backquote (name : Text) :
    cleanName (Quote.backquote.write name) = Text.trim (collapsePairs '\x60' name) := by
  rw [Quote.write, Quote.char, cleanName_quoted rfl, collapsePairs_doubleQuotes]

/-- **A name in backquotes survives** exactly if no backquote stands next to another one. -/
theorem cleanName_write_backquote_iff {name : Text} (h : Text.trim name = name) :
    cleanName (Quote.backquote.write name) = name ↔ ¬ ['\x60', '\x60'] <:+: name := by
  rw [cleanName_write_backquote]
  rcases collapsePairs_cases '\x60' name with ⟨hpair, hlength⟩ | ⟨hpair, hself⟩
  · refine iff_of_false (fun heq => ?_) (not_not.mpr hpair)
    have htrim := Text.length_trim_le (collapsePairs '\x60' name)
    rw [heq] at htrim
    omega
  · rw [hself, h]
    exact iff_of_true rfl hpair

/-- **A name in backquotes is written as it was** exactly if no backquote stands next to another one
or behind a backslash. -/
theorem write_backquote_eq_quoteName_iff (name : Text) :
    Quote.backquote.write name = quoteName name ↔
      ¬ ['\x60', '\x60'] <:+: name ∧ ¬ ['\\', '\x60'] <:+: name := by
  have hdoubled := doubleQuotes_eq_doubled_iff (show '\x60' ≠ '\\' by decide) false name
  simp only [Bool.false_eq_true, false_implies, true_and] at hdoubled
  rw [← hdoubled, Quote.write, Quote.char, quoteName, List.cons_inj_right, List.append_left_inj]
  rfl

end TableModel
