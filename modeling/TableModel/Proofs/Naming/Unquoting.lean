import TableModel.Proofs.Naming.QuotedText

/-!
# Unquoting

Cleaning looks at the two ends of a text only: if they are a pair of quotes it takes them off and
collapses the pairs of the closing one between them, and otherwise it leaves the text alone
(`cleanName_of_enclosed`, `cleanName_of_not_enclosed`). Whether the quotes between them are doubled
makes no difference to that. So a trimmed text survives exactly if it does not begin and end with a
pair of quotes (`cleanName_eq_self_iff`).
-/

namespace TableModel

/-! ### Texts between quotes -/

namespace NameQuotes

/-- Whether a text begins and ends with the pair of quotes, whatever stands between them. Nothing is
said of quotes in the middle, so two quoted words one after the other count as one in quotes. -/
def Enclose (quotes : NameQuotes) (t : Text) : Prop :=
  ∃ body, t = quotes.opening :: (body ++ [quotes.closing])

theorem enclose_iff {quotes : NameQuotes} {t : Text} :
    quotes.Enclose t ↔ t.head? = some quotes.opening ∧ t.tail.getLast? = some quotes.closing := by
  constructor
  · rintro ⟨body, rfl⟩
    exact ⟨rfl, List.getLast?_concat⟩
  · rintro ⟨hfirst, hlast⟩
    cases t with
    | nil => simp at hfirst
    | cons first rest =>
      obtain ⟨body, hbody⟩ := List.getLast?_eq_some_iff.mp hlast
      rw [List.tail_cons] at hbody
      rw [List.head?_cons, Option.some.injEq] at hfirst
      exact ⟨body, by rw [hfirst, hbody]⟩

instance (quotes : NameQuotes) (t : Text) : Decidable (quotes.Enclose t) :=
  decidable_of_iff _ enclose_iff.symm

/-- A text between quotes is a text in quotes exactly if the closing quotes in it are doubled. -/
theorem exists_eq_around_iff {quotes : NameQuotes} {body : Text} :
    (∃ t, quotes.opening :: (body ++ [quotes.closing]) = quotes.around t) ↔
      Ddl.doubled (· == quotes.closing) (collapsePairs quotes.closing body) = body := by
  simp only [around, List.cons_inj_right, List.append_left_inj]
  constructor
  · rintro ⟨t, rfl⟩
    rw [collapsePairs_doubled]
  · intro h
    exact ⟨_, h.symm⟩

end NameQuotes

/-- The characters that open and close a quoted name are the pairs of quotes. -/
theorem closingQuote?_eq_some_iff {first close : Char} :
    closingQuote? first = some close ↔
      ∃ quotes : NameQuotes, quotes.opening = first ∧ quotes.closing = close := by
  constructor
  · intro h
    unfold closingQuote? at h
    split at h
    · exact ⟨.backquotes, rfl, Option.some.inj h⟩
    · exact ⟨.doubleQuotes, rfl, Option.some.inj h⟩
    · exact ⟨.singleQuotes, rfl, Option.some.inj h⟩
    · exact ⟨.brackets, rfl, Option.some.inj h⟩
    · cases h
  · rintro ⟨quotes, rfl, rfl⟩
    exact quotes.closingQuote?_opening

/-- Nothing is stripped from a text that does not stand between quotes. -/
theorem stripQuotes_of_not_enclosed {t : Text} (h : ∀ quotes : NameQuotes, ¬ quotes.Enclose t) :
    stripQuotes t = t := by
  cases t with
  | nil => rfl
  | cons first rest =>
    rw [stripQuotes]
    split
    · next close last hclose hlast =>
      obtain ⟨quotes, hopening, hclosing⟩ := closingQuote?_eq_some_iff.mp hclose
      have hne : last ≠ close := by
        rintro rfl
        exact h quotes (NameQuotes.enclose_iff.mpr
          ⟨congrArg some hopening.symm, by rw [hclosing]; exact hlast⟩)
      rw [if_neg hne]
    · rfl

/-! ### What cleaning leaves -/

theorem cleanName_trim (raw : Text) : cleanName (Text.trim raw) = cleanName raw := by
  rw [cleanName, Text.trim_trim, cleanName]

/-- Of a text between quotes the text between them is left, with its pairs collapsed. -/
theorem cleanName_of_enclosed {quotes : NameQuotes} {raw body : Text}
    (h : Text.trim raw = quotes.opening :: (body ++ [quotes.closing])) :
    cleanName raw = Text.trim (collapsePairs quotes.closing body) := by
  rw [← cleanName_trim, h, cleanName_quoted quotes.closingQuote?_opening]

/-- Of any other text nothing but the blanks at its ends is lost. -/
theorem cleanName_of_not_enclosed {raw : Text}
    (h : ∀ quotes : NameQuotes, ¬ quotes.Enclose (Text.trim raw)) :
    cleanName raw = Text.trim raw :=
  stripQuotes_of_not_enclosed h

/-- **A trimmed text survives cleaning** exactly if it does not stand between quotes. Quotes
elsewhere are left alone, doubled ones as well. -/
theorem cleanName_eq_self_iff {t : Text} (h : Text.trim t = t) :
    cleanName t = t ↔ ∀ quotes : NameQuotes, ¬ quotes.Enclose t := by
  constructor
  · rintro hself quotes ⟨body, hbody⟩
    -- What is left is too short: both quotes are gone.
    have hlength : (cleanName t).length < t.length :=
      calc (cleanName t).length
          = (Text.trim (collapsePairs quotes.closing body)).length := by
            rw [cleanName_of_enclosed (h.trans hbody)]
        _ ≤ (collapsePairs quotes.closing body).length := Text.length_trim_le _
        _ ≤ body.length := length_collapsePairs_le _ _
        _ < t.length := by
          rw [hbody, List.length_cons, List.length_append, List.length_singleton]
          omega
    rw [hself] at hlength
    exact lt_irrefl _ hlength
  · intro hquotes
    rw [cleanName_of_not_enclosed (by rwa [h]), h]

theorem mem_of_mem_cleanName {raw : Text} {c : Char} (h : c ∈ cleanName raw) : c ∈ raw := by
  by_cases hquotes : ∃ quotes : NameQuotes, quotes.Enclose (Text.trim raw)
  · obtain ⟨quotes, body, hbody⟩ := hquotes
    rw [cleanName_of_enclosed hbody] at h
    have hmem : c ∈ body := mem_collapsePairs_iff.mp (Text.mem_of_mem_trim h)
    refine Text.mem_of_mem_trim (t := raw) ?_
    rw [hbody]
    exact List.mem_cons_of_mem _ (List.mem_append_left _ hmem)
  · rw [cleanName_of_not_enclosed (not_exists.mp hquotes)] at h
    exact Text.mem_of_mem_trim h

/-- Between quotes no character that is no blank is lost altogether. -/
theorem mem_cleanName_of_enclosed {quotes : NameQuotes} {raw body : Text} {c : Char}
    (hc : Text.isBlank c = false)
    (h : Text.trim raw = quotes.opening :: (body ++ [quotes.closing])) :
    c ∈ cleanName raw ↔ c ∈ body := by
  rw [cleanName_of_enclosed h, Text.mem_trim_iff hc, mem_collapsePairs_iff]

theorem mem_cleanName_of_not_enclosed {raw : Text} {c : Char} (hc : Text.isBlank c = false)
    (h : ∀ quotes : NameQuotes, ¬ quotes.Enclose (Text.trim raw)) :
    c ∈ cleanName raw ↔ c ∈ raw := by
  rw [cleanName_of_not_enclosed h, Text.mem_trim_iff hc]

end TableModel
