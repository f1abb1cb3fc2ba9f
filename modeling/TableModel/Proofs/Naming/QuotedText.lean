import TableModel.Proofs.Naming.CleanName

/-!
# Cleaning undoes quoting

A text can be put into any of four pairs of quotes by doubling the closing one inside
(`NameQuotes.around`); brackets are the pair whose two characters differ, and an opening bracket
inside stays as it is. Cleaning the quoted text gives the text back, without the blanks at its ends
(`NameQuotes.cleanName_around`).

Only the closing character is read by pairs. Inside quotes it stands in runs of even length, the
outer quotes do not belong to them, and so each run is halved: one layer goes, and a text that is in
quotes itself keeps them.
-/

namespace TableModel

open Ddl

/-- The pairs of quotes that a name can stand in: backquotes, double quotes and brackets, as
databases have them for names, and single quotes, which some writers use in their place. -/
inductive NameQuotes where
  | backquotes
  | doubleQuotes
  | singleQuotes
  | brackets
  deriving DecidableEq, Repr

namespace NameQuotes

def opening : NameQuotes → Char
  | .backquotes => '\x60'
  | .doubleQuotes => '"'
  | .singleQuotes => '\''
  | .brackets => '['

def closing : NameQuotes → Char
  | .backquotes => '\x60'
  | .doubleQuotes => '"'
  | .singleQuotes => '\''
  | .brackets => ']'

/-- A text in quotes, with the closing character doubled inside. -/
def around (quotes : NameQuotes) (t : Text) : Text :=
  quotes.opening :: (doubled (· == quotes.closing) t ++ [quotes.closing])

example : brackets.around "a[i]".toList = "[a[i]]]".toList := by decide

theorem closingQuote?_opening (quotes : NameQuotes) :
    closingQuote? quotes.opening = some quotes.closing := by
  cases quotes <;> rfl

@[simp] theorem trim_around (quotes : NameQuotes) (t : Text) :
    Text.trim (quotes.around t) = quotes.around t :=
  trim_quoted quotes.closingQuote?_opening _

end NameQuotes

/-- Collapsing pairs undoes doubling, whatever runs the character stands in. -/
theorem collapsePairs_doubled (q : Char) (t : Text) : collapsePairs q (doubled (· == q) t) = t := by
  induction t with
  | nil => rfl
  | cons c rest ih =>
    by_cases hc : c = q
    · subst hc
      rw [doubled_cons_of_pos (by simp), collapsePairs_pair, ih]
    · rw [doubled_cons_of_neg (by simpa using hc), collapsePairs_cons_of_ne hc, ih]

/-- What is left of a text in quotes, with or without blanks around them. -/
theorem cleanName_blanks_around (quotes : NameQuotes) (t : Text) {before after : Text}
    (hbefore : ∀ c ∈ before, Text.isBlank c = true) (hafter : ∀ c ∈ after, Text.isBlank c = true) :
    cleanName (before ++ quotes.around t ++ after) = Text.trim t := by
  calc cleanName (before ++ quotes.around t ++ after)
      = cleanName (quotes.around t) := by
        rw [cleanName, cleanName, Text.trim_append_blanks hafter, Text.trim_blanks_append hbefore]
    _ = Text.trim (collapsePairs quotes.closing (doubled (· == quotes.closing) t)) :=
        cleanName_quoted quotes.closingQuote?_opening _
    _ = Text.trim t := by rw [collapsePairs_doubled]

/-- **Cleaning undoes quoting**: of a text in quotes, with any blanks around them, the text is left
without the blanks at its ends. Exactly one layer goes, so of a text in two layers of quotes the
text in the inner ones is left. -/
theorem NameQuotes.cleanName_around (quotes : NameQuotes) (t before after : Text)
    (hbefore : ∀ c ∈ before, Text.isBlank c = true) (hafter : ∀ c ∈ after, Text.isBlank c = true) :
    cleanName (before ++ quotes.around t ++ after) = Text.trim t ∧
      ∀ inner : NameQuotes,
        cleanName (before ++ quotes.around (inner.around t) ++ after) = inner.around t := by
  refine ⟨cleanName_blanks_around quotes t hbefore hafter, fun inner => ?_⟩
  rw [cleanName_blanks_around quotes _ hbefore hafter, trim_around]

/-- Brackets around a name with a blank and brackets of its own, and backquotes around a backquote.
-/
theorem NameQuotes.cleanName_around_nested :
    cleanName "\t[ a[]]]] ] ".toList = "a[]]".toList ∧
      cleanName "\n\x60[\x60\x60]]]\x60".toList = "[\x60]]]".toList :=
  ⟨(brackets.cleanName_around " a[]] ".toList ['\t'] [' '] (List.forall_mem_singleton.mpr rfl)
      (List.forall_mem_singleton.mpr rfl)).1,
    (backquotes.cleanName_around "\x60]".toList ['\n'] [] (List.forall_mem_singleton.mpr rfl)
      (List.forall_mem_nil _)).2 brackets⟩

end TableModel
