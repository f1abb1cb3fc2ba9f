import TableModel.Naming
import TableModel.Proofs.Model.StringLiteral
import TableModel.Proofs.Naming.ExportedName
import TableModel.Proofs.Naming.LineComment

/-!
# Line feeds on the way into source text

Names and comments reach the source text on four ways. An exported name has no line feed, because it
has letters and numbers only, and a comment has none, because its line breaks become spaces. The
other two ways let every line feed through: into a tag at each of its placeholders
(`count_fillTag`), and between the quotes of a string (`count_goStringBody`).
-/

namespace TableModel

open Unicode

namespace Naming

/-! ### Exported names -/

theorem lineFeed_notMem_upperChar {c : Char} (h : c ≠ '\n') : '\n' ∉ upperChar c := by
  intro hmem
  rcases upperChar_eq_self_or c with hself | himages
  · rw [hself] at hmem
    exact h (List.mem_singleton.mp hmem).symm
  · exact disjoint_upperImages.2 (himages _ hmem) (mem_blankPoints rfl)

theorem lineFeed_notMem_goWord {word : Text} (h : '\n' ∉ word) : '\n' ∉ goWord word := by
  have hne : ∀ c ∈ word, c ≠ '\n' := fun c hc heq => h (heq ▸ hc)
  rw [goWord]
  split
  · rw [toUpper, List.mem_flatMap]
    rintro ⟨c, hc, hmem⟩
    exact lineFeed_notMem_upperChar (hne c hc) hmem
  · cases word with
    | nil => exact h
    | cons c rest =>
      rw [capitalize, List.mem_append, not_or]
      exact ⟨lineFeed_notMem_upperChar (hne c List.mem_cons_self), fun hmem =>
        h (List.mem_cons_of_mem c hmem)⟩

/-- There is no line feed in an exported name. -/
theorem lineFeed_notMem_exportedName (name : Text) : '\n' ∉ exportedName name := by
  rw [exportedName, List.mem_flatMap]
  rintro ⟨word, -, hpart⟩
  rw [goPart, List.mem_flatMap] at hpart
  obtain ⟨piece, hpiece, hmem⟩ := hpart
  -- A piece has only letters and numbers.
  refine lineFeed_notMem_goWord (fun h => ?_) hmem
  exact absurd ((Text.of_mem_pieces hpiece).2 _ h).2 (by decide)

/-! ### Comments -/

theorem lineFeed_notMem_lineComment (comment : Option Text) : '\n' ∉ lineComment comment :=
  fun h => (ne_of_mem_lineComment h).2 rfl

/-! ### Tags -/

/-- How many placeholders a template has. None of them overlap, since the two characters of one are
different. -/
def placeholders : Text → Nat
  | [] => 0
  | c :: rest => (if "%s".toList.isPrefixOf (c :: rest) then 1 else 0) + placeholders rest

/-- A tag has the line feeds of the template and, for each placeholder, those of the name. -/
theorem count_fillTag (name template : Text) :
    (fillTag name template).count '\n' =
      template.count '\n' + placeholders template * name.count '\n' := by
  fun_induction fillTag name template with
  | case1 => simp [placeholders]
  | case2 c => simp [placeholders]
  | case3 c d rest hpair ih =>
    simp only [Bool.and_eq_true, decide_eq_true_eq] at hpair
    obtain ⟨rfl, rfl⟩ := hpair
    have hplaceholders : placeholders ('%' :: 's' :: rest) = placeholders rest + 1 := by
      simp [placeholders, Nat.add_comm]
    have hcount : ('%' :: 's' :: rest).count '\n' = rest.count '\n' := by simp
    rw [List.count_append, ih, hplaceholders, hcount, Nat.add_one_mul]
    omega
  | case4 c d rest hpair ih =>
    have hplaceholders : placeholders (c :: d :: rest) = placeholders (d :: rest) := by
      have hnone : "%s".toList.isPrefixOf (c :: d :: rest) = false := by
        rw [Bool.eq_false_iff]
        intro hprefix
        obtain ⟨t, ht⟩ := List.isPrefixOf_iff_prefix.mp hprefix
        cases ht
        exact hpair (by decide)
      rw [placeholders, hnone]
      simp
    rw [List.count_cons, ih, hplaceholders, List.count_cons (a := '\n') (b := c)]
    omega

end Naming

/-- Between the quotes of a string stand the line feeds of the text. -/
theorem count_goStringBody (t : Text) : (goStringBody t).count '\n' = t.count '\n' := by
  induction t with
  | nil => rfl
  | cons c rest ih =>
    rw [goStringBody_cons, List.count_append, ih, List.count_cons, Nat.add_comm]
    split <;> simp [List.count_cons]

end TableModel
