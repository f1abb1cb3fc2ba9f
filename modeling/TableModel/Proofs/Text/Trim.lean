import Mathlib.Data.List.DropRight
import TableModel.Text

/-!
# Trimming

`trim` cuts off the longest run of blanks at either end, so what it gives begins and ends with a
character that is no blank, and a text that does so is left alone (`trim_eq_self_iff`).
-/

namespace TableModel.Text

theorem trimEnd_eq_rdropWhile (t : Text) : trimEnd t = t.rdropWhile isBlank := rfl

/-- A trimmed text does not begin with a blank. -/
theorem isBlank_of_head?_trim {t : Text} {c : Char} (h : (trim t).head? = some c) :
    isBlank c = false := by
  have hpre : trim t <+: trimStart t := List.rdropWhile_prefix isBlank _
  obtain ⟨rest, hrest⟩ := hpre
  have hhead : (trimStart t).head? = some c := by
    rw [← hrest, List.head?_append, h]
    rfl
  have hnot := List.head?_dropWhile_not isBlank t
  rw [show t.dropWhile isBlank = trimStart t from rfl, hhead] at hnot
  exact hnot

theorem isBlank_of_getLast?_trim {t : Text} {c : Char} (h : (trim t).getLast? = some c) :
    isBlank c = false := by
  have hne : trim t ≠ [] := by
    intro hnil
    rw [hnil] at h
    simp at h
  have hlast : (trim t).getLast hne = c := by
    rw [List.getLast?_eq_some_getLast hne] at h
    exact Option.some.inj h
  have hnot := List.rdropWhile_last_not isBlank (trimStart t) hne
  rw [Bool.not_eq_true] at hnot
  rw [← hlast]
  exact hnot

/-- A text is left alone exactly if neither end of it is a blank. -/
theorem trim_eq_self_iff {t : Text} :
    trim t = t ↔ (∀ c, t.head? = some c → isBlank c = false) ∧
      ∀ c, t.getLast? = some c → isBlank c = false := by
  constructor
  · intro h
    refine ⟨fun c hc => isBlank_of_head?_trim (t := t) ?_,
      fun c hc => isBlank_of_getLast?_trim (t := t) ?_⟩
    · rw [h, hc]
    · rw [h, hc]
  · rintro ⟨hfirst, hlast⟩
    have hstart : trimStart t = t := by
      cases t with
      | nil => rfl
      | cons c rest => exact List.dropWhile_cons_of_neg (by simp [hfirst c rfl])
    rw [trim, hstart, trimEnd_eq_rdropWhile, List.rdropWhile_eq_self_iff]
    intro hne
    simp [hlast _ (List.getLast?_eq_some_getLast hne)]

@[simp] theorem trim_trim (t : Text) : trim (trim t) = trim t :=
  trim_eq_self_iff.mpr
    ⟨fun _ h => isBlank_of_head?_trim h, fun _ h => isBlank_of_getLast?_trim h⟩

/-- Blanks in front of a text make no difference to what is left of it. -/
theorem trim_blanks_append {blanks : Text} (h : ∀ c ∈ blanks, isBlank c = true) (t : Text) :
    trim (blanks ++ t) = trim t := by
  rw [trim, trim, trimStart, trimStart, List.dropWhile_append_of_pos h]

theorem trim_append_blanks {blanks : Text} (h : ∀ c ∈ blanks, isBlank c = true) (t : Text) :
    trim (t ++ blanks) = trim t := by
  have hend (u : Text) : trimEnd (u ++ blanks) = trimEnd u := by
    have hreverse : ∀ c ∈ blanks.reverse, isBlank c = true := fun c hc =>
      h c (List.mem_reverse.mp hc)
    rw [trimEnd, trimEnd, List.reverse_append, List.dropWhile_append_of_pos hreverse]
  rw [trim, trim, trimStart, trimStart, List.dropWhile_append]
  split
  · next hnil =>
    -- Nothing but blanks is left to the left of the blanks, and both go.
    rw [List.isEmpty_iff.mp hnil, List.dropWhile_eq_nil_iff.mpr h]
  · rw [hend]

/-- Where a change to the characters makes no difference to what is a blank, what is left of a text
is changed. -/
theorem trim_map {f : Char → Char} (h : ∀ c, isBlank (f c) = isBlank c) (t : Text) :
    trim (t.map f) = (trim t).map f := by
  have hblank : isBlank ∘ f = isBlank := funext h
  simp only [trim, trimEnd, trimStart, List.dropWhile_map, ← List.map_reverse, hblank]

theorem length_trim_le (t : Text) : (trim t).length ≤ t.length :=
  calc (trim t).length
      ≤ (trimStart t).length := (List.rdropWhile_prefix isBlank _).length_le
    _ ≤ t.length := (List.dropWhile_suffix isBlank).length_le

theorem mem_of_mem_trim {c : Char} {t : Text} (h : c ∈ trim t) : c ∈ t :=
  (List.dropWhile_suffix isBlank).mem ((List.rdropWhile_prefix isBlank _).mem h)

/-- Trimming takes nothing but blanks away. -/
theorem mem_trim_iff {c : Char} (h : isBlank c = false) {t : Text} : c ∈ trim t ↔ c ∈ t := by
  have hdrop (u : Text) : c ∈ u.dropWhile isBlank ↔ c ∈ u := by
    have hcut : c ∉ u.takeWhile isBlank := fun hmem => by
      simp [List.mem_takeWhile_imp hmem] at h
    calc c ∈ u.dropWhile isBlank
        ↔ c ∈ u.takeWhile isBlank ++ u.dropWhile isBlank := by
          rw [List.mem_append, or_iff_right hcut]
      _ ↔ c ∈ u := by rw [List.takeWhile_append_dropWhile]
  rw [trim, trimEnd, List.mem_reverse, hdrop, List.mem_reverse, trimStart, hdrop]

/-- Behind a trimmed text that is not empty, a text that does not end with a blank may follow. -/
theorem trim_append_of_getLast? {t u : Text} {c : Char} (ht : trim t ≠ [])
    (hu : u.getLast? = some c) (hc : isBlank c = false) : trim (trim t ++ u) = trim t ++ u := by
  refine trim_eq_self_iff.mpr ⟨fun d hd => ?_, fun d hd => ?_⟩
  · rw [List.head?_append_of_ne_nil _ ht] at hd
    exact isBlank_of_head?_trim hd
  · rw [List.getLast?_append, hu, Option.some_or, Option.some.injEq] at hd
    rw [← hd, hc]

end TableModel.Text
