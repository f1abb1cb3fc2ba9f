import TableModel.Naming
import TableModel.Proofs.Text.Words
import TableModel.Proofs.Unicode.CaseImages

/-!
# What an exported name keeps of a name

Making an exported name drops separators and punctuation and decides anew on the case of every
letter. What it keeps are the letters and numbers in order, up to case: an exported name in upper
case is `letters` of the name (`toUpper_exportedName`). Where the words of the name begin and end
matters for the case only.
-/

namespace TableModel

open Unicode

namespace Naming

/-- The letters and numbers of a name, in upper case. The exported name has the same ones as the
name that it is made from, so a name that is found by them is found from either. -/
def letters (name : Text) : Text := toUpper ((toLower name).filter isAlphanumeric)

def foldChar (c : Char) : Text := toUpper ((lowerChar c).filter isAlphanumeric)

/-- Letters are taken character by character: a final sigma has the same upper case as another, so
that what stands around a character has no say in it. -/
theorem letters_eq_flatMap (name : Text) : letters name = name.flatMap foldChar := by
  have hlower (before after : Text) (c : Char) :
      toUpper ((lowerIn before c after).filter isAlphanumeric) = foldChar c := by
    by_cases hsigma : c.toNat = 0x3A3
    · obtain rfl : c = Char.ofNat 0x3A3 := Char.toNat_inj.mp hsigma
      rw [lowerIn, if_pos hsigma]
      split <;> decide +kernel
    · rw [lowerIn, if_neg hsigma, foldChar]
  have hafter (before : Text) :
      toUpper ((lowerAfter before name).filter isAlphanumeric) = name.flatMap foldChar := by
    induction name generalizing before with
    | nil => rfl
    | cons c rest ih =>
      rw [lowerAfter, List.filter_append, toUpper_append, hlower, ih, List.flatMap_cons]
  exact hafter []

@[simp] theorem letters_append (a b : Text) : letters (a ++ b) = letters a ++ letters b := by
  simp only [letters_eq_flatMap, List.flatMap_append]

@[simp] theorem toUpper_upperChar (c : Char) : toUpper (upperChar c) = upperChar c := by
  have hidem := toUpper_toUpper [c]
  simpa using hidem

theorem isInitialism_iff {word : Text} :
    isInitialism word = true ↔ String.ofList word ∈ initialisms := by
  rw [isInitialism, List.any_eq_true]
  constructor
  · rintro ⟨s, hs, heq⟩
    rwa [← eq_of_beq heq, String.ofList_toList]
  · exact fun h => ⟨_, h, by rw [String.toList_ofList, beq_self_eq_true]⟩

/-- A word of a Go name differs from the word it is made of in case only. -/
@[simp] theorem toUpper_goWord (word : Text) : toUpper (goWord word) = toUpper word := by
  rw [goWord]
  split
  · rw [toUpper_toUpper]
  · cases word with
    | nil => rfl
    | cons c rest => rw [capitalize, toUpper_append, toUpper_upperChar, toUpper_cons]

theorem toUpper_flatMap (f : Text → Text) (words : List Text) :
    toUpper (words.flatMap f) = words.flatMap fun word => toUpper (f word) :=
  List.flatMap_assoc

theorem toUpper_goPart (word : Text) : toUpper (goPart word) = letters word := by
  have hpieces : (Text.pieces (!isAlphanumeric ·) (toLower word)).flatten =
      (toLower word).filter isAlphanumeric := by
    simpa using Text.flatten_pieces (!isAlphanumeric ·) (toLower word)
  rw [goPart, letters, ← hpieces, ← List.flatMap_id, toUpper_flatMap, toUpper_flatMap]
  simp only [toUpper_goWord, id_eq]

theorem flatten_consCluster (a : Text) (words : List Text) :
    (consCluster a words).flatten = a ++ words.flatten := by
  cases words <;> simp [consCluster]

theorem letters_of_isSeparator {cluster : Text} (h : isSeparator cluster = true) :
    letters cluster = [] := by
  simp only [isSeparator, Bool.or_eq_true, beq_iff_eq] at h
  rcases h with (rfl | rfl) | rfl <;> decide

theorem letters_flatten_wordsOf (clusters : List Text) :
    letters (wordsOf clusters).flatten = letters clusters.flatten := by
  induction clusters with
  | nil => rfl
  | cons a rest ih =>
    rw [wordsOf, List.flatten_cons, letters_append, ← ih]
    split
    · next hseparator => rw [letters_of_isSeparator hseparator]; rfl
    · split
      · rw [List.flatten_cons, letters_append]
      · rw [flatten_consCluster, letters_append]

/-- An exported name in upper case is the letters of the name. -/
theorem toUpper_exportedName (name : Text) : toUpper (exportedName name) = letters name := by
  calc toUpper (exportedName name)
      = (nameWords name).flatMap letters := by
        rw [exportedName, toUpper_flatMap]
        simp only [toUpper_goPart]
    _ = letters (nameWords name).flatten := by
        have hletters : letters = (·.flatMap foldChar) := funext letters_eq_flatMap
        rw [hletters, ← List.flatMap_id]
        exact List.flatMap_assoc.symm
    _ = letters (clusters name).flatten := by
        rw [nameWords, List.flatten_filter_not_isEmpty, letters_flatten_wordsOf]
    _ = letters name := by rw [flatten_clusters]

end Naming

end TableModel
