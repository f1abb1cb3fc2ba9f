import Mathlib
import TableModel.Proofs.Naming.ExportedName

/-!
# Exported names of ASCII texts

An exported name is put together from `goWords`: the words of the name in lower case, cut once more
at everything that is no letter or number. For an ASCII text these are made of ASCII letters and
digits, and a word of the Go name is such a word with some letters in upper case, the first one
among them. So the exported name has the letters and digits of the text, in order and in another
case, and no small letter in front (`exportedName_recases`).
-/

namespace TableModel

open Unicode

/-- All characters of the text are ASCII characters, control characters among them. -/
def Text.IsAscii (t : Text) : Prop := ∀ c ∈ t, c.toNat < 128

instance (t : Text) : Decidable t.IsAscii := List.decidableBAll _ t

theorem Text.isAscii_cons {c : Char} {t : Text} :
    Text.IsAscii (c :: t) ↔ c.toNat < 128 ∧ t.IsAscii :=
  List.forall_mem_cons

theorem Text.isAscii_append {t u : Text} :
    Text.IsAscii (t ++ u) ↔ t.IsAscii ∧ u.IsAscii :=
  List.forall_mem_append

/-- A letter or digit stays one in lower case, and nothing else becomes one. -/
@[simp] theorem isAlphanum_toLower (c : Char) : c.toLower.isAlphanum = c.isAlphanum := by
  simp [Char.isAlphanum]

@[simp] theorem isAlphanum_toUpper (c : Char) : c.toUpper.isAlphanum = c.isAlphanum := by
  simp [Char.isAlphanum]

theorem Text.IsAscii.of_isAlphanum {t : Text} (h : ∀ c ∈ t, c.isAlphanum = true) : t.IsAscii :=
  fun c hc => toNat_lt_of_isAlphanum (h c hc)

theorem Text.IsAscii.toLower {t : Text} (h : t.IsAscii) : Text.IsAscii (Unicode.toLower t) := by
  intro c hc
  rw [toLower_of_lt h, List.mem_map] at hc
  obtain ⟨d, hd, rfl⟩ := hc
  have hlt := h d hd
  rw [toNat_toLower]
  split <;> omega

namespace Naming

/-! ### The words of an exported name -/

/-- The words that an exported name is put together from. What becomes of a word, be it an
initialism or not, depends on that word alone (`exportedName_eq_flatMap`). -/
def goWords (name : Text) : List Text :=
  (nameWords name).flatMap fun word => Text.pieces (!isAlphanumeric ·) (toLower word)

theorem exportedName_eq_flatMap (name : Text) : exportedName name = (goWords name).flatMap goWord :=
  List.flatMap_assoc.symm

theorem flatten_wordsOf_sublist (clusters : List Text) :
    (wordsOf clusters).flatten.Sublist clusters.flatten := by
  induction clusters with
  | nil => exact List.Sublist.refl _
  | cons a rest ih =>
    rw [wordsOf, List.flatten_cons]
    split_ifs
    · exact ih.trans (List.sublist_append_right _ _)
    · exact ih.append_left a
    · rw [flatten_consCluster]
      exact ih.append_left a

theorem mem_of_mem_nameWords {name word : Text} (h : word ∈ nameWords name) {c : Char}
    (hc : c ∈ word) : c ∈ name := by
  have hword : word ∈ wordsOf (clusters name) := (List.mem_filter.mp h).1
  have hflatten :=
    (flatten_wordsOf_sublist (clusters name)).subset (List.mem_flatten_of_mem hword hc)
  rwa [flatten_clusters] at hflatten

theorem of_mem_goWords {name word : Text} (h : name.IsAscii) (hword : word ∈ goWords name) :
    word ≠ [] ∧ ∀ c ∈ word, c.isAlphanum = true := by
  obtain ⟨part, hpart, hpiece⟩ := List.mem_flatMap.mp hword
  have hascii : Text.IsAscii part := fun c hc => h c (mem_of_mem_nameWords hpart hc)
  obtain ⟨hne, hall⟩ := Text.of_mem_pieces hpiece
  refine ⟨hne, fun c hc => ?_⟩
  obtain ⟨hmem, hcut⟩ := hall c hc
  rw [← isAlphanumeric_of_lt (hascii.toLower c hmem)]
  simpa using hcut

/-! ### One word -/

/-- A word of a Go name is made of ASCII letters and digits if the word it comes from is. -/
theorem isAlphanum_of_mem_goWord {word : Text} (h : ∀ c ∈ word, c.isAlphanum = true) :
    ∀ c ∈ goWord word, c.isAlphanum = true := by
  have hascii := Text.IsAscii.of_isAlphanum h
  have hupper : ∀ c ∈ word, c.toUpper.isAlphanum = true := fun c hc => by
    rw [isAlphanum_toUpper, h c hc]
  rw [goWord]
  split
  · rw [toUpper_of_lt hascii]
    simpa using h
  · cases word with
    | nil => exact h
    | cons c rest =>
      have hc : upperChar c = [c.toUpper] := upperChar_of_lt (hascii c List.mem_cons_self)
      rw [capitalize, hc]
      intro d hd
      rcases List.mem_append.mp hd with hd | hd
      · rw [List.mem_singleton.mp hd]
        exact hupper c List.mem_cons_self
      · exact h d (List.mem_cons_of_mem c hd)

/-- A word of a Go name begins with the upper-case form of the word's first character. -/
theorem head?_goWord {word : Text} (h : word.IsAscii) :
    (goWord word).head? = word.head?.map Char.toUpper := by
  rw [goWord]
  split
  · rw [toUpper_of_lt h, List.head?_map]
  · cases word with
    | nil => rfl
    | cons c rest =>
      rw [capitalize, upperChar_of_lt (h c List.mem_cons_self)]
      rfl

/-! ### The whole name -/

/-- Everything in the exported name of an ASCII text is a letter or a digit. -/
theorem isAlphanum_of_mem_exportedName {name : Text} (h : name.IsAscii) :
    ∀ c ∈ exportedName name, c.isAlphanum = true := by
  intro c hc
  rw [exportedName_eq_flatMap, List.mem_flatMap] at hc
  obtain ⟨word, hword, hmem⟩ := hc
  exact isAlphanum_of_mem_goWord (of_mem_goWords h hword).2 c hmem

theorem letters_of_isAscii {name : Text} (h : name.IsAscii) :
    letters name = (name.filter Char.isAlphanum).map Char.toUpper := by
  have hfilter : (toLower name).filter isAlphanumeric =
      (name.filter Char.isAlphanum).map Char.toLower := by
    rw [List.filter_congr fun c hc => isAlphanumeric_of_lt (h.toLower c hc), toLower_of_lt h,
      List.filter_map]
    simp [Function.comp_def]
  have hascii : Text.IsAscii ((name.filter Char.isAlphanum).map Char.toLower) := by
    refine .of_isAlphanum fun c hc => ?_
    obtain ⟨d, hd, rfl⟩ := List.mem_map.mp hc
    rw [isAlphanum_toLower, (List.mem_filter.mp hd).2]
  rw [letters, hfilter, toUpper_of_lt hascii, List.map_map]
  simp [Function.comp_def]

/-- The exported name of an ASCII text keeps its letters and digits. -/
theorem map_toLower_exportedName {name : Text} (h : name.IsAscii) :
    (exportedName name).map Char.toLower = (name.filter Char.isAlphanum).map Char.toLower := by
  have hupper : (exportedName name).map Char.toUpper =
      (name.filter Char.isAlphanum).map Char.toUpper := by
    rw [← toUpper_of_lt (Text.IsAscii.of_isAlphanum (isAlphanum_of_mem_exportedName h)),
      toUpper_exportedName, letters_of_isAscii h]
  have hlower := congrArg (List.map Char.toLower) hupper
  simpa [Function.comp_def] using hlower

/-- The exported name of an ASCII text does not begin with a small letter. -/
theorem isLower_of_head?_exportedName {name : Text} (h : name.IsAscii) {c : Char}
    (hc : (exportedName name).head? = some c) : c.isLower = false := by
  rw [exportedName_eq_flatMap] at hc
  cases hwords : goWords name with
  | nil =>
    rw [hwords] at hc
    cases hc
  | cons word rest =>
    obtain ⟨hne, hall⟩ := of_mem_goWords h (hwords ▸ List.mem_cons_self)
    obtain ⟨d, more, rfl⟩ := List.exists_cons_of_ne_nil hne
    have hfirst := head?_goWord (Text.IsAscii.of_isAlphanum hall)
    rw [hwords, List.flatMap_cons, List.head?_append, hfirst] at hc
    obtain rfl : d.toUpper = c := by simpa using hc
    exact Char.isLower_toUpper_eq_false d

/-- The text is a name that Go exports: a capital letter, and behind it letters, digits and
underscores. -/
def IsExportedIdentifier (t : Text) : Prop :=
  (t.head?.any Char.isUpper && t.all fun c => c.isAlphanum || c == '_') = true

instance (t : Text) : Decidable (IsExportedIdentifier t) := inferInstanceAs (Decidable (_ = true))

/-- **An exported name only recases** the letters and digits of an ASCII text: none is lost, added
or moved, and the first one is no small letter. So the name is empty only where there are none, and
Go takes it for an exported name exactly if the first of them is a letter. -/
theorem exportedName_recases (name : Text) (h : name.IsAscii) :
    (∀ c ∈ exportedName name, c.isAlphanum = true) ∧
      (exportedName name).map Char.toLower = (name.filter Char.isAlphanum).map Char.toLower ∧
      (∀ c, (exportedName name).head? = some c → c.isLower = false) ∧
      (exportedName name = [] ↔ ∀ c ∈ name, c.isAlphanum = false) ∧
      (IsExportedIdentifier (exportedName name) ↔
        (name.find? Char.isAlphanum).any Char.isAlpha = true) := by
  have hall := isAlphanum_of_mem_exportedName h
  have hlower := map_toLower_exportedName h
  refine ⟨hall, hlower, fun c hc => isLower_of_head?_exportedName h hc, ?_, ?_⟩
  · rw [← List.map_eq_nil_iff (f := Char.toLower), hlower, List.map_eq_nil_iff,
      List.filter_eq_nil_iff]
    simp
  · have hfirst : (exportedName name).head?.map Char.toLower =
        (name.find? Char.isAlphanum).map Char.toLower := by
      rw [← List.head?_map, hlower, List.head?_map, List.head?_filter]
    have hidentifier : IsExportedIdentifier (exportedName name) ↔
        (exportedName name).head?.any Char.isUpper = true := by
      have halpha : ((exportedName name).all fun c => c.isAlphanum || c == '_') = true :=
        List.all_eq_true.mpr fun c hc => by rw [hall c hc, Bool.true_or]
      rw [IsExportedIdentifier, halpha, Bool.and_true]
    rw [hidentifier]
    -- The two first characters differ in case at most, and the one of the exported name is no small
    -- letter.
    cases hhead : (exportedName name).head? with
    | none =>
      rw [hhead, Option.map_none, eq_comm, Option.map_eq_none_iff] at hfirst
      rw [hfirst]
      rfl
    | some c =>
      have hc := isLower_of_head?_exportedName h hhead
      rw [hhead, Option.map_some, eq_comm, Option.map_eq_some_iff] at hfirst
      obtain ⟨d, hd, hcase⟩ := hfirst
      have hletter : d.isAlpha = c.isUpper := by
        rw [← Char.isAlpha_toLower_eq_isAlpha, hcase, Char.isAlpha_toLower_eq_isAlpha, Char.isAlpha,
          hc, Bool.or_false]
      rw [hd, Option.any_some, Option.any_some, hletter]

/-- Separators, several cases and punctuation; a name that begins with a digit is no exported one. -/
theorem exportedName_recases_names :
    (exportedName "uSER-id.v2".toList).map Char.toLower = "useridv2".toList ∧
      IsExportedIdentifier (exportedName "uSER-id.v2".toList) ∧
      ¬ IsExportedIdentifier (exportedName "_2nd".toList) :=
  ⟨(exportedName_recases "uSER-id.v2".toList (by decide)).2.1.trans (by decide),
    (exportedName_recases "uSER-id.v2".toList (by decide)).2.2.2.2.mpr (by decide),
    mt (exportedName_recases "_2nd".toList (by decide)).2.2.2.2.mp (by decide)⟩

end Naming

end TableModel
