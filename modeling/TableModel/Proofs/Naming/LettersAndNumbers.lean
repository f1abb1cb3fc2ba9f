import TableModel.Proofs.Naming.AsciiName
import TableModel.Proofs.Unicode.Capitals

/-!
# Letters and numbers in exported names

The words of an exported name are cut out between everything that is no letter or number, and are
put in upper case after that. A word that begins with a letter for which there is no capital with
its accents, such as a small j with a caron, then begins with a capital and a combining mark, which
is no letter. Nothing else brings in what is no letter or number (`isAlphanumeric_exportedName`).
-/

namespace TableModel.Naming

open Unicode

/-- The words of an exported name are made of letters and numbers. -/
theorem isAlphanumeric_of_mem_goWords {name word : Text} (h : word ∈ goWords name) :
    ∀ c ∈ word, isAlphanumeric c = true := by
  intro c hc
  obtain ⟨part, -, hpiece⟩ := List.mem_flatMap.mp h
  simpa using ((Text.of_mem_pieces hpiece).2 c hc).2

/-- Each character of a word of an exported name is one of the name in lower case. -/
theorem exists_mem_of_mem_goWords {name word : Text} (h : word ∈ goWords name) {c : Char}
    (hc : c ∈ word) : ∃ before d after, d ∈ name ∧ c ∈ lowerIn before d after := by
  obtain ⟨part, hpart, hpiece⟩ := List.mem_flatMap.mp h
  have hlower := ((Text.of_mem_pieces hpiece).2 c hc).1
  obtain ⟨before, d, after, hd, hin⟩ := exists_of_mem_lowerAfter hlower
  exact ⟨before, d, after, mem_of_mem_nameWords hpart hd, hin⟩

theorem isAlphanumeric_of_isInitialism {word : Text} (h : isInitialism word = true) :
    ∀ c ∈ word, isAlphanumeric c = true := by
  have hall : ∀ s ∈ initialisms, s.toList.all isAlphanumeric = true := by decide +kernel
  have hword := hall _ (isInitialism_iff.mp h)
  rwa [String.toList_ofList, List.all_eq_true] at hword

/-- A word of a Go name is of letters and numbers if and only if its first letter is so in upper
case, which is if it is not unpaired. -/
theorem isAlphanumeric_goWord_iff {word : Text} (h : ∀ c ∈ word, isAlphanumeric c = true) :
    (∀ c ∈ goWord word, isAlphanumeric c = true) ↔ ∀ c ∈ word.head?, c.toNat ∉ unpairedLetters := by
  cases word with
  | nil =>
    have hnil : goWord [] = [] := by rw [goWord]; split <;> rfl
    simp [hnil]
  | cons c rest =>
    obtain ⟨hc, hrest⟩ := List.forall_mem_cons.mp h
    have hfirst : (∀ d ∈ (c :: rest).head?, d.toNat ∉ unpairedLetters) ↔
        ∀ d ∈ upperChar c, isAlphanumeric d = true := by
      simpa using (isAlphanumeric_upperChar_iff hc).symm
    rw [hfirst, goWord]
    split
    · next hinitialism =>
      have hall := isAlphanumeric_of_isInitialism hinitialism
      rw [toUpper_cons, List.forall_mem_append] at hall
      exact iff_of_true (List.forall_mem_append.mpr hall) hall.1
    · rw [capitalize, List.forall_mem_append]
      exact and_iff_left hrest

/-- There is nothing but letters, numbers and marks in a word of a Go name. -/
theorem isAlphanumeric_or_of_mem_goWord {word : Text} (h : ∀ c ∈ word, isAlphanumeric c = true)
    {d : Char} (hd : d ∈ goWord word) : isAlphanumeric d = true ∨ d.toNat ∈ capitalMarks := by
  rw [goWord] at hd
  split at hd
  · next hinitialism => exact .inl (isAlphanumeric_of_isInitialism hinitialism d hd)
  · cases word with
    | nil => exact absurd hd List.not_mem_nil
    | cons c rest =>
      rcases List.mem_append.mp hd with hfirst | hrest
      · exact isAlphanumeric_or_of_mem_upperChar (h c List.mem_cons_self) hfirst
      · exact .inl (h d (List.mem_cons_of_mem c hrest))

/-- **Letters and numbers in exported names.** An exported name is made of letters and numbers if
and only if none of its words begins with a letter that has accents and no capital with the same
accents. So it is if the name has no such letter; and otherwise nothing is in it besides but the
combining marks that these letters leave behind their capitals. -/
theorem isAlphanumeric_exportedName (name : Text) :
    ((∀ c ∈ exportedName name, isAlphanumeric c = true) ↔
      ∀ word ∈ goWords name, ∀ c ∈ word.head?, c.toNat ∉ unpairedLetters) ∧
    ((∀ c ∈ name, c.toNat ∉ unpairedLetters) →
      ∀ c ∈ exportedName name, isAlphanumeric c = true) ∧
    ∀ c ∈ exportedName name, isAlphanumeric c = true ∨ c.toNat ∈ capitalMarks := by
  have hiff : (∀ c ∈ exportedName name, isAlphanumeric c = true) ↔
      ∀ word ∈ goWords name, ∀ c ∈ word.head?, c.toNat ∉ unpairedLetters := by
    rw [exportedName_eq_flatMap, List.forall_mem_flatMap]
    exact forall₂_congr fun word hword =>
      isAlphanumeric_goWord_iff (isAlphanumeric_of_mem_goWords hword)
  refine ⟨hiff, fun hname => hiff.mpr fun word hword c hc hunpaired => ?_, fun c hc => ?_⟩
  · obtain ⟨before, d, after, hd, hin⟩ :=
      exists_mem_of_mem_goWords hword (List.mem_of_mem_head? hc)
    -- An unpaired letter comes from itself.
    obtain rfl := eq_of_mem_lowerIn_of_mem_unpairedLetters hin hunpaired
    exact hname c hd hunpaired
  · rw [exportedName_eq_flatMap, List.mem_flatMap] at hc
    obtain ⟨word, hword, hmem⟩ := hc
    exact isAlphanumeric_or_of_mem_goWord (isAlphanumeric_of_mem_goWords hword) hmem

/-- A small j with a caron in front of a word leaves its caron behind the capital; within a word it
stays as it is. -/
theorem isAlphanumeric_exportedName_caron :
    (¬ ∀ c ∈ exportedName ['\u01F0', 'x'], isAlphanumeric c = true) ∧
      (∀ c ∈ exportedName ['x', '\u01F0', '_', 'ß'], isAlphanumeric c = true) ∧
      ∀ c ∈ exportedName ['ß', '_', 'İ'], isAlphanumeric c = true := by
  have hfront : goWords ['\u01F0', 'x'] = [['\u01F0', 'x']] := by decide +kernel
  have hwithin : goWords ['x', '\u01F0', '_', 'ß'] = [['x', '\u01F0'], ['ß']] := by decide +kernel
  refine ⟨mt (isAlphanumeric_exportedName _).1.mp ?_, (isAlphanumeric_exportedName _).1.mpr ?_,
    (isAlphanumeric_exportedName _).2.1 ?_⟩
  · simp [hfront, unpairedLetters]
  · simp [hwithin, unpairedLetters]
  · simp [unpairedLetters]

end TableModel.Naming
