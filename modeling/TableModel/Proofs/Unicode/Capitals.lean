import TableModel.Proofs.Unicode.LowerCase
import TableModel.Unicode.Alphanumeric

/-!
# Letters in upper case

In upper case letters and numbers become letters and numbers, but for a few small letters with
accents, `unpairedLetters`, for which there is no capital with these accents. They become a capital
and combining marks behind it (`isAlphanumeric_upperChar_iff`); the marks, `capitalMarks`, are no
letters. In lower case nothing else becomes one of these letters
(`eq_of_mem_lowerIn_of_mem_unpairedLetters`). All this is read off the tables, which are compared as
sets of code points.
-/

namespace TableModel.Unicode

/-- The small letters beyond ASCII that have accents, but no capital with the same accents. In upper
case they become a plain capital with the accents behind it as combining marks, and a combining mark
is neither a letter nor a number. -/
def unpairedLetters : List Nat :=
  [0x1F0, 0x390, 0x3B0, 0x1E96, 0x1E97, 0x1E98, 0x1E99, 0x1F50, 0x1F52, 0x1F54, 0x1F56, 0x1FB6,
   0x1FB7, 0x1FC6, 0x1FC7, 0x1FD2, 0x1FD3, 0x1FD6, 0x1FD7, 0x1FE2, 0x1FE3, 0x1FE4, 0x1FE6, 0x1FE7,
   0x1FF6, 0x1FF7]

/-- The combining marks that stand for these accents behind a capital. -/
def capitalMarks : List Nat := [0x300, 0x301, 0x308, 0x30A, 0x30C, 0x313, 0x331, 0x342]

def alphanumericBits : Nat :=
  Ranges.bits ((0x30, 0x39) :: (0x41, 0x5A) :: (0x61, 0x7A) :: (alphabeticRanges ++ numericRanges))

theorem isAlphanumeric_iff_testBit {c : Char} :
    isAlphanumeric c = true ↔ alphanumericBits.testBit c.toNat = true := by
  rw [alphanumericBits, Ranges.testBit_bits]
  simp only [List.exists_mem_cons_iff]
  by_cases hlt : c.toNat < 128
  · have hbeyond : ∀ range ∈ alphabeticRanges ++ numericRanges, 128 ≤ range.1 := by decide +kernel
    have hnone : ¬ ∃ range ∈ alphabeticRanges ++ numericRanges,
        range.1 ≤ c.toNat ∧ c.toNat ≤ range.2 := by
      rintro ⟨range, hrange, hle, -⟩
      have hge := hbeyond range hrange
      omega
    rw [isAlphanumeric_of_lt hlt, Char.isAlphanum, Bool.or_eq_true, isAlpha_iff,
      Char.isDigit_iff_toNat]
    simp only [Char.reduceToNat, hnone, or_false]
    omega
  · have hranges : isAlphanumeric c = true ↔
        ∃ range ∈ alphabeticRanges ++ numericRanges, range.1 ≤ c.toNat ∧ c.toNat ≤ range.2 := by
      rw [isAlphanumeric, isAlphabetic, isNumeric, if_neg hlt, if_neg hlt, ← Ranges.holds_iff,
        Ranges.holds, Ranges.holds, Ranges.holds, List.any_append]
    have hbeyond : ¬ (0x30 ≤ c.toNat ∧ c.toNat ≤ 0x39) ∧ ¬ (0x41 ≤ c.toNat ∧ c.toNat ≤ 0x5A) ∧
        ¬ (0x61 ≤ c.toNat ∧ c.toNat ≤ 0x7A) := by omega
    simp only [hranges, hbeyond, false_or]

theorem isAlphanumeric_of_mem_capitalPoints {c : Char} (h : c.toNat ∈ capitalPoints) :
    isAlphanumeric c = true := by
  have htables : bits capitalPoints ||| alphanumericBits = alphanumericBits := by decide +kernel
  exact isAlphanumeric_iff_testBit.mpr (testBit_of_bits htables h)

theorem isAlphanumeric_or_of_mem_expansions {c : Char}
    (h : c.toNat ∈ uppercaseExpansions.flatMap (·.2)) :
    isAlphanumeric c = true ∨ c.toNat ∈ capitalMarks := by
  have htables : bits (uppercaseExpansions.flatMap (·.2)) |||
      (alphanumericBits ||| bits capitalMarks) = alphanumericBits ||| bits capitalMarks := by
    decide +kernel
  have hbit := testBit_of_bits htables h
  rwa [Nat.testBit_or, Bool.or_eq_true, ← isAlphanumeric_iff_testBit, testBit_bits] at hbit

theorem isAlphanumeric_eq_false_of_mem_capitalMarks {c : Char} (h : c.toNat ∈ capitalMarks) :
    isAlphanumeric c = false := by
  have htables : bits capitalMarks &&& alphanumericBits = 0 := by decide +kernel
  rw [← Bool.not_eq_true, isAlphanumeric_iff_testBit, testBit_eq_false_of_bits htables h]
  exact Bool.false_ne_true

/-- There are marks in the expansions of unpaired letters and in no others. -/
theorem mem_unpairedLetters_iff :
    (∀ entry ∈ uppercaseExpansions, entry.1 ∈ unpairedLetters ↔ ∃ n ∈ entry.2, n ∈ capitalMarks) ∧
      ∀ n ∈ unpairedLetters, n ∈ uppercaseExpansions.map (·.1) := by
  decide +kernel

/-- What a letter or number becomes in upper case is letters, numbers and marks. -/
theorem isAlphanumeric_or_of_mem_upperChar {c d : Char} (hc : isAlphanumeric c = true)
    (hd : d ∈ upperChar c) : isAlphanumeric d = true ∨ d.toNat ∈ capitalMarks := by
  rcases upperChar_cases c with ⟨entry, hentry, -, hexpansion⟩ | ⟨-, e, hsingle, he⟩
  · exact isAlphanumeric_or_of_mem_expansions
      (List.mem_flatMap.mpr ⟨entry, hentry, hexpansion ▸ List.mem_map_of_mem hd⟩)
  · rw [hsingle, List.mem_singleton] at hd
    rw [hd]
    rcases he with rfl | hcapital
    · exact .inl hc
    · exact .inl (isAlphanumeric_of_mem_capitalPoints hcapital)

/-- **A letter or number is letters and numbers in upper case** exactly if it is not unpaired. -/
theorem isAlphanumeric_upperChar_iff {c : Char} (hc : isAlphanumeric c = true) :
    (∀ d ∈ upperChar c, isAlphanumeric d = true) ↔ c.toNat ∉ unpairedLetters := by
  have hmarks : (∀ d ∈ upperChar c, isAlphanumeric d = true) ↔
      ¬ ∃ d ∈ upperChar c, d.toNat ∈ capitalMarks := by
    constructor
    · rintro hall ⟨d, hd, hmark⟩
      exact Bool.false_ne_true
        ((isAlphanumeric_eq_false_of_mem_capitalMarks hmark).symm.trans (hall d hd))
    · intro hnone d hd
      exact (isAlphanumeric_or_of_mem_upperChar hc hd).resolve_right fun hmark =>
        hnone ⟨d, hd, hmark⟩
  rcases upperChar_cases c with ⟨entry, hentry, hpoint, hexpansion⟩ | ⟨hsingle, e, hupper, he⟩
  · rw [hmarks, ← hpoint, mem_unpairedLetters_iff.1 entry hentry, ← hexpansion]
    simp only [List.mem_map, exists_exists_and_eq_and]
  · refine iff_of_true (fun d hd => ?_) (mt (mem_unpairedLetters_iff.2 c.toNat) hsingle)
    rw [hupper, List.mem_singleton] at hd
    rw [hd]
    rcases he with rfl | hcapital
    · exact hc
    · exact isAlphanumeric_of_mem_capitalPoints hcapital

/-- No unpaired letter comes from another character in lower case. -/
theorem eq_of_mem_lowerIn_of_mem_unpairedLetters {before after : List Char} {c d : Char}
    (hd : d ∈ lowerIn before c after) (hunpaired : d.toNat ∈ unpairedLetters) : d = c := by
  have htables : bits unpairedLetters &&& bits lowerImages = 0 := by decide +kernel
  rcases lowerIn_eq_self_or c with hself | himages
  · rwa [hself, List.mem_singleton] at hd
  · exact absurd (himages before after d hd) (disjoint_of_bits htables hunpaired)

end TableModel.Unicode
