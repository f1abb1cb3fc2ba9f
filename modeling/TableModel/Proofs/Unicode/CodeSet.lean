import Mathlib.Data.List.Basic
import TableModel.Unicode.Ranges

/-!
# Finite sets of code points as numbers

A list of code points is turned into the number that has these bits, and so is a list of ranges.
Whether two lists have a code point in common is then one operation on two numbers, whatever their
lengths, and so is whether one has all of another, so that whole tables can be compared by
evaluation (`disjoint_of_bits`, `testBit_of_bits`).
-/

namespace TableModel.Unicode

/-- The number whose bits are the given code points. Two lists are compared by one operation on
numbers in this way, where a comparison of each point with each would be too long to evaluate. -/
def bits : List Nat → Nat
  | [] => 0
  | n :: rest => 1 <<< n ||| bits rest

theorem testBit_bits {points : List Nat} {n : Nat} :
    (bits points).testBit n = true ↔ n ∈ points := by
  induction points with
  | nil => simp [bits]
  | cons m rest ih =>
    rw [bits, Nat.testBit_or, Nat.one_shiftLeft, Nat.testBit_two_pow, Bool.or_eq_true,
      decide_eq_true_iff, ih, List.mem_cons, eq_comm]

/-- No code point of a list is among the bits of a number that it has no bit in common with. -/
theorem testBit_eq_false_of_bits {points : List Nat} {set : Nat} (h : bits points &&& set = 0)
    {n : Nat} (hn : n ∈ points) : set.testBit n = false := by
  have hbit : (bits points &&& set).testBit n = false := by rw [h, Nat.zero_testBit]
  rwa [Nat.testBit_and, testBit_bits.mpr hn, Bool.true_and] at hbit

/-- Two lists of code points with no bit in common have no code point in common. -/
theorem disjoint_of_bits {points points' : List Nat} (h : bits points &&& bits points' = 0) :
    points.Disjoint points' := fun _ hmem hmem' =>
  absurd (testBit_bits.mpr hmem') (by simp [testBit_eq_false_of_bits h hmem])

/-- All of a list of code points are among the bits of a number that they add nothing to. -/
theorem testBit_of_bits {points : List Nat} {set : Nat} (h : bits points ||| set = set) {n : Nat}
    (hn : n ∈ points) : set.testBit n = true := by
  rw [← h, Nat.testBit_or, testBit_bits.mpr hn, Bool.true_or]

/-- The number whose bits are the code points in the ranges. -/
def Ranges.bits : Ranges → Nat
  | [] => 0
  | range :: rest => (1 <<< (range.2 + 1 - range.1) - 1) <<< range.1 ||| bits rest

theorem Ranges.testBit_bits {ranges : Ranges} {n : Nat} :
    ranges.bits.testBit n = true ↔ ∃ range ∈ ranges, range.1 ≤ n ∧ n ≤ range.2 := by
  induction ranges with
  | nil => simp [Ranges.bits]
  | cons range rest ih =>
    have hrange : ((1 <<< (range.2 + 1 - range.1) - 1) <<< range.1).testBit n = true ↔
        range.1 ≤ n ∧ n ≤ range.2 := by
      rw [Nat.testBit_shiftLeft, Nat.one_shiftLeft, Nat.testBit_two_pow_sub_one,
        Bool.and_eq_true, decide_eq_true_iff, decide_eq_true_iff]
      omega
    rw [Ranges.bits, Nat.testBit_or, Bool.or_eq_true, hrange, ih, List.exists_mem_cons_iff]

end TableModel.Unicode
