/-!
# Sets of characters and mappings between them

A set of characters is written as a list of inclusive ranges of code points, and looked up by
going through them. A case mapping is written as runs, because letters come in alphabets.
-/

namespace TableModel.Unicode

abbrev Ranges := List (Nat × Nat)

def Ranges.holds (ranges : Ranges) (c : Char) : Bool :=
  ranges.any fun range => range.1.ble c.toNat && c.toNat.ble range.2

theorem Ranges.holds_iff {ranges : Ranges} {c : Char} :
    ranges.holds c ↔ ∃ range ∈ ranges, range.1 ≤ c.toNat ∧ c.toNat ≤ range.2 := by
  simp [Ranges.holds, Nat.ble_eq]

/-! ### Runs of case mappings

The characters `first`, `first + step`, … up to `last` go to `target`, `target + step`, …. The first
run that holds a character maps it, and a character in no run is its own image. -/

/-- A run of characters, by its first and last one and the distance between neighbours, and the
first character of the run they are mapped to. -/
structure CaseRun where
  first : Nat
  last : Nat
  step : Nat
  target : Nat

def CaseRun.image? (run : CaseRun) (n : Nat) : Option Nat :=
  if run.first.ble n && n.ble run.last && (n - run.first) % run.step == 0 then
    some (run.target + (n - run.first))
  else none

def CaseRun.map (runs : List CaseRun) (c : Char) : Char :=
  match runs.findSome? fun run => run.image? c.toNat with
  | some n => Char.ofNat n
  | none => c

end TableModel.Unicode
