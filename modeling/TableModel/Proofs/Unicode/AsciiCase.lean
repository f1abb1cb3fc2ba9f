import Mathlib.Data.Nat.Basic

/-!
# ASCII case by numbers

An ASCII letter and its other case are 32 apart; every other character has no other ASCII case. So a
digit has none, and is no letter.
-/

namespace TableModel

theorem toNat_toLower (c : Char) :
    c.toLower.toNat = if 65 ≤ c.toNat ∧ c.toNat ≤ 90 then c.toNat + 32 else c.toNat := by
  have hiff : (c.val ≥ 'A'.val ∧ c.val ≤ 'Z'.val) ↔ 65 ≤ c.toNat ∧ c.toNat ≤ 90 := Iff.rfl
  by_cases h : 65 ≤ c.toNat ∧ c.toNat ≤ 90
  · rw [if_pos h]
    delta Char.toLower
    rw [dif_pos (hiff.mpr h)]
    change (c.val + 32).toNat = _
    rw [UInt32.toNat_add]
    change (c.toNat + 32) % 2 ^ 32 = c.toNat + 32
    omega
  · rw [if_neg h]
    delta Char.toLower
    rw [dif_neg (mt hiff.mp h)]

/-- A character is left alone in lower case, or it is a capital and becomes the letter 32 behind. -/
theorem toLower_eq_self_or (c : Char) :
    c.toLower = c ∨ (65 ≤ c.toNat ∧ c.toNat ≤ 90) ∧ c.toLower.toNat = c.toNat + 32 := by
  by_cases h : 65 ≤ c.toNat ∧ c.toNat ≤ 90
  · exact .inr ⟨h, by rw [toNat_toLower, if_pos h]⟩
  · exact .inl (by rw [← Char.toNat_inj, toNat_toLower, if_neg h])

theorem toNat_toUpper (c : Char) :
    c.toUpper.toNat = if 97 ≤ c.toNat ∧ c.toNat ≤ 122 then c.toNat - 32 else c.toNat := by
  have hiff : (c.val ≥ 'a'.val ∧ c.val ≤ 'z'.val) ↔ 97 ≤ c.toNat ∧ c.toNat ≤ 122 := Iff.rfl
  by_cases h : 97 ≤ c.toNat ∧ c.toNat ≤ 122
  · rw [if_pos h]
    delta Char.toUpper
    rw [dif_pos (hiff.mpr h)]
    -- The code adds the number that stands for -32 in 32 bits.
    change (c.val + ('A'.val - 'a'.val)).toNat = _
    rw [UInt32.toNat_add]
    change (c.toNat + 4294967264) % 2 ^ 32 = c.toNat - 32
    omega
  · rw [if_neg h]
    delta Char.toUpper
    rw [dif_neg (mt hiff.mp h)]

/-- A character is left alone in upper case, or it is a small letter and becomes the one 32 in
front. -/
theorem toUpper_eq_self_or (c : Char) :
    c.toUpper = c ∨ (97 ≤ c.toNat ∧ c.toNat ≤ 122) ∧ c.toUpper.toNat = c.toNat - 32 := by
  by_cases h : 97 ≤ c.toNat ∧ c.toNat ≤ 122
  · exact .inr ⟨h, by rw [toNat_toUpper, if_pos h]⟩
  · exact .inl (by rw [← Char.toNat_inj, toNat_toUpper, if_neg h])

/-- A digit stays one in lower case, and nothing else becomes one. -/
@[simp] theorem isDigit_toLower (c : Char) : c.toLower.isDigit = c.isDigit := by
  rw [Bool.eq_iff_iff, Char.isDigit_iff_toNat, Char.isDigit_iff_toNat, toNat_toLower]
  simp only [Char.reduceToNat]
  split <;> omega

@[simp] theorem isDigit_toUpper (c : Char) : c.toUpper.isDigit = c.isDigit := by
  rw [Bool.eq_iff_iff, Char.isDigit_iff_toNat, Char.isDigit_iff_toNat, toNat_toUpper]
  simp only [Char.reduceToNat]
  split <;> omega

theorem isAlpha_iff {c : Char} :
    c.isAlpha = true ↔ 65 ≤ c.toNat ∧ c.toNat ≤ 90 ∨ 97 ≤ c.toNat ∧ c.toNat ≤ 122 := by
  have hupper : c.isUpper = decide (65 ≤ c.toNat ∧ c.toNat ≤ 90) := rfl
  have hlower : c.isLower = (decide (97 ≤ c.toNat) && decide (c.toNat ≤ 122)) := rfl
  have halpha : c.isAlpha = (c.isUpper || c.isLower) := rfl
  rw [halpha, hupper, hlower]
  simp

/-- What is no letter is the lower-case form of itself alone. -/
theorem toLower_eq_iff_of_not_isAlpha {d : Char} (hd : d.isAlpha = false) (c : Char) :
    c.toLower = d ↔ c = d := by
  rcases toLower_eq_self_or c with hself | ⟨hupper, hlower⟩
  · rw [hself]
  · rw [← Bool.not_eq_true, isAlpha_iff] at hd
    refine iff_of_false ?_ ?_ <;> rintro rfl <;> omega

theorem toNat_lt_of_isAlpha {c : Char} (h : c.isAlpha = true) : c.toNat < 128 := by
  rw [isAlpha_iff] at h
  omega

theorem not_isDigit_of_isAlpha {c : Char} (h : c.isAlpha = true) : c.isDigit = false := by
  rw [isAlpha_iff] at h
  rw [← Bool.not_eq_true, Char.isDigit_iff_toNat]
  simp only [Char.reduceToNat]
  omega

theorem toNat_lt_of_isAlphanum {c : Char} (h : c.isAlphanum = true) : c.toNat < 128 := by
  rw [Char.isAlphanum, Bool.or_eq_true, Char.isDigit_iff_toNat] at h
  rcases h with halpha | hdigit
  · exact toNat_lt_of_isAlpha halpha
  · simp only [Char.reduceToNat] at hdigit
    omega

end TableModel
