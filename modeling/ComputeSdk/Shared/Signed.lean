import Mathlib.Algebra.Group.Int.Defs
import Mathlib.Algebra.Group.Nat.Defs
import Mathlib.Tactic.Common

/-! # Signed readings of unsigned counts

A count below `2 * half` is read as a signed one by its bits: from `half` on it is negative. -/

namespace ComputeSdk.Shared

def signed (half n : ℕ) : ℤ := if n < half then n else n - 2 * half

theorem signed_of_lt {half n : ℕ} (h : n < half) : signed half n = n := if_pos h

theorem signed_of_le {half n : ℕ} (h : half ≤ n) : signed half n = n - 2 * half :=
  if_neg (Nat.not_lt.mpr h)

theorem signed_nonneg_iff {half n : ℕ} (h : n < 2 * half) : 0 ≤ signed half n ↔ n < half := by
  unfold signed
  split <;> omega

/-- What is left of `most` after `used`, or the largest signed count if it is more. -/
def remaining (half used most : ℕ) : ℤ :=
  if used < most then min (most - used : ℤ) (half - 1) else 0

/-- The same on signed readings, where the difference may be out of their range. -/
def signedRemaining (half used most : ℕ) : ℤ :=
  if signed half most ≤ signed half used then 0 else signed half most - signed half used

variable {half used most : ℕ}

theorem remaining_nonneg (h : 0 < half) : 0 ≤ remaining half used most := by
  unfold remaining
  split <;> omega

theorem remaining_le (half used most : ℕ) : remaining half used most ≤ most := by
  unfold remaining
  split <;> omega

theorem remaining_eq_zero_iff (h : 1 < half) : remaining half used most = 0 ↔ most ≤ used := by
  unfold remaining
  split <;> omega

theorem remaining_lt (h : 0 < half) : remaining half used most < half := by
  unfold remaining
  split <;> omega

/-- Readings of one sign keep the distance of the counts. -/
theorem signed_sub_signed (h : used < half ↔ most < half) :
    signed half most - signed half used = most - used := by
  by_cases hmost : most < half
  · rw [signed_of_lt hmost, signed_of_lt (h.mpr hmost)]
  · have hused : half ≤ used := Nat.not_lt.mp (mt h.mp hmost)
    rw [signed_of_le (Nat.not_lt.mp hmost), signed_of_le hused]
    omega

theorem signedRemaining_of_iff (h : used < half ↔ most < half) (hmost : most < 2 * half) :
    signedRemaining half used most = remaining half used most := by
  have hsub := signed_sub_signed h
  unfold signedRemaining remaining
  split <;> split <;> omega

/-- Readings of different signs are in the wrong order, or too far apart. -/
theorem signedRemaining_iff (hhalf : 1 < half) (hused : used < 2 * half)
    (hmost : most < 2 * half) :
    signedRemaining half used most = remaining half used most ↔ (used < half ↔ most < half) := by
  constructor
  · intro heq
    by_contra hsigns
    have husedSign := signed_nonneg_iff hused
    have hmostSign := signed_nonneg_iff hmost
    unfold signedRemaining at heq
    by_cases hlt : used < half
    · -- the maximum is read as negative, so nothing seems to be left
      have hle : half ≤ most := by omega
      rw [if_pos (by omega)] at heq
      have hzero := (remaining_eq_zero_iff hhalf).mp heq.symm
      omega
    · -- what was used is read as negative, so something seems to be left
      have hmostLt : most < half := by omega
      rw [if_neg (by omega)] at heq
      have hzero : remaining half used most = 0 := (remaining_eq_zero_iff hhalf).mpr (by omega)
      omega
  · intro h
    exact signedRemaining_of_iff h hmost

end ComputeSdk.Shared
