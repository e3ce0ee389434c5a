import Mathlib.Algebra.Group.Int.Defs
import Mathlib.Algebra.Group.Nat.Defs
import Mathlib.Tactic.Common

/-! # Narrowing of counts

A count that is passed on in fewer bits, by dropping the others or by saturation, and the
durations that it is a count of. -/

namespace ComputeSdk.Shared

/-- The count `n` arrives as `m`: unchanged, or as the largest count if it is larger. -/
def Faithful (largest : ℕ) (n : ℤ) (m : ℕ) : Prop :=
  (m : ℤ) = n ∨ m = largest ∧ (largest : ℤ) < n

/-- The counts that 32 bits keep, and those whose remainder is the largest one. -/
def Narrows (n : ℤ) : Prop := 0 ≤ n ∧ (n < 2 ^ 32 ∨ n % 2 ^ 32 = 2 ^ 32 - 1)

instance (n : ℤ) : Decidable (Narrows n) := inferInstanceAs (Decidable (_ ∧ _))

/-- A remainder is faithful to the count exactly for these. -/
theorem faithful_iff_narrows {n : ℤ} {m : ℕ} (h : (m : ℤ) = n % 2 ^ 32) :
    Faithful (2 ^ 32 - 1) n m ↔ Narrows n := by
  unfold Faithful Narrows
  omega

/-- The remainder of an even count is not the largest one. -/
theorem narrows_iff_of_even {n : ℤ} (h : n % 2 = 0) : Narrows n ↔ 0 ≤ n ∧ n < 2 ^ 32 := by
  unfold Narrows
  omega

/-- A count that is not negative arrives saturated. -/
theorem faithful_iff_eq_min {largest n m : ℕ} (h : m ≤ largest) :
    Faithful largest n m ↔ m = min n largest := by
  unfold Faithful
  omega

/-! ## Fixed widths -/

/-- The conversion of a signed count of 64 bits. -/
def narrow (n : Int64) : UInt32 := n.toUInt64.toUInt32

theorem toNat_narrow (n : Int64) : ((narrow n).toNat : ℤ) = n.toInt % 2 ^ 32 := by
  have hn : n.toInt = (n.toBitVec.toNat : ℤ).bmod (2 ^ 64) := n.toBitVec.toInt_eq_toNat_bmod
  have hbits : n.toUInt64.toNat = n.toBitVec.toNat := rfl
  have hmod := Int.bmod_def (n.toBitVec.toNat : ℤ) (2 ^ 64)
  rw [narrow, UInt64.toNat_toUInt32, hbits, hn]
  omega

theorem faithful_narrow_iff (n : Int64) :
    Faithful (2 ^ 32 - 1) n.toInt (narrow n).toNat ↔ Narrows n.toInt :=
  faithful_iff_narrows (toNat_narrow n)

/-- Dropping the other bits saturates exactly these. -/
theorem narrow_eq_min_iff {n : Int64} (h : 0 ≤ n.toInt) :
    (narrow n).toNat = min n.toInt.toNat (2 ^ 32 - 1) ↔ Narrows n.toInt := by
  have hlt := (narrow n).toNat_lt
  rw [← faithful_narrow_iff, ← Int.toNat_of_nonneg h, Int.toNat_natCast]
  exact (faithful_iff_eq_min (by omega)).symm

/-! ## Durations -/

/-- `std::time::Duration`. -/
structure Duration where
  nanos : ℕ
  deriving DecidableEq

namespace Duration

def fromMillis (millis : UInt64) : Duration := ⟨millis.toNat * 1000000⟩

def fromSecs (secs : UInt64) : Duration := ⟨secs.toNat * 1000000000⟩

def asMillis (d : Duration) : ℕ := d.nanos / 1000000

@[simp] theorem asMillis_fromMillis (millis : UInt64) :
    (fromMillis millis).asMillis = millis.toNat := by
  simp [fromMillis, asMillis]

@[simp] theorem asMillis_fromSecs (secs : UInt64) :
    (fromSecs secs).asMillis = secs.toNat * 1000 := by
  simp only [fromSecs, asMillis]
  omega

end Duration

end ComputeSdk.Shared
