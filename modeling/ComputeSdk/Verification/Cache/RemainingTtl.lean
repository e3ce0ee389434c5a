import ComputeSdk.Model.Cache.Found
import ComputeSdk.Shared.Signed

/-! # Remaining times to live

The host counts nanoseconds without a sign, and the getters read its counts as durations,
which have one. -/

namespace ComputeSdk

open Shared Guest ComputeSdk.Core

/-! ## Durations from counts -/

theorem toInt_toInt64 (n : UInt64) : n.toInt64.toInt = signed (2 ^ 63) n.toNat := by
  have hbits : n.toInt64.toInt = n.toBitVec.toInt := rfl
  have hnat : n.toBitVec.toNat = n.toNat := rfl
  rw [hbits, BitVec.toInt_eq_toNat_cond, hnat, signed]
  split <;> split <;> omega

theorem subtract_eq_some_iff {max current ttl : Int64} :
    subtract max current = some ttl ↔ ttl.toInt = max.toInt - current.toInt := by
  unfold subtract
  constructor
  · intro h
    split at h
    · rename_i hfits
      rw [← Option.some.inj h, hfits]
    · cases h
  · intro h
    have hsub : max - current = ttl := by
      rw [← Int64.toInt_inj, Int64.toInt_sub, ← h]
      exact Int64.toInt_bmod ttl
    rw [hsub, if_pos h]

/-- What `remaining_ttl` makes of the two counts. -/
def remainingOf (age maxAge : UInt64) : Option Int64 :=
  if maxAge.toInt64 ≤ age.toInt64 then some 0 else subtract maxAge.toInt64 age.toInt64

variable {age maxAge : UInt64}

theorem remainingOf_eq_some_iff {ttl : Int64} :
    remainingOf age maxAge = some ttl ↔
      ttl.toInt = signedRemaining (2 ^ 63) age.toNat maxAge.toNat := by
  rw [remainingOf, signedRemaining, ← toInt_toInt64, ← toInt_toInt64]
  by_cases hle : maxAge.toInt64 ≤ age.toInt64
  · rw [if_pos hle, if_pos (Int64.le_iff_toInt_le.mp hle), Option.some.injEq, ← Int64.toInt_inj]
    exact eq_comm
  · rw [if_neg hle, if_neg (mt Int64.le_iff_toInt_le.mpr hle)]
    exact subtract_eq_some_iff

/-- The duration in which the item stays fresh, or the longest one if that is longer. -/
structure ExactTtl (age maxAge : UInt64) (ttl : Int64) : Prop where
  value : ttl.toInt = remaining (2 ^ 63) age.toNat maxAge.toNat
  nonneg : 0 ≤ ttl.toInt
  le_maxAge : ttl.toInt ≤ maxAge.toNat
  eq_zero_iff : ttl = 0 ↔ maxAge ≤ age

theorem exactTtl_iff {ttl : Int64} :
    ExactTtl age maxAge ttl ↔ ttl.toInt = remaining (2 ^ 63) age.toNat maxAge.toNat := by
  constructor
  · exact ExactTtl.value
  · intro h
    have hnonneg : 0 ≤ ttl.toInt := by
      rw [h]
      exact remaining_nonneg (by decide)
    have hle : ttl.toInt ≤ maxAge.toNat := by
      rw [h]
      exact remaining_le _ _ _
    have hzero : ttl = 0 ↔ maxAge ≤ age := by
      rw [← Int64.toInt_inj, h, UInt64.le_iff_toNat_le]
      exact remaining_eq_zero_iff (by decide)
    exact ⟨h, hnonneg, hle, hzero⟩

theorem exists_exactTtl_iff :
    (∃ ttl, remainingOf age maxAge = some ttl ∧ ExactTtl age maxAge ttl) ↔
      (age.toNat < 2 ^ 63 ↔ maxAge.toNat < 2 ^ 63) := by
  rw [← signedRemaining_iff (by decide) age.toNat_lt maxAge.toNat_lt]
  constructor
  · rintro ⟨ttl, hresult, hexact⟩
    exact (remainingOf_eq_some_iff.mp hresult).symm.trans hexact.value
  · intro h
    have hlt : remaining (2 ^ 63) age.toNat maxAge.toNat < 2 ^ 63 := remaining_lt (by decide)
    have hnonneg : 0 ≤ remaining (2 ^ 63) age.toNat maxAge.toNat := remaining_nonneg (by decide)
    have hofInt : (Int64.ofInt (remaining (2 ^ 63) age.toNat maxAge.toNat)).toInt =
        remaining (2 ^ 63) age.toNat maxAge.toNat :=
      Int64.toInt_ofInt_of_le (by omega) hlt
    exact ⟨_, remainingOf_eq_some_iff.mpr (hofInt.trans h.symm), exactTtl_iff.mpr hofInt⟩

/-! ## The getter -/

variable {σ : Type} {handle : σ → (c : HostCall) → c.Answer × σ} {found : Found}
  {H : RefHeap HandleObject} {s t : σ}

/-- The host answers for the item, first with its maximum age, then with its age. -/
def Reports (handle : σ → (c : HostCall) → c.Answer × σ) (found : Found)
    (H : RefHeap HandleObject) (s t : σ) (age maxAge : UInt64) : Prop :=
  ∃ r, (found.queryMaxAge.run H).run handle s = (.ok (.ok maxAge, H), r) ∧
    (found.queryAge.run H).run handle r = (.ok (.ok age, H), t)

theorem run_okOrAbort {α : Type} {stderr : String} {call : Guest (Except Status α)} {a : α}
    (h : (call.run H).run handle s = (.ok (.ok a, H), t)) :
    ((okOrAbort stderr call).run H).run handle s = (.ok (a, H), t) := by
  rw [okOrAbort, run_bind, Prog.run_bind_of_ok _ _ h]
  rfl

theorem run_remainingTtl (h : Reports handle found H s t age maxAge) :
    (found.remainingTtl.run H).run handle s = (.ok (remainingOf age maxAge, H), t) := by
  obtain ⟨r, hmax, hage⟩ := h
  have hmaxAge : (found.maxAge.run H).run handle s = (.ok (maxAge.toInt64, H), r) := by
    rw [Found.maxAge, run_bind, Prog.run_bind_of_ok _ _ (run_okOrAbort hmax)]
    rfl
  have hcurrent : (found.age.run H).run handle r = (.ok (age.toInt64, H), t) := by
    rw [Found.age, run_bind, Prog.run_bind_of_ok _ _ (run_okOrAbort hage)]
    rfl
  rw [Found.remainingTtl, run_bind, Prog.run_bind_of_ok _ _ hmaxAge, run_bind,
    Prog.run_bind_of_ok _ _ hcurrent, remainingOf]
  split <;> rfl

/-- `remaining_ttl` returns the exact duration. -/
def RemainsExactly (handle : σ → (c : HostCall) → c.Answer × σ) (found : Found)
    (H : RefHeap HandleObject) (s : σ) (age maxAge : UInt64) : Prop :=
  ∃ ttl t, (found.remainingTtl.run H).run handle s = (.ok (some ttl, H), t) ∧
    ExactTtl age maxAge ttl

theorem remainsExactly_iff (h : Reports handle found H s t age maxAge) :
    RemainsExactly handle found H s age maxAge ↔
      ∃ ttl, remainingOf age maxAge = some ttl ∧ ExactTtl age maxAge ttl := by
  have hrun := run_remainingTtl h
  constructor
  · rintro ⟨ttl, t', hrun', hexact⟩
    rw [hrun] at hrun'
    injection hrun' with hresult
    exact ⟨ttl, congrArg Prod.fst (Except.ok.inj hresult), hexact⟩
  · rintro ⟨ttl, hresult, hexact⟩
    rw [hresult] at hrun
    exact ⟨ttl, t, hrun, hexact⟩

/-- The duration is exact if and only if both counts, or neither, can be read as a duration. -/
theorem remainingTtl_iff (h : Reports handle found H s t age maxAge) :
    RemainsExactly handle found H s age maxAge ↔
      (age.toNat < 2 ^ 63 ↔ maxAge.toNat < 2 ^ 63) :=
  (remainsExactly_iff h).trans exists_exactTtl_iff

/-- A host that reports the same of every item. -/
def reporting (age maxAge : UInt64) (_ : Unit) : (c : HostCall) → c.Answer × Unit
  | .cacheGetAgeNs _ => (.ok age, ())
  | .cacheReplaceGetAgeNs _ => (.ok age, ())
  | .cacheGetMaxAgeNs _ => (.ok maxAge, ())
  | .cacheReplaceGetMaxAgeNs _ => (.ok maxAge, ())
  | c => (c.succeed, ())

theorem reports_reporting (found : Found) (H : RefHeap HandleObject) (age maxAge : UInt64) :
    Reports (reporting age maxAge) found H () () age maxAge := by
  cases found <;> exact ⟨(), rfl, rfl⟩

theorem remainingTtl_iff_ten :
    RemainsExactly (reporting 3 10) (.replace ⟨0, ⟨.replace, 7⟩⟩) .empty () 3 10 :=
  (remainingTtl_iff (reports_reporting _ .empty 3 10)).mpr (by decide)

/-- A fresh item that is to be kept for 2 ^ 63 ns has nothing left. -/
theorem not_remainsExactly : ¬ ∀ (σ : Type) (handle : σ → (c : HostCall) → c.Answer × σ)
    (found : Found) (H : RefHeap HandleObject) (s t : σ) (age maxAge : UInt64),
    Reports handle found H s t age maxAge → RemainsExactly handle found H s age maxAge := by
  intro h
  have hreports := reports_reporting (.cache ⟨0, ⟨.cache, 0⟩⟩) .empty 0 9223372036854775808
  have hexact := (remainsExactly_iff hreports).mp (h _ _ _ _ _ _ _ _ hreports)
  have hsigns := exists_exactTtl_iff.mp hexact
  exact absurd (hsigns.mp (by decide)) (by decide)

end ComputeSdk
