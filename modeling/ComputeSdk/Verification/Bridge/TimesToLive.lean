import ComputeSdk.Model.Bridge.KvBuilders
import ComputeSdk.Model.Bridge.Plain
import ComputeSdk.Model.Erl

/-! # Times to live

The KV store takes milliseconds and the rate limiter seconds, both in 32 bits, from durations
of 64. A count that does not fit arrives as its remainder. -/

namespace ComputeSdk

open Shared

/-- A call that is given a time to live: of milliseconds for an insert, else of minutes. -/
inductive TtlCall where
  | insert (ttl : Int64)
  | penaltyBoxAdd (box : Erl.PenaltyBox) (entry : List UInt8) (ttl : Int64)
  | checkRate (erl : Erl.ERL) (entry : List UInt8) (delta : UInt32) (window : Erl.RateWindow)
      (limit : UInt32) (ttl : Int64)

namespace Erl

/-- The time to live that a call carries, in seconds. -/
def ErlCall.ttl : ErlCall → Option UInt32
  | checkRate _ _ _ _ _ _ ttl => some ttl
  | penaltyboxAdd _ _ ttl => some ttl
  | _ => none

/-- Whatever the host answers, it is given no time to live but a faithful one. -/
def KeepsMinutes {α : Type} (minutes : Int64) (p : ErlProg α) : Prop :=
  p.AllCalls fun c => ∀ ttl, c.ttl = some ttl →
    Faithful (2 ^ 32 - 1) (60 * minutes.toInt) ttl.toNat

theorem keepsMinutes_erlTry {α : Type} {minutes : Int64} {call : ErlProg (Except Status α)} :
    KeepsMinutes minutes (erlTry call) ↔ KeepsMinutes minutes call := by
  constructor
  · exact Prog.AllCalls.of_bind
  · exact fun h => h.bind fun _ => trivial

/-- The seconds are even, so the remainder of a larger count is never the largest. -/
theorem faithful_seconds_iff (minutes : Int64) :
    Faithful (2 ^ 32 - 1) (60 * minutes.toInt) (narrow (durationCastSeconds minutes)).toNat ↔
      0 ≤ minutes.toInt ∧ 60 * minutes.toInt < 2 ^ 32 := by
  have hcast : (durationCastSeconds minutes).toInt = (minutes.toInt * 60).bmod (2 ^ 64) :=
    Int64.toInt_mul minutes 60
  have hnarrow := toNat_narrow (durationCastSeconds minutes)
  have hmod := Int.bmod_def (minutes.toInt * 60) (2 ^ 64)
  rw [faithful_iff_narrows (by omega), narrows_iff_of_even (by omega)]
  omega

theorem keepsMinutes_perform_iff {minutes : Int64} {c : ErlCall}
    (h : c.ttl = some (narrow (durationCastSeconds minutes))) :
    KeepsMinutes minutes (Prog.perform c : ErlProg c.Answer) ↔
      0 ≤ minutes.toInt ∧ 60 * minutes.toInt < 2 ^ 32 := by
  rw [← faithful_seconds_iff]
  constructor
  · exact fun hkeeps => hkeeps.1 _ h
  · exact fun hfaithful =>
      ⟨fun _ hsome => Option.some.inj (h.symm.trans hsome) ▸ hfaithful, fun _ => trivial⟩

end Erl

namespace TtlCall

/-- The duration arrives as it was given, or as the longest one if it is longer. -/
def Kept : TtlCall → Prop
  | insert ttl => ∃ millis : ℕ, Faithful (2 ^ 32 - 1) ttl.toInt millis ∧
      ∀ (F : Crates) (S : KvSetters F) (builder : F.InsertBuilder),
        Kv.InsertBuilder.timeToLive F S ttl builder = S.timeToLive ⟨millis * 1000000⟩ builder
  | penaltyBoxAdd box entry ttl => Erl.KeepsMinutes ttl (box.add entry ttl)
  | checkRate erl entry delta window limit ttl =>
      Erl.KeepsMinutes ttl (erl.checkRate entry delta window limit ttl)

/-- The duration is not negative and fits into 32 bits, or its remainder is the longest. -/
def Fits : TtlCall → Prop
  | insert ttl => Narrows ttl.toInt
  | penaltyBoxAdd _ _ ttl => 0 ≤ ttl.toInt ∧ 60 * ttl.toInt < 2 ^ 32
  | checkRate _ _ _ _ _ ttl => 0 ≤ ttl.toInt ∧ 60 * ttl.toInt < 2 ^ 32

/-- Crates whose builders hold the durations that they were given. -/
def recording : Crates :=
  { Plain.crates with
    InsertBuilder := List Duration
    insertExecute := fun _ _ _ => .ok ()
    insertExecuteAsync := fun _ _ _ => .ok 0 }

def recordingSetters : KvSetters recording where
  metadata _ builder := builder
  timeToLive d (builder : List Duration) := d :: builder
  cursor _ builder := builder
  keyPrefix _ builder := builder

theorem insert_kept_iff (ttl : Int64) : (insert ttl).Kept ↔ Narrows ttl.toInt := by
  rw [← faithful_narrow_iff]
  constructor
  · rintro ⟨millis, hfaithful, hgiven⟩
    have hrecorded := hgiven recording recordingSetters ([] : List Duration)
    have hnanos : (narrow ttl).toUInt64.toNat * 1000000 = millis * 1000000 :=
      congrArg Duration.nanos (List.cons.inj hrecorded).1
    rw [UInt32.toNat_toUInt64] at hnanos
    have hmillis : (narrow ttl).toNat = millis := by omega
    rwa [hmillis]
  · refine fun hfaithful => ⟨(narrow ttl).toNat, hfaithful, fun F S builder => ?_⟩
    simp only [Kv.InsertBuilder.timeToLive, Sys.Kv.insertBuilderTimeToLive, Duration.fromMillis,
      UInt32.toNat_toUInt64]

theorem kept_iff (c : TtlCall) : c.Kept ↔ c.Fits := by
  cases c with
  | insert ttl => exact insert_kept_iff ttl
  | penaltyBoxAdd box entry ttl =>
      rw [Kept, Fits, Erl.PenaltyBox.add, Erl.keepsMinutes_erlTry]
      exact Erl.keepsMinutes_perform_iff rfl
  | checkRate erl entry delta window limit ttl =>
      rw [Kept, Fits, Erl.ERL.checkRate, Erl.keepsMinutes_erlTry]
      exact Erl.keepsMinutes_perform_iff rfl

/-- A time to live of 49 days and 17 hours becomes one minute. -/
theorem not_kept : ¬ ∀ c : TtlCall, c.Kept := by
  intro h
  have hnarrows := (insert_kept_iff 4295027296).mp (h _)
  exact absurd hnarrows (by decide)

end TtlCall

end ComputeSdk
