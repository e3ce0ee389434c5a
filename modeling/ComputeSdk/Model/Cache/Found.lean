import ComputeSdk.Model.Cache.Core
import ComputeSdk.Shared.Vectors

/-! # Metadata of found items

Each getter asks by the kind of its handle. A duration is a signed count of nanoseconds. -/

namespace ComputeSdk

open Shared Guest

/-- The status, with what the call leaves in the buffer and the variable that it was given. -/
def UserMetadataAnswer.leave {maxLen : ℕ} (buffer : List UInt8) (nwritten : ℕ)
    (answer : UserMetadataAnswer maxLen) : Except Status Unit × List UInt8 × ℕ :=
  (answer.status, Vec.overwrite answer.written buffer, answer.nwritten.getD nwritten)

namespace Core

/-- The process is stopped if the call fails. -/
def okOrAbort {α : Type} (stderr : String) (call : Guest (Except Status α)) : Guest α := do
  match ← call with
  | .error _ => abort stderr
  | .ok a => pure a

/-- `max - current` on durations. An overflow is undefined behaviour. -/
def subtract (max current : Int64) : Option Int64 :=
  if (max - current).toInt = max.toInt - current.toInt then some (max - current) else none

namespace Found

/-- One call for each kind of handle. -/
def query {α : Type} (cache replace : ℕ → Guest α) : Found → Guest α
  | .cache handle => cache handle.val.handle
  | .replace handle => replace handle.val.handle

def queryAge : Found → Guest (Except Status UInt64) :=
  query (fun h => host (.cacheGetAgeNs h)) fun h => host (.cacheReplaceGetAgeNs h)

def queryMaxAge : Found → Guest (Except Status UInt64) :=
  query (fun h => host (.cacheGetMaxAgeNs h)) fun h => host (.cacheReplaceGetMaxAgeNs h)

def queryStaleWhileRevalidate : Found → Guest (Except Status UInt64) :=
  query (fun h => host (.cacheGetStaleWhileRevalidateNs h)) fun h =>
    host (.cacheReplaceGetStaleWhileRevalidateNs h)

def queryState : Found → Guest (Except Status UInt32) :=
  query (fun h => host (.cacheGetState h)) fun h => host (.cacheReplaceGetState h)

def queryHits : Found → Guest (Except Status UInt64) :=
  query (fun h => host (.cacheGetHits h)) fun h => host (.cacheReplaceGetHits h)

def queryLength : Found → Guest (Except Status UInt64) :=
  query (fun h => host (.cacheGetLength h)) fun h => host (.cacheReplaceGetLength h)

def age (found : Found) : Guest Int64 := do
  let ageNs ← okOrAbort "cache_get_age_ns failed\n" found.queryAge
  pure ageNs.toInt64

def maxAge (found : Found) : Guest Int64 := do
  let maxAgeNs ← okOrAbort "cache_get_max_age_ns failed\n" found.queryMaxAge
  pure maxAgeNs.toInt64

/-- There is no duration where the subtraction overflows. -/
def remainingTtl (found : Found) : Guest (Option Int64) := do
  let max ← found.maxAge
  let current ← found.age
  if max ≤ current then pure (some 0) else pure (subtract max current)

def staleWhileRevalidate (found : Found) : Guest Int64 := do
  let swrNs ← okOrAbort "cache_get_stale_while_revalidate_ns failed\n"
    found.queryStaleWhileRevalidate
  pure swrNs.toInt64

def isStale (found : Found) : Guest Bool := do
  let state ← okOrAbort "cache_get_state failed\n" found.queryState
  pure (state &&& CacheLookupState.stale ≠ 0)

def isUsable (found : Found) : Guest Bool := do
  let state ← okOrAbort "cache_get_state failed\n" found.queryState
  pure (state &&& CacheLookupState.usable ≠ 0)

def hits (found : Found) : Guest UInt64 := okOrAbort "cache_get_hits failed\n" found.queryHits

def knownLength (found : Found) : Guest (Option UInt64) := do
  match ← found.queryLength with
  | .error _ => pure none
  | .ok length => pure (some length)

/-- `get_metadata` with `buffer` and with the variable `nwritten` for the number of bytes. The
result is the status and what the two are left with. -/
def getMetadata (buffer : List UInt8) (nwritten : ℕ) (found : Found) :
    Guest (Except Status Unit × List UInt8 × ℕ) :=
  found.query
    (fun h => do return (← host (.cacheGetUserMetadata h buffer.length)).leave buffer nwritten)
    fun h => do
      return (← host (.cacheReplaceGetUserMetadata h buffer.length)).leave buffer nwritten

def userMetadata (found : Found) : Guest (List UInt8) := do
  let (status, buffer, nwritten) ← found.getMetadata (Vec.resize (16 * 1024) 0 []) 0
  match status with
  | .ok () => pure (Vec.resize nwritten 0 buffer)
  | .error .bufferLen => do
    -- `nwritten` is the size that is needed
    let (status, buffer, nwritten) ← found.getMetadata (Vec.resize nwritten 0 buffer) nwritten
    match status with
    | .ok () => pure (Vec.resize nwritten 0 buffer)
    | .error _ => abort "cache_get_user_metadata failed\n"
  | .error _ => abort "cache_get_user_metadata failed\n"

end Found

end Core

end ComputeSdk
