import ComputeSdk.Model.HostBody
import ComputeSdk.Shared.Counted
import ComputeSdk.Shared.Interaction

/-! # The host interface of the cache

The imported functions as calls of a program. A function that returns a status and an out
parameter answers with one of the two. -/

namespace ComputeSdk

open Shared

/-- The codes of `Status` other than `Ok`. -/
inductive Status where
  | genericError
  | invalidArgument
  | badHandle
  | bufferLen
  | unsupported
  | badAlign
  | httpInvalid
  | httpUser
  | httpIncomplete
  | optionalNone
  | httpHeadTooLarge
  | httpInvalidStatus
  | limitExceeded
  deriving DecidableEq, Repr

/-! ## Option structs

A pointer is the bytes that it points to, and a null pointer is `none`. -/

structure CacheWriteOptions where
  maxAgeNs : UInt64 := 0
  requestHeaders : ℕ := 0
  varyRulePtr : Option (List UInt8) := none
  varyRuleLen : ℕ := 0
  initialAgeNs : UInt64 := 0
  staleWhileRevalidateNs : UInt64 := 0
  surrogateKeysPtr : Option (List UInt8) := none
  surrogateKeysLen : ℕ := 0
  length : UInt64 := 0
  userMetadataPtr : Option (List UInt8) := none
  userMetadataLen : ℕ := 0
  edgeMaxAgeNs : UInt64 := 0
  service : Option (List UInt8) := none
  serviceLen : ℕ := 0
  deriving DecidableEq

namespace CacheWriteOptions

def maskRequestHeaders : UInt32 := (1 : UInt32) <<< 1
def maskVaryRule : UInt32 := (1 : UInt32) <<< 2
def maskInitialAgeNs : UInt32 := (1 : UInt32) <<< 3
def maskStaleWhileRevalidateNs : UInt32 := (1 : UInt32) <<< 4
def maskSurrogateKeys : UInt32 := (1 : UInt32) <<< 5
def maskLength : UInt32 := (1 : UInt32) <<< 6
def maskUserMetadata : UInt32 := (1 : UInt32) <<< 7
def maskSensitiveData : UInt32 := (1 : UInt32) <<< 8
def maskEdgeMaxAgeNs : UInt32 := (1 : UInt32) <<< 9
def maskService : UInt32 := (1 : UInt32) <<< 10

end CacheWriteOptions

structure CacheLookupOptions where
  requestHeaders : ℕ := 0
  service : Option (List UInt8) := none
  serviceLen : ℕ := 0
  deriving DecidableEq

namespace CacheLookupOptions

def maskRequestHeaders : UInt32 := (1 : UInt32) <<< 1
def maskService : UInt32 := (1 : UInt32) <<< 2
def maskAlwaysUseRequestedRange : UInt32 := (1 : UInt32) <<< 3

end CacheLookupOptions

structure CacheReplaceOptions where
  requestHeaders : ℕ := 0
  replaceStrategy : UInt32 := 0
  service : Option (List UInt8) := none
  serviceLen : ℕ := 0
  deriving DecidableEq

namespace CacheReplaceOptions

def maskRequestHeaders : UInt32 := (1 : UInt32) <<< 1
def maskReplaceStrategy : UInt32 := (1 : UInt32) <<< 2
def maskService : UInt32 := (1 : UInt32) <<< 3
def maskAlwaysUseRequestedRange : UInt32 := (1 : UInt32) <<< 4

end CacheReplaceOptions

structure CacheGetBodyOptions where
  fromByte : UInt64 := 0
  toByte : UInt64 := 0
  deriving DecidableEq

namespace CacheGetBodyOptions

def maskFrom : UInt32 := (1 : UInt32) <<< 1
def maskTo : UInt32 := (1 : UInt32) <<< 2

end CacheGetBodyOptions

namespace CacheLookupState

def found : UInt32 := (1 : UInt32) <<< 0
def usable : UInt32 := (1 : UInt32) <<< 1
def stale : UInt32 := (1 : UInt32) <<< 2
def mustInsertOrUpdate : UInt32 := (1 : UInt32) <<< 3

end CacheLookupState

/-! ## Calls -/

/-- What `get_user_metadata` leaves: the bytes at the start of the buffer, the out parameter
if it was written, and the status. -/
structure UserMetadataAnswer (maxLen : ℕ) where
  written : List UInt8
  nwritten : Option ℕ
  status : Except Status Unit
  length_written : written.length ≤ maxLen

/-- The host functions that the cache uses, with the bridged body functions that take or
give a handle. The last two mark where a closure of the user starts and ends. -/
inductive HostCall where
  | httpReqNew
  | httpReqClose (reqHandle : ℕ)
  | httpReqHeaderValuesSet (reqHandle : ℕ) (name values : List UInt8)
  | asyncIsReady (busyHandle : ℕ)
  | cacheTransactionLookup (key : List UInt8) (mask : UInt32) (options : CacheLookupOptions)
  | cacheTransactionLookupAsync (key : List UInt8) (mask : UInt32) (options : CacheLookupOptions)
  | cacheBusyHandleWait (busyHandle : ℕ)
  | cacheLookup (key : List UInt8) (mask : UInt32) (options : CacheLookupOptions)
  | cacheInsert (key : List UInt8) (mask : UInt32) (options : CacheWriteOptions)
  | cacheReplace (key : List UInt8) (mask : UInt32) (options : CacheReplaceOptions)
  | cacheReplaceInsert (replaceHandle : ℕ) (mask : UInt32) (options : CacheWriteOptions)
  | cacheTransactionUpdate (handle : ℕ) (mask : UInt32) (options : CacheWriteOptions)
  | cacheTransactionInsert (handle : ℕ) (mask : UInt32) (options : CacheWriteOptions)
  | cacheTransactionInsertAndStreamBack (handle : ℕ) (mask : UInt32)
      (options : CacheWriteOptions)
  | cacheGetState (handle : ℕ)
  | cacheReplaceGetState (replaceHandle : ℕ)
  | cacheTransactionCancel (handle : ℕ)
  | cacheGetBody (handle : ℕ) (mask : UInt32) (options : CacheGetBodyOptions)
  | cacheReplaceGetBody (replaceHandle : ℕ) (mask : UInt32) (options : CacheGetBodyOptions)
  | cacheGetLength (handle : ℕ)
  | cacheReplaceGetLength (replaceHandle : ℕ)
  | cacheGetMaxAgeNs (handle : ℕ)
  | cacheReplaceGetMaxAgeNs (replaceHandle : ℕ)
  | cacheGetStaleWhileRevalidateNs (handle : ℕ)
  | cacheReplaceGetStaleWhileRevalidateNs (replaceHandle : ℕ)
  | cacheGetAgeNs (handle : ℕ)
  | cacheReplaceGetAgeNs (replaceHandle : ℕ)
  | cacheGetHits (handle : ℕ)
  | cacheReplaceGetHits (replaceHandle : ℕ)
  | cacheGetUserMetadata (handle maxLen : ℕ)
  | cacheReplaceGetUserMetadata (replaceHandle maxLen : ℕ)
  | cacheClose (handle : ℕ)
  | bodyFromHandle (bodyHandle : ℕ)
  | streamingBodyFromBodyHandle (bodyHandle : ℕ)
  | streamingBodyFinish (bodyHandle : ℕ) (bod : HostBody)
  | purgeSurrogateKey (surrogateKey : List UInt8)
  | closureBegin
  | closureEnd

namespace HostCall

/-- What the host answers. -/
@[reducible] def Answer : HostCall → Type
  | httpReqNew => Except Status ℕ
  | httpReqClose _ => Except Status Unit
  | httpReqHeaderValuesSet _ _ _ => Except Status Unit
  | asyncIsReady _ => Except Status UInt32
  | cacheTransactionLookup _ _ _ => Except Status ℕ
  | cacheTransactionLookupAsync _ _ _ => Except Status ℕ
  | cacheBusyHandleWait _ => Except Status ℕ
  | cacheLookup _ _ _ => Except Status ℕ
  | cacheInsert _ _ _ => Except Status ℕ
  | cacheReplace _ _ _ => Except Status ℕ
  | cacheReplaceInsert _ _ _ => Except Status ℕ
  | cacheTransactionUpdate _ _ _ => Except Status Unit
  | cacheTransactionInsert _ _ _ => Except Status ℕ
  | cacheTransactionInsertAndStreamBack _ _ _ => Except Status (ℕ × ℕ)
  | cacheGetState _ => Except Status UInt32
  | cacheReplaceGetState _ => Except Status UInt32
  | cacheTransactionCancel _ => Except Status Unit
  | cacheGetBody _ _ _ => Except Status ℕ
  | cacheReplaceGetBody _ _ _ => Except Status ℕ
  | cacheGetLength _ => Except Status UInt64
  | cacheReplaceGetLength _ => Except Status UInt64
  | cacheGetMaxAgeNs _ => Except Status UInt64
  | cacheReplaceGetMaxAgeNs _ => Except Status UInt64
  | cacheGetStaleWhileRevalidateNs _ => Except Status UInt64
  | cacheReplaceGetStaleWhileRevalidateNs _ => Except Status UInt64
  | cacheGetAgeNs _ => Except Status UInt64
  | cacheReplaceGetAgeNs _ => Except Status UInt64
  | cacheGetHits _ => Except Status UInt64
  | cacheReplaceGetHits _ => Except Status UInt64
  | cacheGetUserMetadata _ maxLen => UserMetadataAnswer maxLen
  | cacheReplaceGetUserMetadata _ maxLen => UserMetadataAnswer maxLen
  | cacheClose _ => Except Status Unit
  | bodyFromHandle _ => HostBody
  | streamingBodyFromBodyHandle _ => HostBody
  | streamingBodyFinish _ _ => Except FastlyError Unit
  | purgeSurrogateKey _ => Except FastlyError Unit
  | closureBegin => Unit
  | closureEnd => Unit

/-- The answers of a host at which everything succeeds, with the handle 0 and no flags. -/
def succeed : (c : HostCall) → c.Answer
  | httpReqNew => .ok 0
  | httpReqClose _ => .ok ()
  | httpReqHeaderValuesSet _ _ _ => .ok ()
  | asyncIsReady _ => .ok 0
  | cacheTransactionLookup _ _ _ => .ok 0
  | cacheTransactionLookupAsync _ _ _ => .ok 0
  | cacheBusyHandleWait _ => .ok 0
  | cacheLookup _ _ _ => .ok 0
  | cacheInsert _ _ _ => .ok 0
  | cacheReplace _ _ _ => .ok 0
  | cacheReplaceInsert _ _ _ => .ok 0
  | cacheTransactionUpdate _ _ _ => .ok ()
  | cacheTransactionInsert _ _ _ => .ok 0
  | cacheTransactionInsertAndStreamBack _ _ _ => .ok (0, 0)
  | cacheGetState _ => .ok 0
  | cacheReplaceGetState _ => .ok 0
  | cacheTransactionCancel _ => .ok ()
  | cacheGetBody _ _ _ => .ok 0
  | cacheReplaceGetBody _ _ _ => .ok 0
  | cacheGetLength _ => .ok 0
  | cacheReplaceGetLength _ => .ok 0
  | cacheGetMaxAgeNs _ => .ok 0
  | cacheReplaceGetMaxAgeNs _ => .ok 0
  | cacheGetStaleWhileRevalidateNs _ => .ok 0
  | cacheReplaceGetStaleWhileRevalidateNs _ => .ok 0
  | cacheGetAgeNs _ => .ok 0
  | cacheReplaceGetAgeNs _ => .ok 0
  | cacheGetHits _ => .ok 0
  | cacheReplaceGetHits _ => .ok 0
  | cacheGetUserMetadata _ _ => ⟨[], some 0, .ok (), Nat.zero_le _⟩
  | cacheReplaceGetUserMetadata _ _ => ⟨[], some 0, .ok (), Nat.zero_le _⟩
  | cacheClose _ => .ok ()
  | bodyFromHandle _ => .new (.atMost 511) (.atMost 511)
  | streamingBodyFromBodyHandle _ => .new (.atMost 511) (.atMost 511)
  | streamingBodyFinish _ _ => .ok ()
  | purgeSurrogateKey _ => .ok ()
  | closureBegin => ()
  | closureEnd => ()

end HostCall

/-! ## Programs of the guest -/

/-- `detail::CacheHandle`, `detail::CacheBusyHandle` and `detail::CacheReplaceHandle`, by
kind. -/
inductive HandleKind where
  | cache
  | busy
  | replace
  deriving DecidableEq, Repr

structure HandleObject where
  kind : HandleKind
  handle : ℕ
  deriving DecidableEq

/-- A `std::shared_ptr` to a handle object. -/
abbrev SharedPtr := Ref HandleObject

/-- A program of the guest: it calls the host, counts references to its handle objects, and
may abort. -/
abbrev Guest := StateT (RefHeap HandleObject) (Prog HostCall.Answer Abort)

namespace Guest

variable {α β : Type}

def host (c : HostCall) : Guest c.Answer := StateT.lift (Prog.perform c)

def abort (stderr : String) : Guest α := StateT.lift (Prog.stop ⟨stderr⟩)

/-- A computation that may abort but does not call the host. -/
def ofExcept : Except Abort α → Guest α
  | .ok a => pure a
  | .error e => StateT.lift (Prog.stop e)

theorem run_bind (x : Guest α) (f : α → Guest β) (H : RefHeap HandleObject) :
    (x >>= f).run H = x.run H >>= fun p => (f p.1).run p.2 := rfl

end Guest

open Guest

/-- The destructors of the handle classes are alike. -/
def HandleObject.destroy (object : HandleObject) : Guest Unit := do
  let _ ← host (.cacheClose object.handle)
  pure ()

namespace SharedPtr

/-- `std::make_shared` of a handle object. -/
def make (object : HandleObject) : Guest SharedPtr := modifyGet (RefHeap.alloc object)

/-- Copying a shared pointer. -/
def copy (ptr : SharedPtr) : Guest Unit := modify (RefHeap.retain ptr)

def destroy (ptr : SharedPtr) : Guest Unit := do
  match ← modifyGet (RefHeap.release ptr) with
  | some object => object.destroy
  | none => pure ()

variable {ptr : SharedPtr} {H H' : RefHeap HandleObject}

theorem run_destroy_last {object : HandleObject} (h : H.release ptr = (some object, H')) :
    ptr.destroy.run H = object.destroy.run H' := by
  simp [destroy, h]

theorem run_destroy_shared (h : H.release ptr = (none, H')) :
    ptr.destroy.run H = .ret ((), H') := by
  simp [destroy, h]

end SharedPtr

/-! ## Errors -/

namespace Core

/-- `core::CacheError`. -/
inductive CacheError where
  | limitExceeded
  | invalidOperation
  | unsupported
  | unknown
  deriving DecidableEq, Repr

def fromStatus : Status → CacheError
  | .unsupported => .unsupported
  | .limitExceeded => .limitExceeded
  | .badHandle => .invalidOperation
  | _ => .unknown

/-- `CACHE_TRY`: a failing call ends the function that makes it. -/
def cacheTry {α β : Type} (call : Guest (Except Status α))
    (next : α → Guest (Except CacheError β)) : Guest (Except CacheError β) := do
  match ← call with
  | .error status => pure (.error (fromStatus status))
  | .ok a => next a

variable {α β σ : Type} {handle : σ → (c : HostCall) → c.Answer × σ}
  {call : Guest (Except Status α)} {next : α → Guest (Except CacheError β)}
  {H H' : RefHeap HandleObject} {s t : σ}

theorem run_cacheTry_error {status : Status}
    (h : (call.run H).run handle s = (.ok (.error status, H'), t)) :
    ((cacheTry call next).run H).run handle s = (.ok (.error (fromStatus status), H'), t) := by
  rw [cacheTry, run_bind, Prog.run_bind_of_ok _ _ h]
  rfl

theorem run_cacheTry_ok {a : α} (h : (call.run H).run handle s = (.ok (.ok a, H'), t)) :
    ((cacheTry call next).run H).run handle s = ((next a).run H').run handle t := by
  rw [cacheTry, run_bind, Prog.run_bind_of_ok _ _ h]

end Core

end ComputeSdk
