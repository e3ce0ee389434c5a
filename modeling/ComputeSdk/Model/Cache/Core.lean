import ComputeSdk.Model.Body
import ComputeSdk.Model.Cache.Options

/-! # The core cache

Builders are consumed and returned by their methods, so a method maps a builder to the
next one. What a returned object owns it holds through shared pointers. -/

namespace ComputeSdk

open Guest

/-- A streaming body over a handle of the host. -/
structure HostedStream extends StreamingBody where
  handle : ℕ

namespace HostedStream

/-- `StreamingBody::from_body_handle`. -/
def fromBodyHandle (bodyHandle : ℕ) : Guest HostedStream := do
  let bod ← host (.streamingBodyFromBodyHandle bodyHandle)
  pure ⟨StreamingBody.ofBox bod, bodyHandle⟩

/-- `StreamingBody(StreamingBody &&other)`. -/
def move (other : HostedStream) : Except Abort HostedStream :=
  other.toStreamingBody.move.map fun s => ⟨s, other.handle⟩

/-- A number of moves in a row, as a value goes into a pair or a result. -/
def moves : ℕ → HostedStream → Except Abort HostedStream
  | 0, s => .ok s
  | n + 1, s =>
    match s.move with
    | .error e => .error e
    | .ok s => moves n s

/-- `StreamingBody::append`, once its parameter has been constructed. -/
def append (s : HostedStream) (other : Body) : HostedStream :=
  ⟨s.toStreamingBody.append other, s.handle⟩

def flush (s : HostedStream) : Except Abort HostedStream :=
  s.toStreamingBody.flush.map fun t => ⟨t, s.handle⟩

/-- `StreamingBody::finish`. -/
def finish (s : HostedStream) : Guest (Except FastlyError Unit) := do
  let s ← ofExcept s.flush
  host (.streamingBodyFinish s.handle s.bod)

end HostedStream

namespace Body

/-- `Body::from_handle`. -/
def fromHandle (bodyHandle : ℕ) : Guest Body := do
  let bod ← host (.bodyFromHandle bodyHandle)
  pure (ofBox bod)

/-- A number of moves in a row, as a value goes into an optional or a result. -/
def moves : ℕ → Body → Except Abort Body
  | 0, b => .ok b
  | n + 1, b =>
    match b.move with
    | .error e => .error e
    | .ok b => moves n b

end Body

namespace Core

/-- The stream over a handle, moved into the result of an insert. -/
def streamResult (bodyHandle : ℕ) : Guest (Except CacheError HostedStream) := do
  let body ← HostedStream.fromBodyHandle bodyHandle
  let body ← ofExcept (body.moves 1)
  pure (.ok body)

/-! ## Found items -/

/-- `Found`: its variant of shared pointers. -/
inductive Found where
  | cache (handle : SharedPtr)
  | replace (handle : SharedPtr)
  deriving DecidableEq

namespace Found

/-- The shared pointer in the variant. -/
def ptr : Found → SharedPtr
  | cache handle => handle
  | replace handle => handle

def copy (found : Found) : Guest Unit := found.ptr.copy

def destroy (found : Found) : Guest Unit := found.ptr.destroy

def getBodyOptions (first last : Option UInt64) : CacheGetBodyOptions × UInt32 :=
  ({ fromByte := first.getD 0, toByte := last.getD 0 },
   flag first.isSome CacheGetBodyOptions.maskFrom |||
   flag last.isSome CacheGetBodyOptions.maskTo)

/-- `to` is given and less than `from`. -/
def emptyRange : Option UInt64 → Option UInt64 → Bool
  | some first, some last => last < first
  | _, _ => false

def toStreamFromRange (found : Found) (first last : Option UInt64) :
    Guest (Except CacheError Body) :=
  if emptyRange first last then pure (.error .invalidOperation)
  else do
    let (options, mask) := getBodyOptions first last
    let status ←
      match found with
      | cache handle => host (.cacheGetBody handle.val.handle mask options)
      | replace handle => host (.cacheReplaceGetBody handle.val.handle mask options)
    match status with
    | .error status => pure (.error (fromStatus status))
    | .ok bodyHandle => do
      let body ← Body.fromHandle bodyHandle
      let body ← ofExcept (body.moves 1)
      pure (.ok body)

def toStream (found : Found) : Guest (Except CacheError Body) :=
  found.toStreamFromRange none none

end Found

/-! ## Lookups -/

structure LookupBuilder where
  key : List UInt8
  options : LookupOptions := {}
  deriving DecidableEq

def lookup (key : List UInt8) : LookupBuilder := { key := key }

namespace LookupBuilder

def headerValues (name : List UInt8) (values : List HeaderValue) (b : LookupBuilder) :
    Guest LookupBuilder := do
  let handle ← setRequestHeaderValues b.options.requestHeaders name values
  pure { b with options := { b.options with requestHeaders := some handle } }

def header (name : List UInt8) (value : HeaderValue) (b : LookupBuilder) :
    Guest LookupBuilder :=
  b.headerValues name [value]

def onBehalfOf (service : List UInt8) (b : LookupBuilder) : LookupBuilder :=
  { b with options := { b.options with service := some service } }

def alwaysUseRequestedRange (b : LookupBuilder) : LookupBuilder :=
  { b with options := { b.options with alwaysUseRequestedRange := true } }

def execute (b : LookupBuilder) : Guest (Except CacheError (Option Found)) :=
  let (options, mask) := b.options.asAbi
  cacheTry (host (.cacheLookup b.key mask options)) fun cacheHandle =>
  cacheTry (host (.cacheGetState cacheHandle)) fun _ =>
  cacheTry (host (.cacheGetState cacheHandle)) fun state =>
    if state &&& CacheLookupState.found ≠ 0 then do
      let handle ← SharedPtr.make ⟨.cache, cacheHandle⟩
      pure (.ok (some (.cache handle)))
    else pure (.ok none)

end LookupBuilder

/-! ## Transactions -/

structure Transaction where
  handle : SharedPtr
  deriving DecidableEq

structure PendingTransaction where
  handle : SharedPtr
  deriving DecidableEq

structure TransactionLookupBuilder where
  key : List UInt8
  options : LookupOptions := {}
  deriving DecidableEq

structure TransactionUpdateBuilder where
  handle : SharedPtr
  options : WriteOptions
  deriving DecidableEq

structure TransactionInsertBuilder where
  handle : SharedPtr
  options : WriteOptions
  deriving DecidableEq

namespace Transaction

def lookup (key : List UInt8) : TransactionLookupBuilder := { key := key }

def destroy (tx : Transaction) : Guest Unit := tx.handle.destroy

/-- The state of a handle, as the three tests ask for it. -/
def getState (tx : Transaction) : Guest UInt32 := do
  match ← host (.cacheGetState tx.handle.val.handle) with
  | .error _ => abort "cache_get_state failed\n"
  | .ok state => pure state

def mustInsert (tx : Transaction) : Guest Bool := do
  let state ← tx.getState
  pure (state &&& CacheLookupState.found = 0 ∧ state &&& CacheLookupState.mustInsertOrUpdate ≠ 0)

def mustInsertOrUpdate (tx : Transaction) : Guest Bool := do
  let state ← tx.getState
  pure (state &&& CacheLookupState.mustInsertOrUpdate ≠ 0)

def cancelInsertOrUpdate (tx : Transaction) : Guest (Except CacheError Unit) :=
  cacheTry (host (.cacheTransactionCancel tx.handle.val.handle)) fun _ => pure (.ok ())

/-- The builder shares the handle with the transaction. -/
def update (maxAge : Int64) (tx : Transaction) : Guest TransactionUpdateBuilder := do
  tx.handle.copy
  pure ⟨tx.handle, { maxAge := maxAge }⟩

/-- The builder shares the handle with the transaction. -/
def insert (maxAge : Int64) (tx : Transaction) : Guest TransactionInsertBuilder := do
  tx.handle.copy
  pure ⟨tx.handle, { maxAge := maxAge }⟩

def found (tx : Transaction) : Guest (Option Found) := do
  let state ← tx.getState
  if state &&& CacheLookupState.found ≠ 0 then do
    tx.handle.copy
    pure (some (.cache tx.handle))
  else pure none

end Transaction

namespace PendingTransaction

def destroy (pending : PendingTransaction) : Guest Unit := pending.handle.destroy

def pending (p : PendingTransaction) : Guest (Except CacheError Bool) :=
  cacheTry (host (.asyncIsReady p.handle.val.handle)) fun isReady => pure (.ok (isReady = 0))

def wait (p : PendingTransaction) : Guest (Except CacheError Transaction) :=
  cacheTry (host (.cacheBusyHandleWait p.handle.val.handle)) fun cacheHandle =>
  cacheTry (host (.cacheGetState cacheHandle)) fun _ => do
    let handle ← SharedPtr.make ⟨.cache, cacheHandle⟩
    pure (.ok ⟨handle⟩)

end PendingTransaction

namespace TransactionLookupBuilder

def headerValues (name : List UInt8) (values : List HeaderValue)
    (b : TransactionLookupBuilder) : Guest TransactionLookupBuilder := do
  let handle ← setRequestHeaderValues b.options.requestHeaders name values
  pure { b with options := { b.options with requestHeaders := some handle } }

def header (name : List UInt8) (value : HeaderValue) (b : TransactionLookupBuilder) :
    Guest TransactionLookupBuilder :=
  b.headerValues name [value]

def onBehalfOf (service : List UInt8) (b : TransactionLookupBuilder) :
    TransactionLookupBuilder :=
  { b with options := { b.options with service := some service } }

def alwaysUseRequestedRange (b : TransactionLookupBuilder) : TransactionLookupBuilder :=
  { b with options := { b.options with alwaysUseRequestedRange := true } }

def execute (b : TransactionLookupBuilder) : Guest (Except CacheError Transaction) :=
  let (options, mask) := b.options.asAbi
  cacheTry (host (.cacheTransactionLookup b.key mask options)) fun cacheHandle =>
  cacheTry (host (.cacheGetState cacheHandle)) fun _ => do
    let handle ← SharedPtr.make ⟨.cache, cacheHandle⟩
    pure (.ok ⟨handle⟩)

def executeAsync (b : TransactionLookupBuilder) :
    Guest (Except CacheError PendingTransaction) :=
  let (options, mask) := b.options.asAbi
  cacheTry (host (.cacheTransactionLookupAsync b.key mask options)) fun busyHandle => do
    let handle ← SharedPtr.make ⟨.busy, busyHandle⟩
    pure (.ok ⟨handle⟩)

end TransactionLookupBuilder

namespace TransactionUpdateBuilder

def varyBy (headers : List (List UInt8)) (b : TransactionUpdateBuilder) :
    TransactionUpdateBuilder :=
  { b with options := b.options.setVaryRule headers }

def age (age : Int64) (b : TransactionUpdateBuilder) : TransactionUpdateBuilder :=
  { b with options := { b.options with initialAge := some age } }

def deliverNodeMaxAge (duration : Int64) (b : TransactionUpdateBuilder) :
    TransactionUpdateBuilder :=
  { b with options := { b.options with edgeMaxAge := some duration } }

def staleWhileRevalidate (duration : Int64) (b : TransactionUpdateBuilder) :
    TransactionUpdateBuilder :=
  { b with options := { b.options with staleWhileRevalidate := some duration } }

def surrogateKeys (keys : List (List UInt8)) (b : TransactionUpdateBuilder) :
    TransactionUpdateBuilder :=
  { b with options := b.options.setSurrogateKeys keys }

def userMetadata (metadata : List UInt8) (b : TransactionUpdateBuilder) :
    TransactionUpdateBuilder :=
  { b with options := { b.options with userMetadata := some metadata } }

def onBehalfOf (service : List UInt8) (b : TransactionUpdateBuilder) :
    TransactionUpdateBuilder :=
  { b with options := { b.options with service := some service } }

def execute (b : TransactionUpdateBuilder) : Guest (Except CacheError Unit) :=
  let (options, mask) := b.options.asAbi
  cacheTry (host (.cacheTransactionUpdate b.handle.val.handle mask options)) fun _ =>
    pure (.ok ())

def destroy (b : TransactionUpdateBuilder) : Guest Unit := b.handle.destroy

end TransactionUpdateBuilder

namespace TransactionInsertBuilder

def varyBy (headers : List (List UInt8)) (b : TransactionInsertBuilder) :
    TransactionInsertBuilder :=
  { b with options := b.options.setVaryRule headers }

def initialAge (age : Int64) (b : TransactionInsertBuilder) : TransactionInsertBuilder :=
  { b with options := { b.options with initialAge := some age } }

def staleWhileRevalidate (duration : Int64) (b : TransactionInsertBuilder) :
    TransactionInsertBuilder :=
  { b with options := { b.options with staleWhileRevalidate := some duration } }

def surrogateKeys (keys : List (List UInt8)) (b : TransactionInsertBuilder) :
    TransactionInsertBuilder :=
  { b with options := b.options.setSurrogateKeys keys }

def knownLength (length : UInt64) (b : TransactionInsertBuilder) : TransactionInsertBuilder :=
  { b with options := { b.options with length := some length } }

def userMetadata (metadata : List UInt8) (b : TransactionInsertBuilder) :
    TransactionInsertBuilder :=
  { b with options := { b.options with userMetadata := some metadata } }

def sensitiveData (isSensitive : Bool) (b : TransactionInsertBuilder) :
    TransactionInsertBuilder :=
  { b with options := { b.options with sensitiveData := isSensitive } }

def deliverNodeMaxAge (duration : Int64) (b : TransactionInsertBuilder) :
    TransactionInsertBuilder :=
  { b with options := { b.options with edgeMaxAge := some duration } }

def onBehalfOf (service : List UInt8) (b : TransactionInsertBuilder) :
    TransactionInsertBuilder :=
  { b with options := { b.options with service := some service } }

def execute (b : TransactionInsertBuilder) : Guest (Except CacheError HostedStream) :=
  let (options, mask) := b.options.asAbi
  cacheTry (host (.cacheTransactionInsert b.handle.val.handle mask options)) streamResult

def executeAndStreamBack (b : TransactionInsertBuilder) :
    Guest (Except CacheError (HostedStream × Found)) :=
  let (options, mask) := b.options.asAbi
  cacheTry (host (.cacheTransactionInsertAndStreamBack b.handle.val.handle mask options))
    fun (bodyHandle, cacheHandleOut) => do
      let body ← HostedStream.fromBodyHandle bodyHandle
      let handle ← SharedPtr.make ⟨.cache, cacheHandleOut⟩
      let body ← ofExcept (body.moves 2)
      pure (.ok (body, .cache handle))

def destroy (b : TransactionInsertBuilder) : Guest Unit := b.handle.destroy

end TransactionInsertBuilder

/-! ## Inserts -/

structure InsertBuilder where
  key : List UInt8
  options : WriteOptions
  deriving DecidableEq

def insert (key : List UInt8) (maxAge : Int64) : InsertBuilder := ⟨key, { maxAge := maxAge }⟩

namespace InsertBuilder

def headerValues (name : List UInt8) (values : List HeaderValue) (b : InsertBuilder) :
    Guest InsertBuilder := do
  let handle ← setRequestHeaderValues b.options.requestHeaders name values
  pure { b with options := { b.options with requestHeaders := some handle } }

def header (name : List UInt8) (value : HeaderValue) (b : InsertBuilder) :
    Guest InsertBuilder :=
  b.headerValues name [value]

def varyBy (headers : List (List UInt8)) (b : InsertBuilder) : InsertBuilder :=
  { b with options := b.options.setVaryRule headers }

def initialAge (age : Int64) (b : InsertBuilder) : InsertBuilder :=
  { b with options := { b.options with initialAge := some age } }

def staleWhileRevalidate (duration : Int64) (b : InsertBuilder) : InsertBuilder :=
  { b with options := { b.options with staleWhileRevalidate := some duration } }

def surrogateKeys (keys : List (List UInt8)) (b : InsertBuilder) : InsertBuilder :=
  { b with options := b.options.setSurrogateKeys keys }

def knownLength (length : UInt64) (b : InsertBuilder) : InsertBuilder :=
  { b with options := { b.options with length := some length } }

def userMetadata (metadata : List UInt8) (b : InsertBuilder) : InsertBuilder :=
  { b with options := { b.options with userMetadata := some metadata } }

def sensitiveData (isSensitive : Bool) (b : InsertBuilder) : InsertBuilder :=
  { b with options := { b.options with sensitiveData := isSensitive } }

def deliverNodeMaxAge (duration : Int64) (b : InsertBuilder) : InsertBuilder :=
  { b with options := { b.options with edgeMaxAge := some duration } }

def onBehalfOf (service : List UInt8) (b : InsertBuilder) : InsertBuilder :=
  { b with options := { b.options with service := some service } }

def execute (b : InsertBuilder) : Guest (Except CacheError HostedStream) :=
  let (options, mask) := b.options.asAbi
  cacheTry (host (.cacheInsert b.key mask options)) streamResult

end InsertBuilder

/-! ## Replacements -/

structure ReplaceBuilder where
  key : List UInt8
  options : ReplaceOptions := {}
  deriving DecidableEq

structure Replace where
  handle : SharedPtr
  existingObject : Option Found
  options : WriteOptions := { maxAge := 0 }
  deriving DecidableEq

def replace (key : List UInt8) : ReplaceBuilder := { key := key }

namespace ReplaceBuilder

def begin (b : ReplaceBuilder) : Guest (Except CacheError Replace) :=
  let (options, mask) := b.options.asAbi
  cacheTry (host (.cacheReplace b.key mask options)) fun replaceHandle => do
    let handle ← SharedPtr.make ⟨.replace, replaceHandle⟩
    match ← host (.cacheReplaceGetState replaceHandle) with
    | .error status => do
      handle.destroy
      pure (.error (fromStatus status))
    | .ok state =>
      if state &&& CacheLookupState.found ≠ 0 then do
        handle.copy
        pure (.ok { handle := handle, existingObject := some (.replace handle) })
      else pure (.ok { handle := handle, existingObject := none })

def replaceStrategy (strategy : ReplaceStrategy) (b : ReplaceBuilder) : ReplaceBuilder :=
  { b with options := { b.options with replaceStrategy := strategy } }

def alwaysUseRequestedRange (b : ReplaceBuilder) : ReplaceBuilder :=
  { b with options := { b.options with alwaysUseRequestedRange := true } }

end ReplaceBuilder

namespace Replace

/-- `existing_object_.reset()`. -/
def resetExisting (r : Replace) : Guest Replace := do
  match r.existingObject with
  | some found => found.destroy
  | none => pure ()
  pure { r with existingObject := none }

/-- Next to the result, what `*this` is left with. -/
def execute (maxAge : Int64) (r : Replace) :
    Guest (Except CacheError HostedStream × Replace) := do
  let r ← resetExisting { r with options := { r.options with maxAge := maxAge } }
  let (options, mask) := r.options.asAbi
  let result ← cacheTry (host (.cacheReplaceInsert r.handle.val.handle mask options)) streamResult
  pure (result, r)

def destroy (r : Replace) : Guest Unit := do
  destroyRequestHeaders r.options.requestHeaders
  let r ← r.resetExisting
  r.handle.destroy

def headerValues (name : List UInt8) (values : List HeaderValue) (r : Replace) :
    Guest Replace := do
  let handle ← setRequestHeaderValues r.options.requestHeaders name values
  pure { r with options := { r.options with requestHeaders := some handle } }

def header (name : List UInt8) (value : HeaderValue) (r : Replace) : Guest Replace :=
  r.headerValues name [value]

def varyBy (headers : List (List UInt8)) (r : Replace) : Replace :=
  { r with options := r.options.setVaryRule headers }

def initialAge (age : Int64) (r : Replace) : Replace :=
  { r with options := { r.options with initialAge := some age } }

def staleWhileRevalidate (duration : Int64) (r : Replace) : Replace :=
  { r with options := { r.options with staleWhileRevalidate := some duration } }

def surrogateKeys (keys : List (List UInt8)) (r : Replace) : Replace :=
  { r with options := r.options.setSurrogateKeys keys }

def knownLength (length : UInt64) (r : Replace) : Replace :=
  { r with options := { r.options with length := some length } }

def userMetadata (metadata : List UInt8) (r : Replace) : Replace :=
  { r with options := { r.options with userMetadata := some metadata } }

def sensitiveData (isSensitive : Bool) (r : Replace) : Replace :=
  { r with options := { r.options with sensitiveData := isSensitive } }

def deliverNodeMaxAge (duration : Int64) (r : Replace) : Replace :=
  { r with options := { r.options with edgeMaxAge := some duration } }

end Replace

end Core

end ComputeSdk
