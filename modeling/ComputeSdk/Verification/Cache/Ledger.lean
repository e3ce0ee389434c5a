import ComputeSdk.Shared.Run
import ComputeSdk.Verification.Cache.Chain

/-! # Runs of the core cache

A program uses the core cache through objects. Between its calls each handle that is open
at the host should be owned by one of them. -/

namespace ComputeSdk

open Shared Guest ComputeSdk.Core

/-! ## The host's handles -/

/-- The host, with the handles that are open, those that were closed without being open,
and its answers. A handle that it hands out was not used before. -/
structure Ledger where
  next : ℕ := 0
  opened : List ℕ := []
  stray : List ℕ := []
  clock : ℕ := 0
  answers : ℕ → (c : HostCall) → c.Answer

namespace Ledger

def tick (L : Ledger) : Ledger := { L with clock := L.clock + 1 }

/-- The next handle is handed out. -/
def granted (L : Ledger) : Ledger :=
  { L.tick with next := L.next + 1, opened := L.next :: L.opened }

/-- The call succeeds with a new handle if `status` is a success. -/
def grant (L : Ledger) (status : Except Status ℕ) : Except Status ℕ × Ledger :=
  match status with
  | .error status => (.error status, L.tick)
  | .ok _ => (.ok L.next, L.granted)

def grantStream (L : Ledger) (status : Except Status (ℕ × ℕ)) :
    Except Status (ℕ × ℕ) × Ledger :=
  match status with
  | .error status => (.error status, L.tick)
  | .ok (bodyHandle, _) => (.ok (bodyHandle, L.next), L.granted)

def close (L : Ledger) (h : ℕ) : Ledger :=
  if h ∈ L.opened then { L.tick with opened := L.opened.erase h }
  else { L.tick with stray := h :: L.stray }

def handle (L : Ledger) (c : HostCall) : c.Answer × Ledger :=
  match c with
  | .cacheLookup key mask options => L.grant (L.answers L.clock (.cacheLookup key mask options))
  | .cacheTransactionLookup key mask options =>
    L.grant (L.answers L.clock (.cacheTransactionLookup key mask options))
  | .cacheTransactionLookupAsync key mask options =>
    L.grant (L.answers L.clock (.cacheTransactionLookupAsync key mask options))
  | .cacheBusyHandleWait busy => L.grant (L.answers L.clock (.cacheBusyHandleWait busy))
  | .cacheReplace key mask options =>
    L.grant (L.answers L.clock (.cacheReplace key mask options))
  | .cacheTransactionInsertAndStreamBack h mask options =>
    L.grantStream (L.answers L.clock (.cacheTransactionInsertAndStreamBack h mask options))
  | .cacheClose h => (L.answers L.clock (.cacheClose h), L.close h)
  | c => (L.answers L.clock c, L.tick)

end Ledger

/-! ## Objects -/

/-- The live objects of a program that own handles. An object that was moved from owns
nothing, so a moved object is the same object here. -/
inductive CacheObject where
  | found (found : Found)
  | pending (pending : PendingTransaction)
  | transaction (tx : Transaction)
  | insertBuilder (b : TransactionInsertBuilder)
  | updateBuilder (b : TransactionUpdateBuilder)
  | replace (r : Replace)

namespace CacheObject

/-- The shared pointers of an object. -/
def refs : CacheObject → List SharedPtr
  | found f => [f.ptr]
  | pending p => [p.handle]
  | transaction tx => [tx.handle]
  | insertBuilder b => [b.handle]
  | updateBuilder b => [b.handle]
  | replace r => (r.existingObject.map Found.ptr).toList ++ [r.handle]

/-- The copy constructor. -/
def copy (object : CacheObject) : Guest Unit := object.refs.forM SharedPtr.copy

/-- The destructor. -/
def destroy : CacheObject → Guest Unit
  | found f => f.destroy
  | pending p => p.destroy
  | transaction tx => tx.destroy
  | insertBuilder b => b.destroy
  | updateBuilder b => b.destroy
  | replace r => r.destroy

end CacheObject

/-! ## Calls -/

/-- What a program does with the core cache. Objects are given by their position among the
live ones; builders without handles are given by value. -/
inductive CacheOp where
  | lookup (b : LookupBuilder)
  | transactionLookup (b : TransactionLookupBuilder)
  | transactionLookupAsync (b : TransactionLookupBuilder)
  | isPending (i : ℕ)
  | wait (i : ℕ)
  | mustInsert (i : ℕ)
  | mustInsertOrUpdate (i : ℕ)
  | cancelInsertOrUpdate (i : ℕ)
  | found (i : ℕ)
  | insert (i : ℕ) (maxAge : Int64)
  | update (i : ℕ) (maxAge : Int64)
  | configure (i : ℕ) (c : BuilderCall)
  | execute (i : ℕ) (maxAge : Int64)
  | executeAndStreamBack (i : ℕ)
  | toStream (i : ℕ) (first last : Option UInt64)
  | nonTransactionalInsert (b : InsertBuilder)
  | replaceBegin (b : ReplaceBuilder)
  | existingObject (i : ℕ)
  | copy (i : ℕ)
  | drop (i : ℕ)

namespace CacheOp

/-- A setter of `TransactionInsertBuilder`. -/
def setInsert (b : TransactionInsertBuilder) : BuilderCall → TransactionInsertBuilder
  | .varyBy headers => b.varyBy headers
  | .initialAge age => b.initialAge age
  | .staleWhileRevalidate duration => b.staleWhileRevalidate duration
  | .surrogateKeys keys => b.surrogateKeys keys
  | .knownLength length => b.knownLength length
  | .userMetadata metadata => b.userMetadata metadata
  | .sensitiveData isSensitive => b.sensitiveData isSensitive
  | .deliverNodeMaxAge duration => b.deliverNodeMaxAge duration
  | .onBehalfOf service => b.onBehalfOf service
  | _ => b

/-- A setter of `TransactionUpdateBuilder`, whose `age` is the initial age. -/
def setUpdate (b : TransactionUpdateBuilder) : BuilderCall → TransactionUpdateBuilder
  | .varyBy headers => b.varyBy headers
  | .initialAge age => b.age age
  | .deliverNodeMaxAge duration => b.deliverNodeMaxAge duration
  | .staleWhileRevalidate duration => b.staleWhileRevalidate duration
  | .surrogateKeys keys => b.surrogateKeys keys
  | .userMetadata metadata => b.userMetadata metadata
  | .onBehalfOf service => b.onBehalfOf service
  | _ => b

def configureObject (c : BuilderCall) : CacheObject → Guest CacheObject
  | .insertBuilder b => pure (.insertBuilder (setInsert b c))
  | .updateBuilder b => pure (.updateBuilder (setUpdate b c))
  | .replace r => .replace <$> Builder.callReplace r c
  | object => pure object

/-- The `execute` of a builder, and what is left of it. -/
def executeObject (maxAge : Int64) : CacheObject → Guest CacheObject
  | .insertBuilder b => (fun _ => .insertBuilder b) <$> b.execute
  | .updateBuilder b => (fun _ => .updateBuilder b) <$> b.execute
  | .replace r => (fun p => .replace p.2) <$> r.execute maxAge
  | object => pure object

/-- The objects that a call on an object returns. -/
def returned (object : CacheObject) : CacheOp → Guest (List CacheObject)
  | .wait _ =>
    match object with
    | .pending p => do
      match ← p.wait with
      | .ok tx => pure [.transaction tx]
      | .error _ => pure []
    | _ => pure []
  | .isPending _ =>
    match object with
    | .pending p => (fun _ => []) <$> p.pending
    | _ => pure []
  | .mustInsert _ =>
    match object with
    | .transaction tx => (fun _ => []) <$> tx.mustInsert
    | _ => pure []
  | .mustInsertOrUpdate _ =>
    match object with
    | .transaction tx => (fun _ => []) <$> tx.mustInsertOrUpdate
    | _ => pure []
  | .cancelInsertOrUpdate _ =>
    match object with
    | .transaction tx => (fun _ => []) <$> tx.cancelInsertOrUpdate
    | _ => pure []
  | .found _ =>
    match object with
    | .transaction tx => (fun f => (f.map CacheObject.found).toList) <$> tx.found
    | _ => pure []
  | .insert _ maxAge =>
    match object with
    | .transaction tx => (fun b => [.insertBuilder b]) <$> tx.insert maxAge
    | _ => pure []
  | .update _ maxAge =>
    match object with
    | .transaction tx => (fun b => [.updateBuilder b]) <$> tx.update maxAge
    | _ => pure []
  | .executeAndStreamBack _ =>
    match object with
    | .insertBuilder b => do
      match ← b.executeAndStreamBack with
      | .ok (_, f) => pure [.found f]
      | .error _ => pure []
    | _ => pure []
  | .toStream _ first last =>
    match object with
    | .found f => (fun _ => []) <$> f.toStreamFromRange first last
    | _ => pure []
  | .existingObject _ =>
    match object with
    | .replace r =>
      match r.existingObject with
      | some f => do
        f.copy
        pure [.found f]
      | none => pure []
    | _ => pure []
  | .copy _ => do
    object.copy
    pure [object]
  | _ => pure []

/-- The object that a call is made on. -/
def target : CacheOp → Option ℕ
  | isPending i => some i
  | wait i => some i
  | mustInsert i => some i
  | mustInsertOrUpdate i => some i
  | cancelInsertOrUpdate i => some i
  | found i => some i
  | insert i _ => some i
  | update i _ => some i
  | configure i _ => some i
  | execute i _ => some i
  | executeAndStreamBack i => some i
  | toStream i _ _ => some i
  | existingObject i => some i
  | copy i => some i
  | drop i => some i
  | _ => none

/-- The objects that a call returns that is made on none. -/
def created : CacheOp → Guest (List CacheObject)
  | lookup b => do
    match ← b.execute with
    | .ok (some f) => pure [.found f]
    | _ => pure []
  | transactionLookup b => do
    match ← b.execute with
    | .ok tx => pure [.transaction tx]
    | .error _ => pure []
  | transactionLookupAsync b => do
    match ← b.executeAsync with
    | .ok p => pure [.pending p]
    | .error _ => pure []
  | nonTransactionalInsert b => (fun _ => []) <$> b.execute
  | replaceBegin b => do
    match ← b.begin with
    | .ok r => pure [.replace r]
    | .error _ => pure []
  | _ => pure []

end CacheOp

/-- A program between two calls. -/
structure CacheState where
  objects : List CacheObject := []
  heap : RefHeap HandleObject := .empty
  host : Ledger

namespace CacheState

/-- What a call makes of the live objects. A call on an object that does not exist, or that
its class does not have, is not made. -/
def exec (objects : List CacheObject) (op : CacheOp) : Guest (List CacheObject) :=
  match op.target with
  | none => (fun new => objects ++ new) <$> op.created
  | some i =>
    match objects[i]? with
    | none => pure objects
    | some object =>
      match op with
      | .drop _ => (fun _ => objects.eraseIdx i) <$> object.destroy
      | .configure _ c => (fun o => objects.set i o) <$> CacheOp.configureObject c object
      | .execute _ maxAge => (fun o => objects.set i o) <$> CacheOp.executeObject maxAge object
      | op => (fun new => objects ++ new) <$> CacheOp.returned object op

def step (s : CacheState) (op : CacheOp) : Except Abort CacheState :=
  match ((exec s.objects op).run s.heap).run Ledger.handle s.host with
  | (.ok (objects, heap), host) => .ok ⟨objects, heap, host⟩
  | (.error e, _) => .error e

/-- The handles of the handle objects that are alive. -/
def owned (s : CacheState) : List ℕ := s.heap.live.map HandleObject.handle

/-- The open handles are those that are owned, and none was closed twice. -/
structure Exact (s : CacheState) : Prop where
  opened : s.host.opened.Perm s.owned
  stray : s.host.stray = []

/-- Whether the handle that the host hands out, if it does, comes to be owned: the lookup
finds something, and asking for the state of a new handle succeeds. -/
def Clean (s : CacheState) : CacheOp → Prop
  | .lookup b =>
    (∃ status, s.host.answers s.host.clock
      (.cacheLookup b.key b.options.asAbi.2 b.options.asAbi.1) = .error status) ∨
    ∃ ignored state,
      s.host.answers (s.host.clock + 1) (.cacheGetState s.host.next) = .ok ignored ∧
      s.host.answers (s.host.clock + 2) (.cacheGetState s.host.next) = .ok state ∧
      state &&& CacheLookupState.found ≠ 0
  | .transactionLookup b =>
    (∃ status, s.host.answers s.host.clock
      (.cacheTransactionLookup b.key b.options.asAbi.2 b.options.asAbi.1) = .error status) ∨
    ∃ ignored, s.host.answers (s.host.clock + 1) (.cacheGetState s.host.next) = .ok ignored
  | .wait i =>
    ∀ p, s.objects[i]? = some (.pending p) →
      (∃ status, s.host.answers s.host.clock
        (.cacheBusyHandleWait p.handle.val.handle) = .error status) ∨
      ∃ ignored, s.host.answers (s.host.clock + 1) (.cacheGetState s.host.next) = .ok ignored
  | _ => True

end CacheState

end ComputeSdk
