import Mathlib.Logic.Function.Basic
import ComputeSdk.Model.Cache.Simple
import ComputeSdk.Verification.Body.Handover
import ComputeSdk.Verification.Cache.Encoding

/-! # Runs of the simple cache

One client uses the simple cache of a host at which nothing fails or expires. -/

namespace ComputeSdk

open Shared Guest ComputeSdk.Core

/-! ## The host -/

/-- A completed item, with the tags that it can be purged by. -/
structure Item where
  bytes : List UInt8
  tags : List (List UInt8)

/-- The host's cache, with what it knows about the handles it gave: the key that each is
about, the state of a cache handle, the tags of the insert behind a body handle, and the
bytes behind a body handle to read from. -/
structure Storage where
  items : List UInt8 → Option Item
  reads : Schedule
  writes : Schedule
  next : ℕ := 0
  key : ℕ → List UInt8 := fun _ => []
  state : ℕ → UInt32 := fun _ => 0
  tags : ℕ → List (List UInt8) := fun _ => []
  content : ℕ → List UInt8 := fun _ => []
  closures : ℕ := 0

namespace Storage

/-- A new handle for a lookup, with the state `missing` if there is no item. -/
def lookup (s : Storage) (key : List UInt8) (missing : UInt32) : Storage :=
  { s with
    next := s.next + 1
    key := Function.update s.key s.next key
    state := Function.update s.state s.next
      (if (s.items key).isSome then CacheLookupState.found ||| CacheLookupState.usable
        else missing) }

/-- The option is split at single spaces, if its bytes can be read. -/
def tagsOf (mask : UInt32) (options : CacheWriteOptions) : Option (List (List UInt8)) :=
  (bytesField mask CacheWriteOptions.maskSurrogateKeys options.surrogateKeysPtr
    options.surrogateKeysLen).map fun keys => keys.elim [] (List.splitOn 32)

/-- The bytes from the first bound to the second, which belongs to them. -/
def slice (range : Option UInt64 × Option UInt64) (bytes : List UInt8) : List UInt8 :=
  (range.2.elim bytes fun last => bytes.take (last.toNat + 1)).drop (range.1.elim 0 UInt64.toNat)

/-- Two new handles for the key of `h`: a body to fill, and one to read it back from. -/
def accept (s : Storage) (h : ℕ) (tags : List (List UInt8)) : Storage :=
  { s with
    next := s.next + 2
    key := Function.update (Function.update s.key s.next (s.key h)) (s.next + 1) (s.key h)
    state := Function.update s.state (s.next + 1)
      (CacheLookupState.found ||| CacheLookupState.usable)
    tags := Function.update s.tags s.next tags }

/-- The body of an insert is complete. -/
def complete (s : Storage) (bodyHandle : ℕ) (bytes : List UInt8) : Storage :=
  { s with
    items := Function.update s.items (s.key bodyHandle) (some ⟨bytes, s.tags bodyHandle⟩) }

/-- A new body handle to read the range of the item from. -/
def getBody (s : Storage) (h : ℕ) (range : Option UInt64 × Option UInt64) : Storage :=
  { s with
    next := s.next + 1
    content := Function.update s.content s.next
      (slice range ((s.items (s.key h)).elim [] Item.bytes)) }

/-- The items with this tag are removed. -/
def purge (s : Storage) (surrogateKey : List UInt8) : Storage :=
  { s with items := fun key => (s.items key).filter fun item => surrogateKey ∉ item.tags }

/-- The map of the stored bytes. -/
def stored (s : Storage) (key : List UInt8) : Option (List UInt8) :=
  (s.items key).map Item.bytes

def handle (s : Storage) (c : HostCall) : c.Answer × Storage :=
  match c with
  | .cacheLookup key _ _ => (.ok s.next, s.lookup key 0)
  | .cacheTransactionLookup key _ _ =>
    (.ok s.next, s.lookup key CacheLookupState.mustInsertOrUpdate)
  | .cacheGetState h => (.ok (s.state h), s)
  | .cacheTransactionInsertAndStreamBack h mask options =>
    match tagsOf mask options with
    | some tags => (.ok (s.next, s.next + 1), s.accept h tags)
    | none => (.error .invalidArgument, s)
  | .streamingBodyFromBodyHandle _ => (.new s.reads s.writes, s)
  | .streamingBodyFinish bodyHandle bod => (.ok (), s.complete bodyHandle bod.content)
  | .cacheGetBody h mask options => (.ok s.next, s.getBody h (decodeRange (options, mask)))
  | .bodyFromHandle bodyHandle => (⟨s.content bodyHandle, s.reads, s.writes⟩, s)
  | .purgeSurrogateKey surrogateKey => (.ok (), s.purge surrogateKey)
  | .closureBegin => ((), { s with closures := s.closures + 1 })
  | c => (HostCall.succeed c, s)

/-- The host gets the tags that are in the options. -/
theorem tagsOf_asAbi (o : WriteOptions) :
    tagsOf o.asAbi.2 o.asAbi.1 = some (o.surrogateKeys.elim [] (List.splitOn space)) := by
  rw [tagsOf, o.bytesField_asAbi.2.1]
  rfl

end Storage

/-! ## The client -/

/-- A body that bytes were inserted into, at a host that takes them, and none extracted. -/
structure Value where
  body : Body
  accepting : body.bod.writes.Accepting
  unread : body.unread = []

def Value.bytes (v : Value) : List UInt8 := v.body.unextracted

theorem Value.bytes_eq (v : Value) : v.bytes = v.body.bod.content ++ v.body.pending := by
  rw [bytes, Body.unextracted, v.unread, List.nil_append]

inductive KeyType where
  | span
  | view
  deriving DecidableEq, Repr

/-- The calls that look up or set an entry, by the overload for the key. A closure returns
the entry or `std::nullopt`. -/
inductive SimpleOp where
  | get (overload : KeyType) (key : List UInt8)
  | getOrSet (overload : KeyType) (key : List UInt8) (value : Value) (ttl : Int64)
  | getOrSetWith (overload : KeyType) (key : List UInt8) (entry : Option (Value × Int64))

namespace SimpleOp

/-- The closure that returns this entry. -/
def closure (entry : Option (Value × Int64)) : Simple.Closure :=
  .ok (entry.map fun p => ⟨p.1.body, p.2⟩)

def exec (platform : Platform) : SimpleOp → Guest (Except Simple.CacheError (Option Body))
  | get .span key => Simple.get key
  | get .view key => Simple.StringView.get key
  | getOrSet .span key value ttl =>
    Except.map some <$> Simple.getOrSet platform key value.body ttl
  | getOrSet .view key value ttl =>
    Except.map some <$> Simple.StringView.getOrSet platform key value.body ttl
  | getOrSetWith .span key entry => Simple.getOrSetWith platform key (closure entry)
  | getOrSetWith .view key entry => Simple.StringView.getOrSetWith platform key (closure entry)

end SimpleOp

/-- A client between two calls. -/
structure SimpleState where
  heap : RefHeap HandleObject := .empty
  host : Storage

namespace SimpleState

/-- The host content of the body in a result. -/
def contents (result : Except Simple.CacheError (Option Body)) :
    Except Simple.CacheError (Option (List UInt8)) :=
  result.map (Option.map fun body => body.bod.content)

/-- A call, with its result and how many closures were run in it. -/
def step (platform : Platform) (s : SimpleState) (op : SimpleOp) :
    Except Abort ((Except Simple.CacheError (Option (List UInt8)) × ℕ) × SimpleState) :=
  match ((op.exec platform).run s.heap).run Storage.handle s.host with
  | (.ok (result, heap), host) =>
    .ok ((contents result, host.closures - s.host.closures), ⟨heap, host⟩)
  | (.error e, _) => .error e

end SimpleState

/-! ## The map -/

/-- A map in which the first write of a key wins. -/
abbrev FirstWriteMap := List UInt8 → Option (List UInt8)

namespace FirstWriteMap

/-- The value of a key. Where there is none, `make` is asked for one, once. -/
def getOrInsert (M : FirstWriteMap) (key : List UInt8) (make : Option (List UInt8)) :
    (Except Simple.CacheError (Option (List UInt8)) × ℕ) × FirstWriteMap :=
  match M key with
  | some bytes => ((.ok (some bytes), 0), M)
  | none =>
    match make with
    | some bytes => ((.ok (some bytes), 1), Function.update M key (some bytes))
    | none => ((.error .getOrSet, 1), M)

def step (M : FirstWriteMap) :
    SimpleOp → (Except Simple.CacheError (Option (List UInt8)) × ℕ) × FirstWriteMap
  | .get _ key => ((.ok (M key), 0), M)
  | .getOrSet _ key value _ => M.getOrInsert key (some value.bytes)
  | .getOrSetWith _ key entry => M.getOrInsert key (entry.map fun p => p.1.bytes)

end FirstWriteMap

end ComputeSdk
