import ComputeSdk.Shared.Changes
import ComputeSdk.Verification.Cache.Lifetimes
import ComputeSdk.Verification.Cache.Linearization
import ComputeSdk.Verification.Cache.PurgeMap

/-! # A host whose items expire

Clients get, set and purge at the same time, and an item may expire, also while it is still
written. Who has found it by then can read it to its end. -/

namespace ComputeSdk

open Shared Guest ComputeSdk.Core

/-! ## The host -/

/-- An insert that the host accepted. -/
structure Insert (ι : Type) where
  client : ι
  tags : List (List UInt8)
  /-- Whether there was ever an item to find. -/
  provided : Bool := false
  /-- The bytes, once all of them are there. -/
  bytes : Option (List UInt8) := none

namespace Insert

variable {ι : Type} (insert : Insert ι) (xs : List UInt8)

/-- The item can be found. -/
def provide : Insert ι := { insert with provided := true }

/-- The insert is finished. -/
def finish : Insert ι := { insert with provided := true, bytes := some xs }

@[simp] theorem provide_client : insert.provide.client = insert.client := rfl

@[simp] theorem finish_client : (insert.finish xs).client = insert.client := rfl

end Insert

/-- A host with its inserts by their numbers, and the keys whose items expired. -/
structure ExpiringHost (ι : Type) extends SharedHost ι where
  inserts : ℕ → Option (Insert ι) := fun _ => none
  expired : List (List UInt8) := []

namespace ExpiringHost

variable {ι : Type}

/-- A host that has no item yet. -/
def empty : ExpiringHost ι := { SharedHost.stock (fun _ => none) with }

def record (e : ExpiringHost ι) (n : ℕ) (insert : Insert ι) : ExpiringHost ι :=
  { e with inserts := Function.update e.inserts n (some insert) }

/-- The same items and inserts, at this host. -/
def rebase (e : ExpiringHost ι) (base : SharedHost ι) : ExpiringHost ι :=
  { e with toSharedHost := base }

def setSlot (e : ExpiringHost ι) (key : List UInt8) (s : Slot ι) : ExpiringHost ι :=
  e.rebase (e.put key s)

theorem setSlot_same (e : ExpiringHost ι) (key : List UInt8) (s : Slot ι) :
    (e.setSlot key s).slot key = s :=
  Function.update_self ..

theorem setSlot_of_ne (e : ExpiringHost ι) {key key' : List UInt8} (h : key' ≠ key) (s : Slot ι) :
    (e.setSlot key s).slot key' = e.slot key' :=
  Function.update_of_ne h _ _

theorem record_same (e : ExpiringHost ι) (n : ℕ) (insert : Insert ι) :
    (e.record n insert).inserts n = some insert :=
  Function.update_self ..

theorem record_of_ne (e : ExpiringHost ι) {n m : ℕ} (h : m ≠ n) (insert : Insert ι) :
    (e.record n insert).inserts m = e.inserts m :=
  Function.update_of_ne h _ _

/-- The insert of the item that a lookup finds. -/
def item (e : ExpiringHost ι) (key : List UInt8) : Option (Insert ι) :=
  (e.slot key).item.bind e.inserts

/-- The items with this tag are removed, also those that are still written. -/
def purge (e : ExpiringHost ι) (surrogateKey : List UInt8) : ExpiringHost ι :=
  { e with
    slot := fun key =>
      if (e.item key).any fun insert => insert.tags.contains surrogateKey then .absent
      else e.slot key }

variable [DecidableEq ι]

/-- An insert of client `i` with these tags is accepted through `h`. -/
def acceptInsert (e : ExpiringHost ι) (i : ι) (h b h' : ℕ) (key : List UInt8) (state : UInt32)
    (tags : List (List UInt8)) : ExpiringHost ι :=
  { e.rebase (e.accept i h b h' key state) with
    inserts := Function.update e.inserts e.next (some { client := i, tags := tags }) }

/-- The answers that client `i` may get. Items apart, they are those of any host. -/
def Answers (e : ExpiringHost ι) (i : ι) (c : HostCall) (a : c.Answer) (e' : ExpiringHost ι) :
    Prop :=
  match c, a with
  | .cacheTransactionInsertAndStreamBack h mask options, .ok p =>
    e.toSharedHost.Answers i (.cacheTransactionInsertAndStreamBack h mask options) (.ok p)
      e'.toSharedHost ∧
    (∃ tags, Storage.tagsOf mask options = some tags ∧
      e'.inserts = Function.update e.inserts e.next (some { client := i, tags := tags })) ∧
    e'.expired = e.expired
  | .streamingBodyFinish b bod, .ok _ =>
    ∃ opened n insert, e.handle i .write b = some opened ∧ opened.insert = some n ∧
      e.inserts n = some insert ∧
      ((e.slot opened.key).Open n ∧ e' = (e.setSlot opened.key (.complete n bod.content)).record n
          (insert.finish bod.content) ∨
        -- the item is gone already
        insert.provided = true ∧ (e.slot opened.key).item ≠ some n ∧
          e' = e.record n (insert.finish bod.content))
  | .bodyFromHandle b, bod =>
    -- no answer for a stream that breaks off
    ∃ opened n insert, e.handle i .read b = some opened ∧ opened.insert = some n ∧
      e.inserts n = some insert ∧ insert.bytes = some bod.content ∧ e' = e
  | .purgeSurrogateKey _, .error _ => e' = e.rebase (e.begin i)
  | .purgeSurrogateKey surrogateKey, .ok _ =>
    e' = (e.purge surrogateKey).rebase ((e.purge surrogateKey).begin i)
  | c, a =>
    e.toSharedHost.Answers i c a e'.toSharedHost ∧ e'.inserts = e.inserts ∧ e'.expired = e.expired

/-- What happens without a call: an accepted insert starts to provide the item, which ends the
obligation; an item expires. -/
inductive Drift : ExpiringHost ι → ExpiringHost ι → Prop where
  | provide {e : ExpiringHost ι} {key : List UInt8} {i : ι} {h n : ℕ} {insert : Insert ι}
      (hslot : e.slot key = .accepted i h n) (hinsert : e.inserts n = some insert) :
      Drift e ((e.setSlot key (.provided n)).record n insert.provide)
  | expire {e : ExpiringHost ι} {key : List UInt8} {n : ℕ} (hslot : (e.slot key).item = some n) :
      Drift e { e.setSlot key .absent with expired := e.expired ++ [key] }

end ExpiringHost

/-! ## The clients -/

namespace SimpleAction

/-- What a client calls. -/
def invoke (platform : Platform) :
    SimpleAction → Guest (Except Simple.CacheError (Option Body) ⊕ Except Simple.CacheError Unit)
  | call op => .inl <$> op.exec platform
  | purge overload key opts => .inr <$> purging platform key overload opts

/-- The bytes of the entry that it would set. -/
def offer : SimpleAction → Option (List UInt8)
  | call op => op.offer
  | purge _ _ _ => none

end SimpleAction

/-- A client that calls the simple cache, with the key, or one that purges, with its result once
it has one. -/
inductive Visitor where
  | caller (key : List UInt8) (s : Caller)
  | purger (key : List UInt8) (opts : Option Simple.PurgeOptions)
      (result : Option (Except Simple.CacheError Unit))

/-- An insert has the tags of this key. -/
def SendsTags (platform : Platform) (key : List UInt8) (c : HostCall) : Prop :=
  ∀ p, c.writeArguments = some p →
    Storage.tagsOf p.2 p.1 = some (Storage.entryTags platform key)

namespace Visitor

variable (platform : Platform)

def start : SimpleAction → Visitor
  | .call op => .caller op.key { op := op }
  | .purge _ key opts => .purger key opts none

def Permits : Visitor → HostCall → Prop
  | .caller key s, c => s.Permits c ∧ SendsTags platform key c
  | .purger key opts none, .purgeSurrogateKey surrogateKey =>
    surrogateKey = Simple.surrogateKeyForCacheKey platform key (SimpleAction.scope opts)
  | _, _ => False

def Moves : Visitor → (c : HostCall) → c.Answer → Visitor → Prop
  | .caller key s, c, a, v => ∃ t, s.Moves c a t ∧ v = .caller key t
  | .purger key opts _, .purgeSurrogateKey _, .error _, v =>
    v = .purger key opts (some (.error .purge))
  | .purger key opts _, .purgeSurrogateKey _, .ok _, v => v = .purger key opts (some (.ok ()))
  | _, _, _, _ => False

def protocol : Protocol HostCall.Answer Visitor := ⟨Permits platform, Moves⟩

/-- How a client ends. -/
def Ends : Except Simple.CacheError (Option Body) ⊕ Except Simple.CacheError Unit → Visitor → Prop
  | .inl result, .caller _ s => s.Explains result
  | .inr result, .purger _ _ result' => result' = some result
  | _, _ => False

end Visitor

/-! ## Tags -/

namespace Simple

variable {platform : Platform} {key : List UInt8} {α : Type}

/-- What starts no write sends no tags. -/
theorem sendsTags_of_writes {x : Guest α} (hx : Writes (fun _ => False) x) :
    Calls (SendsTags platform key) x := by
  refine Calls.imp hx fun c hc p hp => ?_
  exact (hc p.1 (by rw [c.writeOptions_eq, hp]; rfl)).elim

theorem sendsTags_insertEntry (makeEntry : Closure) (lookupTx : Transaction) :
    Calls (SendsTags platform key) (insertEntry platform key makeEntry lookupTx) := by
  simp only [insertEntry, Closure.invoke, bind_assoc, pure_bind]
  refine calls_bind (sendsTags_of_writes (writes_host_none rfl)) fun _ => ?_
  refine calls_bind (calls_ofExcept _) fun made => ?_
  refine calls_bind (sendsTags_of_writes (writes_host_none rfl)) fun _ => ?_
  cases made with
  | none => exact calls_pure _
  | some entry =>
      simp only [Transaction.insert, bind_assoc, pure_bind]
      refine calls_bind (calls_copy _) fun _ => ?_
      refine calls_bind (Calls.imp (TransactionInsertBuilder.passes_executeAndStreamBack _)
        fun c hc p hp => ?_) fun insertResult => ?_
      · rw [hc p hp]
        exact Storage.tagsOf_insert platform key entry.ttl
      · refine calls_bind (sendsTags_of_writes (writes_destroy _)) fun _ => ?_
        cases insertResult with
        | error err => exact calls_pure _
        | ok ends => exact sendsTags_of_writes (writes_fillAndReadBack entry ends.1 ends.2)

theorem sendsTags_getOrSetWith (makeEntry : Closure) :
    Calls (SendsTags platform key) (getOrSetWith platform key makeEntry) := by
  refine calls_bind (sendsTags_of_writes (writes_cacheTry (writes_host_none rfl) fun _ =>
    writes_cacheTry (writes_host_none rfl) fun _ => writes_bind (writes_make _) fun _ =>
      writes_pure _)) fun lookup => ?_
  cases lookup with
  | error err => exact calls_pure _
  | ok lookupTx =>
      refine calls_bind (sendsTags_of_writes (writes_bind (writes_getState _) fun _ =>
        writes_pure _)) fun must => ?_
      cases must with
      | true =>
          exact calls_bind (sendsTags_insertEntry makeEntry lookupTx) fun result =>
            sendsTags_of_writes (writes_release _ result)
      | false =>
          exact sendsTags_of_writes (writes_bind (writes_readFound lookupTx) (writes_release _))

theorem sendsTags_getOrSet (value : Body) (ttl : Int64) :
    Calls (SendsTags platform key) (getOrSet platform key value ttl) := by
  refine calls_bind (calls_ofExcept _) fun val => ?_
  refine calls_bind (sendsTags_getOrSetWith _) fun result => ?_
  cases result with
  | error err => exact calls_pure _
  | ok body =>
      cases body with
      | none => exact fun _ => trivial
      | some body => exact calls_bind (calls_ofExcept _) fun _ => calls_pure _

theorem sendsTags_get (key' : List UInt8) : Calls (SendsTags platform key) (get key') := by
  refine sendsTags_of_writes (writes_bind ?_ fun result => ?_)
  · refine writes_cacheTry (writes_host_none rfl) fun h => writes_cacheTry (writes_host_none rfl)
      fun _ => writes_bind (writes_host_none rfl) fun answer => ?_
    cases answer with
    | error status => exact writes_pure _
    | ok state =>
        dsimp only
        split
        · exact writes_bind (writes_make _) fun _ => writes_pure _
        · exact writes_pure _
  · cases result with
    | error err => exact writes_pure _
    | ok found =>
        cases found with
        | none => exact writes_pure _
        | some found =>
            refine writes_bind (writes_copy _) fun _ => ?_
            refine writes_bind (writes_toStream found) fun streamResult => ?_
            have hend : ∀ result : Except CacheError (Option Body), Writes (fun _ => False)
                (do found.destroy; found.destroy; pure result) := fun result =>
              writes_bind (writes_destroy found.ptr) fun _ => writes_release found.ptr result
            cases streamResult with
            | error err => exact writes_bind (writes_pure _) hend
            | ok stream =>
                exact writes_bind (writes_ofExcept _) fun _ => writes_bind (writes_pure _) hend

end Simple

theorem SimpleOp.sendsTags_exec (platform : Platform) (op : SimpleOp) :
    Calls (SendsTags platform op.key) (op.exec platform) := by
  cases op with
  | get overload key => cases overload <;> exact Simple.sendsTags_get key
  | getOrSet overload key value ttl =>
      cases overload with
      | span => exact calls_bind (Simple.sendsTags_getOrSet _ ttl) fun _ => calls_pure _
      | view =>
          exact calls_bind (calls_bind (calls_ofExcept _) fun _ => Simple.sendsTags_getOrSet _ ttl)
            fun _ => calls_pure _
  | getOrSetWith overload key entry =>
      cases overload <;> exact Simple.sendsTags_getOrSetWith _

namespace Visitor

variable {platform : Platform}

/-- A client follows the protocol of visitors. -/
theorem follows_invoke (action : SimpleAction) (H : RefHeap HandleObject) :
    Follows (protocol platform) (fun _ => True) (fun result _ v => v.Ends result)
      (action.invoke platform) H (start action) := by
  cases action with
  | call op =>
      have hembed := Prog.Follows.embed (P := Caller.protocol) (Q := protocol platform)
        (caller op.key)
        (fun s c hpermits htags => ⟨hpermits, htags⟩) (fun s c a t hmoves => hmoves)
        (Caller.obeys_exec platform op H) (SimpleOp.sendsTags_exec platform op H)
      refine follows_map (hembed.mono fun p v hends => ?_)
      obtain ⟨t, hexplains, rfl⟩ := hends
      exact hexplains
  | purge overload key opts =>
      have hpurge : ∀ opts' : Simple.PurgeOptions, opts'.scope = SimpleAction.scope opts →
          Follows (protocol platform) (fun _ => True)
            (fun result _ v => v.Ends (.inr result)) (Simple.purgeWithOpts platform key opts') H
            (purger key opts none) := by
        intro opts' hscope
        refine follows_bind (follows_host (c := .purgeSurrogateKey _) ?_ fun a v hmove => ?_)
        · exact congrArg _ hscope
        · cases a <;> exact follows_pure (hmove ▸ rfl)
      refine follows_map ?_
      cases opts with
      | none => cases overload <;> exact hpurge .popScope rfl
      | some opts => cases overload <;> exact hpurge opts rfl

end Visitor

end ComputeSdk
