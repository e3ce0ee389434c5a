import ComputeSdk.Verification.Cache.Rules

/-! # Lifetimes at the host

A duration is a signed count of nanoseconds, and the host takes an unsigned one. The
conversion keeps the bits, so a negative duration becomes one of centuries. -/

namespace ComputeSdk

open Shared Guest ComputeSdk.Core

/-- The options and the mask with which a call starts a write. -/
def HostCall.writeArguments : HostCall → Option (CacheWriteOptions × UInt32)
  | cacheInsert _ mask options => some (options, mask)
  | cacheReplaceInsert _ mask options => some (options, mask)
  | cacheTransactionUpdate _ mask options => some (options, mask)
  | cacheTransactionInsert _ mask options => some (options, mask)
  | cacheTransactionInsertAndStreamBack _ mask options => some (options, mask)
  | _ => none

/-- The options with which a call starts a write. -/
def HostCall.writeOptions : HostCall → Option CacheWriteOptions
  | cacheInsert _ _ options => some options
  | cacheReplaceInsert _ _ options => some options
  | cacheTransactionUpdate _ _ options => some options
  | cacheTransactionInsert _ _ options => some options
  | cacheTransactionInsertAndStreamBack _ _ options => some options
  | _ => none

theorem HostCall.writeOptions_eq (c : HostCall) :
    c.writeOptions = c.writeArguments.map Prod.fst := by
  cases c <;> rfl

namespace Guest

variable {α β : Type} {Q R : CacheWriteOptions → Prop} {p : CacheWriteOptions × UInt32}

/-- All options that the host receives have the property, whatever it answers. -/
def Writes (Q : CacheWriteOptions → Prop) (x : Guest α) : Prop :=
  ∀ H, (x.run H).AllCalls fun c => ∀ options, c.writeOptions = some options → Q options

/-- Every write that the host is asked for has these options and this mask. -/
def Passes (p : CacheWriteOptions × UInt32) (x : Guest α) : Prop :=
  Calls (fun c => ∀ q, c.writeArguments = some q → q = p) x

/-- Every run asks the host for a write with these options and this mask. -/
def Asks (p : CacheWriteOptions × UInt32) (x : Guest α) : Prop :=
  Makes (fun c => c.writeArguments = some p) x

theorem Writes.imp {x : Guest α} (hx : Writes Q x) (h : ∀ options, Q options → R options) :
    Writes R x :=
  Calls.imp hx fun _ hc options hoptions => h options (hc options hoptions)

theorem Passes.writes {x : Guest α} (hx : Passes p x) : Writes (· = p.1) x := by
  refine Calls.imp hx fun c hc options hoptions => ?_
  rw [c.writeOptions_eq, Option.map_eq_some_iff] at hoptions
  obtain ⟨q, hq, rfl⟩ := hoptions
  rw [hc q hq]

theorem writes_pure (a : α) : Writes Q (pure a : Guest α) := calls_pure a

theorem writes_bind {x : Guest β} {f : β → Guest α} (hx : Writes Q x)
    (hf : ∀ b, Writes Q (f b)) : Writes Q (x >>= f) :=
  calls_bind hx hf

theorem Writes.of_bind {x : Guest β} {f : β → Guest α} (h : Writes Q (x >>= f)) : Writes Q x :=
  Calls.of_bind h

/-- A call that starts no write. -/
theorem writes_host_none {c : HostCall} (h : c.writeOptions = none) : Writes Q (host c) :=
  calls_host fun _ hsome => by rw [h] at hsome; cases hsome

theorem passes_host_none {c : HostCall} (h : c.writeArguments = none) : Passes p (host c) :=
  calls_host fun _ hsome => by rw [h] at hsome; cases hsome

theorem passes_host {c : HostCall} (h : c.writeArguments = some p) : Passes p (host c) :=
  calls_host fun _ hq => Option.some.inj (hq.symm.trans h)

theorem asks_host {c : HostCall} (h : c.writeArguments = some p) : Asks p (host c) := makes_host h

theorem writes_ofExcept (x : Except Abort α) : Writes Q (ofExcept x) := calls_ofExcept x

theorem writes_make (object : HandleObject) : Writes Q (SharedPtr.make object) :=
  calls_make object

theorem writes_copy (r : SharedPtr) : Writes Q r.copy := calls_copy r

theorem writes_destroy (r : SharedPtr) : Writes Q r.destroy :=
  calls_destroy (fun _ _ h => nomatch h) r

theorem writes_cacheTry {call : Guest (Except Status β)}
    {next : β → Guest (Except Core.CacheError α)} (hcall : Writes Q call)
    (hnext : ∀ b, Writes Q (next b)) : Writes Q (cacheTry call next) :=
  calls_cacheTry hcall hnext

end Guest

/-! ## The core cache -/

namespace Core

theorem passes_streamResult {p : CacheWriteOptions × UInt32} (bodyHandle : ℕ) :
    Passes p (streamResult bodyHandle) :=
  calls_bind (calls_bind (passes_host_none rfl) fun _ => calls_pure _) fun _ =>
    calls_bind (calls_ofExcept _) fun _ => calls_pure _

theorem InsertBuilder.passes_execute (b : InsertBuilder) : Passes b.options.asAbi b.execute :=
  calls_cacheTry (passes_host rfl) passes_streamResult

theorem InsertBuilder.asks_execute (b : InsertBuilder) : Asks b.options.asAbi b.execute :=
  makes_cacheTry (asks_host rfl)

theorem TransactionInsertBuilder.passes_execute (b : TransactionInsertBuilder) :
    Passes b.options.asAbi b.execute :=
  calls_cacheTry (passes_host rfl) passes_streamResult

theorem TransactionInsertBuilder.asks_execute (b : TransactionInsertBuilder) :
    Asks b.options.asAbi b.execute :=
  makes_cacheTry (asks_host rfl)

theorem TransactionInsertBuilder.passes_executeAndStreamBack (b : TransactionInsertBuilder) :
    Passes b.options.asAbi b.executeAndStreamBack := by
  refine calls_cacheTry (passes_host rfl) fun handles => ?_
  refine calls_bind (calls_bind (passes_host_none rfl) fun _ => calls_pure _) fun _ => ?_
  exact calls_bind (calls_make _) fun _ => calls_bind (calls_ofExcept _) fun _ => calls_pure _

theorem TransactionInsertBuilder.asks_executeAndStreamBack (b : TransactionInsertBuilder) :
    Asks b.options.asAbi b.executeAndStreamBack :=
  makes_cacheTry (asks_host rfl)

theorem TransactionUpdateBuilder.passes_execute (b : TransactionUpdateBuilder) :
    Passes b.options.asAbi b.execute :=
  calls_cacheTry (passes_host rfl) fun _ => calls_pure _

theorem TransactionUpdateBuilder.asks_execute (b : TransactionUpdateBuilder) :
    Asks b.options.asAbi b.execute :=
  makes_cacheTry (asks_host rfl)

/-- What `resetExisting` destroys. -/
def Replace.letGo (r : Replace) : Guest Unit :=
  r.existingObject.elim (pure ()) Found.destroy

theorem Replace.resetExisting_eq (r : Replace) :
    r.resetExisting = r.letGo >>= fun _ => pure { r with existingObject := none } := by
  unfold resetExisting letGo
  cases r.existingObject <;> rfl

theorem Replace.passes_letGo {p : CacheWriteOptions × UInt32} (r : Replace) :
    Passes p r.letGo := by
  unfold letGo
  cases r.existingObject with
  | none => exact calls_pure ()
  | some found => exact calls_destroy (fun _ _ h => nomatch h) found.ptr

/-- `execute` of a replacement sets the lifetime that it is given. -/
theorem Replace.passes_execute (maxAge : Int64) (r : Replace) :
    Passes { r.options with maxAge := maxAge : WriteOptions }.asAbi (r.execute maxAge) := by
  simp only [execute, resetExisting_eq, bind_assoc, pure_bind]
  exact calls_bind (passes_letGo _) fun _ => calls_bind
    (calls_cacheTry (passes_host rfl) passes_streamResult) fun _ => calls_pure _

theorem Replace.exists_run_letGo (r : Replace) (κ : Type)
    (handle : κ → (c : HostCall) → c.Answer × κ) (H : RefHeap HandleObject) (s : κ) :
    ∃ q t, (r.letGo.run H).run handle s = (.ok q, t) := by
  unfold letGo
  cases r.existingObject with
  | none => exact ⟨_, _, rfl⟩
  | some found => exact exists_run_destroy found.ptr κ handle H s

theorem Replace.asks_execute (maxAge : Int64) (r : Replace) :
    Asks { r.options with maxAge := maxAge : WriteOptions }.asAbi (r.execute maxAge) := by
  simp only [execute, resetExisting_eq, bind_assoc, pure_bind]
  refine makes_after (exists_run_letGo _) fun _ => Makes.bind ?_ _
  exact makes_cacheTry (asks_host rfl)

end Core

/-! ## The simple cache -/

namespace Simple

open ComputeSdk.Core

variable {Q : CacheWriteOptions → Prop}

theorem writes_toStreamFromRange (found : Found) (first last : Option UInt64) :
    Writes Q (found.toStreamFromRange first last) := by
  unfold Found.toStreamFromRange
  split
  · exact writes_pure _
  · cases found <;> refine writes_bind (writes_host_none rfl) fun status => ?_
    all_goals
      cases status with
      | error status => exact writes_pure _
      | ok bodyHandle =>
          exact writes_bind (writes_bind (writes_host_none rfl) fun _ => writes_pure _) fun _ =>
            writes_bind (writes_ofExcept _) fun _ => writes_pure _

theorem writes_toStream (found : Found) : Writes Q found.toStream :=
  writes_toStreamFromRange found none none

/-- What is left of an operation once it has its result. -/
theorem writes_release (r : SharedPtr) (result : Except CacheError (Option Body)) :
    Writes Q (r.destroy >>= fun _ => pure result) :=
  writes_bind (writes_destroy r) fun _ => writes_pure result

theorem writes_readBack (found : Found) :
    Writes Q (Simple.readBack found fun result => do found.destroy; pure result) := by
  refine writes_bind (writes_toStream found) fun streamResult => ?_
  cases streamResult with
  | error err => exact writes_release found.ptr _
  | ok stream => exact writes_bind (writes_ofExcept _) fun _ => writes_release found.ptr _

theorem writes_getState (tx : Transaction) : Writes Q tx.getState := by
  refine writes_bind (writes_host_none rfl) fun answer => ?_
  cases answer with
  | error status => exact fun _ => trivial
  | ok state => exact writes_pure _

theorem writes_readFound (lookupTx : Transaction) : Writes Q (readFound lookupTx) := by
  refine writes_bind (writes_bind (writes_getState _) fun state => ?_) fun found => ?_
  · split
    · exact writes_bind (writes_copy _) fun _ => writes_pure _
    · exact writes_pure _
  · cases found with
    | none => exact writes_pure _
    | some found =>
        exact writes_readBack found

theorem writes_fillAndReadBack (entry : CacheEntry) (insertBody : HostedStream)
    (found : Found) : Writes Q (fillAndReadBack entry insertBody found) := by
  refine writes_bind (writes_ofExcept _) fun insertBody => ?_
  refine writes_bind (writes_ofExcept _) fun value => ?_
  refine writes_bind (writes_bind (writes_ofExcept _) fun _ => writes_host_none rfl)
    fun answer => ?_
  cases answer with
  | error err => exact writes_release found.ptr _
  | ok _ =>
      exact writes_readBack found

theorem moves_add (m n : ℕ) (b : Body) : b.moves (m + n) = b.moves m >>= Body.moves n := by
  induction m generalizing b with
  | zero => rw [Nat.zero_add]; rfl
  | succ m ih =>
      rw [Nat.succ_add, Body.moves, Body.moves]
      cases b.move with
      | error e => rfl
      | ok c => exact ih c

/-- The entry of `get_or_set` takes three more moves. -/
theorem providing_eq (val : Body) (ttl : Int64) :
    providing val ttl = (val.moves 3).map fun v => some ⟨v, ttl⟩ := by
  rw [show 3 = 1 + 2 from rfl, moves_add]
  unfold providing CacheEntry.make CacheEntry.move
  cases val.moves 1 with
  | error e => rfl
  | ok v =>
      change _ = (v.moves (1 + 1)).map _
      rw [moves_add]
      cases hv : v.moves 1 with
      | error e => simp only [bind, Except.bind, hv, Except.map]
      | ok w =>
          simp only [bind, Except.bind, hv, Except.map]
          cases w.moves 1 <;> rfl

end Simple

/-! ## All writes -/

open ComputeSdk.Core Simple

/-- The calls of the interface that may write to the cache. -/
inductive CacheWrite where
  | insert (b : InsertBuilder)
  | transactionInsert (b : TransactionInsertBuilder)
  | transactionInsertAndStreamBack (b : TransactionInsertBuilder)
  | transactionUpdate (b : TransactionUpdateBuilder)
  | replace (maxAge : Int64) (r : Replace)
  | getOrSetWith (platform : Platform) (key : List UInt8) (makeEntry : Closure)
  | getOrSet (platform : Platform) (key : List UInt8) (value : Body) (ttl : Int64)
  | getOrSetView (platform : Platform) (key : List UInt8) (value : Body) (ttl : Int64)

namespace CacheWrite

def start : CacheWrite → Guest Unit
  | insert b => discard b.execute
  | transactionInsert b => discard b.execute
  | transactionInsertAndStreamBack b => discard b.executeAndStreamBack
  | transactionUpdate b => discard b.execute
  | replace maxAge r => discard (r.execute maxAge)
  | getOrSetWith platform key makeEntry => discard (Simple.getOrSetWith platform key makeEntry)
  | getOrSet platform key value ttl => discard (Simple.getOrSet platform key value ttl)
  | getOrSetView platform key value ttl =>
    discard (Simple.StringView.getOrSet platform key value ttl)

/-- The options that are given for the write. A closure gives them if it makes an entry, and
`get_or_set` if the moves of the value do not abort first. -/
def given : CacheWrite → Option WriteOptions
  | insert b => some b.options
  | transactionInsert b => some b.options
  | transactionInsertAndStreamBack b => some b.options
  | transactionUpdate b => some b.options
  | replace maxAge r => some { r.options with maxAge := maxAge }
  | getOrSetWith _ _ (.ok (some entry)) => some { maxAge := entry.ttl }
  | getOrSetWith _ _ _ => none
  | getOrSet _ _ value ttl => (value.moves 4).toOption.map fun _ => { maxAge := ttl }
  | getOrSetView _ _ value ttl => (value.moves 5).toOption.map fun _ => { maxAge := ttl }

end CacheWrite

namespace CacheWrite

end CacheWrite

end ComputeSdk
