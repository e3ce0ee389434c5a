import ComputeSdk.Verification.Cache.Region
import ComputeSdk.Verification.Cache.Rules
import ComputeSdk.Verification.Cache.SurrogateKeys

/-! # Request collapsing

Clients that call `get_or_set_with` on one key, in any interleaving of their calls. -/

namespace ComputeSdk

open Shared Guest ComputeSdk.Core

namespace Session

/-- A result that is an invalid operation comes from a status that says so. -/
def Explains (s : Session) (r : Except Simple.CacheError (Option Body)) : Prop :=
  r = .error .invalidOperation → .badHandle ∈ s.failed

theorem explains_status (s : Session) (status : Status) :
    (s.fail status).Explains (.error (Simple.fromCoreError (fromStatus status))) := by
  intro h
  have hstatus : status = .badHandle := by
    revert h
    cases status <;> simp [fromStatus, Simple.fromCoreError]
  rw [hstatus]
  exact List.mem_cons_self

/-- The call is past its lookup, and the transaction is the only owner of the handle. -/
structure Owns (s : Session) (tx : Transaction) (H : RefHeap HandleObject) : Prop where
  holds : H.Holds tx.handle 1
  handle : tx.handle.val.handle = s.handle
  stage : s.stage = .opened ∨ s.stage = .ran ∨ s.stage = .inserted

end Session

variable {key : List UInt8} {H : RefHeap HandleObject} {s : Session} {tx : Transaction}

theorem follows_getState {post : UInt32 → RefHeap HandleObject → Session → Prop}
    (hopened : s.stage = .opened) (hhandle : tx.handle.val.handle = s.handle)
    (h : post s.state H s) :
    Follows (Session.protocol key) (fun _ => True) post tx.getState H s := by
  refine follows_bind (follows_host ⟨hopened, hhandle⟩ ?_)
  rintro a t ⟨rfl, rfl⟩
  exact follows_pure h

/-- Reading the item back, or why that failed. -/
theorem follows_toStream (r : SharedPtr)
    {post : Except CacheError Body → RefHeap HandleObject → Session → Prop}
    (hok : ∀ body, post (.ok body) H s)
    (herror : ∀ status, post (.error (fromStatus status)) H (s.fail status)) :
    Follows (Session.protocol key) (fun _ => True) post (Found.cache r).toStream H s := by
  refine follows_bind (follows_host (c := .cacheGetBody _ _ _) trivial fun a t hmove => ?_)
  cases a with
  | error status =>
      obtain rfl : t = s.fail status := hmove
      exact follows_pure (herror status)
  | ok bodyHandle =>
      obtain rfl : t = s := hmove
      refine follows_bind (follows_bind (follows_host trivial fun bod t hmove => ?_))
      obtain rfl : t = _ := hmove
      exact follows_pure (follows_bind (follows_ofExcept (fun body _ => follows_pure (hok body))
        fun _ _ => trivial))

/-- What is left after the item was read back, or not. -/
theorem follows_readBack (r : SharedPtr)
    {post : Except Simple.CacheError (Option Body) → RefHeap HandleObject → Session → Prop}
    {k : Except Simple.CacheError (Option Body) → Guest (Except Simple.CacheError (Option Body))}
    (h : ∀ result t, t.stage = s.stage → t.handle = s.handle → t.state = s.state →
      t.back = s.back → t.Explains result →
      Follows (Session.protocol key) (fun _ => True) post (k result) H t) :
    Follows (Session.protocol key) (fun _ => True) post (Simple.readBack (.cache r) k) H s := by
  refine follows_bind (follows_toStream r (fun body => ?_) fun status => ?_)
  · refine follows_bind (follows_ofExcept (fun body _ => follows_bind (follows_pure ?_))
      fun _ _ => trivial)
    exact h (.ok (some body)) s rfl rfl rfl rfl (by simp [Session.Explains])
  · exact follows_bind (follows_pure (h _ (s.fail status) rfl rfl rfl rfl
      (s.explains_status status)))

theorem follows_readFound (howns : s.Owns tx H) (hopened : s.stage = .opened)
    (hfound : s.state &&& CacheLookupState.found ≠ 0) :
    Follows (Session.protocol key) (fun _ => True)
      (fun result H t => t.Owns tx H ∧ t.Explains result) (Simple.readFound tx) H s := by
  refine follows_bind (follows_bind (follows_getState hopened howns.handle ?_))
  rw [if_pos hfound]
  refine follows_bind (follows_copy howns.holds fun H' hheld => follows_pure ?_)
  refine follows_readBack tx.handle fun result t hstage hhandle _ _ hexplains => ?_
  refine follows_bind (follows_destroy hheld fun H'' hheld _ => follows_pure ⟨⟨hheld, ?_, ?_⟩, ?_⟩)
  · rw [howns.handle, hhandle]
  · rw [hstage]
    exact .inl hopened
  · exact hexplains

theorem follows_fillAndReadBack (entry : Simple.CacheEntry) (insertBody : HostedStream)
    {r : SharedPtr} (howns : s.Owns tx H) (hholds : H.Holds r 1) (hcell : tx.handle.cell ≠ r.cell)
    (hinserted : s.stage = .inserted) (hback : r.val.handle = s.back) (hne : s.back ≠ s.handle) :
    Follows (Session.protocol key) (fun _ => True)
      (fun result H t => t.Owns tx H ∧ t.Explains result)
      (Simple.fillAndReadBack entry insertBody (.cache r)) H s := by
  -- the end of the handle to read back from, whatever the result is
  have hclose : ∀ result t, t.stage = s.stage → t.handle = s.handle → t.back = s.back →
      t.Explains result →
      Follows (Session.protocol key) (fun _ => True)
        (fun result H t => t.Owns tx H ∧ t.Explains result)
        (do (Found.cache r).destroy; pure result) H t := by
    intro result t hstage hhandle hback' hexplains
    refine follows_bind (follows_destroy_last hholds
      (.inr ⟨hstage.trans hinserted, hback.trans hback'.symm⟩) fun H' a t' hothers hmove => ?_)
    have ht' : t' = t := by
      refine Eq.trans hmove (if_neg ?_)
      change r.val.handle ≠ t.handle
      rw [hback, hhandle]
      exact hne
    subst ht'
    refine follows_pure ⟨⟨hothers _ _ hcell howns.holds, ?_, ?_⟩, hexplains⟩
    · rw [howns.handle, hhandle]
    · exact .inr (.inr (hstage.trans hinserted))
  refine follows_bind (follows_ofExcept (fun insertBody _ => ?_) fun _ _ => trivial)
  refine follows_bind (follows_ofExcept (fun value _ => ?_) fun _ _ => trivial)
  refine follows_bind (follows_bind (follows_ofExcept (fun flushed _ => ?_) fun _ _ => trivial))
  refine follows_host (c := .streamingBodyFinish _ _) trivial fun a t hmove => ?_
  obtain rfl : t = s := hmove
  cases a with
  | error e =>
      exact follows_bind (follows_pure (hclose _ t rfl rfl rfl (by simp [Session.Explains])))
  | ok u =>
      exact follows_readBack r fun result t' hstage hhandle _ hback' hexplains =>
        hclose result t' hstage hhandle hback' hexplains

/-- An insert that is accepted comes with a new handle to read back from. -/
theorem follows_executeAndStreamBack {b : TransactionInsertBuilder} {n : ℕ}
    {post : Except CacheError (HostedStream × Found) → RefHeap HandleObject → Session → Prop}
    (hran : s.stage = .ran) (hhandle : b.handle.val.handle = s.handle) (hheld : H.Holds b.handle n)
    (herror : ∀ status, post (.error (fromStatus status)) H (s.fail status))
    (hok : ∀ body r H', H'.Holds b.handle n → H'.Holds r 1 → b.handle.cell ≠ r.cell →
      r.val.handle ≠ s.handle →
      post (.ok (body, .cache r)) H' { s with stage := .inserted, back := r.val.handle }) :
    Follows (Session.protocol key) (fun _ => True) post b.executeAndStreamBack H s := by
  refine follows_cacheTry (follows_host (c := .cacheTransactionInsertAndStreamBack _ _ _)
    ⟨hran, hhandle⟩ fun a t hmove => ?_)
  cases a with
  | error status =>
      obtain rfl : t = s.fail status := hmove
      exact herror status
  | ok p =>
      obtain ⟨hne, rfl⟩ := hmove
      refine follows_bind (follows_bind (follows_host trivial fun bod t hmove => ?_))
      obtain rfl : t = _ := hmove
      refine follows_pure (follows_bind (follows_make fun r H' hval hheld' hothers => ?_))
      refine follows_bind (follows_ofExcept (fun body _ => follows_pure ?_) fun _ _ => trivial)
      obtain ⟨hheld, hcell⟩ := hothers _ _ hheld
      have hback : r.val.handle = p.2 := by rw [hval]
      rw [← hback] at hne ⊢
      exact hok body r H' hheld hheld' hcell hne

theorem follows_insertEntry (platform : Platform) (makeEntry : Simple.Closure)
    (howns : s.Owns tx H) (hopened : s.stage = .opened) (hobliges : Region.Obliges s.state) :
    Follows (Session.protocol key) (fun _ => True)
      (fun result H t => t.Owns tx H ∧ t.Explains result)
      (Simple.insertEntry platform key makeEntry tx) H s := by
  refine follows_bind (follows_bind (follows_host ⟨hopened, hobliges⟩ fun a t hmove => ?_))
  obtain rfl : t = _ := hmove
  refine follows_bind (follows_ofExcept (fun entry _ => ?_) fun _ _ => trivial)
  refine follows_bind (follows_host rfl fun a t hmove => ?_)
  obtain rfl : t = _ := hmove
  refine follows_pure ?_
  cases entry with
  | none =>
      exact follows_pure ⟨⟨howns.holds, howns.handle, .inr (.inl rfl)⟩, by simp [Session.Explains]⟩
  | some entry =>
      refine follows_bind (follows_bind (follows_copy howns.holds fun H₁ hheld =>
        follows_pure ?_))
      refine follows_bind (follows_executeAndStreamBack rfl howns.handle hheld
        (fun status => ?_) fun body r H₂ hheld hread hcell hne => ?_)
      · refine follows_bind (follows_destroy hheld fun H₂ hheld _ => follows_pure ?_)
        exact ⟨⟨hheld, howns.handle, .inr (.inl rfl)⟩, Session.explains_status _ _⟩
      · refine follows_bind (follows_destroy hheld fun H₃ hheld hothers => ?_)
        exact follows_fillAndReadBack entry body ⟨hheld, howns.handle, .inr (.inr rfl)⟩
          (hothers r 1 hcell.symm hread) hcell rfl rfl hne

/-- A client that has called `get_or_set_with` follows the protocol. When the call returns,
its handle is closed. -/
theorem follows_getOrSetWith (platform : Platform) (key : List UInt8)
    (makeEntry : Simple.Closure) (H : RefHeap HandleObject) :
    Follows (Session.protocol key) (fun _ => True)
      (fun result _ t => (t.stage = .new ∨ t.stage = .closed) ∧ t.Explains result)
      (Simple.getOrSetWith platform key makeEntry) H {} := by
  refine follows_bind (follows_cacheTry (follows_host (c := .cacheTransactionLookup _ _ _)
    ⟨rfl, rfl⟩ fun a t hmove => ?_))
  cases a with
  | error status =>
      obtain rfl : t = _ := hmove
      exact follows_pure ⟨.inl rfl, Session.explains_status _ status⟩
  | ok h =>
      obtain ⟨state, hstate, rfl⟩ := hmove
      refine follows_cacheTry (follows_host (c := .cacheGetState _) ⟨rfl, rfl⟩ ?_)
      rintro a t ⟨rfl, rfl⟩
      refine follows_bind (follows_make fun r H' hval hheld _ => follows_pure ?_)
      have howns : Session.Owns ⟨.opened, h, state, 0, []⟩ ⟨r⟩ H' :=
        ⟨hheld, by rw [hval], .inl rfl⟩
      -- the end of the transaction, whatever the result is
      have hclose : ∀ (x : Guest (Except Simple.CacheError (Option Body))),
          Follows (Session.protocol key) (fun _ => True)
            (fun result H t => t.Owns ⟨r⟩ H ∧ t.Explains result) x H'
            ⟨.opened, h, state, 0, []⟩ →
          Follows (Session.protocol key) (fun _ => True)
            (fun result _ t => (t.stage = .new ∨ t.stage = .closed) ∧ t.Explains result)
            (do let result ← x; Transaction.destroy ⟨r⟩; pure result) H'
            ⟨.opened, h, state, 0, []⟩ := by
        intro x hx
        refine follows_bind (hx.mono fun result H₁ t hresult => ?_)
        obtain ⟨howns, hexplains⟩ := hresult
        refine follows_bind (follows_destroy_last howns.holds (.inl ⟨howns.stage, howns.handle⟩)
          fun H₂ a t' _ hmove => ?_)
        obtain rfl : t' = _ := hmove
        rw [howns.handle, if_pos rfl]
        exact follows_pure ⟨.inr rfl, hexplains⟩
      refine follows_bind (follows_bind (follows_getState rfl howns.handle (follows_pure ?_)))
      dsimp only
      split
      · rename_i hmust
        exact hclose _ (follows_insertEntry platform makeEntry howns rfl
          (by simpa [Region.Obliges] using hmust))
      · rename_i hnot
        have hhit : Region.Hit state :=
          hstate.resolve_right fun hobliges => hnot (by simpa [Region.Obliges] using hobliges)
        exact hclose _ (follows_readFound howns rfl hhit.1)

/-! ## All clients -/

section

variable {ι : Type} [DecidableEq ι]

/-- The calls of `get_or_set_with` on one key that are under way, and the host. -/
abbrev GetOrSetPool (ι : Type) :=
  Pool HostCall.Answer Abort (Except Simple.CacheError (Option Body) × RefHeap HandleObject) ι
    (Region ι)

/-- Before the first call, whatever is stored. -/
def GetOrSetPool.start (platform : Platform) (key : List UInt8) (makeEntry : ι → Simple.Closure)
    (heap : ι → RefHeap HandleObject) (stored : Stored) : GetOrSetPool ι :=
  ⟨fun i => (Simple.getOrSetWith platform key (makeEntry i)).run (heap i), { stored := stored }⟩

/-- The calls are collapsed: a closure runs only under the obligation, so alone and not
beside a fresh item, and once in a call. A call that has returned has no obligation; if it
says that the operation is invalid, the host had said so. -/
structure GetOrSetPool.Collapsed (p : GetOrSetPool ι) : Prop where
  obliged : ∀ i, p.env.running i = true → ∃ h, p.env.holder = some (i, h)
  alone : ∀ i j, p.env.running i = true → p.env.running j = true → i = j
  notFresh : ∀ i, p.env.running i = true → p.env.stored ≠ .fresh
  once : ∀ i, p.env.runs i ≤ 1
  explained : ∀ i H, p.prog i = .ret (.error .invalidOperation, H) → .badHandle ∈ p.env.failed i
  released : ∀ i result H, p.prog i = .ret (result, H) → ∀ h, p.env.holder ≠ some (i, h)

/-- In every interleaving of any number of clients the calls stay collapsed. -/
theorem collapsed_of_reachable (platform : Platform) (key : List UInt8)
    (makeEntry : ι → Simple.Closure) (heap : ι → RefHeap HandleObject) (stored : Stored)
    {p : GetOrSetPool ι}
    (hreach : Pool.Reachable (Region.Answers key) Region.Drift
      (GetOrSetPool.start platform key makeEntry heap stored) p) :
    GetOrSetPool.Collapsed p := by
  have hanswer : ∀ (e : Region ι) (s : ι → Session) i c a e', (∀ j, e.Agrees j (s j)) →
      (s i).Permits key c → e.Answers key i c a e' →
      ∃ t, (s i).Moves c a t ∧ ∀ j, e'.Agrees j (if j = i then t else s j) := by
    intro e s i c a e' hagree hpermits hanswer
    obtain ⟨t, hmove, ht⟩ := (hagree i).answer hpermits hanswer
    refine ⟨t, hmove, fun j => ?_⟩
    by_cases hj : j = i
    · subst hj
      rwa [if_pos rfl]
    · rw [if_neg hj]
      exact (hagree j).frame (.answer (hagree i) hpermits hanswer hj)
  obtain ⟨s, hagree, hfollows⟩ := hreach.follows (Session.protocol key) (fun _ => True)
    (fun (r : Except Simple.CacheError (Option Body) × RefHeap HandleObject) t =>
      (t.stage = .new ∨ t.stage = .closed) ∧ t.Explains r.1)
    (fun e s => ∀ i, e.Agrees i (s i)) hanswer
    (fun e s e' hagree hdrift j => (hagree j).frame (.drift hdrift j)) (fun _ => {})
    (Region.agrees_start stored)
    (fun i => follows_getOrSetWith platform key (makeEntry i) (heap i))
  have hobliged : ∀ i, p.env.running i = true → p.env.Obliged i (s i).handle :=
    fun i hi => (hagree i).obliged (.inr (.inl ((hagree i).running.mp hi)))
  refine ⟨fun i hi => ⟨_, (hobliged i hi).holder⟩, fun i j hi hj => ?_,
    fun i hi => (hobliged i hi).stored, fun i => (hagree i).runs, fun i H hret => ?_,
    fun i result H hret => ?_⟩
  · have hsame := (hobliged i hi).holder.symm.trans (hobliged j hj).holder
    exact (Prod.mk.inj (Option.some.inj hsame)).1
  · have hdone := hfollows i
    rw [hret] at hdone
    rw [(hagree i).failed]
    exact hdone.2 rfl
  · have hdone := hfollows i
    rw [hret] at hdone
    exact (hagree i).free hdone.1

end

/-- The first of two clients comes to run its closure. -/
theorem collapsed_first_closure :
    ∃ p : GetOrSetPool Bool, Pool.Reachable (Region.Answers [97]) Region.Drift
      (GetOrSetPool.start localPlatform [97] (fun _ : Bool => .ok none) (fun _ => .empty) .absent)
        p ∧ p.env.running true = true ∧ p.Collapsed := by
  let region : Region Bool := .oblige { stored := .absent } true 8
  have hlookup : ∀ mask options, Region.Answers [97] { stored := .absent } true
      (.cacheTransactionLookup [97] mask options) (.ok 0) region :=
    fun _ _ => ⟨rfl, rfl, rfl, 8, .inr ⟨by decide, by decide, rfl⟩⟩
  have hstate : region.Answers [97] true (.cacheGetState 0) (.ok 8) region := ⟨rfl, rfl⟩
  have hbegin : region.Answers [97] true .closureBegin () (region.beginClosure true) := rfl
  have hreach : Pool.Reachable (Region.Answers [97]) Region.Drift
      (GetOrSetPool.start localPlatform [97] (fun _ : Bool => .ok none) (fun _ => .empty) .absent)
      _ := ((((Pool.Reachable.start.step (.call rfl (hlookup _ _))).step (.call rfl hstate)).step
    (.call rfl hstate)).step (.call rfl hbegin))
  exact ⟨_, hreach, rfl, collapsed_of_reachable localPlatform [97] (fun _ => .ok none)
    (fun _ => .empty) .absent hreach⟩

end ComputeSdk
