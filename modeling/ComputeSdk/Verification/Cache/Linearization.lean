import ComputeSdk.Verification.Cache.Callers
import ComputeSdk.Verification.Cache.FirstWrite

/-! # The simple cache is linearizable

However the calls of many clients overlap, what they return is what a map returns to them one
after the other. -/

namespace ComputeSdk

open Shared Guest ComputeSdk.Core

/-- What a call returns, unless the host refused it. -/
def answered (result : Except Simple.CacheError (Option Body)) :
    Option (Except Simple.CacheError (Option (List UInt8))) :=
  match SimpleState.contents result with
  | .ok r => some (.ok r)
  | .error .getOrSet => some (.error .getOrSet)
  | .error _ => none

theorem answered_status (err : Core.CacheError) :
    answered (.error (Simple.fromCoreError err)) = none := by
  cases err <;> rfl

namespace Caller

/-- What the call returned is the outcome of the operation. A body is all at the host. -/
structure Explains (s : Caller) (result : Except Simple.CacheError (Option Body)) : Prop where
  took : ∀ r, answered result = some r → s.took = some (r, s.runs)
  settled : ∀ body, result = .ok (some body) → body.pending = []

theorem explains_error (s : Caller) (err : Core.CacheError) :
    s.Explains (.error (Simple.fromCoreError err)) where
  took r hr := by
    rw [answered_status] at hr
    cases hr
  settled _ h := by cases h

theorem explains_take {result : Except Simple.CacheError (Option Body)}
    {r : Except Simple.CacheError (Option (List UInt8))} (h : answered result = some r)
    (hsettled : ∀ body, result = .ok (some body) → body.pending = []) (s : Caller) :
    (s.take r).Explains result where
  took r' hr := by
    rw [h] at hr
    obtain rfl := Option.some.inj hr
    rfl
  settled := hsettled

theorem Explains.close {s : Caller} {result : Except Simple.CacheError (Option Body)}
    (h : s.Explains result) :
    ({ s with phase := .settled, handle := none } : Caller).Explains result :=
  ⟨h.took, h.settled⟩

/-- The client may close its handles. -/
def Closable (s : Caller) : Prop := s.phase ≠ .new ∧ s.phase ≠ .running

theorem closable_take (s : Caller) (r : Except Simple.CacheError (Option (List UInt8))) :
    (s.take r).Closable := ⟨nofun, nofun⟩

/-- The client after an item was read, or not. -/
inductive Reads (s : Caller) : Except Simple.CacheError (Option Body) → Caller → Prop where
  | refused (err : Core.CacheError) : Reads s (.error (Simple.fromCoreError err)) s
  | body (body : Body) (h : body.pending = []) :
      Reads s (.ok (some body)) (s.take (.ok (some body.bod.content)))

theorem Reads.explains {s t : Caller} {result : Except Simple.CacheError (Option Body)}
    (h : s.Reads result t) : t.Explains result := by
  cases h with
  | refused err => exact explains_error s err
  | body body h =>
      refine explains_take rfl (fun body' hbody => ?_) s
      obtain rfl := Option.some.inj (Except.ok.inj hbody)
      exact h

theorem Reads.closable {s t : Caller} {result : Except Simple.CacheError (Option Body)}
    (h : s.Reads result t) (hs : s.Closable) : t.Closable := by
  cases h with
  | refused err => exact hs
  | body body h => exact closable_take s _

/-- The computation follows the protocol, and ends with what meets `post`. -/
abbrev Obeys {α : Type} (post : α → RefHeap HandleObject → Caller → Prop) (x : Guest α)
    (H : RefHeap HandleObject) (s : Caller) : Prop :=
  Follows protocol (fun _ => True) post x H s

end Caller

namespace Caller

variable {H : RefHeap HandleObject} {s : Caller} {tx : Transaction}

/-! ## Reading -/

theorem obeys_ofExcept {α : Type} {post : α → RefHeap HandleObject → Caller → Prop}
    {x : Except Abort α} {a : α} (hx : x = .ok a) (h : post a H s) :
    Obeys post (ofExcept x) H s := by
  subst hx
  exact h

/-- What is left after an item was read, or not. -/
theorem obeys_readBack (r : SharedPtr)
    (hs : s.phase = .looked ∨ ∃ bytes, s.took = some (.ok (some bytes), s.runs))
    {post : Except Simple.CacheError (Option Body) → RefHeap HandleObject → Caller → Prop}
    {k : Except Simple.CacheError (Option Body) → Guest (Except Simple.CacheError (Option Body))}
    (h : ∀ result t, s.Reads result t → Obeys post (k result) H t) :
    Obeys post (Simple.readBack (.cache r) k) H s := by
  refine follows_bind (follows_bind (follows_host (c := .cacheGetBody _ _ _) rfl
    fun a t hmove => ?_))
  obtain rfl : t = s := by cases a <;> exact hmove
  cases a with
  | error status =>
      exact follows_pure (follows_bind (follows_pure (h _ t (.refused _))))
  | ok bodyHandle =>
      refine follows_bind (follows_bind (follows_host hs fun bod t hmove => ?_))
      obtain rfl : t = _ := hmove
      obtain ⟨b, hmoves, hbod, hpending⟩ := Body.moves_of_pending_nil (b := Body.ofBox bod) rfl 1
      obtain ⟨b', hmoves', hbod', hpending'⟩ := Body.moves_of_pending_nil hpending 2
      refine follows_pure (follows_bind (obeys_ofExcept hmoves (follows_pure ?_)))
      refine follows_bind (obeys_ofExcept hmoves' (follows_bind (follows_pure ?_)))
      have hcontent : b'.bod.content = bod.content := by
        rw [hbod', hbod]
        rfl
      exact h _ _ (hcontent ▸ .body b' hpending')

/-- The transaction is the only owner of the handle of the lookup. -/
structure Owns (s : Caller) (tx : Transaction) (H : RefHeap HandleObject) : Prop where
  holds : H.Holds tx.handle 1
  handle : s.handle = some tx.handle.val.handle

theorem obeys_getState (howns : s.Owns tx H)
    {post : UInt32 → RefHeap HandleObject → Caller → Prop} (h : post s.state H s) :
    Obeys post tx.getState H s := by
  refine follows_bind (follows_host howns.handle fun a t hmove => ?_)
  cases a with
  | error status =>
      obtain rfl : t = s := hmove
      trivial
  | ok state =>
      obtain ⟨rfl, rfl⟩ := hmove
      exact follows_pure h

/-- How the rest of `get_or_set_with` leaves the transaction. -/
def Ready (tx : Transaction) (result : Except Simple.CacheError (Option Body))
    (H : RefHeap HandleObject) (t : Caller) : Prop :=
  H.Holds tx.handle 1 ∧ t.Closable ∧ t.Explains result

theorem obeys_readFound (howns : s.Owns tx H) (hlooked : s.phase = .looked)
    (hfound : s.state &&& CacheLookupState.found ≠ 0) :
    Obeys (Ready tx) (Simple.readFound tx) H s := by
  refine follows_bind (follows_bind (obeys_getState howns ?_))
  rw [if_pos hfound]
  refine follows_bind (follows_copy howns.holds fun H' hheld => follows_pure ?_)
  refine obeys_readBack tx.handle (.inl hlooked) fun result t hreads => ?_
  refine follows_bind (follows_destroy hheld fun H'' hheld _ => follows_pure ⟨hheld, ?_, ?_⟩)
  · exact hreads.closable ⟨by simp [hlooked], by simp [hlooked]⟩
  · exact hreads.explains

theorem obeys_get {key : List UInt8} (hnew : s.phase = .new) (hkey : key = s.op.key)
    (hget : s.op.sets = false) :
    Obeys (fun result _ t => t.Explains result) (Simple.get key) H s := by
  refine follows_bind (follows_cacheTry (follows_host (c := .cacheLookup _ _ _)
    ⟨hnew, hkey, hget⟩ fun a t hmove => ?_))
  cases a with
  | error status => exact follows_pure (explains_error t _)
  | ok h =>
      obtain ⟨state, ht⟩ := hmove
      have hhandle : t.handle = some h := by rw [ht]; split <;> rfl
      have hstate : t.state = state := by rw [ht]; split <;> rfl
      have getState : ∀ {post : Except Core.CacheError (Option Found) → RefHeap HandleObject →
          Caller → Prop} {next : UInt32 → Guest (Except Core.CacheError (Option Found))},
          (∀ err, post (.error err) H t) → Obeys post (next state) H t →
          Obeys post (cacheTry (host (.cacheGetState h)) next) H t := by
        intro post next herror hnext
        refine follows_cacheTry (follows_host (c := .cacheGetState h) hhandle fun a u hmove => ?_)
        cases a with
        | error status =>
            obtain rfl : u = t := hmove
            exact herror _
        | ok state' =>
            obtain ⟨rfl, rfl⟩ := hmove
            rwa [hstate]
      refine getState (fun err => follows_pure (explains_error t _)) ?_
      refine getState (fun err => follows_pure (explains_error t _)) ?_
      by_cases hfound : state &&& CacheLookupState.found ≠ 0
      · rw [if_pos hfound] at ht ⊢
        subst ht
        refine follows_bind (follows_make fun r H₁ hval hheld _ => follows_pure ?_)
        refine follows_bind (follows_copy hheld fun H₂ hheld => ?_)
        refine obeys_readBack r (.inl rfl) fun result t hreads => ?_
        refine follows_bind (follows_destroy hheld fun H₃ hheld _ => ?_)
        refine follows_bind (follows_destroy_last hheld
          (hreads.closable ⟨nofun, nofun⟩) fun H₄ a u _ hmove => ?_)
        obtain rfl : u = _ := hmove
        exact follows_pure hreads.explains.close
      · rw [if_neg hfound] at ht ⊢
        subst ht
        exact follows_pure (follows_pure (explains_take rfl (by simp) _))

/-! ## Inserting -/

theorem obeys_fillAndReadBack {entry : Simple.CacheEntry} {insertBody : HostedStream}
    {r p : SharedPtr} (hentry : entry.value.bod.writes.Accepting)
    (hempty : insertBody.bod.content = []) (hpending : insertBody.pending = [])
    (hinserted : s.phase = .inserted) (hoffer : s.op.offer = some (Storage.entryBytes entry))
    (hholds : H.Holds r 1) (hheld : H.Holds p 1) (hcell : p.cell ≠ r.cell) :
    Obeys (fun result H t => H.Holds p 1 ∧ t.Closable ∧ t.Explains result)
      (Simple.fillAndReadBack entry insertBody (.cache r)) H s := by
  obtain ⟨body, hmoves, hbod, hpending, -⟩ := HostedStream.moves_of_pending_nil hpending 1
  obtain ⟨value, hvalue, hcontent, -, -⟩ := Body.moves_content hentry 0
  obtain ⟨full, hflush, hfull, -⟩ :=
    HostedStream.flush_of_pending_nil (s := body.append value) hpending
  have hbytes : full.bod.content = Storage.entryBytes entry := by
    rw [hfull]
    change body.bod.content ++ value.bod.content = _
    rw [hbod, hempty, hcontent]
    rfl
  -- the end of the handle to read back from, whatever the result is
  have hclose : ∀ result t, t.Closable → t.Explains result →
      Obeys (fun result H t => H.Holds p 1 ∧ t.Closable ∧ t.Explains result)
        (do (Found.cache r).destroy; pure result) H t := by
    intro result t hclosable hexplains
    refine follows_bind (follows_destroy_last hholds hclosable fun H' a t' hothers hmove => ?_)
    obtain rfl : t' = _ := hmove
    exact follows_pure ⟨hothers _ _ hcell hheld, ⟨nofun, nofun⟩, hexplains.close⟩
  refine follows_bind (obeys_ofExcept hmoves ?_)
  refine follows_bind (obeys_ofExcept hvalue ?_)
  refine follows_bind (follows_bind (obeys_ofExcept hflush ?_))
  refine follows_host (c := .streamingBodyFinish _ _) ⟨hinserted, hbytes ▸ hoffer⟩
    fun a t hmove => ?_
  cases a with
  | error e =>
      obtain rfl : t = s := hmove
      exact follows_bind (follows_pure (hclose _ t ⟨by simp [hinserted], by simp [hinserted]⟩
        ⟨nofun, nofun⟩))
  | ok u =>
      obtain rfl : t = _ := hmove
      exact obeys_readBack r (.inr ⟨_, rfl⟩) fun result t hreads =>
        hclose result t (hreads.closable (closable_take s _)) hreads.explains

theorem obeys_executeAndStreamBack {b : TransactionInsertBuilder} {n : ℕ}
    {post : Except CacheError (HostedStream × Found) → RefHeap HandleObject → Caller → Prop}
    (hran : s.phase = .ran) (hheld : H.Holds b.handle n) (herror : ∀ err, post (.error err) H s)
    (hok : ∀ body r H', H'.Holds b.handle n → H'.Holds r 1 → b.handle.cell ≠ r.cell →
      body.bod.content = [] → body.pending = [] →
      post (.ok (body, .cache r)) H' { s with phase := .inserted }) :
    Obeys post b.executeAndStreamBack H s := by
  refine follows_cacheTry (follows_host (c := .cacheTransactionInsertAndStreamBack _ _ _) hran
    fun a t hmove => ?_)
  cases a with
  | error status =>
      obtain rfl : t = s := hmove
      exact herror _
  | ok p =>
      obtain rfl : t = _ := hmove
      refine follows_bind (follows_bind (follows_host trivial fun bod t hmove => ?_))
      obtain ⟨hempty, rfl⟩ := hmove
      refine follows_pure (follows_bind (follows_make fun r H' hval hread hothers => ?_))
      obtain ⟨hheld, hcell⟩ := hothers _ _ hheld
      obtain ⟨body, hmoves, hbod, hpending, -⟩ := HostedStream.moves_of_pending_nil
        (s := ⟨.ofBox bod, p.1⟩) rfl 2
      refine follows_bind (obeys_ofExcept hmoves (follows_pure ?_))
      refine hok body r H' hheld hread hcell ?_ hpending
      rw [hbod]
      exact hempty

theorem obeys_insertEntry (platform : Platform) (key : List UInt8)
    {entry : Option Simple.CacheEntry}
    (hentry : ∀ e, entry = some e → e.value.bod.writes.Accepting) (hset : s.op.sets = true)
    (hoffer : s.op.offer = entry.map Storage.entryBytes) (howns : s.Owns tx H)
    (hlooked : s.phase = .looked) (hobliges : Region.Obliges s.state) :
    Obeys (Ready tx) (Simple.insertEntry platform key (.ok entry) tx) H s := by
  refine follows_bind (follows_bind (follows_host ⟨hlooked, hobliges, hset⟩ fun a t hmove => ?_))
  obtain rfl : t = _ := hmove
  refine follows_bind (obeys_ofExcept rfl ?_)
  refine follows_bind (follows_host ⟨rfl, hset⟩ fun a t hmove => follows_pure ?_)
  obtain rfl : t = _ := hmove
  cases entry with
  | none =>
      have hnone : s.op.offer.isSome = false := by rw [hoffer]; rfl
      simp only [hnone, Bool.false_eq_true, if_false]
      exact follows_pure ⟨howns.holds, closable_take _ _, explains_take rfl (by simp) _⟩
  | some e =>
      have hsome : s.op.offer.isSome = true := by rw [hoffer]; rfl
      simp only [hsome, if_true]
      refine follows_bind (follows_bind (follows_copy howns.holds fun H₁ hheld =>
        follows_pure ?_))
      refine follows_bind (obeys_executeAndStreamBack rfl hheld (fun err => ?_)
        fun body r H₂ hheld hread hcell hempty hpending => ?_)
      · refine follows_bind (follows_destroy hheld fun H₂ hheld _ => follows_pure ?_)
        exact ⟨hheld, ⟨nofun, nofun⟩, explains_error _ _⟩
      · refine follows_bind (follows_destroy hheld fun H₃ hheld hothers => ?_)
        exact obeys_fillAndReadBack (hentry e rfl) hempty hpending rfl hoffer
          (hothers r 1 hcell.symm hread) hheld hcell

theorem obeys_getOrSetWith (platform : Platform) {key : List UInt8}
    {entry : Option Simple.CacheEntry}
    (hentry : ∀ e, entry = some e → e.value.bod.writes.Accepting) (hnew : s.phase = .new)
    (hkey : key = s.op.key) (hset : s.op.sets = true)
    (hoffer : s.op.offer = entry.map Storage.entryBytes) :
    Obeys (fun result _ t => t.Explains result)
      (Simple.getOrSetWith platform key (.ok entry)) H s := by
  refine follows_bind (follows_cacheTry (follows_host (c := .cacheTransactionLookup _ _ _)
    ⟨hnew, hkey, hset⟩ fun a t hmove => ?_))
  cases a with
  | error status => exact follows_pure (explains_error t _)
  | ok h =>
      obtain ⟨state, hstate, rfl⟩ := hmove
      refine follows_cacheTry (follows_host (c := .cacheGetState _) rfl fun a t hmove => ?_)
      cases a with
      | error status => exact follows_pure (explains_error t _)
      | ok state' =>
          obtain ⟨-, rfl⟩ := hmove
          refine follows_bind (follows_make fun r H' hval hheld _ => follows_pure ?_)
          have howns : Owns (s.look h state) ⟨r⟩ H' := ⟨hheld, by rw [hval]; rfl⟩
          -- the end of the transaction, whatever the result is
          have hclose : ∀ (x : Guest (Except Simple.CacheError (Option Body))),
              Obeys (Ready ⟨r⟩) x H' (s.look h state) →
              Obeys (fun result _ t => t.Explains result)
                (do let result ← x; Transaction.destroy ⟨r⟩; pure result) H'
                (s.look h state) := by
            intro x hx
            refine follows_bind (hx.mono fun result H₁ t hready => ?_)
            refine follows_bind (follows_destroy_last hready.1 hready.2.1
              fun H₂ a t' _ hmove => ?_)
            obtain rfl : t' = _ := hmove
            exact follows_pure hready.2.2.close
          refine follows_bind (follows_bind (obeys_getState howns (follows_pure ?_)))
          dsimp only
          split
          · rename_i hmust
            exact hclose _ (obeys_insertEntry platform key hentry hset hoffer howns rfl
              (by simpa [Region.Obliges] using hmust))
          · rename_i hnot
            have hhit : Region.Hit state := hstate.resolve_right fun hobliges =>
              hnot (decide_eq_true hobliges)
            exact hclose _ (obeys_readFound howns rfl hhit.1)

theorem obeys_getOrSet (platform : Platform) {key : List UInt8} {value : Body} {ttl : Int64}
    (hvalue : value.bod.writes.Accepting) (hnew : s.phase = .new) (hkey : key = s.op.key)
    (hset : s.op.sets = true) (hoffer : s.op.offer = some (value.bod.content ++ value.pending)) :
    Obeys (fun result _ t => t.Explains (Except.map some result))
      (Simple.getOrSet platform key value ttl) H s := by
  obtain ⟨val, hmoves, hcontent, hpending, haccepting⟩ := Body.moves_content hvalue 0
  obtain ⟨e, hproviding, hentry, hbytes⟩ := Storage.providing_eq haccepting ttl
  refine follows_bind (obeys_ofExcept hmoves ?_)
  rw [hproviding]
  have hentries : ∀ e', some e = some e' → e'.value.bod.writes.Accepting := by
    rintro e' ⟨⟩
    exact hentry
  refine follows_bind ((obeys_getOrSetWith platform hentries hnew hkey hset
    (by rw [hoffer, Option.map_some, hbytes, hpending, List.append_nil, hcontent])).mono
    fun result H' t hexplains => ?_)
  match result with
  | .error err => exact follows_pure hexplains
  | .ok none => trivial
  | .ok (some body) =>
      obtain ⟨body', hmoves', hbod', hpending'⟩ :=
        Body.moves_of_pending_nil (hexplains.settled body rfl) 2
      refine follows_bind (obeys_ofExcept hmoves' (follows_pure ⟨fun r hr => ?_, ?_⟩))
      · refine hexplains.took r (Eq.trans ?_ hr)
        change some (Except.ok (some body.bod.content)) = some (.ok (some body'.bod.content))
        rw [hbod']
      · rintro body'' ⟨⟩
        exact hpending'

/-- A client that makes one call of the simple cache. -/
theorem obeys_exec (platform : Platform) (op : SimpleOp) (H : RefHeap HandleObject) :
    Obeys (fun result _ t => t.Explains result) (op.exec platform) H { op := op } := by
  have hwith : ∀ overload key (entry : Option (Value × Int64)),
      Obeys (fun result _ t => t.Explains result)
        (Simple.getOrSetWith platform key (SimpleOp.closure entry)) H
        { op := .getOrSetWith overload key entry } := by
    intro overload key entry
    refine obeys_getOrSetWith platform (fun e he => ?_) rfl rfl rfl ?_
    · obtain ⟨p, -, rfl⟩ := Option.map_eq_some_iff.mp he
      exact p.1.accepting
    · rw [SimpleOp.offer, Option.map_map]
      exact congrArg (Option.map · entry) (funext fun p => p.1.bytes_eq)
  cases op with
  | get overload key => cases overload <;> exact obeys_get rfl rfl rfl
  | getOrSet overload key value ttl =>
      cases overload with
      | span =>
          exact follows_map (obeys_getOrSet platform value.accepting rfl rfl rfl
            (congrArg some value.bytes_eq))
      | view =>
          obtain ⟨val, hmoves, hcontent, hpending, haccepting⟩ :=
            Body.moves_content value.accepting 0
          refine follows_map (follows_bind (obeys_ofExcept hmoves ?_))
          refine obeys_getOrSet platform haccepting rfl rfl rfl ?_
          rw [hpending, List.append_nil, hcontent, ← value.bytes_eq]
          rfl
  | getOrSetWith overload key entry => cases overload <;> exact hwith _ key entry

end Caller

/-! ## All clients -/

section

variable {ι : Type} [DecidableEq ι]

/-- The calls of the simple cache that are under way, and the host. -/
abbrev SimplePool (ι : Type) :=
  Pool HostCall.Answer Abort (Except Simple.CacheError (Option Body) × RefHeap HandleObject) ι
    (SharedHost ι)

namespace SimplePool

/-- Before the first call, at a host with these items. -/
def start (platform : Platform) (op : ι → SimpleOp) (heap : ι → RefHeap HandleObject)
    (M : FirstWriteMap) : SimplePool ι :=
  ⟨fun i => ((op i).exec platform).run (heap i), .stock M⟩

/-- What a client returned, and how often its closure was run. -/
def output (e : SharedHost ι) (i : ι)
    (r : Except Simple.CacheError (Option Body) × RefHeap HandleObject) : Option Outcome :=
  (answered r.1).map fun result => (result, e.runs i)

/-- In every run of any number of clients there is an order of the calls, which only grows, in
which the map returns to each call what it returned. A call comes into it after it began and
before it returned, and one that the host refused comes into it at most once. -/
theorem simple_linearizable (platform : Platform) (op : ι → SimpleOp)
    (heap : ι → RefHeap HandleObject) (M : FirstWriteMap) {run : ℕ → SimplePool ι}
    (hstart : run 0 = start platform op heap M)
    (hrun : Pool.IsRun SharedHost.Answers SharedHost.Drift run) :
    ∃ log : ℕ → List (ι × Outcome), ∀ n, log n <+: log (n + 1) ∧
      Pool.Explained FirstWriteMap.step op M (fun e i => e.began i = true) output (run n)
        (log n) := by
  refine hrun.exists_explained Caller.protocol (fun r t => t.Explains r.1)
    (fun e i s => e.Agrees i s ∧ s.op = op i) Caller.took SharedHost.stored ?_ ?_ ?_ ?_
    (fun i => { op := op i }) ?_ (fun _ => rfl) ?_ ?_
  · rintro e s i c a e' hagrees hpermits hanswer
    obtain ⟨t, hgoes⟩ := (hagrees i).1.answer hpermits hanswer
    have heffect := hgoes.effect
    rw [(hagrees i).2] at heffect
    exact ⟨t, hgoes.moves, ⟨hgoes.agrees, hgoes.op.trans (hagrees i).2⟩,
      fun j hj => ⟨(hagrees j).1.frame (hgoes.others j hj), (hagrees j).2⟩, heffect⟩
  · intro e e' hdrift
    obtain ⟨hstored, hkeep⟩ := SharedHost.drift_spec hdrift
    exact ⟨hstored, fun i s h => ⟨hkeep i s h.1, h.2⟩⟩
  · rintro e i s o ⟨hagrees, -⟩ htook
    refine hagrees.began fun hnew => ?_
    rw [hagrees.pending (by simp [hnew])] at htook
    cases htook
  · rintro e i r s o ⟨hagrees, -⟩ hexplains houtput
    obtain ⟨result, hresult, rfl⟩ := Option.map_eq_some_iff.mp houtput
    rw [hagrees.runs]
    exact hexplains.took result hresult
  · intro i
    rw [hstart]
    exact ⟨SharedHost.agrees_stock M i (op i), rfl⟩
  · rw [hstart]
    exact SharedHost.stored_stock M
  · intro i
    rw [hstart]
    exact Caller.obeys_exec platform (op i) (heap i)

/-- A client finds the item that another one still writes, and gets it. -/
theorem simple_linearizable_get :
    ∃ (value : Value) (p q : SimplePool Bool) (body body' : Body) (H H' : RefHeap HandleObject)
      (log : List (Bool × Outcome)),
      Pool.Reachable SharedHost.Answers SharedHost.Drift (start localPlatform
        (fun b => if b then .getOrSetWith .span [97] (some (value, 0)) else .get .span [97])
        (fun _ => .empty) fun _ => none) p ∧
      (∀ b, p.env.began b = true ∧ ∃ c next, p.prog b = .call c next) ∧
      Pool.Reachable SharedHost.Answers SharedHost.Drift p q ∧
      q.prog true = .ret (.ok (some body), H) ∧ body.bod.content = [1, 2] ∧
      q.prog false = .ret (.ok (some body'), H') ∧ body'.bod.content = [1, 2] ∧
      Pool.Explained FirstWriteMap.step
        (fun b => if b then .getOrSetWith .span [97] (some (value, 0)) else .get .span [97])
        (fun _ => none) (fun e i => e.began i = true) output q log := by
  let value : Value := ⟨Body.ofBox ⟨[1, 2], .atMost 0, .atMost 0⟩, Schedule.accepting_atMost 0, rfl⟩
  let key : List UInt8 := [97]
  let looked : SharedHost Bool := (((SharedHost.stock fun _ => none).put key
    (.obliged true 0)).begin true).give true .lookup 0
      ⟨key, CacheLookupState.mustInsertOrUpdate, none⟩
  let running := looked.beginClosure true
  let accepted := running.accept true 0 1 2 key 0
  let provided := accepted.put key (.provided 1)
  let found := (provided.begin false).give false .lookup 0 ⟨key, CacheLookupState.found, some 1⟩
  let finished := found.put key (.complete 1 [1, 2])
  let given := finished.give false .read 5 ⟨key, CacheLookupState.found, some 1⟩
  let closed := given.release false 0
  let read := closed.give true .read 5 ⟨key, 0, some 1⟩
  have hlookup : ∀ mask options, (SharedHost.stock fun _ => none).Answers true
      (.cacheTransactionLookup key mask options) (.ok 0) looked :=
    fun _ _ => ⟨rfl, _, .inl ⟨rfl, by decide, rfl⟩⟩
  have hstate : looked.Answers true (.cacheGetState 0) (.ok CacheLookupState.mustInsertOrUpdate)
      looked := ⟨⟨_, rfl, rfl⟩, rfl⟩
  have hbegin : looked.Answers true .closureBegin () running := rfl
  have hend : running.Answers true .closureEnd () running := rfl
  have hinsert : ∀ mask options, running.Answers true
      (.cacheTransactionInsertAndStreamBack 0 mask options) (.ok (1, 2)) accepted :=
    fun _ _ => ⟨_, 0, rfl, rfl, rfl, rfl, rfl⟩
  have hprovide : SharedHost.Drift accepted provided := .provide rfl
  have hfind : ∀ mask options, provided.Answers false (.cacheLookup key mask options) (.ok 0)
      found := fun _ _ => ⟨rfl, _, by decide, by decide, rfl⟩
  have hfound : found.Answers false (.cacheGetState 0) (.ok CacheLookupState.found) found :=
    ⟨⟨_, rfl, rfl⟩, rfl⟩
  have hstream : found.Answers true (.streamingBodyFromBodyHandle 1) ⟨[], .atMost 0, .atMost 0⟩
      found := ⟨rfl, rfl⟩
  have hfinish : ∀ bod : HostBody, bod.content = [1, 2] →
      found.Answers true (.streamingBodyFinish 1 bod) (.ok ()) finished := by
    intro bod hbod
    refine ⟨_, 1, rfl, rfl, .provided, ?_⟩
    rw [hbod]
  have hget : finished.Answers false (.cacheGetBody 0 0 {}) (.ok 5) given :=
    ⟨rfl, _, rfl, rfl, rfl, rfl⟩
  have hbody : given.Answers false (.bodyFromHandle 5) ⟨[1, 2], .atMost 0, .atMost 0⟩ given :=
    ⟨_, 1, rfl, rfl, rfl, rfl⟩
  have hclose : given.Answers false (.cacheClose 0) (.ok ()) closed := rfl
  have hget' : closed.Answers true (.cacheGetBody 2 0 {}) (.ok 5) read :=
    ⟨rfl, _, rfl, rfl, rfl, rfl⟩
  have hbody' : read.Answers true (.bodyFromHandle 5) ⟨[1, 2], .atMost 0, .atMost 0⟩ read :=
    ⟨_, 1, rfl, rfl, rfl, rfl⟩
  have hclose' : read.Answers true (.cacheClose 2) (.ok ()) (read.release true 2) := rfl
  have hlast : (read.release true 2).Answers true (.cacheClose 0) (.ok ())
      ((read.release true 2).release true 0) := rfl
  have hwrites : Pool.Reachable SharedHost.Answers SharedHost.Drift (start localPlatform
      (fun b : Bool => if b then .getOrSetWith .span key (some (value, 0)) else .get .span key)
      (fun _ => .empty) fun _ => none) _ :=
    ((((((((Pool.Reachable.start.step (.call (i := true) rfl (hlookup _ _))).step
      (.call (i := true) rfl hstate)).step (.call (i := true) rfl hstate)).step
      (.call (i := true) rfl hbegin)).step (.call (i := true) rfl hend)).step
      (.call (i := true) rfl (hinsert _ _))).step (.drift hprovide)).step
      (.call (i := false) rfl (hfind _ _)))
  have hagain : ∀ {p q : SimplePool Bool}, Pool.Reachable SharedHost.Answers SharedHost.Drift p q →
      Pool.Reachable SharedHost.Answers SharedHost.Drift q q := fun _ => .start
  have hreads :=
    ((((((((((((hagain hwrites).step (.call (i := false) rfl hfound)).step
      (.call (i := false) rfl hfound)).step (.call (i := true) rfl hstream)).step
      (.call (i := true) rfl (hfinish _ rfl))).step (.call (i := false) rfl hget)).step
      (.call (i := false) rfl hbody)).step (.call (i := false) rfl hclose)).step
      (.call (i := true) rfl hget')).step (.call (i := true) rfl hbody')).step
      (.call (i := true) rfl hclose')).step (.call (i := true) rfl hlast))
  obtain ⟨run, hstart, hrun, n, hn⟩ :=
    (hwrites.trans hreads (fun _ _ _ _ _ => id) fun _ _ => id).exists_run
  obtain ⟨log, hlog⟩ := simple_linearizable localPlatform _ _ _ hstart hrun
  have hexplained := (hlog n).2
  rw [hn] at hexplained
  refine ⟨value, _, _, _, _, _, _, log n, hwrites, fun b => ?_, hreads, rfl, rfl, rfl, rfl,
    hexplained⟩
  cases b <;> exact ⟨rfl, _, _, rfl⟩

end SimplePool

end

end ComputeSdk
