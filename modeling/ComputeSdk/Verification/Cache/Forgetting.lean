import ComputeSdk.Verification.Cache.Expiring

/-! # The simple cache with purges and expirations

However the calls of many clients overlap, with purges and while items expire, what they return
is what a map with deletion returns to them one after the other. -/

namespace ComputeSdk

open Shared

namespace ExpiringHost

variable {ι : Type} [DecidableEq ι] {platform : Platform} {keys : Set (List UInt8)}
  {action : ι → SimpleAction} {e e' : ExpiringHost ι} {i : ι} {visitor : ι → Visitor} {v : Visitor}
  {s : Caller} {p : Past ι FirstWriteMap SimpleOutcome (List UInt8)} {c : HostCall} {a : c.Answer}

/-! ## All answers -/

omit [DecidableEq ι] in
theorem eq_rebase {base : SharedHost ι} (hbase : e'.toSharedHost = base)
    (hinserts : e'.inserts = e.inserts) (hexpired : e'.expired = e.expired) :
    e' = e.rebase base := by
  cases e'
  subst hbase hinserts hexpired
  rfl

theorem eq_acceptInsert {l b l' : ℕ} {key : List UInt8} {state : UInt32} {tags : List (List UInt8)}
    (hbase : e'.toSharedHost = e.accept i l b l' key state)
    (hinserts : e'.inserts = Function.update e.inserts e.next (some { client := i, tags := tags }))
    (hexpired : e'.expired = e.expired) : e' = e.acceptInsert i l b l' key state tags := by
  cases e'
  subst hbase hinserts hexpired
  rfl

/-- Every answer to a client that calls is one that it expects. -/
theorem FitsAt.answer (h : FitsAt platform keys action e visitor p i s)
    (hkey : s.op.key ∈ keys) (hpermits : s.Permits c) (htags : SendsTags platform s.op.key c)
    (hanswer : e.Answers i c a e') : Goes platform keys action visitor p i c a e' := by
  cases c with
  | cacheTransactionLookup key mask options =>
      obtain ⟨hnew, rfl, -⟩ := hpermits
      obtain ⟨hbase, hinserts, hexpired⟩ := hanswer
      cases a with
      | error status =>
          obtain rfl := eq_rebase hbase hinserts hexpired
          exact h.refused rfl
      | ok l =>
          obtain ⟨hfresh, state, ⟨habsent, hobliges, hbase⟩ | ⟨hitem, hhit, hbase⟩⟩ := hbase
          · obtain rfl := eq_rebase hbase hinserts hexpired
            exact h.obliges hnew hkey hfresh habsent ⟨state, .inr hobliges, rfl⟩
          · obtain rfl := eq_rebase hbase hinserts hexpired
            exact h.finds hnew hfresh hitem (fun hobliges => hobliges hhit.2)
              ⟨state, .inl hhit, rfl⟩
  | cacheLookup key mask options =>
      obtain ⟨hnew, rfl, hget⟩ := hpermits
      obtain ⟨hbase, hinserts, hexpired⟩ := hanswer
      cases a with
      | error status =>
          obtain rfl := eq_rebase hbase hinserts hexpired
          exact h.refused rfl
      | ok l =>
          obtain ⟨hfresh, state, hfound, hfree, hbase⟩ := hbase
          obtain rfl := eq_rebase hbase hinserts hexpired
          by_cases hstate : state &&& CacheLookupState.found ≠ 0
          · exact h.finds hnew hfresh (hfound.mp hstate) hfree ⟨state, (if_pos hstate).symm⟩
          · exact h.misses hnew hget hfresh
              (Option.not_isSome_iff_eq_none.mp (mt hfound.mpr hstate)) hfree
              ⟨state, (if_neg hstate).symm⟩
  | cacheGetState l =>
      obtain ⟨hbase, hinserts, hexpired⟩ := hanswer
      cases a with
      | error status =>
          obtain rfl := eq_rebase hbase hinserts hexpired
          exact h.stays rfl
      | ok state =>
          obtain ⟨⟨opened, hopened, rfl⟩, hbase⟩ := hbase
          obtain rfl := eq_rebase hbase hinserts hexpired
          obtain ⟨opened', hopened', hstate⟩ := h.view.state l hpermits
          obtain rfl := Option.some.inj (hopened.symm.trans hopened')
          exact h.stays ⟨hstate, rfl⟩
  | cacheTransactionInsertAndStreamBack l mask options =>
      cases a with
      | error status =>
          obtain ⟨hbase, hinserts, hexpired⟩ := hanswer
          obtain rfl := eq_rebase hbase hinserts hexpired
          exact h.stays rfl
      | ok ends =>
          obtain ⟨⟨opened, state, hopened, hslot, hwrite, hback, hbase⟩,
            ⟨tags, hread, hinserts⟩, hexpired⟩ := hanswer
          obtain rfl := Option.some.inj (hread.symm.trans (htags _ rfl))
          obtain rfl := eq_acceptInsert hbase hinserts hexpired
          exact h.inserts hpermits state hopened hslot hwrite hback rfl
  | streamingBodyFromBodyHandle bodyHandle =>
      obtain ⟨⟨hempty, hbase⟩, hinserts, hexpired⟩ := hanswer
      obtain rfl := eq_rebase hbase hinserts hexpired
      exact h.stays ⟨hempty, rfl⟩
  | streamingBodyFinish b bod =>
      obtain ⟨hinserted, hoffer⟩ := hpermits
      cases a with
      | error err =>
          obtain ⟨hbase, hinserts, hexpired⟩ := hanswer
          obtain rfl := eq_rebase hbase hinserts hexpired
          exact h.stays rfl
      | ok u =>
          obtain ⟨opened, n, insert, hopened, hn, hinsert, ⟨hopen, rfl⟩ | ⟨hprovided, -, rfl⟩⟩ :=
            hanswer
          · exact h.finishes hinserted hopened hn hinsert hoffer hopen rfl
          · exact h.finishesGone hinserted hopened hn hinsert hoffer hprovided rfl
  | cacheGetBody l mask options =>
      obtain ⟨hbase, hinserts, hexpired⟩ := hanswer
      cases a with
      | error status =>
          obtain rfl := eq_rebase hbase hinserts hexpired
          exact h.stays rfl
      | ok b =>
          obtain ⟨-, opened, hopened, -, hfresh, hbase⟩ := hbase
          obtain rfl := eq_rebase hbase hinserts hexpired
          exact h.getsBody hopened hfresh rfl
  | bodyFromHandle b =>
      obtain ⟨opened, n, insert, hopened, hn, hinsert, hbytes, rfl⟩ := hanswer
      exact h.reads hopened hn hinsert hbytes rfl
  | cacheClose l =>
      obtain ⟨hbase, hinserts, hexpired⟩ := hanswer
      obtain rfl := eq_rebase hbase hinserts hexpired
      exact h.closes hpermits.1 l rfl
  | closureBegin =>
      obtain ⟨hbase, hinserts, hexpired⟩ := hanswer
      obtain rfl := eq_rebase hbase hinserts hexpired
      exact h.beginsClosure hpermits.1 hpermits.2.1 rfl
  | closureEnd =>
      obtain ⟨hbase, hinserts, hexpired⟩ := hanswer
      obtain rfl := eq_rebase hbase hinserts hexpired
      cases hoffer : s.op.offer with
      | none =>
          exact h.endsClosure hpermits.1 hpermits.2 hoffer (by simp [Caller.Moves, hoffer])
      | some bytes =>
          exact h.goesOn hpermits.1 (by simp [hoffer]) (by simp [Caller.Moves, hoffer])
  | _ => exact hpermits.elim

/-- Every answer to a client is one that it expects. -/
theorem Fits.answer (h : Fits platform keys action e visitor p)
    (hkeys : ∀ i, (action i).key ∈ keys) (hseparate : Separate platform keys)
    (hsha : Set.InjOn (fun bytes => (platform.sha256 bytes).1) (hashedFor platform keys))
    (hpermits : (visitor i).Permits platform c) (hanswer : e.Answers i c a e') :
    Goes platform keys action visitor p i c a e' := by
  have hvisits := h.visits i
  generalize hv : visitor i = v at hpermits hvisits
  cases hvisits with
  | @caller s haction hview =>
      have hkey : s.op.key ∈ keys := by
        have hmem := hkeys i
        rw [haction] at hmem
        cases hop : s.op <;> rwa [hop] at hmem
      exact FitsAt.answer ⟨h, hv, haction, hview⟩ hkey hpermits.1 hpermits.2 hanswer
  | @waiting overload key opts haction hnone hfree =>
      cases c with
      | purgeSurrogateKey surrogateKey =>
          obtain rfl := hpermits
          cases a with
          | error err =>
              obtain rfl : e' = e.rebase (e.begin i) := hanswer
              refine h.goes (v := .purger key opts (some (.error .purge))) (by rw [hv]; rfl)
                (h.sound.of_slot rfl rfl) (.purged haction (Function.update_self ..) nofun)
                (fun j hj => .of_unnoticed (.begin _ hj) fun _ _ _ => id) rfl rfl
          | ok u =>
              obtain rfl := hanswer
              have hkey : key ∈ keys := by
                have hmem := hkeys i
                rwa [haction] at hmem
              exact h.purges haction hnone hfree hkey hseparate hsha (by rw [hv]; rfl)
      | _ => exact hpermits.elim
  | purged haction hbegan htook => cases c <;> exact hpermits.elim

/-! ## Start and end -/

omit [DecidableEq ι] in
/-- Before the first call. -/
theorem fits_empty (platform : Platform) (keys : Set (List UInt8)) (action : ι → SimpleAction) :
    Fits platform keys action empty (fun i => .start (action i))
      ⟨fun _ => none, [], fun _ => none⟩ where
  sound := ⟨nofun, nofun, nofun, nofun, nofun, fun key habsent => absurd rfl habsent⟩
  visits i := by
    cases haction : action i with
    | call op =>
        refine .caller (s := { op := op }) haction ⟨?_, nofun, fun _ => ⟨rfl, nofun⟩, nofun, nofun⟩
        exact (SharedHost.agrees_stock (fun _ => none) i op).toKnows
    | purge overload key opts => exact .waiting haction rfl nofun
  state := rfl
  changes := rfl

omit [DecidableEq ι] in
theorem Visits.began {o : Option SimpleOutcome} (h : Visits e action o i v) {x : SimpleOutcome}
    (ho : o = some x) : e.began i = true := by
  cases h with
  | caller haction hview => exact hview.began_of_some ho
  | waiting haction hnone hfree => cases hnone.symm.trans ho
  | purged haction hbegan htook => exact hbegan

end ExpiringHost

/-! ## All clients -/

/-- The calls and purges that are under way, and the host. -/
abbrev ActionPool (ι : Type) :=
  Pool HostCall.Answer Abort
    ((Except Simple.CacheError (Option Body) ⊕ Except Simple.CacheError Unit) ×
      RefHeap HandleObject) ι (ExpiringHost ι)

namespace ActionPool

variable {ι : Type} {platform : Platform} {keys : Set (List UInt8)}

/-- Before the first call, at a host that has no item yet. -/
def start (platform : Platform) (action : ι → ActionOn keys) (heap : ι → RefHeap HandleObject) :
    ActionPool ι :=
  ⟨fun i => ((action i).1.invoke platform).run (heap i), .empty⟩

/-- What a client returned, unless it was refused. -/
def output (e : ExpiringHost ι) (i : ι) :
    (Except Simple.CacheError (Option Body) ⊕ Except Simple.CacheError Unit) ×
      RefHeap HandleObject → Option SimpleOutcome
  | (.inl result, _) => (answered result).map (.returned · (e.runs i))
  | (.inr (.ok u), _) => some (.purged (.ok u))
  | (.inr (.error _), _) => none

/-- A client that ended has the outcome of its operation. -/
theorem took_of_output {action : ι → SimpleAction} {e : ExpiringHost ι} {i : ι} {v : Visitor}
    {o : Option SimpleOutcome} (hvisits : ExpiringHost.Visits e action o i v)
    {r : (Except Simple.CacheError (Option Body) ⊕ Except Simple.CacheError Unit) ×
      RefHeap HandleObject} (hends : v.Ends r.1) {x : SimpleOutcome}
    (houtput : output e i r = some x) : o = some x := by
  obtain ⟨result, H⟩ := r
  cases hvisits with
  | caller haction hview =>
      cases result with
      | inr result => exact hends.elim
      | inl result =>
          obtain ⟨r, hr, rfl⟩ := Option.map_eq_some_iff.mp houtput
          rw [hview.runs]
          exact hview.took _ (Caller.Explains.took hends r hr)
  | waiting haction hnone hfree =>
      cases result with
      | inl result => exact hends.elim
      | inr result => cases hends
  | @purged _ _ _ result' haction hbegan htook =>
      cases result with
      | inl result => exact hends.elim
      | inr result =>
          cases result with
          | error err => cases houtput
          | ok u =>
              obtain rfl : result' = .ok u := Option.some.inj hends
              exact (htook rfl).trans houtput

variable [DecidableEq ι]

/-- Any number of clients call the simple cache and purge, on keys none of which is another one
with the name of the POP behind it, and items expire. In every run there is an order of the calls,
the purges and the expirations, which only grows, in which a map with deletion returns to each
call what it returned. A call comes into it after it began and before it returned, and one that
the host refused comes into it at most once. -/
theorem expiring_linearizable (hseparate : Separate platform keys)
    (hsha : Set.InjOn (fun bytes => (platform.sha256 bytes).1) (hashedFor platform keys))
    (action : ι → ActionOn keys) (heap : ι → RefHeap HandleObject) {run : ℕ → ActionPool ι}
    (hstart : run 0 = start platform action heap)
    (hrun : Pool.IsRun ExpiringHost.Answers ExpiringHost.Drift run) :
    ∃ log : ℕ → List (Happening ι SimpleOutcome (List UInt8)), ∀ n, log n <+: log (n + 1) ∧
      Pool.ExplainedBy FirstWriteMap.forgetting (fun i => (action i).1) (fun _ => none)
        (fun e i => e.began i = true) output ExpiringHost.expired (run n) (log n) := by
  refine hrun.exists_explainedBy (Visitor.protocol platform) (fun r v => v.Ends r.1)
    (ExpiringHost.Fits platform keys fun i => (action i).1) ?_ ?_ ?_ ?_ ?_
    (fun i => .start (action i).1) ?_ ?_
  · rintro e v p i c a e' hfits hpermits hanswer
    obtain ⟨w, q, hmoves, hfits', hnext⟩ :=
      hfits.answer (fun j => (action j).2) hseparate hsha hpermits hanswer
    exact ⟨w, q, hmoves, hfits', hnext⟩
  · rintro e v p e' hfits (⟨hslot, hinsert⟩ | ⟨hslot⟩)
    · exact hfits.provides hslot hinsert
    · exact hfits.expires hslot
  · intro e v p i o hfits htook
    exact (hfits.visits i).began htook
  · intro e v p i r o hfits hends houtput
    exact took_of_output (hfits.visits i) hends houtput
  · intro e v p hfits
    exact hfits.changes
  · rw [hstart]
    exact ExpiringHost.fits_empty platform keys _
  · intro i
    rw [hstart]
    exact Visitor.follows_invoke (action i).1 (heap i)

/-- An item expires while it is written. The client that writes it still returns it. -/
theorem expiring_linearizable_expired :
    ∃ (p : ActionPool Bool) (body : Body) (H : RefHeap HandleObject)
      (log : List (Happening Bool SimpleOutcome (List UInt8))),
      p.prog true = .ret (.inl (.ok (some body)), H) ∧ p.env.expired = [[97]] ∧
        Pool.ExplainedBy FirstWriteMap.forgetting
          (fun b => if b then .call (.getOrSetWith .span [97] (some (emptyValue, 0)))
            else .purge .span [97] none)
          (fun _ => none) (fun e i => e.began i = true) output ExpiringHost.expired p log := by
  let action : Bool → ActionOn {[97]} := fun b =>
    ⟨if b then .call (.getOrSetWith .span [97] (some (emptyValue, 0))) else .purge .span [97] none,
      by cases b <;> rfl⟩
  let key : List UInt8 := [97]
  let insert : Insert Bool := { client := true, tags := Storage.entryTags localPlatform key }
  let looked : ExpiringHost Bool := ExpiringHost.empty.rebase
    (((ExpiringHost.empty.put key (.obliged true 0)).begin true).give true .lookup 0
      ⟨key, CacheLookupState.mustInsertOrUpdate, none⟩)
  let running := looked.rebase (looked.beginClosure true)
  let accepted : ExpiringHost Bool :=
    { running.rebase (running.accept true 0 1 2 key 0) with
      inserts := Function.update running.inserts 1 (some insert) }
  let provided := (accepted.setSlot key (.provided 1)).record 1 insert.provide
  let expired : ExpiringHost Bool := { provided.setSlot key .absent with expired := [key] }
  let finished := expired.record 1 (insert.provide.finish [])
  let read := finished.rebase (finished.give true .read 5 ⟨key, 0, some 1⟩)
  let closed := read.rebase (read.release true 2)
  have hlookup : ∀ mask options, ExpiringHost.empty.Answers true
      (.cacheTransactionLookup key mask options) (.ok 0) looked :=
    fun _ _ => ⟨⟨rfl, _, .inl ⟨rfl, by decide, rfl⟩⟩, rfl, rfl⟩
  have hstate : looked.Answers true (.cacheGetState 0) (.ok CacheLookupState.mustInsertOrUpdate)
      looked := ⟨⟨⟨_, rfl, rfl⟩, rfl⟩, rfl, rfl⟩
  have hbegin : looked.Answers true .closureBegin () running := ⟨rfl, rfl, rfl⟩
  have hend : running.Answers true .closureEnd () running := ⟨rfl, rfl, rfl⟩
  have hinsert : ∀ mask options, Storage.tagsOf mask options = some insert.tags →
      running.Answers true (.cacheTransactionInsertAndStreamBack 0 mask options) (.ok (1, 2))
        accepted :=
    fun _ _ htags => ⟨⟨_, 0, rfl, rfl, rfl, rfl, rfl⟩, ⟨_, htags, rfl⟩, rfl⟩
  have hprovide : ExpiringHost.Drift accepted provided := .provide rfl rfl
  have hexpire : ExpiringHost.Drift provided expired := .expire rfl
  have hstream : expired.Answers true (.streamingBodyFromBodyHandle 1)
      ⟨[], .atMost 0, .atMost 0⟩ expired := ⟨⟨rfl, rfl⟩, rfl, rfl⟩
  have hfinish : ∀ bod : HostBody, bod.content = [] →
      expired.Answers true (.streamingBodyFinish 1 bod) (.ok ()) finished := by
    intro bod hbod
    refine ⟨_, 1, insert.provide, rfl, rfl, rfl, .inr ⟨rfl, by decide, ?_⟩⟩
    rw [hbod]
  have hbody : finished.Answers true (.cacheGetBody 2 0 {}) (.ok 5) read :=
    ⟨⟨rfl, _, rfl, rfl, rfl, rfl⟩, rfl, rfl⟩
  have hread : read.Answers true (.bodyFromHandle 5) ⟨[], .atMost 0, .atMost 0⟩ read :=
    ⟨_, 1, insert.provide.finish [], rfl, rfl, rfl, rfl, rfl⟩
  have hclose : read.Answers true (.cacheClose 2) (.ok ()) closed := ⟨rfl, rfl, rfl⟩
  have hlast : closed.Answers true (.cacheClose 0) (.ok ())
      (closed.rebase (closed.release true 0)) := ⟨rfl, rfl, rfl⟩
  have hreach : Pool.Reachable ExpiringHost.Answers ExpiringHost.Drift
      (start localPlatform action fun _ => .empty) _ :=
    ((((((((((((((Pool.Reachable.start.step (.call rfl (hlookup _ _))).step
      (.call rfl hstate)).step (.call rfl hstate)).step (.call rfl hbegin)).step
      (.call rfl hend)).step
      (.call rfl (hinsert _ _ (Storage.tagsOf_insert localPlatform key 0)))).step
      (.drift hprovide)).step (.drift hexpire)).step (.call rfl hstream)).step
      (.call rfl (hfinish _ rfl))).step (.call rfl hbody)).step (.call rfl hread)).step
      (.call rfl hclose)).step (.call rfl hlast))
  obtain ⟨run, hstart, hrun, n, hn⟩ := hreach.exists_run
  have hsha : Set.InjOn (fun bytes => (localPlatform.sha256 bytes).1)
      (hashedFor localPlatform {[97]}) := by
    rintro x ⟨_, rfl, (rfl | rfl)⟩ y ⟨_, rfl, (rfl | rfl)⟩ h <;>
      first | rfl | exact absurd h (by decide)
  have hseparate : Separate localPlatform {[97]} := by
    rintro _ rfl _ rfl _
    rfl
  obtain ⟨log, hlog⟩ := expiring_linearizable hseparate hsha action _ hstart hrun
  have hexplained := (hlog n).2
  rw [hn] at hexplained
  exact ⟨_, _, _, log n, rfl, rfl, hexplained⟩

end ActionPool

end ComputeSdk
