import ComputeSdk.Verification.Cache.Visitors

/-! # Answers of a host whose items expire

With each answer at most one operation takes effect, and with what happens without a call at most
one does or one entry gets lost. -/

namespace ComputeSdk

open Shared

namespace ExpiringHost

variable {ι : Type} [DecidableEq ι] {platform : Platform} {keys : Set (List UInt8)}
  {action : ι → SimpleAction} {e e' : ExpiringHost ι} {i : ι} {visitor : ι → Visitor} {v : Visitor}
  {s t : Caller} {p : Past ι FirstWriteMap SimpleOutcome (List UInt8)} {c : HostCall} {a : c.Answer}

/-! ## Steps -/

/-- Client `i` goes on with an answer, and at most one thing happens. -/
def Goes (platform : Platform) (keys : Set (List UInt8)) (action : ι → SimpleAction)
    (visitor : ι → Visitor) (p : Past ι FirstWriteMap SimpleOutcome (List UInt8)) (i : ι)
    (c : HostCall) (a : c.Answer) (e' : ExpiringHost ι) : Prop :=
  ∃ v q, (visitor i).Moves c a v ∧ Fits platform keys action e' (Function.update visitor i v) q ∧
    Happens FirstWriteMap.forgetting action p q

/-- Nothing happens. -/
theorem Fits.goes (h : Fits platform keys action e visitor p) (hmoves : (visitor i).Moves c a v)
    (hsound : Sound platform keys action e' p.took) (hvisits : Visits e' action (p.took i) i v)
    (hothers : ∀ j, j ≠ i → Unseen e e' j) (hstate : e'.shown action = e.shown action)
    (hexpired : e'.expired = e.expired) : Goes platform keys action visitor p i c a e' := by
  refine ⟨v, p, hmoves, ⟨hsound, fun j => ?_, h.state.trans hstate.symm,
    h.changes.trans hexpired.symm⟩, .nothing p⟩
  by_cases hj : j = i
  · subst hj
    rwa [Function.update_self]
  · rw [Function.update_of_ne hj]
    exact (h.visits j).unseen (hothers j hj)

theorem Fits.happens (h : Fits platform keys action e visitor p) (hnone : p.took i = none)
    {o : SimpleOutcome} {M : FirstWriteMap} (hact : (e.shown action).act (action i) = (o, M)) :
    Happens FirstWriteMap.forgetting action p
      ⟨Function.update p.took i (some o), p.changes, M⟩ := by
  have heffect : Happens FirstWriteMap.forgetting action p _ := .effect p i hnone
  rw [h.state] at heffect
  rwa [show FirstWriteMap.forgetting.step (e.shown action) (action i) = (o, M) from hact] at heffect

/-- The operation of client `i` takes effect. -/
theorem Fits.takes (h : Fits platform keys action e visitor p) (hmoves : (visitor i).Moves c a v)
    (hnone : p.took i = none) {o : SimpleOutcome} {M : FirstWriteMap}
    (hact : (e.shown action).act (action i) = (o, M))
    (hsound : Sound platform keys action e' (Function.update p.took i (some o)))
    (hvisits : Visits e' action (some o) i v) (hothers : ∀ j, j ≠ i → Unseen e e' j)
    (hstate : e'.shown action = M) (hexpired : e'.expired = e.expired) :
    Goes platform keys action visitor p i c a e' := by
  refine ⟨v, ⟨Function.update p.took i (some o), p.changes, M⟩, hmoves, ⟨hsound, fun j => ?_,
    hstate.symm, h.changes.trans hexpired.symm⟩, h.happens hnone hact⟩
  by_cases hj : j = i
  · subst hj
    simpa using hvisits
  · simpa [hj] using (h.visits j).unseen (hothers j hj)

/-- Everything fits, and client `i` calls and is at `s`. -/
structure FitsAt (platform : Platform) (keys : Set (List UInt8)) (action : ι → SimpleAction)
    (e : ExpiringHost ι) (visitor : ι → Visitor)
    (p : Past ι FirstWriteMap SimpleOutcome (List UInt8)) (i : ι) (s : Caller) : Prop
    extends Fits platform keys action e visitor p where
  visitor_eq : visitor i = .caller s.op.key s
  action_eq : action i = .call s.op
  view : View e action (p.took i) i s

theorem FitsAt.goes (h : FitsAt platform keys action e visitor p i s) (hmoves : s.Moves c a t)
    (hop : t.op = s.op) (hsound : Sound platform keys action e' p.took)
    (hview : View e' action (p.took i) i t) (hothers : ∀ j, j ≠ i → Unseen e e' j)
    (hstate : e'.shown action = e.shown action) (hexpired : e'.expired = e.expired) :
    Goes platform keys action visitor p i c a e' := by
  refine h.toFits.goes (v := .caller t.op.key t) ?_ hsound
    (.caller (h.action_eq.trans (by rw [hop])) hview) hothers hstate hexpired
  rw [h.visitor_eq, hop]
  exact ⟨t, hmoves, rfl⟩

theorem FitsAt.takes (h : FitsAt platform keys action e visitor p i s) (hmoves : s.Moves c a t)
    (hop : t.op = s.op) (hnone : p.took i = none)
    {result : Except Simple.CacheError (Option (List UInt8))} {n : ℕ} {M : FirstWriteMap}
    (hstep : (e.shown action).step s.op = ((result, n), M))
    (hsound : Sound platform keys action e' (Function.update p.took i (some (.returned result n))))
    (hview : View e' action (some (.returned result n)) i t)
    (hothers : ∀ j, j ≠ i → Unseen e e' j) (hstate : e'.shown action = M)
    (hexpired : e'.expired = e.expired) : Goes platform keys action visitor p i c a e' := by
  refine h.toFits.takes (v := .caller t.op.key t) ?_ hnone
    (by rw [h.action_eq]; exact FirstWriteMap.act_call hstep) hsound
    (.caller (h.action_eq.trans (by rw [hop])) hview) hothers hstate hexpired
  rw [h.visitor_eq, hop]
  exact ⟨t, hmoves, rfl⟩

/-! ## Answers that leave the items as they are -/

omit [DecidableEq ι] in
/-- Others do not notice what happens to the handles of `i`. -/
theorem Unseen.of_unnoticed {base : SharedHost ι} {j : ι}
    (hu : e.toSharedHost.Unnoticed base j)
    (hslot : ∀ key h n, base.slot key = .accepted j h n → e.slot key = .accepted j h n) :
    Unseen e (e.rebase base) j :=
  ⟨hu, fun _ insert hinsert => ⟨insert, hinsert, rfl⟩, hslot⟩

omit [DecidableEq ι] in
/-- The slots are as they were. -/
theorem Sound.of_slot {took : ι → Option SimpleOutcome} {base : SharedHost ι}
    (h : Sound platform keys action e took) (hslot : base.slot = e.slot)
    (hnext : base.next = e.next) : Sound platform keys action (e.rebase base) took :=
  h.slots rfl hnext.ge fun key => .inl (congrFun hslot key)

/-- An answer that tells the client nothing. -/
theorem FitsAt.stays (h : FitsAt platform keys action e visitor p i s) (hmoves : s.Moves c a s) :
    Goes platform keys action visitor p i c a e :=
  h.goes hmoves rfl h.sound h.view (fun j _ => .of_unnoticed (.refl _ j) fun _ _ _ => id) rfl rfl

theorem FitsAt.refused (h : FitsAt platform keys action e visitor p i s)
    (hmoves : s.Moves c a { s with phase := .settled }) :
    Goes platform keys action visitor p i c a (e.rebase (e.begin i)) := by
  refine h.goes hmoves rfl (h.sound.of_slot rfl rfl) ?_
    (fun j hj => .of_unnoticed (.begin _ hj) fun _ _ _ => id) rfl rfl
  exact ⟨h.view.toKnows.refused, h.view.took, by simp [Caller.Early], by simp, h.view.found⟩

omit [DecidableEq ι] in
/-- A client without an outcome has one now. -/
theorem View.found_of_none {o : Option SimpleOutcome} (hv : View e action none i s)
    (hruns : t.runs = s.runs) (use : HandleUse) (h : ℕ) (opened : Opened) (n : ℕ)
    (hopened : e.handle i use h = some opened) (hn : opened.insert = some n) :
    ∃ insert, e.inserts n = some insert ∧ Sees action o i t use insert := by
  obtain ⟨insert, hinsert, hsees⟩ := hv.found use h opened n hopened hn
  exact ⟨insert, hinsert, .inl (hruns ▸ hsees.of_none)⟩

/-- A lookup that finds an item, with which the operation takes effect. -/
theorem FitsAt.finds (h : FitsAt platform keys action e visitor p i s) (hnew : s.phase = .new)
    {l : ℕ} {state : UInt32} (hfresh : e.handle i .lookup l = none)
    (hitem : (e.slot s.op.key).item.isSome) (hfree : ¬ Region.Obliges state)
    (hmoves : s.Moves c a (s.look l state)) :
    Goes platform keys action visitor p i c a (e.rebase
      ((e.begin i).give i .lookup l ⟨s.op.key, state, (e.slot s.op.key).item⟩)) := by
  obtain ⟨n, hn⟩ := Option.isSome_iff_exists.mp hitem
  obtain ⟨insert, bytes, hinsert, hoffer, hshown⟩ := h.sound.shown_item hn
  obtain ⟨hnone, hunwritten⟩ := h.view.early (.inl hnew)
  have hruns := h.view.ran (by simp [hnew])
  rw [hnew] at hruns
  have hview := h.view
  rw [hnone] at hview
  refine h.takes hmoves rfl hnone (FirstWriteMap.step_of_some hshown)
    ((h.sound.effect hnone hunwritten _).of_slot rfl rfl) ⟨?_, fun x hx => ?_, fun hs => ?_,
      by simp [Caller.look], fun use k opened m hopened hm => ?_⟩
    (fun j hj => .of_unnoticed (.look _ l _ hj) fun _ _ _ => id) rfl rfl
  · exact h.view.toKnows.look hnew ⟨s.op.key, state, _⟩ hfresh rfl fun hs => absurd hs hfree
  · exact absurd (hview.took x hx) (by simp)
  · rcases hs with hs | ⟨-, hs⟩ | hs | hs
    · cases hs
    · exact absurd hs hfree
    · cases hs
    · cases hs
  · rcases SharedHost.handle_give _ hopened with ⟨rfl, -, rfl⟩ | hopened
    · obtain rfl := Option.some.inj (hn.symm.trans hm)
      exact ⟨insert, hinsert, .inr ⟨by simp, bytes, hoffer, by rw [Caller.look, hruns]; rfl⟩⟩
    · exact hview.found_of_none rfl use k opened m hopened hm

/-- A `get` that finds no item. -/
theorem FitsAt.misses (h : FitsAt platform keys action e visitor p i s) (hnew : s.phase = .new)
    (hget : s.op.sets = false) {l : ℕ} {state : UInt32} (hfresh : e.handle i .lookup l = none)
    (hitem : (e.slot s.op.key).item = none) (hfree : ¬ Region.Obliges state)
    (hmoves : s.Moves c a ((s.look l state).take (.ok none))) :
    Goes platform keys action visitor p i c a (e.rebase
      ((e.begin i).give i .lookup l ⟨s.op.key, state, (e.slot s.op.key).item⟩)) := by
  obtain ⟨hnone, hunwritten⟩ := h.view.early (.inl hnew)
  have hruns := h.view.ran (by simp [hnew])
  rw [hnew] at hruns
  have hview := h.view
  rw [hnone] at hview
  refine h.takes hmoves rfl hnone (FirstWriteMap.step_of_none_get (shown_of_none hitem) hget)
    ((h.sound.effect hnone hunwritten _).of_slot rfl rfl) ⟨?_, fun x hx => ?_, fun hs => ?_,
      by simp [Caller.take], fun use k opened m hopened hm => ?_⟩
    (fun j hj => .of_unnoticed (.look _ l _ hj) fun _ _ _ => id) rfl rfl
  · exact (h.view.toKnows.look hnew ⟨s.op.key, state, _⟩ hfresh rfl
      fun hs => absurd hs hfree).take (Function.update_self ..) _
  · obtain rfl := Option.some.inj hx
    rw [Caller.look, hruns]
    rfl
  · simp [Caller.Early, Caller.take] at hs
  · rcases SharedHost.handle_give _ hopened with ⟨-, -, rfl⟩ | hopened
    · exact absurd (hm.symm.trans hitem) (by simp)
    · exact hview.found_of_none rfl use k opened m hopened hm

/-- Another handle for what a client has found already. -/
theorem FitsAt.getsBody (h : FitsAt platform keys action e visitor p i s) {l b : ℕ}
    {opened : Opened} (hopened : e.handle i .lookup l = some opened)
    (hfresh : e.handle i .read b = none) (hmoves : s.Moves c a s) :
    Goes platform keys action visitor p i c a (e.rebase (e.give i .read b opened)) := by
  refine h.goes hmoves rfl (h.sound.of_slot rfl rfl) ⟨?_, h.view.took, h.view.early, h.view.offered,
      fun use k opened' n hopened' hn => ?_⟩
    (fun j hj => .of_unnoticed (.give _ _ _ _ hj) fun _ _ _ => id) rfl rfl
  · exact h.view.toKnows.give .read opened hfresh (h.view.key _ _ _ hopened)
  · rcases SharedHost.handle_give _ hopened' with ⟨rfl, -, rfl⟩ | hopened'
    · obtain ⟨insert, hinsert, hsees⟩ := h.view.found _ _ _ n hopened hn
      exact ⟨insert, hinsert, hsees.imp id fun ⟨_, hsees⟩ => ⟨by simp, hsees⟩⟩
    · exact h.view.found use k opened' n hopened' hn

omit [DecidableEq ι] in
/-- What a client sees of a finished insert is the outcome of its operation. -/
theorem Sees.took {took : ι → Option SimpleOutcome} (h : Sound platform keys action e took)
    {use : HandleUse} {n : ℕ} {insert : Insert ι} {bytes : List UInt8}
    (hinsert : e.inserts n = some insert) (hbytes : insert.bytes = some bytes)
    (hsees : Sees action (took i) i s use insert) :
    took i = some (.returned (.ok (some bytes)) s.runs) := by
  obtain ⟨hprovided, hoffer⟩ := h.bytes n insert bytes hinsert hbytes
  rcases hsees with ⟨rfl, hruns⟩ | ⟨-, bytes', hoffer', htook⟩
  · obtain ⟨bytes', hoffer', htook⟩ := h.provided n insert hinsert hprovided
    obtain rfl := Option.some.inj (hoffer.symm.trans hoffer')
    rw [htook, hruns]
  · obtain rfl := Option.some.inj (hoffer.symm.trans hoffer')
    exact htook

omit [DecidableEq ι] in
/-- A client gets to know the outcome of its operation. -/
theorem View.take {o : Option SimpleOutcome} (hv : View e action o i s) (hbegan : e.began i = true)
    {result : Except Simple.CacheError (Option (List UInt8))}
    (ho : o = some (.returned result s.runs)) : View e action o i (s.take result) where
  toKnows := hv.toKnows.take hbegan result
  took x hx := by
    obtain rfl := Option.some.inj hx
    exact ho
  early hs := by simp [Caller.Early, Caller.take] at hs
  offered hs := by simp [Caller.take] at hs
  found := hv.found

omit [DecidableEq ι] in
theorem View.began_of_some {o : Option SimpleOutcome} (hv : View e action o i s) {x : SimpleOutcome}
    (ho : o = some x) : e.began i = true := by
  refine hv.began fun hnew => ?_
  rw [(hv.early (.inl hnew)).1] at ho
  cases ho

/-- A stream is given once all bytes are there. -/
theorem FitsAt.reads (h : FitsAt platform keys action e visitor p i s) {b n : ℕ} {opened : Opened}
    {insert : Insert ι} {bytes : List UInt8} (hopened : e.handle i .read b = some opened)
    (hn : opened.insert = some n) (hinsert : e.inserts n = some insert)
    (hbytes : insert.bytes = some bytes) (hmoves : s.Moves c a (s.take (.ok (some bytes)))) :
    Goes platform keys action visitor p i c a e := by
  obtain ⟨insert', hinsert', hsees⟩ := h.view.found _ _ _ _ hopened hn
  obtain rfl := Option.some.inj (hinsert.symm.trans hinsert')
  have htook := hsees.took h.sound hinsert hbytes
  exact h.goes hmoves rfl h.sound (h.view.take (h.view.began_of_some htook) htook)
    (fun j _ => .of_unnoticed (.refl _ j) fun _ _ _ => id) rfl rfl

theorem FitsAt.beginsClosure (h : FitsAt platform keys action e visitor p i s)
    (hlooked : s.phase = .looked) (hobliges : Region.Obliges s.state)
    (hmoves : s.Moves c a { s with phase := .running, runs := s.runs + 1 }) :
    Goes platform keys action visitor p i c a (e.rebase (e.beginClosure i)) := by
  have hearly := h.view.early (.inr (.inl ⟨hlooked, hobliges⟩))
  have hruns := h.view.ran (by simp [hlooked])
  rw [hlooked] at hruns
  refine h.goes hmoves rfl (h.sound.of_slot rfl rfl) ⟨?_, h.view.took, fun _ => hearly, by simp,
      fun use k opened n hopened hn => ?_⟩
    (fun j hj => .of_unnoticed (.beginClosure _ hj) fun _ _ _ => id) rfl rfl
  · exact h.view.toKnows.beginClosure hlooked hobliges
  · obtain ⟨insert, -, hsees⟩ := h.view.found use k opened n hopened hn
    rw [hearly.1] at hsees
    exact absurd (hruns.symm.trans hsees.of_none.2) (by decide)

/-- A closure that returns no entry. -/
theorem FitsAt.endsClosure (h : FitsAt platform keys action e visitor p i s)
    (hrunning : s.phase = .running) (hset : s.op.sets = true) (hoffer : s.op.offer = none)
    (hmoves : s.Moves c a (s.take (.error .getOrSet))) :
    Goes platform keys action visitor p i c a e := by
  obtain ⟨hnone, hunwritten⟩ := h.view.early (.inr (.inr (.inl hrunning)))
  obtain ⟨l, hslot⟩ := h.view.obliged (.inr hrunning)
  have hruns := h.view.ran (by simp [hrunning])
  rw [hrunning] at hruns
  have hstep := FirstWriteMap.step_of_none_set (M := e.shown action) s.op
    (shown_of_none (by rw [hslot]; rfl)) hset
  rw [hoffer] at hstep
  have hview := h.view
  rw [hnone] at hview
  refine h.takes hmoves rfl hnone hstep (h.sound.effect hnone hunwritten _)
    ⟨h.view.toKnows.take (h.view.began (by simp [hrunning])) _, fun x hx => ?_, fun hs => ?_,
      by simp [Caller.take], hview.found_of_none rfl⟩
    (fun j _ => .of_unnoticed (.refl _ j) fun _ _ _ => id) rfl rfl
  · obtain rfl := Option.some.inj hx
    rw [hruns]
    rfl
  · simp [Caller.Early, Caller.take] at hs

/-- A closure that returns an entry. -/
theorem FitsAt.goesOn (h : FitsAt platform keys action e visitor p i s)
    (hrunning : s.phase = .running) (hoffer : s.op.offer.isSome)
    (hmoves : s.Moves c a { s with phase := .ran }) :
    Goes platform keys action visitor p i c a e := by
  refine h.goes hmoves rfl h.sound ⟨?_, h.view.took,
      fun _ => h.view.early (.inr (.inr (.inl hrunning))), fun _ => hoffer, h.view.found⟩
    (fun j _ => .of_unnoticed (.refl _ j) fun _ _ _ => id) rfl rfl
  exact h.view.toKnows.goOn (by simp [hrunning]) (fun _ => by simp [hrunning, Phase.runs]) (by simp)

/-! ## Answers that change the items -/

/-- A lookup that gets the obligation. -/
theorem FitsAt.obliges (h : FitsAt platform keys action e visitor p i s) (hnew : s.phase = .new)
    (hkey : s.op.key ∈ keys) {l : ℕ} {state : UInt32} (hfresh : e.handle i .lookup l = none)
    (habsent : e.slot s.op.key = .absent) (hmoves : s.Moves c a (s.look l state)) :
    Goes platform keys action visitor p i c a (e.rebase
      (((e.put s.op.key (.obliged i l)).begin i).give i .lookup l ⟨s.op.key, state, none⟩)) := by
  obtain ⟨hnone, hunwritten⟩ := h.view.early (.inl hnew)
  have hput : ∀ j, e.toSharedHost.Unnoticed (e.put s.op.key (.obliged i l)) j := fun j =>
    .put _ (by simp [habsent])
  have hslot : ∀ (j : ι) key k n, (e.setSlot s.op.key (.obliged i l)).slot key = .accepted j k n →
      e.slot key = .accepted j k n := by
    intro j key k n hn
    by_cases hk : key = s.op.key
    · rw [hk, setSlot_same] at hn
      cases hn
    · rwa [setSlot_of_ne e hk] at hn
  have hsound : Sound platform keys action (e.setSlot s.op.key (.obliged i l)) p.took :=
    h.sound.slots rfl le_rfl fun key => by
      by_cases hk : key = s.op.key
      · subst hk
        rw [setSlot_same]
        exact .inr ⟨rfl, by simp, fun _ => hkey⟩
      · exact .inl (setSlot_of_ne e hk _)
  refine h.goes hmoves rfl (hsound.of_slot rfl rfl) ⟨?_, h.view.took, fun _ => ⟨hnone,
      fun key k n hn => hunwritten key k n (hslot i key k n hn)⟩, by simp [Caller.look],
      fun use k opened n hopened hn => ?_⟩
    (fun j hj => .of_unnoticed ((hput j).trans (.look _ l _ hj)) (hslot j))
    (shown_eq (maker_eq (fun key => ?_) rfl)) rfl
  · exact (h.view.toKnows.frame (hput i)).look hnew ⟨s.op.key, state, none⟩ hfresh rfl
      fun _ => ⟨l, Function.update_self ..⟩
  · rcases SharedHost.handle_give _ hopened with ⟨-, -, rfl⟩ | hopened
    · cases hn
    · exact h.view.found use k opened n hopened hn
  · change ((e.setSlot s.op.key (.obliged i l)).slot key).item = (e.slot key).item
    by_cases hk : key = s.op.key
    · subst hk
      rw [setSlot_same, habsent]
      rfl
    · rw [setSlot_of_ne e hk]

/-- What a client that closes a handle leaves in a slot. -/
theorem slot_release (e : ExpiringHost ι) (i : ι) (l : ℕ) (key : List UInt8) :
    (e.release i l).slot key = e.slot key ∨
      (e.release i l).slot key = .absent ∧ (e.slot key).item = none := by
  unfold SharedHost.release
  split
  · rename_i opened _
    by_cases hk : key = opened.key
    · subst hk
      have hslot : ((e.put opened.key ((e.slot opened.key).release i l)).drop i .lookup l).slot
          opened.key = (e.slot opened.key).release i l := Function.update_self ..
      rw [hslot]
      exact Slot.release_eq i l _
    · exact .inl (Function.update_of_ne hk _ _)
  · exact .inl rfl

theorem next_release (e : SharedHost ι) (i : ι) (l : ℕ) : (e.release i l).next = e.next := by
  unfold SharedHost.release
  split <;> rfl

theorem FitsAt.closes (h : FitsAt platform keys action e visitor p i s) (hnew : s.phase ≠ .new)
    (l : ℕ) (hmoves : s.Moves c a { s with phase := .settled, handle := none }) :
    Goes platform keys action visitor p i c a (e.rebase (e.release i l)) := by
  have hsound : Sound platform keys action (e.rebase (e.release i l)) p.took :=
    h.sound.slots rfl (next_release e.toSharedHost i l).ge fun key => by
      rcases slot_release e i l key with hsame | ⟨habsent, -⟩
      · exact .inl hsame
      · refine .inr ?_
        rw [show (e.rebase (e.release i l)).slot key = .absent from habsent]
        exact ⟨rfl, by simp, by simp⟩
  refine h.goes hmoves rfl hsound ⟨h.view.toKnows.close hnew l, h.view.took, by simp [Caller.Early],
      by simp, fun use k opened n hopened hn =>
        h.view.found use k opened n (SharedHost.handle_release _ i l hopened) hn⟩
    (fun j hj => .of_unnoticed (.release _ l hj) fun key k n hn => ?_)
    (shown_eq (maker_eq (fun key => ?_) rfl)) rfl
  · rcases slot_release e i l key with hsame | ⟨habsent, -⟩
    · rwa [hsame] at hn
    · rw [habsent] at hn
      cases hn
  · change ((e.release i l).slot key).item = _
    rcases slot_release e i l key with hsame | ⟨habsent, hnone⟩
    · rw [hsame]
    · rw [habsent, hnone]
      rfl

/-- The host accepts the insert of the client with the obligation. -/
theorem FitsAt.inserts (h : FitsAt platform keys action e visitor p i s) (hran : s.phase = .ran)
    {l b l' : ℕ} {opened : Opened} (state : UInt32)
    (hopened : e.handle i .lookup l = some opened) (hslot : e.slot opened.key = .obliged i l)
    (hwrite : e.handle i .write b = none) (hback : e.handle i .lookup l' = none)
    (hmoves : s.Moves c a { s with phase := .inserted }) :
    Goes platform keys action visitor p i c a
      (e.acceptInsert i l b l' opened.key state (Storage.entryTags platform s.op.key)) := by
  have hkey := h.view.key _ _ _ hopened
  have hactionKey : (action i).key = opened.key := by
    rw [h.action_eq, hkey]
    cases s.op <;> rfl
  have hoffer : (action i).offer.isSome := by
    rw [h.action_eq]
    exact h.view.offered (.inl hran)
  obtain ⟨hnone, -⟩ := h.view.early (.inr (.inr (.inr hran)))
  have hruns := h.view.ran (by simp [hran])
  rw [hran] at hruns
  rw [← hkey]
  refine h.goes hmoves rfl (h.sound.accept hslot hnone hactionKey hoffer b l' state)
    ⟨h.view.toKnows.accept hran state hopened hwrite hback, h.view.took, by simp [Caller.Early],
      fun _ => h.view.offered (.inl hran), fun use k opened' n hopened' hn => ?_⟩
    (fun j hj => h.sound.unseen_acceptInsert hslot hj)
    (shown_eq (h.sound.maker_acceptInsert hslot)) rfl
  rcases SharedHost.handle_give _ hopened' with ⟨-, -, rfl⟩ | hopened'
  · obtain rfl := Option.some.inj hn
    exact ⟨_, inserts_acceptInsert_next, .inl ⟨rfl, hruns⟩⟩
  · rcases SharedHost.handle_give _ hopened' with ⟨-, -, rfl⟩ | hopened'
    · obtain rfl := Option.some.inj hn
      exact ⟨_, inserts_acceptInsert_next, .inl ⟨rfl, hruns⟩⟩
    · obtain ⟨insert, hinsert, hsees⟩ := h.view.found use k opened' n hopened' hn
      exact ⟨insert, h.sound.inserts_acceptInsert hinsert, hsees⟩

omit [DecidableEq ι] in
/-- Nobody notices what else the host knows of an insert. -/
theorem Unseen.record {n : ℕ} {insert insert' : Insert ι} (hinsert : e.inserts n = some insert)
    (hclient : insert'.client = insert.client) (j : ι) : Unseen e (e.record n insert') j where
  toUnnoticed := .refl _ j
  inserts m x hx := by
    by_cases hm : m = n
    · subst hm
      obtain rfl := Option.some.inj (hinsert.symm.trans hx)
      exact ⟨insert', record_same .., hclient⟩
    · exact ⟨x, (record_of_ne _ hm _).trans hx, rfl⟩
  accepted _ _ _ hm := hm

omit [DecidableEq ι] in
/-- Nobody notices that an insert gets its item. -/
theorem Unseen.provide {key : List UInt8} {n : ℕ} {slot : Slot ι} {insert insert' : Insert ι}
    {j : ι} (hobliged : ∀ l, e.slot key ≠ .obliged j l) (hitem : slot.item = some n)
    (hinsert : e.inserts n = some insert) (hclient : insert'.client = insert.client) :
    Unseen e ((e.setSlot key slot).record n insert') j where
  toUnnoticed := SharedHost.Unnoticed.put slot hobliged
  inserts := (Unseen.record hinsert hclient j).inserts
  accepted k l m hm := by
    by_cases hk : k = key
    · subst hk
      rw [show ((e.setSlot k slot).record n insert').slot k = slot from setSlot_same ..] at hm
      rw [hm] at hitem
      cases hitem
    · exact (setSlot_of_ne e hk slot).symm.trans hm

omit [DecidableEq ι] in
theorem View.effect (hv : View e action none i s) (hlate : ¬ s.Early) (o : Option SimpleOutcome) :
    View e action o i s where
  toKnows := hv.toKnows
  took x hx := absurd (hv.took x hx) (by simp)
  early hs := absurd hs hlate
  offered := hv.offered
  found := hv.found_of_none rfl

omit [DecidableEq ι] in
/-- The outcome of an operation whose item was there. -/
theorem FitsAt.took_of_provided (h : FitsAt platform keys action e visitor p i s)
    {b n : ℕ} {opened : Opened} {insert : Insert ι} {bytes : List UInt8}
    (hopened : e.handle i .write b = some opened) (hn : opened.insert = some n)
    (hinsert : e.inserts n = some insert) (hoffer : s.op.offer = some bytes) :
    insert.client = i ∧ s.runs = 1 ∧ (insert.provided = true →
      p.took i = some (.returned (.ok (some bytes)) 1)) := by
  obtain ⟨insert', hinsert', hsees⟩ := h.view.found _ _ _ _ hopened hn
  obtain rfl := Option.some.inj (hinsert.symm.trans hinsert')
  obtain ⟨hclient, hruns⟩ := hsees.resolve_right fun hread => hread.1 rfl
  refine ⟨hclient, hruns, fun hprovided => ?_⟩
  obtain ⟨bytes', hoffer', htook⟩ := h.sound.provided n insert hinsert hprovided
  rw [hclient] at hoffer' htook
  rw [h.action_eq] at hoffer'
  obtain rfl := Option.some.inj (hoffer.symm.trans hoffer')
  exact htook

omit [DecidableEq ι] in
/-- An insert is finished whose item was there. -/
theorem Sound.finish {took : ι → Option SimpleOutcome} (h : Sound platform keys action e took)
    {n : ℕ} {insert : Insert ι} {bytes : List UInt8} (hinsert : e.inserts n = some insert)
    (hoffer : (action insert.client).offer = some bytes)
    (htook : took insert.client = some (.returned (.ok (some bytes)) 1)) :
    Sound platform keys action (e.record n (insert.finish bytes)) took :=
  h.record hinsert rfl rfl (fun _ => rfl) (fun _ => ⟨bytes, hoffer, htook⟩)
    fun _ hb => ⟨rfl, hoffer.trans hb⟩

/-- The insert is finished, and the item is there at least since then. -/
theorem FitsAt.finishes (h : FitsAt platform keys action e visitor p i s)
    (hinserted : s.phase = .inserted) {b n : ℕ} {opened : Opened} {insert : Insert ι}
    {bytes : List UInt8} (hopened : e.handle i .write b = some opened)
    (hn : opened.insert = some n) (hinsert : e.inserts n = some insert)
    (hoffer : s.op.offer = some bytes) (hopen : (e.slot opened.key).Open n)
    (hmoves : s.Moves c a (s.take (.ok (some bytes)))) :
    Goes platform keys action visitor p i c a
      ((e.setSlot opened.key (.complete n bytes)).record n (insert.finish bytes)) := by
  obtain ⟨hclient, hruns, htook⟩ := h.took_of_provided hopened hn hinsert hoffer
  have hoffer' : (action i).offer = some bytes := by rwa [h.action_eq]
  have hbegan : e.began i = true := h.view.began (by simp [hinserted])
  have hlate : ¬ s.Early := by simp [Caller.Early, hinserted]
  have hunseen : ∀ j, Unseen e
      ((e.setSlot opened.key (.complete n bytes)).record n (insert.finish bytes)) j := fun j =>
    .provide (hopen.not_obliged j) rfl hinsert rfl
  have hview := h.view.unseen (hunseen i)
  have hkey := h.view.key _ _ _ hopened
  have hshown : ((e.setSlot opened.key (.complete n bytes)).record n (insert.finish bytes)).shown
      action = Function.update (e.shown action) opened.key (some bytes) := by
    rw [shown_provide hinsert (insert.finish_client bytes) rfl, hclient, hoffer']
  cases hopen' : e.slot opened.key with
  | accepted j l m =>
      rw [hopen'] at hopen
      cases hopen
      obtain ⟨hnone, -, -, insert', hinsert', hj, -⟩ := h.sound.accepted _ j l n hopen'
      obtain rfl := Option.some.inj (hinsert.symm.trans hinsert')
      obtain rfl := hclient.symm.trans hj
      have hstep := FirstWriteMap.step_of_none_set (M := e.shown action) s.op
        (shown_of_none (by rw [← hkey, hopen']; rfl)) (SimpleOp.sets_of_offer hoffer)
      rw [hoffer] at hstep
      rw [hnone] at hview
      refine h.takes hmoves rfl hnone hstep (h.sound.provide hopen' hinsert
        (insert.finish_client bytes) rfl rfl hoffer' (fun _ hb => (Option.some.inj hb).symm) rfl)
        ?_ (fun k _ => hunseen k) ?_ rfl
      · exact (hview.effect hlate _).take hbegan (by rw [hruns])
      · rw [hshown, hkey]
  | provided m =>
      rw [hopen'] at hopen
      cases hopen
      have hitem : (e.slot opened.key).item = some n := by
        rw [hopen']
        rfl
      obtain ⟨insert', hinsert', hprovided, htags⟩ := h.sound.item _ _ hitem
      obtain rfl := Option.some.inj (hinsert.symm.trans hinsert')
      have hrecord := h.sound.finish hinsert (by rwa [hclient]) (by rw [hclient, htook hprovided])
      have hset : Sound platform keys action ((e.record n (insert.finish bytes)).setSlot opened.key
          (.complete n bytes)) p.took :=
        hrecord.setItem rfl (record_same ..) rfl htags (h.sound.within _ (by simp [hopen']))
      refine h.goes hmoves rfl hset ?_ (fun k _ => hunseen k) ?_ rfl
      · exact hview.take hbegan (by rw [htook hprovided, hruns])
      · rw [hshown]
        refine Function.update_eq_self_iff.mpr ?_
        simp [shown, maker, item, hitem, hinsert, hclient, hoffer']
  | _ =>
      rw [hopen'] at hopen
      cases hopen

/-- The insert is finished of an item that is gone. -/
theorem FitsAt.finishesGone (h : FitsAt platform keys action e visitor p i s)
    (hinserted : s.phase = .inserted) {b n : ℕ} {opened : Opened} {insert : Insert ι}
    {bytes : List UInt8} (hopened : e.handle i .write b = some opened)
    (hn : opened.insert = some n) (hinsert : e.inserts n = some insert)
    (hoffer : s.op.offer = some bytes) (hprovided : insert.provided = true)
    (hmoves : s.Moves c a (s.take (.ok (some bytes)))) :
    Goes platform keys action visitor p i c a (e.record n (insert.finish bytes)) := by
  obtain ⟨hclient, hruns, htook⟩ := h.took_of_provided hopened hn hinsert hoffer
  have hoffer' : (action i).offer = some bytes := by rwa [h.action_eq]
  have hunseen : ∀ j, Unseen e (e.record n (insert.finish bytes)) j :=
    .record hinsert (insert.finish_client bytes)
  refine h.goes hmoves rfl
    (h.sound.finish hinsert (by rwa [hclient]) (by rw [hclient, htook hprovided]))
    ((h.view.unseen (hunseen i)).take (h.view.began (by simp [hinserted]))
      (by rw [htook hprovided, hruns])) (fun k _ => hunseen k)
    (shown_eq (maker_record hinsert rfl)) rfl

/-! ## Purges -/

omit [DecidableEq ι] in
/-- A purge leaves a slot as it is, or empties it. -/
theorem slot_purge (e : ExpiringHost ι) (surrogateKey key : List UInt8) :
    (∃ insert, e.item key = some insert ∧ surrogateKey ∈ insert.tags) ∧
        (e.purge surrogateKey).slot key = .absent ∨
      (¬ ∃ insert, e.item key = some insert ∧ surrogateKey ∈ insert.tags) ∧
        (e.purge surrogateKey).slot key = e.slot key := by
  have hgone : ((e.item key).any fun insert => insert.tags.contains surrogateKey) = true ↔
      ∃ insert, e.item key = some insert ∧ surrogateKey ∈ insert.tags := by
    simp [Option.any_eq_true]
  by_cases h : (e.item key).any fun insert => insert.tags.contains surrogateKey
  · exact .inl ⟨hgone.mp h, if_pos h⟩
  · exact .inr ⟨mt hgone.mpr h, if_neg h⟩

omit [DecidableEq ι] in
theorem Sound.purge {took : ι → Option SimpleOutcome} (h : Sound platform keys action e took)
    (surrogateKey : List UInt8) : Sound platform keys action (e.purge surrogateKey) took :=
  h.slots rfl le_rfl fun key => by
    rcases slot_purge e surrogateKey key with ⟨-, habsent⟩ | ⟨-, hsame⟩
    · rw [habsent]
      exact .inr ⟨rfl, by simp, by simp⟩
    · exact .inl hsame

omit [DecidableEq ι] in
theorem Unseen.purge (e : ExpiringHost ι) (surrogateKey : List UInt8) (j : ι) :
    Unseen e (e.purge surrogateKey) j where
  handle := rfl
  began := rfl
  runs := rfl
  obliged key l hl := by
    rcases slot_purge e surrogateKey key with ⟨⟨insert, hitem, -⟩, -⟩ | ⟨-, hsame⟩
    · simp [item, hl, Slot.item] at hitem
    · rw [hsame, hl]
  inserts _ insert hinsert := ⟨insert, hinsert, rfl⟩
  accepted key l n hn := by
    rcases slot_purge e surrogateKey key with ⟨-, habsent⟩ | ⟨-, hsame⟩
    · rw [habsent] at hn
      cases hn
    · rwa [hsame] at hn

omit [DecidableEq ι] in
/-- The purge of a key deletes what the map has for it and nothing else. -/
theorem Sound.shown_purge {took : ι → Option SimpleOutcome}
    (h : Sound platform keys action e took) {key : List UInt8} (hkey : key ∈ keys)
    (hseparate : Separate platform keys)
    (hsha : Set.InjOn (fun bytes => (platform.sha256 bytes).1) (hashedFor platform keys))
    (scope : Simple.Scope) :
    (e.purge (Simple.surrogateKeyForCacheKey platform key scope)).shown action =
      Function.update (e.shown action) key none := by
  funext k
  cases hitem : (e.slot k).item with
  | none =>
      have hsame : (e.purge (Simple.surrogateKeyForCacheKey platform key scope)).slot k =
          e.slot k := by
        rcases slot_purge e _ k with ⟨⟨insert, hinsert, -⟩, -⟩ | ⟨-, hsame⟩
        · simp [ExpiringHost.item, hitem] at hinsert
        · exact hsame
      by_cases hk : k = key
      · subst hk
        rw [Function.update_self, shown_of_none (by rw [hsame, hitem])]
      · rw [Function.update_of_ne hk, shown_of_none (by rw [hsame, hitem]), shown_of_none hitem]
  | some n =>
      obtain ⟨insert, hinsert, -, htags⟩ := h.item k n hitem
      have hfound : e.item k = some insert := by
        rw [ExpiringHost.item, hitem]
        exact hinsert
      by_cases hk : k = key
      · subst hk
        have hmem : Simple.surrogateKeyForCacheKey platform k scope ∈ insert.tags := by
          rw [htags, Storage.entryTags]
          cases scope <;> simp
        rcases slot_purge e (Simple.surrogateKeyForCacheKey platform k scope) k with
          ⟨-, habsent⟩ | ⟨hkept, -⟩
        · rw [Function.update_self, shown_of_none (by rw [habsent]; rfl)]
        · exact absurd ⟨insert, hfound, hmem⟩ hkept
      · have hk' : k ∈ keys := h.within k fun habsent => by
          rw [habsent] at hitem
          cases hitem
        have hnotMem := mt (surrogateKey_mem_entryTags_iff platform (Ne.symm hk)
          (hsha.mono (involved_subset hkey hk')) scope).mp
          (hseparate.not_collides hkey hk' (Ne.symm hk) scope)
        rcases slot_purge e (Simple.surrogateKeyForCacheKey platform key scope) k with
          ⟨⟨insert', hfound', hmem⟩, -⟩ | ⟨-, hsame⟩
        · obtain rfl := Option.some.inj (hfound.symm.trans hfound')
          rw [htags] at hmem
          exact absurd hmem hnotMem
        · rw [Function.update_of_ne hk, shown, maker, ExpiringHost.item, hsame]
          rfl

/-- A purge that the host does takes effect. -/
theorem Fits.purges (h : Fits platform keys action e visitor p) {overload : KeyType}
    {key : List UInt8} {opts : Option Simple.PurgeOptions}
    (haction : action i = .purge overload key opts) (hnone : p.took i = none)
    (hfree : ∀ key l n, e.slot key ≠ .accepted i l n) (hkey : key ∈ keys)
    (hseparate : Separate platform keys)
    (hsha : Set.InjOn (fun bytes => (platform.sha256 bytes).1) (hashedFor platform keys))
    (hmoves : (visitor i).Moves c a (.purger key opts (some (.ok ())))) :
    Goes platform keys action visitor p i c a
      ((e.purge (Simple.surrogateKeyForCacheKey platform key (SimpleAction.scope opts))).rebase
        ((e.purge (Simple.surrogateKeyForCacheKey platform key
          (SimpleAction.scope opts))).begin i)) := by
  have hact : (e.shown action).act (action i) =
      (.purged (.ok ()), Function.update (e.shown action) key none) := by
    rw [haction]
    rfl
  refine h.takes hmoves hnone hact
    (((h.sound.effect hnone hfree _).purge _).of_slot rfl rfl)
    (.purged haction (Function.update_self ..) fun _ => rfl) (fun j hj => ?_)
    (h.sound.shown_purge hkey hseparate hsha _) rfl
  have hpurge := Unseen.purge e
    (Simple.surrogateKeyForCacheKey platform key (SimpleAction.scope opts)) j
  exact ⟨hpurge.toUnnoticed.trans (.begin _ hj), hpurge.inserts, hpurge.accepted⟩

/-! ## What happens without a call -/

omit [DecidableEq ι] in
/-- The write of an entry that the map does not have. -/
theorem act_of_offer {M : FirstWriteMap} {op : SimpleAction} {bytes : List UInt8}
    (h : op.offer = some bytes) (hnone : M op.key = none) :
    M.act op = (.returned (.ok (some bytes)) 1, Function.update M op.key (some bytes)) := by
  cases op with
  | purge overload key opts => cases h
  | call op =>
      have hkey : (SimpleAction.call op).key = op.key := by cases op <;> rfl
      rw [hkey] at hnone ⊢
      have hstep := FirstWriteMap.step_of_none_set op hnone (SimpleOp.sets_of_offer h)
      rw [show op.offer = some bytes from h] at hstep
      exact FirstWriteMap.act_call hstep

/-- An item can be found, and with that the operation of its maker takes effect. -/
theorem Fits.provides (h : Fits platform keys action e visitor p) {key : List UInt8} {l n : ℕ}
    {insert : Insert ι} (hslot : e.slot key = .accepted i l n)
    (hinsert : e.inserts n = some insert) :
    ∃ q, Fits platform keys action ((e.setSlot key (.provided n)).record n insert.provide)
      visitor q ∧ Happens FirstWriteMap.forgetting action p q := by
  obtain ⟨hnone, hkey, ⟨bytes, hoffer⟩, insert', hinsert', hi, -⟩ := h.sound.accepted _ _ _ _ hslot
  obtain rfl := Option.some.inj (hinsert.symm.trans hinsert')
  have hact := act_of_offer (M := e.shown action) hoffer
    (shown_of_none (by rw [hkey, hslot]; rfl))
  have hunseen : ∀ j, Unseen e ((e.setSlot key (.provided n)).record n insert.provide) j := fun j =>
    .provide (by simp [hslot]) rfl hinsert insert.provide_client
  refine ⟨⟨Function.update p.took i _, p.changes, _⟩,
    ⟨h.sound.provide hslot hinsert insert.provide_client rfl rfl hoffer (fun bytes' hb => ?_) rfl,
      fun j => ?_, ?_, h.changes⟩, h.happens hnone hact⟩
  · have hsame := (h.sound.bytes n insert bytes' hinsert hb).2
    rw [hi, hoffer] at hsame
    exact (Option.some.inj hsame).symm
  · by_cases hj : j = i
    · subst hj
      have hvisits := h.visits j
      rw [hnone] at hvisits
      dsimp only
      rw [Function.update_self]
      generalize visitor j = v at hvisits ⊢
      cases hvisits with
      | caller haction hview =>
          exact .caller haction ((hview.unseen (hunseen j)).effect
            (fun hs => (hview.early hs).2 _ _ _ hslot) _)
      | waiting haction _ hfree => exact absurd hslot (hfree _ _ _)
      | purged haction _ _ =>
          rw [haction] at hoffer
          cases hoffer
    · dsimp only
      rw [Function.update_of_ne hj]
      exact (h.visits j).unseen (hunseen j)
  · dsimp only
    rw [shown_provide hinsert insert.provide_client rfl, hi, hoffer, hkey]

/-- An item expires. -/
theorem Fits.expires (h : Fits platform keys action e visitor p) {key : List UInt8} {n : ℕ}
    (hitem : (e.slot key).item = some n) :
    ∃ q, Fits platform keys action
      { e.setSlot key .absent with expired := e.expired ++ [key] } visitor q ∧
      Happens FirstWriteMap.forgetting action p q := by
  refine ⟨⟨p.took, p.changes ++ [key], Function.update p.state key none⟩,
    ⟨(h.sound.remove key).slots rfl le_rfl fun _ => .inl rfl, fun j => ?_, ?_, ?_⟩, .change p key⟩
  · refine (h.visits j).unseen ⟨SharedHost.Unnoticed.put _ fun l hl => ?_,
      fun _ insert hinsert => ⟨insert, hinsert, rfl⟩, fun k l m hm => ?_⟩
    · rw [hl] at hitem
      cases hitem
    · change (e.setSlot key .absent).slot k = _ at hm
      by_cases hk : k = key
      · rw [hk, setSlot_same] at hm
        cases hm
      · rwa [setSlot_of_ne e hk] at hm
  · change Function.update p.state key none = (e.setSlot key .absent).shown action
    rw [h.state]
    funext k
    by_cases hk : k = key
    · subst hk
      rw [Function.update_self, shown_of_none (by rw [setSlot_same]; rfl)]
    · rw [Function.update_of_ne hk, shown, shown, maker, maker, item, item, setSlot_of_ne e hk]
      rfl
  · exact congrArg (· ++ [key]) h.changes

end ExpiringHost

end ComputeSdk
