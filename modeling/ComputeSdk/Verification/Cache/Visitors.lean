import ComputeSdk.Verification.Cache.ExpiringHost

/-! # What the clients know of a host whose items expire

A call takes effect where the item that it finds or sets can be found. It may have returned long
after that, and the item may be gone by then. -/

namespace ComputeSdk

open Shared

/-- The map with deletion, in which entries also get lost. -/
def FirstWriteMap.forgetting : Changing FirstWriteMap SimpleAction SimpleOutcome (List UInt8) :=
  ⟨FirstWriteMap.act, fun M key => Function.update M key none⟩

theorem FirstWriteMap.act_call {M M' : FirstWriteMap} {op : SimpleOp}
    {result : Except Simple.CacheError (Option (List UInt8))} {n : ℕ}
    (h : M.step op = ((result, n), M')) : M.act (.call op) = (.returned result n, M') := by
  rw [act, h]

/-- The operation cannot have taken effect yet. -/
def Caller.Early (s : Caller) : Prop :=
  s.phase = .new ∨ s.phase = .looked ∧ Region.Obliges s.state ∨ s.phase = .running ∨ s.phase = .ran

namespace ExpiringHost

variable {ι : Type}

/-- The client whose insert made the item. -/
def maker (e : ExpiringHost ι) (key : List UInt8) : Option ι := (e.item key).map Insert.client

/-- What a map has that is set by the makers of the items. -/
def shown (e : ExpiringHost ι) (action : ι → SimpleAction) : FirstWriteMap := fun key =>
  (e.maker key).bind fun i => (action i).offer

/-- Client `i` has made this insert, or found the item of it. -/
def Sees (action : ι → SimpleAction) (o : Option SimpleOutcome) (i : ι) (s : Caller)
    (use : HandleUse) (insert : Insert ι) : Prop :=
  insert.client = i ∧ s.runs = 1 ∨
    use ≠ .write ∧ ∃ bytes, (action insert.client).offer = some bytes ∧
      o = some (.returned (.ok (some bytes)) s.runs)

/-- The view of client `i` is right, whose operation took effect with this outcome. -/
structure View (e : ExpiringHost ι) (action : ι → SimpleAction) (o : Option SimpleOutcome)
    (i : ι) (s : Caller) : Prop extends e.toSharedHost.Knows i s where
  took : ∀ x, s.took = some x → o = some (.returned x.1 x.2)
  early : s.Early → o = none ∧ ∀ key h n, e.slot key ≠ .accepted i h n
  offered : s.phase = .ran ∨ s.phase = .inserted → s.op.offer.isSome
  found : ∀ use h opened n, e.handle i use h = some opened → opened.insert = some n →
    ∃ insert, e.inserts n = some insert ∧ Sees action o i s use insert

/-- The same for one that may also purge. -/
inductive Visits (e : ExpiringHost ι) (action : ι → SimpleAction) (o : Option SimpleOutcome)
    (i : ι) : Visitor → Prop where
  | caller {s : Caller} (haction : action i = .call s.op) (hview : View e action o i s) :
      Visits e action o i (.caller s.op.key s)
  | waiting {overload : KeyType} {key : List UInt8} {opts : Option Simple.PurgeOptions}
      (haction : action i = .purge overload key opts) (hnone : o = none)
      (hfree : ∀ key h n, e.slot key ≠ .accepted i h n) :
      Visits e action o i (.purger key opts none)
  | purged {overload : KeyType} {key : List UInt8} {opts : Option Simple.PurgeOptions}
      {result : Except Simple.CacheError Unit} (haction : action i = .purge overload key opts)
      (hbegan : e.began i = true) (htook : result = .ok () → o = some (.purged result)) :
      Visits e action o i (.purger key opts (some result))

/-- What holds of the items and the inserts. -/
structure Sound (platform : Platform) (keys : Set (List UInt8)) (action : ι → SimpleAction)
    (e : ExpiringHost ι) (took : ι → Option SimpleOutcome) : Prop where
  number : ∀ n insert, e.inserts n = some insert → n < e.next
  provided : ∀ n insert, e.inserts n = some insert → insert.provided = true →
    ∃ bytes, (action insert.client).offer = some bytes ∧
      took insert.client = some (.returned (.ok (some bytes)) 1)
  bytes : ∀ n insert bytes, e.inserts n = some insert → insert.bytes = some bytes →
    insert.provided = true ∧ (action insert.client).offer = some bytes
  item : ∀ key n, (e.slot key).item = some n → ∃ insert, e.inserts n = some insert ∧
    insert.provided = true ∧ insert.tags = Storage.entryTags platform key
  accepted : ∀ key i h n, e.slot key = .accepted i h n → took i = none ∧ (action i).key = key ∧
    (∃ bytes, (action i).offer = some bytes) ∧
    ∃ insert, e.inserts n = some insert ∧ insert.client = i ∧
      insert.tags = Storage.entryTags platform key
  within : ∀ key, e.slot key ≠ .absent → key ∈ keys

/-- The host, the clients and what happened agree. -/
structure Fits (platform : Platform) (keys : Set (List UInt8)) (action : ι → SimpleAction)
    (e : ExpiringHost ι) (s : ι → Visitor)
    (p : Past ι FirstWriteMap SimpleOutcome (List UInt8)) : Prop where
  sound : Sound platform keys action e p.took
  visits : ∀ i, Visits e action (p.took i) i (s i)
  state : p.state = e.shown action
  changes : p.changes = e.expired

/-! ## What others do -/

/-- Client `j` does not notice what others do. -/
structure Unseen (e e' : ExpiringHost ι) (j : ι) : Prop
    extends e.toSharedHost.Unnoticed e'.toSharedHost j where
  inserts : ∀ n insert, e.inserts n = some insert →
    ∃ insert', e'.inserts n = some insert' ∧ insert'.client = insert.client
  accepted : ∀ key h n, e'.slot key = .accepted j h n → e.slot key = .accepted j h n

variable {platform : Platform} {keys : Set (List UInt8)} {action : ι → SimpleAction}
  {e e' : ExpiringHost ι} {i j : ι} {s : Caller} {took : ι → Option SimpleOutcome}
  {o : Option SimpleOutcome} {v : Visitor}

theorem View.unseen (hv : View e action o j s) (hu : Unseen e e' j) : View e' action o j s where
  toKnows := hv.toKnows.frame hu.toUnnoticed
  took := hv.took
  early hs := ⟨(hv.early hs).1,
    fun key h n hslot => (hv.early hs).2 key h n (hu.accepted _ _ _ hslot)⟩
  offered := hv.offered
  found use h opened n hopened hn := by
    obtain ⟨insert, hinsert, hsees⟩ :=
      hv.found use h opened n (by rwa [hu.handle] at hopened) hn
    obtain ⟨insert', hinsert', hclient⟩ := hu.inserts n insert hinsert
    refine ⟨insert', hinsert', ?_⟩
    rw [Sees, hclient]
    exact hsees

theorem Visits.unseen (hv : Visits e action o j v) (hu : Unseen e e' j) :
    Visits e' action o j v := by
  cases hv with
  | caller haction hview => exact .caller haction (hview.unseen hu)
  | waiting haction hnone hfree =>
      exact .waiting haction hnone fun key h n hslot => hfree key h n (hu.accepted _ _ _ hslot)
  | purged haction hbegan htook => exact .purged haction (hu.began.trans hbegan) htook

/-! ## What holds of the items -/

/-- Slots are emptied or get an obligation, and nothing else happens. -/
theorem Sound.slots (h : Sound platform keys action e took) (hinserts : e'.inserts = e.inserts)
    (hnext : e.next ≤ e'.next)
    (hslot : ∀ key, e'.slot key = e.slot key ∨ (e'.slot key).item = none ∧
      (∀ i h n, e'.slot key ≠ .accepted i h n) ∧ (e'.slot key ≠ .absent → key ∈ keys)) :
    Sound platform keys action e' took where
  number n insert hn := (h.number n insert (by rwa [← hinserts])).trans_le hnext
  provided n insert hn := h.provided n insert (by rwa [← hinserts])
  bytes n insert bytes hn := h.bytes n insert bytes (by rwa [← hinserts])
  item key n hn := by
    rcases hslot key with hsame | ⟨hnone, -⟩
    · rw [hsame] at hn
      rw [hinserts]
      exact h.item key n hn
    · rw [hnone] at hn
      cases hn
  accepted key i k n hn := by
    rcases hslot key with hsame | ⟨-, hfree, -⟩
    · rw [hsame] at hn
      rw [hinserts]
      exact h.accepted key i k n hn
    · exact absurd hn (hfree i k n)
  within key hn := by
    rcases hslot key with hsame | ⟨-, -, hkey⟩
    · exact h.within key (by rwa [← hsame])
    · exact hkey hn

theorem Sound.remove (h : Sound platform keys action e took) (key : List UInt8) :
    Sound platform keys action (e.setSlot key .absent) took :=
  h.slots rfl le_rfl fun k => by
    by_cases hk : k = key
    · subst hk
      rw [setSlot_same]
      exact .inr ⟨rfl, by simp, by simp⟩
    · exact .inl (setSlot_of_ne e hk _)

/-- What a client knows of an insert that it did not make has taken effect. -/
theorem Sees.of_none {use : HandleUse} {insert : Insert ι} (h : Sees action none i s use insert) :
    insert.client = i ∧ s.runs = 1 := by
  rcases h with h | ⟨-, bytes, -, h⟩
  · exact h
  · cases h

/-- Another slot is put, and the insert is recorded whose item is in it. -/
theorem Sound.setItem (h : Sound platform keys action e took) {key : List UInt8} {n : ℕ}
    {slot : Slot ι} {insert : Insert ι} (hitem : slot.item = some n)
    (hinsert : e.inserts n = some insert) (hprovided : insert.provided = true)
    (htags : insert.tags = Storage.entryTags platform key) (hkey : key ∈ keys) :
    Sound platform keys action (e.setSlot key slot) took where
  number := h.number
  provided := h.provided
  bytes := h.bytes
  item k m hm := by
    by_cases hk : k = key
    · subst hk
      rw [setSlot_same, hitem] at hm
      obtain rfl := Option.some.inj hm
      exact ⟨insert, hinsert, hprovided, htags⟩
    · rw [setSlot_of_ne e hk] at hm
      exact h.item k m hm
  accepted k j l m hm := by
    by_cases hk : k = key
    · subst hk
      rw [setSlot_same] at hm
      rw [hm] at hitem
      cases hitem
    · rw [setSlot_of_ne e hk] at hm
      exact h.accepted k j l m hm
  within k hk := by
    by_cases hsame : k = key
    · rwa [hsame]
    · rw [setSlot_of_ne e hsame] at hk
      exact h.within k hk

/-- More is known of an insert. -/
theorem Sound.record (h : Sound platform keys action e took) {n : ℕ} {insert insert' : Insert ι}
    (hinsert : e.inserts n = some insert) (hclient : insert'.client = insert.client)
    (htags : insert'.tags = insert.tags)
    (hprovided : insert.provided = true → insert'.provided = true)
    (htook : insert'.provided = true → ∃ bytes, (action insert.client).offer = some bytes ∧
      took insert.client = some (.returned (.ok (some bytes)) 1))
    (hbytes : ∀ bytes, insert'.bytes = some bytes → insert'.provided = true ∧
      (action insert.client).offer = some bytes) :
    Sound platform keys action (e.record n insert') took := by
  have hsame : ∀ m x, (e.record n insert').inserts m = some x →
      m = n ∧ x = insert' ∨ e.inserts m = some x := by
    intro m x hx
    by_cases hm : m = n
    · subst hm
      rw [record_same] at hx
      exact .inl ⟨rfl, (Option.some.inj hx).symm⟩
    · exact .inr (by rwa [record_of_ne e hm] at hx)
  have hfind : ∀ m x, e.inserts m = some x → ∃ x', (e.record n insert').inserts m = some x' ∧
      x'.client = x.client ∧ x'.tags = x.tags ∧ (x.provided = true → x'.provided = true) := by
    intro m x hx
    by_cases hm : m = n
    · subst hm
      obtain rfl := Option.some.inj (hinsert.symm.trans hx)
      exact ⟨insert', record_same .., hclient, htags, hprovided⟩
    · exact ⟨x, (record_of_ne e hm _).trans hx, rfl, rfl, id⟩
  refine ⟨fun m x hx => ?_, fun m x hx => ?_, fun m x bytes hx => ?_, fun key m hm => ?_,
    fun key j l m hm => ?_, h.within⟩
  · rcases hsame m x hx with ⟨rfl, -⟩ | hx
    · exact h.number m insert hinsert
    · exact h.number m x hx
  · rcases hsame m x hx with ⟨-, rfl⟩ | hx
    · rw [hclient]
      exact htook
    · exact h.provided m x hx
  · rcases hsame m x hx with ⟨-, rfl⟩ | hx
    · rw [hclient]
      exact hbytes bytes
    · exact h.bytes m x bytes hx
  · obtain ⟨x, hx, hprovided, htags⟩ := h.item key m hm
    obtain ⟨x', hx', -, htags', hprovided'⟩ := hfind m x hx
    exact ⟨x', hx', hprovided' hprovided, htags'.trans htags⟩
  · obtain ⟨hnone, hkey, hoffer, x, hx, hj, htags⟩ := h.accepted key j l m hm
    obtain ⟨x', hx', hclient', htags', -⟩ := hfind m x hx
    exact ⟨hnone, hkey, hoffer, x', hx', hclient'.trans hj, htags'.trans htags⟩

/-! ## What the map has -/

theorem shown_eq (h : ∀ key, e'.maker key = e.maker key) : e'.shown action = e.shown action := by
  funext key
  rw [shown, h key, shown]

/-- The slots change and no item with them. -/
theorem maker_eq (hitem : ∀ key, (e'.slot key).item = (e.slot key).item)
    (hinserts : e'.inserts = e.inserts) (key : List UInt8) : e'.maker key = e.maker key := by
  rw [maker, item, hitem, hinserts]
  rfl

theorem maker_record {n : ℕ} {insert insert' : Insert ι} (hinsert : e.inserts n = some insert)
    (hclient : insert'.client = insert.client) (key : List UInt8) :
    (e.record n insert').maker key = e.maker key := by
  rw [maker, maker, item, item]
  cases hitem : (e.slot key).item with
  | none => simp [ExpiringHost.record, hitem]
  | some m =>
      by_cases hm : m = n
      · subst hm
        simp [ExpiringHost.record, hitem, hinsert, hclient]
      · simp [ExpiringHost.record, hitem, hm]

/-- The item of an insert can be found. -/
theorem shown_provide {key : List UInt8} {n : ℕ} {insert insert' : Insert ι}
    (hinsert : e.inserts n = some insert) (hclient : insert'.client = insert.client)
    {slot : Slot ι} (hitem : slot.item = some n) :
    ((e.setSlot key slot).record n insert').shown action =
      Function.update (e.shown action) key (action insert.client).offer := by
  have hrecord : ((e.setSlot key slot).record n insert').shown action =
      (e.setSlot key slot).shown action := shown_eq (maker_record hinsert hclient)
  rw [hrecord]
  funext k
  by_cases hk : k = key
  · subst hk
    have hfound : (e.setSlot k slot).inserts n = some insert := hinsert
    simp [shown, maker, item, setSlot_same, hitem, hfound]
  · have hother : (e.setSlot key slot).inserts = e.inserts := rfl
    simp [shown, maker, item, setSlot_of_ne e hk, hother, hk]

/-- What a lookup finds is what the map has. -/
theorem Sound.shown_item (h : Sound platform keys action e took) {key : List UInt8} {n : ℕ}
    (hitem : (e.slot key).item = some n) :
    ∃ insert bytes, e.inserts n = some insert ∧ (action insert.client).offer = some bytes ∧
      e.shown action key = some bytes := by
  obtain ⟨insert, hinsert, hprovided, -⟩ := h.item key n hitem
  obtain ⟨bytes, hoffer, -⟩ := h.provided n insert hinsert hprovided
  refine ⟨insert, bytes, hinsert, hoffer, ?_⟩
  simp [shown, maker, ExpiringHost.item, hitem, hinsert, hoffer]

theorem shown_of_none {key : List UInt8} (hitem : (e.slot key).item = none) :
    e.shown action key = none := by
  simp [shown, maker, item, hitem]

/-! ## Changes of the host -/

variable [DecidableEq ι]

/-- The operation of a client takes effect that has no accepted insert. -/
theorem Sound.effect (h : Sound platform keys action e took) (hnone : took i = none)
    (hfree : ∀ key h n, e.slot key ≠ .accepted i h n) (o : SimpleOutcome) :
    Sound platform keys action e (Function.update took i (some o)) where
  number := h.number
  provided n insert hn hprovided := by
    obtain ⟨bytes, hoffer, htook⟩ := h.provided n insert hn hprovided
    have hne : insert.client ≠ i := by
      rintro rfl
      rw [hnone] at htook
      cases htook
    exact ⟨bytes, hoffer, by rw [Function.update_of_ne hne, htook]⟩
  bytes := h.bytes
  item := h.item
  accepted key j k n hn := by
    have hne : j ≠ i := by
      rintro rfl
      exact hfree key k n hn
    rw [Function.update_of_ne hne]
    exact h.accepted key j k n hn
  within := h.within

/-- The item of an accepted insert can be found, and with that its operation takes effect. -/
theorem Sound.provide (h : Sound platform keys action e took) {key : List UInt8} {l n : ℕ}
    {insert insert' : Insert ι} {bytes : List UInt8} (hslot : e.slot key = .accepted i l n)
    (hinsert : e.inserts n = some insert) (hclient : insert'.client = insert.client)
    (htags : insert'.tags = insert.tags) (hprovided : insert'.provided = true)
    (hoffer : (action i).offer = some bytes)
    (hbytes : ∀ bytes', insert'.bytes = some bytes' → bytes' = bytes) {slot : Slot ι}
    (hitem : slot.item = some n) :
    Sound platform keys action ((e.setSlot key slot).record n insert')
      (Function.update took i (some (.returned (.ok (some bytes)) 1))) := by
  obtain ⟨hnone, hkey, -, x, hx, hi, hx'⟩ := h.accepted key i l n hslot
  obtain rfl := Option.some.inj (hinsert.symm.trans hx)
  -- the obligation ends before the item is there
  have heffect := (h.remove key).effect (i := i) hnone (fun k l' m hm => by
    by_cases hk : k = key
    · subst hk
      rw [setSlot_same] at hm
      cases hm
    · rw [setSlot_of_ne e hk] at hm
      exact hk ((h.accepted k i l' m hm).2.1.symm.trans hkey)) (.returned (.ok (some bytes)) 1)
  have hrecord := heffect.record hinsert hclient htags (fun _ => hprovided)
    (fun _ => ⟨bytes, by rw [hi, hoffer], by rw [hi, Function.update_self]⟩)
    (fun bytes' hb => ⟨hprovided, by rw [hi, hoffer, hbytes bytes' hb]⟩)
  have hset := hrecord.setItem hitem (record_same ..) hprovided (htags.trans hx')
    (h.within key (by simp [hslot]))
  have hsame : ((e.setSlot key .absent).record n insert').setSlot key slot =
      (e.setSlot key slot).record n insert' := by
    simp [setSlot, rebase, ExpiringHost.record, SharedHost.put]
  rwa [hsame] at hset

/-! ## Accepted inserts -/

section

variable {l b l' n : ℕ} {key : List UInt8} {state : UInt32} {tags : List (List UInt8)}
  {insert : Insert ι}

theorem slot_acceptInsert (k : List UInt8) :
    (e.acceptInsert i l b l' key state tags).slot k =
      if k = key then .accepted i l e.next else e.slot k :=
  Function.update_apply ..

theorem inserts_acceptInsert_next :
    (e.acceptInsert i l b l' key state tags).inserts e.next =
      some { client := i, tags := tags } :=
  Function.update_self ..

/-- The number of an accepted insert is a new one. -/
theorem Sound.inserts_acceptInsert (h : Sound platform keys action e took)
    (hinsert : e.inserts n = some insert) :
    (e.acceptInsert i l b l' key state tags).inserts n = some insert :=
  (Function.update_of_ne (h.number n insert hinsert).ne ..).trans hinsert

theorem inserts_of_acceptInsert
    (hinsert : (e.acceptInsert i l b l' key state tags).inserts n = some insert) :
    n = e.next ∧ insert = { client := i, tags := tags } ∨ e.inserts n = some insert := by
  by_cases hn : n = e.next
  · subst hn
    exact .inl ⟨rfl, (Option.some.inj (inserts_acceptInsert_next.symm.trans hinsert)).symm⟩
  · exact .inr ((Function.update_of_ne hn ..).symm.trans hinsert)

/-- The host accepts an insert. -/
theorem Sound.accept (h : Sound platform keys action e took) (hslot : e.slot key = .obliged i l)
    (hnone : took i = none) (hkey : (action i).key = key) (hoffer : (action i).offer.isSome)
    (b l' : ℕ) (state : UInt32) :
    Sound platform keys action
      (e.acceptInsert i l b l' key state (Storage.entryTags platform key)) took := by
  refine ⟨fun n x hx => ?_, fun n x hx => ?_, fun n x bytes hx => ?_, fun k n hn => ?_,
    fun k j m n hn => ?_, fun k hk => ?_⟩
  · change n < e.next + 1
    rcases inserts_of_acceptInsert hx with ⟨rfl, -⟩ | hx
    · exact Nat.lt_succ_self _
    · exact (h.number n x hx).trans (Nat.lt_succ_self _)
  · rcases inserts_of_acceptInsert hx with ⟨-, rfl⟩ | hx
    · exact fun hprovided => by cases hprovided
    · exact h.provided n x hx
  · rcases inserts_of_acceptInsert hx with ⟨-, rfl⟩ | hx
    · exact fun hb => by cases hb
    · exact h.bytes n x bytes hx
  · rw [slot_acceptInsert] at hn
    split at hn
    · cases hn
    · obtain ⟨x, hx, hprovided, htags⟩ := h.item k n hn
      exact ⟨x, h.inserts_acceptInsert hx, hprovided, htags⟩
  · rw [slot_acceptInsert] at hn
    split at hn
    · rename_i hk
      subst hk
      cases hn
      exact ⟨hnone, hkey, Option.isSome_iff_exists.mp hoffer, _, inserts_acceptInsert_next, rfl,
        rfl⟩
    · obtain ⟨hnone', hkey', hoffer', x, hx, hj, htags⟩ := h.accepted k j m n hn
      exact ⟨hnone', hkey', hoffer', x, h.inserts_acceptInsert hx, hj, htags⟩
  · rw [slot_acceptInsert] at hk
    split at hk
    · rename_i hsame
      rw [hsame]
      exact h.within key (by simp [hslot])
    · exact h.within k hk

/-- Nobody finds the item of an insert that is only accepted. -/
theorem Sound.maker_acceptInsert (h : Sound platform keys action e took)
    (hslot : e.slot key = .obliged i l) (k : List UInt8) :
    (e.acceptInsert i l b l' key state tags).maker k = e.maker k := by
  rw [maker, maker, ExpiringHost.item, ExpiringHost.item, slot_acceptInsert]
  by_cases hk : k = key
  · rw [if_pos hk, hk, hslot]
    rfl
  · rw [if_neg hk]
    cases hitem : (e.slot k).item with
    | none => rfl
    | some n =>
        obtain ⟨insert, hinsert, -⟩ := h.item k n hitem
        simp [hinsert, h.inserts_acceptInsert hinsert]

/-- Others do not notice an insert that the host accepts. -/
theorem Sound.unseen_acceptInsert (h : Sound platform keys action e took)
    (hslot : e.slot key = .obliged i l) (hne : j ≠ i) :
    Unseen e (e.acceptInsert i l b l' key state tags) j where
  toUnnoticed := .accept hslot b l' state hne
  inserts _ insert hinsert := ⟨insert, h.inserts_acceptInsert hinsert, rfl⟩
  accepted k m n hn := by
    rw [slot_acceptInsert] at hn
    split at hn
    · cases hn
      exact absurd rfl hne
    · exact hn

end

end ExpiringHost

end ComputeSdk
