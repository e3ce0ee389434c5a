import ComputeSdk.Verification.Cache.Rules

/-! # Usable items

What a lookup finds against what it may serve. A host tells them apart by two flags, and the
lookup tests one of them. -/

namespace ComputeSdk

open Shared Guest ComputeSdk.Core

/-! ## Hosts that store items -/

/-- An item as it is at some moment, with times in nanoseconds. -/
structure StoredItem where
  age : ℕ
  maxAge : ℕ
  staleWhileRevalidate : ℕ

/-- An item of which the age is less than the sum of the two. -/
def StoredItem.Usable (item : StoredItem) : Prop :=
  item.age < item.maxAge + item.staleWhileRevalidate

instance (item : StoredItem) : Decidable item.Usable := inferInstanceAs (Decidable (_ < _))

/-- A host with states of `σ`, where `item` is what a handle stands for in a state. Any call
may fail, and may change the state. -/
structure ItemHost (σ : Type) where
  handle : σ → (c : HostCall) → c.Answer × σ
  item : σ → ℕ → Option StoredItem
  found_iff : ∀ s h state, (handle s (.cacheGetState h)).1 = .ok state →
    (state &&& CacheLookupState.found ≠ 0 ↔ (item s h).isSome)
  usable_iff : ∀ s h state, (handle s (.cacheGetState h)).1 = .ok state →
    (state &&& CacheLookupState.usable ≠ 0 ↔ ∃ i, item s h = some i ∧ i.Usable)

namespace ItemHost

variable {σ : Type} (host : ItemHost σ)

/-- The handle and the state of the host at the moment that a lookup asks what it found. -/
def moment (s : σ) (b : LookupBuilder) : Option (ℕ × σ) :=
  match host.handle s (.cacheLookup b.key b.options.asAbi.2 b.options.asAbi.1) with
  | (.error _, _) => none
  | (.ok h, s) =>
    match host.handle s (.cacheGetState h) with
    | (.error _, _) => none
    | (.ok _, s) =>
      match (host.handle s (.cacheGetState h)).1 with
      | .error _ => none
      | .ok _ => some (h, s)

/-- The item that the lookup is about, at that moment. -/
def looked (s : σ) (b : LookupBuilder) : Option StoredItem :=
  (host.moment s b).bind fun m => host.item m.2 m.1

/-- A computation over a lookup serves something only if its item is usable, and nothing if
the item is not. -/
structure ServesUsable {ε α : Type} (x : Guest (Except ε (Option α))) (b : LookupBuilder)
    (H : RefHeap HandleObject) (s : σ) : Prop where
  served : ∀ a H' t, (x.run H).run host.handle s = (.ok (.ok (some a), H'), t) →
    ∃ i, host.looked s b = some i ∧ i.Usable
  refused : ∀ i, host.looked s b = some i → ¬ i.Usable →
    ∃ H' t, (x.run H).run host.handle s = (.ok (.ok none, H'), t)

/-! ## The lookup -/

variable {host} {s t : σ} {b : LookupBuilder} {H : RefHeap HandleObject}

theorem run_host {c : HostCall} {a : c.Answer} (h : host.handle s c = (a, t)) :
    ((Guest.host c).run H).run host.handle s = (.ok (a, H), t) := by
  change (Except.ok ((host.handle s c).1, H), (host.handle s c).2) = _
  rw [h]

/-- A lookup that the host answers returns an object exactly if an item is stored. Another
one returns an error. -/
theorem execute_cases (host : ItemHost σ) (b : LookupBuilder) (H : RefHeap HandleObject) (s : σ) :
    (∃ h s' r H' t, host.moment s b = some (h, s') ∧
      (b.execute.run H).run host.handle s = (.ok (.ok r, H'), t) ∧
      r.isSome = (host.item s' h).isSome) ∨
    (host.moment s b = none ∧
      ∃ e H' t, (b.execute.run H).run host.handle s = (.ok (.error e, H'), t)) := by
  unfold moment LookupBuilder.execute
  cases hlookup : host.handle s (.cacheLookup b.key b.options.asAbi.2 b.options.asAbi.1) with
  | mk answer s₁ =>
  cases answer with
  | error status => exact .inr ⟨rfl, _, _, _, run_cacheTry_error (run_host hlookup)⟩
  | ok h =>
  simp only [run_cacheTry_ok (run_host hlookup)]
  cases hwait : host.handle s₁ (.cacheGetState h) with
  | mk answer s₂ =>
  cases answer with
  | error status => exact .inr ⟨rfl, _, _, _, run_cacheTry_error (run_host hwait)⟩
  | ok state =>
  simp only [run_cacheTry_ok (run_host hwait)]
  cases hstate : host.handle s₂ (.cacheGetState h) with
  | mk answer s₃ =>
  cases answer with
  | error status => exact .inr ⟨rfl, _, _, _, run_cacheTry_error (run_host hstate)⟩
  | ok state =>
  simp only [run_cacheTry_ok (run_host hstate)]
  have hfound := host.found_iff s₂ h state (congrArg Prod.fst hstate)
  by_cases hflag : state &&& CacheLookupState.found ≠ 0
  · rw [if_pos hflag]
    exact .inl ⟨h, s₂, _, _, _, rfl, rfl, (hfound.mp hflag).symm⟩
  · rw [if_neg hflag]
    refine .inl ⟨h, s₂, none, H, s₃, rfl, rfl, ?_⟩
    rw [Option.isSome_none, Bool.eq_false_iff.mpr (mt hfound.mpr hflag)]

theorem looked_of_moment {h : ℕ} {s' : σ} (hm : host.moment s b = some (h, s')) :
    host.looked s b = host.item s' h := by
  rw [looked, hm]
  rfl

theorem looked_of_no_moment (hm : host.moment s b = none) : host.looked s b = none := by
  rw [looked, hm]
  rfl

/-- A computation that serves something exactly where the lookup returns an object serves
only usable items exactly if the item, if there is one, is usable. -/
theorem servesUsable_iff {ε α : Type} {x : Guest (Except ε (Option α))}
    (hsome : ∀ a H' t, (x.run H).run host.handle s = (.ok (.ok (some a), H'), t) →
      ∃ found H' t, (b.execute.run H).run host.handle s = (.ok (.ok (some found), H'), t))
    (hnone : ∀ H' t, (x.run H).run host.handle s = (.ok (.ok none, H'), t) →
      ∃ H' t, (b.execute.run H).run host.handle s = (.ok (.ok none, H'), t)) :
    host.ServesUsable x b H s ↔ ∀ i, host.looked s b = some i → i.Usable := by
  rcases host.execute_cases b H s with ⟨h, s', r, H', t, hm, hrun, hr⟩ | ⟨hm, e, H', t, hrun⟩
  · rw [← looked_of_moment hm] at hr
    constructor
    · intro hserves i hi
      by_contra hnot
      obtain ⟨H₁, t₁, hx⟩ := hserves.refused i hi hnot
      obtain ⟨H₂, t₂, hx⟩ := hnone H₁ t₁ hx
      rw [hrun] at hx
      cases hx
      rw [hi] at hr
      cases hr
    · refine fun hall => ⟨fun a H₁ t₁ hx => ?_, fun i hi hnot => absurd (hall i hi) hnot⟩
      obtain ⟨found, H₂, t₂, hx⟩ := hsome a H₁ t₁ hx
      rw [hrun] at hx
      cases hx
      obtain ⟨i, hi⟩ := Option.isSome_iff_exists.mp hr.symm
      exact ⟨i, hi, hall i hi⟩
  · refine iff_of_true ⟨fun a H₁ t₁ hx => ?_, fun i hi => ?_⟩ fun i hi => ?_
    · obtain ⟨found, H₂, t₂, hx⟩ := hsome a H₁ t₁ hx
      rw [hrun] at hx
      cases hx
    · rw [looked_of_no_moment hm] at hi
      cases hi
    · rw [looked_of_no_moment hm] at hi
      cases hi

/-! ## The simple cache -/

/-- What `get` does with an object ends with its body or with an error. -/
theorem follows_found {handle : σ → (c : HostCall) → c.Answer × σ} (found : Found)
    (H : RefHeap HandleObject) (s : σ) :
    Follows (.ofHandler handle) (fun _ => True)
      (fun (r : Except Simple.CacheError (Option Body)) _ _ => r ≠ .ok none)
      (do
        found.copy
        Simple.readBack found fun result => do
          found.destroy
          found.destroy
          pure result) H s := by
  refine follows_after fun _ H s => follows_after fun streamResult H s => ?_
  cases streamResult with
  | error err =>
      refine follows_bind (follows_pure ?_)
      exact follows_after fun _ H s => follows_after fun _ H s => follows_pure (by simp)
  | ok stream =>
      refine follows_after fun body H s => follows_bind (follows_pure ?_)
      exact follows_after fun _ H s => follows_after fun _ H s => follows_pure (by simp)

/-- Where `get` brings a body or none, so did the lookup an object. -/
theorem exists_execute_of_get {key : List UInt8} {body : Option Body}
    {H' : RefHeap HandleObject}
    (h : ((Simple.get key).run H).run host.handle s = (.ok (.ok body, H'), t)) :
    ∃ found H' t, ((lookup key).execute.run H).run host.handle s = (.ok (.ok found, H'), t) ∧
      found.isSome = body.isSome := by
  rw [Simple.get, Guest.run_bind] at h
  rcases host.execute_cases (lookup key) H s with
      ⟨-, s', found, H₁, t₁, -, hrun, -⟩ | ⟨-, e, H₁, t₁, hrun⟩
  · rw [Prog.run_bind_of_ok _ _ hrun] at h
    refine ⟨found, H₁, t₁, hrun, ?_⟩
    cases found with
    | none =>
        cases h
        rfl
    | some found =>
        have hbody : Except.ok body ≠ .ok none := (follows_found found H₁ t₁).post_of_run h
        exact (Option.isSome_iff_ne_none.mpr fun hnone => hbody (congrArg _ hnone)).symm
  · rw [Prog.run_bind_of_ok _ _ hrun] at h
    cases h

theorem get_some {key : List UInt8} {body : Body} {H' : RefHeap HandleObject}
    (h : ((Simple.get key).run H).run host.handle s = (.ok (.ok (some body), H'), t)) :
    ∃ found H' t, ((lookup key).execute.run H).run host.handle s =
      (.ok (.ok (some found), H'), t) := by
  obtain ⟨found, H₁, t₁, hrun, hsome⟩ := exists_execute_of_get h
  obtain ⟨found, rfl⟩ := Option.isSome_iff_exists.mp hsome
  exact ⟨found, H₁, t₁, hrun⟩

theorem get_none {key : List UInt8} {H' : RefHeap HandleObject}
    (h : ((Simple.get key).run H).run host.handle s = (.ok (.ok none, H'), t)) :
    ∃ H' t, ((lookup key).execute.run H).run host.handle s = (.ok (.ok none, H'), t) := by
  obtain ⟨found, H₁, t₁, hrun, hnone⟩ := exists_execute_of_get h
  obtain rfl := Option.not_isSome_iff_eq_none.mp (Bool.eq_false_iff.mp hnone)
  exact ⟨H₁, t₁, hrun⟩

/-- A lookup, and the simple cache, serve only usable items exactly if the item that is looked
up, if any, is usable at that moment. -/
theorem serves_iff (host : ItemHost σ) (H : RefHeap HandleObject) (s : σ) :
    (∀ b : LookupBuilder, host.ServesUsable b.execute b H s ↔
      ∀ i, host.looked s b = some i → i.Usable) ∧
    ∀ key : List UInt8, host.ServesUsable (Simple.get key) (lookup key) H s ↔
      ∀ i, host.looked s (lookup key) = some i → i.Usable :=
  ⟨fun _ => servesUsable_iff (fun a H' t h => ⟨a, H', t, h⟩) fun H' t h => ⟨H', t, h⟩,
    fun _ => servesUsable_iff (fun _ _ _ => get_some) fun _ _ => get_none⟩

end ItemHost

/-! ## A host with a clock -/

/-- An item under its key, with the time at which its age was nothing. -/
structure ShelfItem where
  key : List UInt8
  born : ℕ
  maxAge : ℕ
  staleWhileRevalidate : ℕ

/-- A host that answers every call. It keeps the keys of the handles that it gave out. -/
structure Shelf where
  now : ℕ := 0
  items : List ShelfItem := []
  keys : List (List UInt8) := []

namespace Shelf

/-- What happens between the calls. -/
inductive Event where
  | store (key : List UInt8) (maxAge staleWhileRevalidate : ℕ)
  | evict (key : List UInt8)
  | elapse (ns : ℕ)

def next (s : Shelf) : Event → Shelf
  | .store key maxAge swr =>
    { s with items := ⟨key, s.now, maxAge, swr⟩ :: s.items.filter fun i => i.key ≠ key }
  | .evict key => { s with items := s.items.filter fun i => i.key ≠ key }
  | .elapse ns => { s with now := s.now + ns }

def item (s : Shelf) (h : ℕ) : Option StoredItem :=
  s.keys[h]?.bind fun key =>
    (s.items.find? fun i => i.key = key).map fun i =>
      ⟨s.now - i.born, i.maxAge, i.staleWhileRevalidate⟩

/-- The flags for what is under a handle. -/
def state : Option StoredItem → UInt32
  | none => 0
  | some i => CacheLookupState.found ||| flag (decide i.Usable) CacheLookupState.usable

def handle (s : Shelf) : (c : HostCall) → c.Answer × Shelf
  | .cacheLookup key _ _ => (.ok s.keys.length, { s with keys := s.keys ++ [key] })
  | .cacheGetState h => (.ok (state (s.item h)), s)
  | c => (c.succeed, s)

theorem state_found (i : Option StoredItem) :
    state i &&& CacheLookupState.found ≠ 0 ↔ i.isSome := by
  cases i with
  | none => decide
  | some i =>
      have h : ∀ usable : Bool, (CacheLookupState.found ||| flag usable CacheLookupState.usable) &&&
          CacheLookupState.found ≠ 0 := by decide
      exact iff_of_true (h _) rfl

theorem state_usable (o : Option StoredItem) :
    state o &&& CacheLookupState.usable ≠ 0 ↔ ∃ i, o = some i ∧ i.Usable := by
  cases o with
  | none => simp [state]
  | some i =>
      simp only [Option.some.injEq, exists_eq_left', state]
      have h : ∀ usable : Bool, (CacheLookupState.found ||| flag usable CacheLookupState.usable) &&&
          CacheLookupState.usable ≠ 0 ↔ usable = true := by decide
      exact (h _).trans decide_eq_true_iff

def host : ItemHost Shelf where
  handle := handle
  item := item
  found_iff s h state hstate := by
    obtain rfl := Except.ok.inj hstate
    exact state_found (s.item h)
  usable_iff s h state hstate := by
    obtain rfl := Except.ok.inj hstate
    exact state_usable (s.item h)

end Shelf

/-- Every host that sets the two flags as they are documented has only usable items served. -/
def OnlyUsableServed : Prop :=
  ∀ (σ : Type) (host : ItemHost σ) (H : RefHeap HandleObject) (s : σ),
    (∀ b : LookupBuilder, host.ServesUsable b.execute b H s) ∧
      ∀ key : List UInt8, host.ServesUsable (Simple.get key) (lookup key) H s

/-- An item of 20 ns that was to be kept for 10 and revalidated for 5 more. -/
theorem not_onlyUsableServed : ¬ OnlyUsableServed := by
  intro h
  have hserves := (h Shelf Shelf.host .empty
    ([.store [1] 10 5, .elapse 20].foldl Shelf.next {})).1 (lookup [1])
  obtain ⟨i, hi, husable⟩ := hserves.served _ _ _ rfl
  obtain rfl := Option.some.inj hi
  exact absurd husable (by decide)

end ComputeSdk
