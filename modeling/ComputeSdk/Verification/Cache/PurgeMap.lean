import ComputeSdk.Verification.Cache.Purge

/-! # The simple cache as a map with deletion

Runs in which entries are also purged. They are those of a map as long as no key is another
one with the name of the POP behind it. -/

namespace ComputeSdk

open Shared Guest ComputeSdk.Core

/-- What the caller sees of a call, or of a purge. -/
inductive SimpleOutcome where
  | returned (result : Except Simple.CacheError (Option (List UInt8))) (closures : ℕ)
  | purged (result : Except Simple.CacheError Unit)

namespace SimpleAction

def key : SimpleAction → List UInt8
  | call (.get _ key) => key
  | call (.getOrSet _ key _ _) => key
  | call (.getOrSetWith _ key _) => key
  | purge _ key _ => key

/-- A purge, by the overload for the key and whether options are given. -/
def purging (platform : Platform) (key : List UInt8) :
    KeyType → Option Simple.PurgeOptions → Guest (Except Simple.CacheError Unit)
  | .span, none => Simple.purge platform key
  | .view, none => Simple.StringView.purge platform key
  | .span, some opts => Simple.purgeWithOpts platform key opts
  | .view, some opts => Simple.StringView.purgeWithOpts platform key opts

def perform (platform : Platform) (s : SimpleState) :
    SimpleAction → Except Abort (SimpleOutcome × SimpleState)
  | call op => (SimpleState.step platform s op).map fun p => (.returned p.1.1 p.1.2, p.2)
  | purge overload key opts =>
    match ((purging platform key overload opts).run s.heap).run Storage.handle s.host with
    | (.ok (result, heap), host) => .ok (.purged result, ⟨heap, host⟩)
    | (.error e, _) => .error e

end SimpleAction

/-- A map in which the first write of a key wins until the key is deleted. -/
def FirstWriteMap.act (M : FirstWriteMap) : SimpleAction → SimpleOutcome × FirstWriteMap
  | .call op => (.returned (M.step op).1.1 (M.step op).1.2, (M.step op).2)
  | .purge _ key _ => (.purged (.ok ()), Function.update M key none)

/-- The actions on these keys. -/
abbrev ActionOn (keys : Set (List UInt8)) := {action : SimpleAction // action.key ∈ keys}

/-- The outcomes of a run from an empty cache. -/
def SimpleState.outcomes (platform : Platform) (reads writes : Schedule)
    {keys : Set (List UInt8)} (actions : List (ActionOn keys)) :
    Except Abort (List SimpleOutcome) :=
  outputs (fun s action => SimpleAction.perform platform s action.1) (.start reads writes) actions

/-- The outcomes of a map that is empty at first. -/
def FirstWriteMap.outcomes {keys : Set (List UInt8)} (actions : List (ActionOn keys)) :
    List SimpleOutcome :=
  totalOutputs (fun M action => FirstWriteMap.act M action.1) (fun _ => none) actions

/-! ## Steps -/

namespace Storage

variable {platform : Platform} {s t : Storage} {key : List UInt8}

/-- At most one item is stored, under this key and with its tags. -/
def Adds (platform : Platform) (key : List UInt8) (s t : Storage) : Prop :=
  t.items = s.items ∨
    ∃ bytes, t.items = Function.update s.items key (some ⟨bytes, entryTags platform key⟩)

theorem Sets.adds {entry : Option Simple.CacheEntry}
    {result : Except Simple.CacheError (Option Body)}
    (h : s.Sets platform key entry result t) : Adds platform key s t := by
  unfold Sets at h
  cases hitem : s.items key with
  | some item =>
      rw [hitem] at h
      exact .inl h.2.1
  | none =>
      rw [hitem] at h
      cases entry with
      | none => exact .inl h.2.2
      | some e => exact .inr ⟨_, h.2.2⟩

theorem Adds.tagged (h : Adds platform key s t) (hs : s.Tagged platform) : t.Tagged platform := by
  rcases h with hitems | ⟨bytes, hitems⟩
  · exact hs.of_items hitems
  · intro k item hk
    rw [hitems] at hk
    by_cases hkey : k = key
    · subst hkey
      rw [Function.update_self] at hk
      obtain rfl := Option.some.inj hk
      rfl
    · rw [Function.update_of_ne hkey] at hk
      exact hs k item hk

/-- Only keys of this set have an item. -/
def Within (keys : Set (List UInt8)) (s : Storage) : Prop := ∀ key, s.items key ≠ none → key ∈ keys

theorem Adds.within {keys : Set (List UInt8)} (h : Adds platform key s t) (hkey : key ∈ keys)
    (hs : s.Within keys) : t.Within keys := by
  intro k hk
  rcases h with hitems | ⟨bytes, hitems⟩
  · rw [hitems] at hk
    exact hs k hk
  · by_cases hsame : k = key
    · rwa [hsame]
    · rw [hitems, Function.update_of_ne hsame] at hk
      exact hs k hk

end Storage

theorem SimpleOp.Effect.adds {platform : Platform} {s t : Storage} {op : SimpleOp}
    {result : Except Simple.CacheError (Option Body)} (h : Effect platform s op result t) :
    Storage.Adds platform (SimpleAction.call op).key s t := by
  cases op with
  | get overload key => exact .inl h.2.1
  | getOrSet overload key value ttl =>
      obtain ⟨e, -, hsets⟩ := h
      exact hsets.adds
  | getOrSetWith overload key entry => exact Storage.Sets.adds h

namespace SimpleAction

variable (platform : Platform)

/-- A call does to the stored bytes what the map does. -/
theorem perform_call (s : SimpleState) (op : SimpleOp) :
    ∃ t, perform platform s (.call op) = .ok ((FirstWriteMap.act s.host.stored (.call op)).1, t) ∧
      t.host.stored = (FirstWriteMap.act s.host.stored (.call op)).2 ∧
      Storage.Adds platform (call op).key s.host t.host := by
  obtain ⟨result, H', t, hrun, heffect⟩ :=
    (SimpleOp.yields_exec (H := s.heap) (s := s.host) platform op).run
  have hstep := heffect.firstWrite
  refine ⟨⟨H', t⟩, ?_, congrArg Prod.snd hstep, heffect.adds⟩
  simp only [perform, SimpleState.step, hrun, Except.map]
  rw [FirstWriteMap.act, ← congrArg Prod.fst hstep]

/-- A purge removes the items that have its tag. -/
theorem perform_purge (s : SimpleState) (overload : KeyType) (key : List UInt8)
    (opts : Option Simple.PurgeOptions) :
    ∃ t, perform platform s (.purge overload key opts) = .ok (.purged (.ok ()), t) ∧
      t.host = s.host.purge (Simple.surrogateKeyForCacheKey platform key (scope opts)) := by
  have hpurge : Storage.Yields (fun result _ t => result = .ok () ∧
      t = s.host.purge (Simple.surrogateKeyForCacheKey platform key (scope opts)))
      (purging platform key overload opts) s.heap s.host := by
    cases opts <;> cases overload <;>
      exact follows_bind (Storage.yields_host (c := .purgeSurrogateKey _) (follows_pure ⟨rfl, rfl⟩))
  obtain ⟨result, H', t, hrun, rfl, ht⟩ := hpurge.run
  exact ⟨⟨H', t⟩, by simp only [perform, hrun], ht⟩

end SimpleAction

/-! ## Keys that stand alone -/

/-- No key is another one with the name of the POP behind it. -/
def Separate (platform : Platform) (keys : Set (List UInt8)) : Prop :=
  ∀ key ∈ keys, ∀ key' ∈ keys, key' = key ++ platform.pop → key' = key

/-- What is hashed for these keys. -/
def hashedFor (platform : Platform) (keys : Set (List UInt8)) : Set (List UInt8) :=
  {bytes | ∃ key ∈ keys, bytes = key ∨ bytes = key ++ platform.pop}

variable {platform : Platform} {keys : Set (List UInt8)}

theorem involved_subset {key key' : List UInt8} (h : key ∈ keys) (h' : key' ∈ keys) :
    involved platform key key' ⊆ hashedFor platform keys := by
  rintro bytes (rfl | rfl | rfl | rfl)
  · exact ⟨_, h, .inl rfl⟩
  · exact ⟨_, h, .inr rfl⟩
  · exact ⟨_, h', .inl rfl⟩
  · exact ⟨_, h', .inr rfl⟩

theorem Separate.not_collides (h : Separate platform keys) {key key' : List UInt8}
    (hkey : key ∈ keys) (hkey' : key' ∈ keys) (hne : key ≠ key') (scope : Simple.Scope) :
    ¬ Collides platform key scope key' := by
  cases scope with
  | pop => exact fun hc => hne (h key hkey key' hkey' hc).symm
  | global => exact fun hc => hne (h key' hkey' key hkey hc)

/-- A purge deletes its own key and no other one. -/
theorem Storage.stored_purge {s : Storage} {key : List UInt8} (htagged : s.Tagged platform)
    (hwithin : s.Within keys) (hkey : key ∈ keys) (hseparate : Separate platform keys)
    (hsha : Set.InjOn (fun bytes => (platform.sha256 bytes).1) (hashedFor platform keys))
    (scope : Simple.Scope) :
    (s.purge (Simple.surrogateKeyForCacheKey platform key scope)).stored =
      Function.update s.stored key none := by
  funext k
  cases hitem : s.items k with
  | none =>
      by_cases hk : k = key
      · subst hk
        simp [stored, purge, hitem]
      · simp [stored, purge, hitem, hk]
  | some item =>
      have htags := htagged k item hitem
      by_cases hk : k = key
      · subst hk
        have hmem : Simple.surrogateKeyForCacheKey platform k scope ∈ item.tags := by
          rw [htags, entryTags]
          cases scope <;> simp
        simp [stored, purge, hitem, hmem]
      · have hk' : k ∈ keys := hwithin k (by simp [hitem])
        have hfree := hseparate.not_collides hkey hk' (Ne.symm hk) scope
        have hnotMem := mt (surrogateKey_mem_entryTags_iff platform (Ne.symm hk)
          (hsha.mono (involved_subset hkey hk')) scope).mp hfree
        rw [← htags] at hnotMem
        simp [stored, purge, hitem, hnotMem, hk]

/-! ## Runs -/

theorem outcomes_of_separate (reads writes : Schedule) (hseparate : Separate platform keys)
    (hsha : Set.InjOn (fun bytes => (platform.sha256 bytes).1) (hashedFor platform keys))
    (actions : List (ActionOn keys)) :
    SimpleState.outcomes platform reads writes actions =
      .ok (FirstWriteMap.outcomes actions) := by
  refine outputs_of_simulates
    (fun (s : SimpleState) M => s.host.stored = M ∧ s.host.Tagged platform ∧ s.host.Within keys)
    ?_ ⟨rfl, fun key item hitem => (by cases hitem), fun key h => absurd rfl h⟩ actions
  rintro s M ⟨action, hkey⟩ ⟨rfl, htagged, hwithin⟩
  cases action with
  | call op =>
      obtain ⟨t, hperform, hstored, hadds⟩ := SimpleAction.perform_call platform s op
      exact ⟨t, hperform, hstored, hadds.tagged htagged, hadds.within hkey hwithin⟩
  | purge overload key opts =>
      obtain ⟨t, hperform, hhost⟩ := SimpleAction.perform_purge platform s overload key opts
      refine ⟨t, hperform, ?_, ?_, ?_⟩
      · rw [hhost]
        exact Storage.stored_purge htagged hwithin hkey hseparate hsha _
      · rw [hhost]
        exact htagged.purge _
      · intro k hk
        rw [hhost] at hk
        refine hwithin k fun hnone => hk ?_
        simp [Storage.purge, hnone]

/-- The run that tells keys apart which are not separate. -/
def probe {key key' : List UInt8} (h : key ∈ keys) (h' : key' ∈ keys) : List (ActionOn keys) :=
  [⟨.call (.getOrSetWith .span key' (some (emptyValue, 0))), h'⟩, ⟨.purge .span key none, h⟩,
    ⟨.call (.get .span key'), h'⟩]

/-- The purge of a key deletes the one with the name of the POP behind it. -/
theorem outcomes_probe (reads writes : Schedule) {key : List UInt8} (h : key ∈ keys)
    (h' : key ++ platform.pop ∈ keys) :
    SimpleState.outcomes platform reads writes (probe h h') =
      .ok [.returned (.ok (some [])) 1, .purged (.ok ()), .returned (.ok none) 0] := by
  obtain ⟨t, hset, hstored, hadds⟩ := SimpleAction.perform_call platform (.start reads writes)
    (.getOrSetWith .span (key ++ platform.pop) (some (emptyValue, 0)))
  obtain ⟨u, hpurge, hhost⟩ := SimpleAction.perform_purge platform t .span key none
  obtain ⟨v, hget, -, -⟩ :=
    SimpleAction.perform_call platform u (.get .span (key ++ platform.pop))
  have htagged : t.host.Tagged platform :=
    hadds.tagged (fun key item hitem => (by cases hitem))
  -- the same bytes are hashed for the purge and for the item
  have hsame : Simple.surrogateKeyForCacheKey platform key .pop =
      Simple.surrogateKeyForCacheKey platform (key ++ platform.pop) .global := by
    rw [surrogateKey_eq, surrogateKey_eq]
    rfl
  have hmissing : u.host.stored (key ++ platform.pop) = none := by
    rw [hhost]
    cases hitem : t.host.items (key ++ platform.pop) with
    | none => simp [Storage.stored, Storage.purge, hitem]
    | some item =>
        have hmem : Simple.surrogateKeyForCacheKey platform key .pop ∈ item.tags := by
          rw [htagged _ item hitem, hsame, Storage.entryTags]
          exact List.mem_cons_of_mem _ List.mem_cons_self
        simp [Storage.stored, Storage.purge, hitem, SimpleAction.scope, hmem]
  have hfound : (FirstWriteMap.act u.host.stored (.call (.get .span (key ++ platform.pop)))).1 =
      .returned (.ok none) 0 := by
    rw [← hmissing]
    rfl
  rw [hfound] at hget
  simp only [SimpleState.outcomes, probe, outputs, hset, hpurge, hget, Except.map]
  rfl

/-- The simple cache is a map that entries can be deleted from, in all runs on a set of keys,
exactly if no key is another one with the name of the POP behind it. -/
theorem purgeMap_iff (reads writes : Schedule)
    (hsha : Set.InjOn (fun bytes => (platform.sha256 bytes).1) (hashedFor platform keys)) :
    (∀ actions : List (ActionOn keys), SimpleState.outcomes platform reads writes actions =
      .ok (FirstWriteMap.outcomes actions)) ↔ Separate platform keys := by
  refine ⟨fun hruns key h key' h' hkey' => ?_, fun hseparate =>
    outcomes_of_separate reads writes hseparate hsha⟩
  subst hkey'
  by_contra hne
  have hrun := (outcomes_probe reads writes h h').symm.trans (hruns (probe h h'))
  have hkept : Function.update (Function.update (fun _ => none) (key ++ platform.pop) (some []))
      key none (key ++ platform.pop) = some ([] : List UInt8) := by
    rw [Function.update_of_ne hne, Function.update_self]
  have hlast := (List.cons.inj (List.cons.inj (List.cons.inj (Except.ok.inj hrun)).2).2).1
  have hsame : (.ok none : Except Simple.CacheError (Option (List UInt8))) =
      .ok (Function.update (Function.update (fun _ => none) (key ++ platform.pop) (some []))
        key none (key ++ platform.pop)) := (SimpleOutcome.returned.inj hlast).1
  rw [hkept] at hsame
  cases hsame

/-- Purging "a" leaves what is stored under "b", and lets "a" be set again. -/
theorem purgeMap_local :
    SimpleState.outcomes localPlatform (.atMost 0) (.atMost 0)
      ([⟨.call (.getOrSet .view [97] emptyValue 0), .inl rfl⟩,
        ⟨.call (.getOrSet .span [98] emptyValue 0), .inr rfl⟩, ⟨.purge .span [97] none, .inl rfl⟩,
        ⟨.call (.get .span [98]), .inr rfl⟩, ⟨.call (.getOrSetWith .span [97] none), .inl rfl⟩] :
        List (ActionOn {[97], [98]})) =
      .ok [.returned (.ok (some [])) 1, .returned (.ok (some [])) 1, .purged (.ok ()),
        .returned (.ok (some [])) 0, .returned (.error .getOrSet) 1] := by
  have hsha : Set.InjOn (fun bytes => (localPlatform.sha256 bytes).1)
      (hashedFor localPlatform {[97], [98]}) := by
    rintro x ⟨_, (rfl | rfl), (rfl | rfl)⟩ y ⟨_, (rfl | rfl), (rfl | rfl)⟩ h <;>
      first | rfl | exact absurd h (by decide)
  have hseparate : Separate localPlatform {[97], [98]} := by
    rintro key (rfl | rfl) key' (rfl | rfl) h <;> first | rfl | exact absurd h (by decide)
  exact (purgeMap_iff (.atMost 0) (.atMost 0) hsha).mpr hseparate _

end ComputeSdk
