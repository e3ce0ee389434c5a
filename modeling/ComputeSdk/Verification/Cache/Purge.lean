import ComputeSdk.Verification.Cache.FirstWrite

/-! # Purging the simple cache

The tags that an insert sends, and which purges remove the item. -/

namespace ComputeSdk

open Shared Guest ComputeSdk.Core

/-! ## Runs with purges -/

/-- A call of the simple cache; `purge` is called where no options are given. -/
inductive SimpleAction where
  | call (op : SimpleOp)
  | purge (overload : KeyType) (key : List UInt8) (opts : Option Simple.PurgeOptions)

namespace SimpleAction

def exec (platform : Platform) : SimpleAction → Guest Unit
  | call op => (fun _ => ()) <$> op.exec platform
  | purge .span key none => (fun _ => ()) <$> Simple.purge platform key
  | purge .view key none => (fun _ => ()) <$> Simple.StringView.purge platform key
  | purge .span key (some opts) => (fun _ => ()) <$> Simple.purgeWithOpts platform key opts
  | purge .view key (some opts) =>
    (fun _ => ()) <$> Simple.StringView.purgeWithOpts platform key opts

def step (platform : Platform) (s : SimpleState) (action : SimpleAction) :
    Except Abort SimpleState :=
  match ((action.exec platform).run s.heap).run Storage.handle s.host with
  | (.ok (_, heap), host) => .ok ⟨heap, host⟩
  | (.error e, _) => .error e

/-- The scope of a purge, which is the POP if there are no options. -/
def scope (opts : Option Simple.PurgeOptions) : Simple.Scope :=
  opts.elim .pop Simple.PurgeOptions.scope

end SimpleAction

/-- A client at an empty cache. -/
def SimpleState.start (reads writes : Schedule) : SimpleState :=
  { host := { items := fun _ => none, reads := reads, writes := writes } }

namespace Storage

variable {H : RefHeap HandleObject} {s : Storage}

/-- Each item has the tags of its key. -/
def Tagged (platform : Platform) (s : Storage) : Prop :=
  ∀ key item, s.items key = some item → item.tags = entryTags platform key

theorem Tagged.purge {platform : Platform} (h : s.Tagged platform) (surrogateKey : List UInt8) :
    (s.purge surrogateKey).Tagged platform := by
  intro key item hitem
  exact h key item (Option.eq_some_of_filter_eq_some hitem)

theorem Tagged.of_items {platform : Platform} {t : Storage} (h : s.Tagged platform)
    (hitems : t.items = s.items) : t.Tagged platform := by
  rw [Tagged, hitems]
  exact h

theorem Tagged.sets {platform : Platform} {key : List UInt8} {entry : Option Simple.CacheEntry}
    {result : Except Simple.CacheError (Option Body)} {t : Storage} (h : s.Tagged platform)
    (hsets : s.Sets platform key entry result t) : t.Tagged platform := by
  unfold Sets at hsets
  cases hitem : s.items key with
  | some item =>
      rw [hitem] at hsets
      exact h.of_items hsets.2.1
  | none =>
      rw [hitem] at hsets
      cases entry with
      | none => exact h.of_items hsets.2.2
      | some e =>
          intro k item hk
          rw [hsets.2.2] at hk
          by_cases hkey : k = key
          · subst hkey
            rw [Function.update_self] at hk
            obtain rfl := Option.some.inj hk
            rfl
          · rw [Function.update_of_ne hkey] at hk
            exact h k item hk

theorem yields_purge (platform : Platform) (overload : KeyType) (key : List UInt8)
    (opts : Option Simple.PurgeOptions) :
    Yields (fun _ _ t => t = s.purge
      (Simple.surrogateKeyForCacheKey platform key (SimpleAction.scope opts)))
      ((SimpleAction.purge overload key opts).exec platform) H s := by
  have hpurge : ∀ opts : Simple.PurgeOptions, Yields (fun _ _ t => t = s.purge
      (Simple.surrogateKeyForCacheKey platform key opts.scope))
      ((fun _ => ()) <$> Simple.purgeWithOpts platform key opts) H s :=
    fun opts => follows_map (follows_bind (yields_host (c := .purgeSurrogateKey _)
      (follows_pure rfl)))
  cases opts with
  | none => cases overload <;> exact hpurge .popScope
  | some opts => cases overload <;> exact hpurge opts

/-- Every call keeps the tags right. -/
theorem yields_tagged {platform : Platform} (h : s.Tagged platform) (action : SimpleAction) :
    Yields (fun _ _ t => t.Tagged platform) (action.exec platform) H s := by
  cases action with
  | purge overload key opts =>
      refine (yields_purge platform overload key opts).mono fun _ H' t ht => ?_
      rw [ht]
      exact h.purge _
  | call op =>
      refine follows_map ((SimpleOp.yields_exec platform op).mono fun result H' t heffect => ?_)
      cases op with
      | get overload key => exact h.of_items heffect.2.1
      | getOrSet overload key value ttl =>
          obtain ⟨e, -, hsets⟩ := heffect
          exact h.sets hsets
      | getOrSetWith overload key entry => exact h.sets heffect

end Storage

namespace SimpleState

theorem step_of_yields {platform : Platform} {s : SimpleState} {action : SimpleAction}
    {post : Storage → Prop}
    (h : Storage.Yields (fun _ _ t => post t) (action.exec platform) s.heap s.host) :
    ∃ t, action.step platform s = .ok t ∧ post t.host := by
  obtain ⟨_, H', t, hrun, hpost⟩ := h.run
  exact ⟨⟨H', t⟩, by rw [SimpleAction.step, hrun], hpost⟩

theorem step_purge (platform : Platform) (s : SimpleState) (overload : KeyType)
    (key : List UInt8) (opts : Option Simple.PurgeOptions) :
    ∃ t, SimpleAction.step platform s (.purge overload key opts) = .ok t ∧
      t.host = s.host.purge
        (Simple.surrogateKeyForCacheKey platform key (SimpleAction.scope opts)) :=
  step_of_yields (Storage.yields_purge platform overload key opts)

/-- No run from an empty cache aborts, and the items it leaves have the tags of their keys. -/
theorem run_tagged (platform : Platform) (reads writes : Schedule)
    (actions : List SimpleAction) :
    ∃ t, run (SimpleAction.step platform) (.start reads writes) actions = .ok t ∧
      t.host.Tagged platform :=
  run_history (I := fun _ (s : SimpleState) => s.host.Tagged platform)
    (fun key item hitem => by cases hitem)
    (fun _ s action h => step_of_yields (Storage.yields_tagged h action)) actions

theorem tagged_of_run {platform : Platform} {reads writes : Schedule}
    {actions : List SimpleAction} {t : SimpleState}
    (h : run (SimpleAction.step platform) (.start reads writes) actions = .ok t) :
    t.host.Tagged platform := by
  obtain ⟨u, hrun, htagged⟩ := run_tagged platform reads writes actions
  obtain rfl := Except.ok.inj (h.symm.trans hrun)
  exact htagged

end SimpleState

/-- A call that finds no item stores one. -/
theorem SimpleState.exists_stored (platform : Platform) (reads writes : Schedule)
    (key : List UInt8) (v : Value) :
    ∃ t item, run (SimpleAction.step platform) (.start reads writes)
      [.call (.getOrSetWith .span key (some (v, 0)))] = .ok t ∧ t.host.items key = some item := by
  have hset : Storage.Yields (fun _ _ t => t.items = Function.update (fun _ => none) key
      (some ⟨Storage.entryBytes ⟨v.body, 0⟩, Storage.entryTags platform key⟩))
      (SimpleAction.exec platform (.call (.getOrSetWith .span key (some (v, 0)))))
      (start reads writes).heap (start reads writes).host :=
    follows_map ((SimpleOp.yields_exec platform _).mono fun result H' t heffect => heffect.2.2)
  obtain ⟨t, hstep, hitems⟩ := step_of_yields hset
  exact ⟨t, _, by rw [run_cons_of_ok [] hstep, run_nil], by rw [hitems, Function.update_self]⟩

/-! ## Coverage -/

/-- The surrogate keys of `key` are 64 hexadecimal digits each, survive the way through the
option, and the host sees the scope that was given. -/
structure SurrogateKeysFit (platform : Platform) (key : List UInt8) : Prop where
  length : ∀ scope, (Simple.surrogateKeyForCacheKey platform key scope).length = 64
  digits : ∀ scope, ∀ c ∈ Simple.surrogateKeyForCacheKey platform key scope,
    IsHexDigit c ∧ c ≠ space
  split : (joinStrings [Simple.surrogateKeyForCacheKey platform key .pop,
      Simple.surrogateKeyForCacheKey platform key .global] space).splitOn 32 =
    [Simple.surrogateKeyForCacheKey platform key .pop,
      Simple.surrogateKeyForCacheKey platform key .global]
  cast : (⟨Simple.Scope.pop.value⟩ : PurgeScope) = .pop ∧
    (⟨Simple.Scope.global.value⟩ : PurgeScope) = .global

theorem surrogateKeysFit (platform : Platform) (key : List UInt8) :
    SurrogateKeysFit platform key where
  length := length_surrogateKey platform key
  digits scope c hc := by
    refine ⟨isHexDigit_surrogateKey platform hc, ?_⟩
    rintro rfl
    exact space_notMem_surrogateKey platform key scope hc
  split := splitOn_joinStrings (Storage.space_notMem_entryTags platform key)
    (List.cons_ne_nil _ _)
  cast := ⟨rfl, rfl⟩

/-- Whatever was called before, an item that is stored has the key that a purge of it
computes among its tags, in both scopes, and the purge removes it. -/
theorem purge_covers (platform : Platform) (reads writes : Schedule)
    (actions : List SimpleAction) :
    (∀ key, SurrogateKeysFit platform key) ∧
    ∃ t, run (SimpleAction.step platform) (.start reads writes) actions = .ok t ∧
      ∀ key item, t.host.items key = some item → ∀ overload opts,
        Simple.surrogateKeyForCacheKey platform key (SimpleAction.scope opts) ∈ item.tags ∧
        ∃ u, SimpleAction.step platform t (.purge overload key opts) = .ok u ∧
          u.host.items key = none := by
  refine ⟨surrogateKeysFit platform, ?_⟩
  obtain ⟨t, hrun, htagged⟩ := SimpleState.run_tagged platform reads writes actions
  refine ⟨t, hrun, fun key item hitem overload opts => ?_⟩
  have hmem : Simple.surrogateKeyForCacheKey platform key (SimpleAction.scope opts) ∈
      item.tags := by
    rw [htagged key item hitem, Storage.entryTags]
    cases SimpleAction.scope opts <;> simp
  obtain ⟨u, hstep, hhost⟩ := SimpleState.step_purge platform t overload key opts
  refine ⟨hmem, u, hstep, ?_⟩
  rw [hhost]
  simp [Storage.purge, hitem, hmem]

/-- An empty value. -/
def emptyValue : Value :=
  ⟨Body.ofBox (.new (.atMost 0) (.atMost 0)), Schedule.accepting_atMost 0, rfl⟩

/-- An item that is stored and purged. -/
theorem purge_covers_stored :
    ∃ t u item, run (SimpleAction.step localPlatform) (.start (.atMost 0) (.atMost 0))
      [.call (.getOrSetWith .span [97] (some (emptyValue, 0)))] = .ok t ∧
      t.host.items [97] = some item ∧
      SimpleAction.step localPlatform t (.purge .view [97] none) = .ok u ∧
      u.host.items [97] = none := by
  obtain ⟨t, item, hrun, hitem⟩ :=
    SimpleState.exists_stored localPlatform (.atMost 0) (.atMost 0) [97] emptyValue
  obtain ⟨-, t', hrun', hcovers⟩ := purge_covers localPlatform (.atMost 0) (.atMost 0)
    [.call (.getOrSetWith .span [97] (some (emptyValue, 0)))]
  obtain rfl := Except.ok.inj (hrun.symm.trans hrun')
  obtain ⟨-, u, hstep, hnone⟩ := hcovers [97] item hitem .view none
  exact ⟨t, u, item, hrun, hitem, hstep, hnone⟩

/-! ## Isolation -/

/-- What is hashed for `key` in `scope` is also hashed for the tags of `key'`: the POP is
appended without a delimiter. -/
def Collides (platform : Platform) (key : List UInt8) (scope : Simple.Scope)
    (key' : List UInt8) : Prop :=
  match scope with
  | .pop => key' = key ++ platform.pop
  | .global => key = key' ++ platform.pop

instance (platform : Platform) (key : List UInt8) (scope : Simple.Scope) (key' : List UInt8) :
    Decidable (Collides platform key scope key') :=
  match scope with
  | .pop => inferInstanceAs (Decidable (key' = key ++ platform.pop))
  | .global => inferInstanceAs (Decidable (key = key' ++ platform.pop))

/-- The byte strings that are hashed for two keys. -/
def involved (platform : Platform) (key key' : List UInt8) : Set (List UInt8) :=
  {key, key ++ platform.pop, key', key' ++ platform.pop}

theorem material_mem_left (platform : Platform) (key key' : List UInt8) (scope : Simple.Scope) :
    material platform key scope ∈ involved platform key key' := by
  cases scope <;> simp [material, involved]

theorem material_mem_right (platform : Platform) (key key' : List UInt8) (scope : Simple.Scope) :
    material platform key' scope ∈ involved platform key key' := by
  cases scope <;> simp [material, involved]

theorem exists_material_eq_iff (platform : Platform) {key key' : List UInt8} (hne : key ≠ key')
    (scope : Simple.Scope) :
    (∃ scope', material platform key scope = material platform key' scope') ↔
      Collides platform key scope key' := by
  cases scope with
  | pop =>
      constructor
      · rintro ⟨scope', h⟩
        cases scope' with
        | pop => exact absurd (List.append_cancel_right h) hne
        | global => exact h.symm
      · exact fun h => ⟨.global, h.symm⟩
  | global =>
      constructor
      · rintro ⟨scope', h⟩
        cases scope' with
        | pop => exact h
        | global => exact absurd h hne
      · exact fun h => ⟨.pop, h⟩

/-- A purge of another key removes an item exactly if the keys collide. -/
theorem surrogateKey_mem_entryTags_iff (platform : Platform) {key key' : List UInt8}
    (hne : key ≠ key')
    (hsha : Set.InjOn (fun bytes => (platform.sha256 bytes).1) (involved platform key key'))
    (scope : Simple.Scope) :
    Simple.surrogateKeyForCacheKey platform key scope ∈ Storage.entryTags platform key' ↔
      Collides platform key scope key' := by
  have heq : ∀ scope', Simple.surrogateKeyForCacheKey platform key scope =
      Simple.surrogateKeyForCacheKey platform key' scope' ↔
        material platform key scope = material platform key' scope' :=
    fun scope' => surrogateKey_eq_iff platform hsha (material_mem_left platform key key' scope)
      (material_mem_right platform key key' scope')
  rw [← exists_material_eq_iff platform hne scope, Storage.entryTags, List.mem_pair, heq, heq]
  constructor
  · rintro (h | h)
    · exact ⟨.pop, h⟩
    · exact ⟨.global, h⟩
  · rintro ⟨scope', h⟩
    cases scope' with
    | pop => exact .inl h
    | global => exact .inr h

/-- The surrogate keys of two keys differ, and in no run does the purge of one remove what is
stored under the other, exactly if the keys do not collide in the scope of the purge. -/
theorem purge_isolated_iff (platform : Platform) {key key' : List UInt8} (hne : key ≠ key')
    (hsha : Set.InjOn (fun bytes => (platform.sha256 bytes).1) (involved platform key key'))
    (reads writes : Schedule) (opts : Option Simple.PurgeOptions) :
    ((∀ scope', Simple.surrogateKeyForCacheKey platform key (SimpleAction.scope opts) ≠
        Simple.surrogateKeyForCacheKey platform key' scope') ↔
      ¬ Collides platform key (SimpleAction.scope opts) key') ∧
    ((∀ overload actions t item,
        run (SimpleAction.step platform) (.start reads writes) actions = .ok t →
        t.host.items key' = some item →
        ∀ u, SimpleAction.step platform t (.purge overload key opts) = .ok u →
          u.host.items key' = some item) ↔
      ¬ Collides platform key (SimpleAction.scope opts) key') := by
  have hmem := surrogateKey_mem_entryTags_iff platform hne hsha (SimpleAction.scope opts)
  constructor
  · rw [← hmem, Storage.entryTags, List.mem_pair]
    constructor
    · rintro h (hpop | hglobal)
      · exact h .pop hpop
      · exact h .global hglobal
    · intro h scope' heq
      cases scope' with
      | pop => exact h (.inl heq)
      | global => exact h (.inr heq)
  · constructor
    · intro h hcollides
      obtain ⟨t, item, hrun, hitem⟩ :=
        SimpleState.exists_stored platform reads writes key' emptyValue
      obtain ⟨u, hstep, hhost⟩ := SimpleState.step_purge platform t .span key opts
      have hkept := h .span _ t item hrun hitem u hstep
      have htags := SimpleState.tagged_of_run hrun key' item hitem
      rw [hhost] at hkept
      simp [Storage.purge, hitem, htags, hmem.mpr hcollides] at hkept
    · intro hfree overload actions t item hrun hitem u hstep
      obtain ⟨u', hstep', hhost⟩ := SimpleState.step_purge platform t overload key opts
      obtain rfl := Except.ok.inj (hstep.symm.trans hstep')
      have htags := SimpleState.tagged_of_run hrun key' item hitem
      rw [hhost]
      simp [Storage.purge, hitem, htags, mt hmem.mp hfree]

/-- Purging "a" leaves "b" alone. -/
theorem purge_isolated_local :
    (Simple.surrogateKeyForCacheKey localPlatform [97] .pop ≠
        Simple.surrogateKeyForCacheKey localPlatform [98] .pop ∧
      Simple.surrogateKeyForCacheKey localPlatform [97] .pop ≠
        Simple.surrogateKeyForCacheKey localPlatform [98] .global) ∧
    ∃ t u item, run (SimpleAction.step localPlatform) (.start (.atMost 0) (.atMost 0))
      [.call (.getOrSetWith .span [98] (some (emptyValue, 0)))] = .ok t ∧
      SimpleAction.step localPlatform t (.purge .span [97] none) = .ok u ∧
      t.host.items [98] = some item ∧ u.host.items [98] = some item := by
  have hsha : Set.InjOn (fun bytes => (localPlatform.sha256 bytes).1)
      (involved localPlatform [97] [98]) := by
    rintro x (rfl | rfl | rfl | rfl) y (rfl | rfl | rfl | rfl) h <;>
      first | rfl | exact absurd h (by decide)
  have hfree : ¬ Collides localPlatform [97] .pop [98] := by decide
  obtain ⟨hkeys, hruns⟩ :=
    purge_isolated_iff localPlatform (by decide) hsha (.atMost 0) (.atMost 0) none
  refine ⟨⟨hkeys.mpr hfree .pop, hkeys.mpr hfree .global⟩, ?_⟩
  obtain ⟨t, item, hrun, hitem⟩ :=
    SimpleState.exists_stored localPlatform (.atMost 0) (.atMost 0) [98] emptyValue
  obtain ⟨u, hstep, -⟩ := SimpleState.step_purge localPlatform t .span [97] none
  exact ⟨t, u, item, hrun, hstep, hitem, hruns.mpr hfree .span _ t item hrun hitem u hstep⟩

/-- At the POP "POP", the purge of "a" removes what is stored under "aPOP". -/
theorem not_purge_isolated :
    Set.InjOn (fun bytes => (localPlatform.sha256 bytes).1)
      (involved localPlatform [97] [97, 80, 79, 80]) ∧
    Simple.surrogateKeyForCacheKey localPlatform [97] .pop =
      Simple.surrogateKeyForCacheKey localPlatform [97, 80, 79, 80] .global ∧
    ∃ t u item, run (SimpleAction.step localPlatform) (.start (.atMost 0) (.atMost 0))
      [.call (.getOrSetWith .span [97, 80, 79, 80] (some (emptyValue, 0)))] = .ok t ∧
      t.host.items [97, 80, 79, 80] = some item ∧
      SimpleAction.step localPlatform t (.purge .span [97] none) = .ok u ∧
      u.host.items [97, 80, 79, 80] = none := by
  have hsha : Set.InjOn (fun bytes => (localPlatform.sha256 bytes).1)
      (involved localPlatform [97] [97, 80, 79, 80]) := by
    rintro x (rfl | rfl | rfl | rfl) y (rfl | rfl | rfl | rfl) h <;>
      first | rfl | exact absurd h (by decide)
  have heq : Simple.surrogateKeyForCacheKey localPlatform [97] .pop =
      Simple.surrogateKeyForCacheKey localPlatform [97, 80, 79, 80] .global := rfl
  refine ⟨hsha, heq, ?_⟩
  obtain ⟨t, item, hrun, hitem⟩ :=
    SimpleState.exists_stored localPlatform (.atMost 0) (.atMost 0) [97, 80, 79, 80] emptyValue
  obtain ⟨u, hstep, hhost⟩ := SimpleState.step_purge localPlatform t .span [97] none
  have htags := SimpleState.tagged_of_run hrun [97, 80, 79, 80] item hitem
  refine ⟨t, u, item, hrun, hitem, hstep, ?_⟩
  have hmem : Simple.surrogateKeyForCacheKey localPlatform [97] .pop ∈ item.tags := by
    rw [htags, Storage.entryTags, heq]
    simp
  have hpurge : u.host = t.host.purge
      (Simple.surrogateKeyForCacheKey localPlatform [97] .pop) := hhost
  rw [hpurge]
  simp [Storage.purge, hitem, hmem]

end ComputeSdk
