import ComputeSdk.Verification.Cache.Rules
import ComputeSdk.Verification.Cache.Storage
import ComputeSdk.Verification.Cache.SurrogateKeys

/-! # The simple cache as a map

What each call does to the stored items, and that runs are those of a map in which the
first write of a key wins. -/

namespace ComputeSdk

open Shared Guest ComputeSdk.Core

/-! ## Moving bodies -/

theorem Body.moves_of_pending_nil {b : Body} (h : b.pending = []) (n : ℕ) :
    ∃ b', b.moves n = .ok b' ∧ b'.bod = b.bod ∧ b'.pending = [] := by
  induction n generalizing b with
  | zero => exact ⟨b, rfl, rfl, h⟩
  | succ n ih =>
      obtain ⟨b', hmoves, hbod, hpending⟩ :=
        ih (b := ⟨⟨b.bod, b.pbuf.reset, IoState.goodbit⟩, b.gbuf⟩) rfl
      refine ⟨b', ?_, hbod, hpending⟩
      simp only [moves, Body.move_of_pending_nil h]
      exact hmoves

/-- Moving a body keeps its bytes, and brings them to the host. -/
theorem Body.moves_content {b : Body} (h : b.bod.writes.Accepting) (n : ℕ) :
    ∃ b', b.moves (n + 1) = .ok b' ∧ b'.bod.content = b.bod.content ++ b.pending ∧
      b'.pending = [] ∧ b'.bod.writes.Accepting := by
  obtain ⟨c, hmove, hcontent, hpending, haccepting⟩ := Body.move_content h
  obtain ⟨b', hmoves, hbod, hpending'⟩ := Body.moves_of_pending_nil hpending n
  refine ⟨b', ?_, by rw [hbod, hcontent], hpending', by rwa [hbod]⟩
  simp only [moves, hmove]
  exact hmoves

theorem HostedStream.moves_of_pending_nil {s : HostedStream} (h : s.pending = []) (n : ℕ) :
    ∃ s', s.moves n = .ok s' ∧ s'.bod = s.bod ∧ s'.pending = [] ∧ s'.handle = s.handle := by
  induction n generalizing s with
  | zero => exact ⟨s, rfl, rfl, h, rfl⟩
  | succ n ih =>
      obtain ⟨s', hmoves, hbod, hpending, hhandle⟩ :=
        ih (s := ⟨⟨⟨s.bod, s.pbuf.reset, IoState.goodbit⟩⟩, s.handle⟩) rfl
      refine ⟨s', ?_, hbod, hpending, hhandle⟩
      simp only [moves, move, StreamingBody.move, Writer.move_of_pending_nil h, Except.map]
      exact hmoves

theorem HostedStream.flush_of_pending_nil {s : HostedStream} (h : s.pending = []) :
    ∃ s', s.flush = .ok s' ∧ s'.bod = s.bod ∧ s'.handle = s.handle := by
  obtain ⟨w, hflush, hbod⟩ := Writer.flush_of_pending_nil h
  refine ⟨⟨⟨w⟩, s.handle⟩, ?_, hbod, rfl⟩
  simp only [flush, StreamingBody.flush, hflush, Except.map]

/-! ## Single calls -/

namespace Storage

/-- The computation ends at the host `s`, with a result that meets `post`. -/
abbrev Yields {α : Type} (post : α → RefHeap HandleObject → Storage → Prop) (x : Guest α)
    (H : RefHeap HandleObject) (s : Storage) : Prop :=
  Follows (.ofHandler Storage.handle) (fun _ => False) post x H s

variable {H : RefHeap HandleObject} {s : Storage}

theorem yields_host {c : HostCall} {post : c.Answer → RefHeap HandleObject → Storage → Prop}
    (h : post (s.handle c).1 H (s.handle c).2) : Yields post (host c) H s :=
  follows_host trivial fun a t hmove => by
    have hmove' : s.handle c = (a, t) := hmove
    rw [hmove'] at h
    exact h

theorem yields_ofExcept {α : Type} {post : α → RefHeap HandleObject → Storage → Prop}
    {x : Except Abort α} {a : α} (hx : x = .ok a) (h : post a H s) :
    Yields post (Guest.ofExcept x) H s := by
  subst hx
  exact h

/-- Closing the handle of an object does not change the host. -/
theorem yields_destroy {r : SharedPtr} {post : Unit → RefHeap HandleObject → Storage → Prop}
    (hr : H.Holds r 1)
    (h : ∀ H', (∀ q m, q.cell ≠ r.cell → H.Holds q m → H'.Holds q m) → post () H' s) :
    Yields post r.destroy H s :=
  follows_destroy_last hr trivial fun H' a t hothers hmove => by
    obtain ⟨-, rfl⟩ := Prod.mk.inj hmove
    exact h H' hothers

/-- The result is a body with these bytes, all at the host. -/
def Reads (result : Except Simple.CacheError (Option Body)) (bytes : List UInt8) : Prop :=
  ∃ body, result = .ok (some body) ∧ body.bod.content = bytes ∧ body.pending = []

theorem Reads.contents {result : Except Simple.CacheError (Option Body)} {bytes : List UInt8}
    (h : Reads result bytes) : SimpleState.contents result = .ok (some bytes) := by
  obtain ⟨body, rfl, rfl, -⟩ := h
  rfl

/-- Reading an item brings its bytes. -/
theorem yields_readBack (r : SharedPtr)
    {post : Except Simple.CacheError (Option Body) → RefHeap HandleObject → Storage → Prop}
    {k : Except Simple.CacheError (Option Body) → Guest (Except Simple.CacheError (Option Body))}
    (h : ∀ result, Reads result ((s.items (s.key r.val.handle)).elim [] Item.bytes) →
      Yields post (k result) H (s.getBody r.val.handle (none, none))) :
    Yields post (Simple.readBack (.cache r) k) H s := by
  refine follows_bind (follows_bind (yields_host (c := .cacheGetBody _ _ _) ?_))
  refine follows_bind (follows_bind (yields_host (follows_pure ?_)))
  obtain ⟨b, hmoves, hbod, hpending⟩ := Body.moves_of_pending_nil (n := 1)
    (b := Body.ofBox ⟨(s.getBody r.val.handle (none, none)).content s.next, s.reads,
      s.writes⟩) rfl
  obtain ⟨b', hmoves', hbod', hpending'⟩ := Body.moves_of_pending_nil hpending 2
  refine follows_bind (yields_ofExcept hmoves (follows_pure ?_))
  refine follows_bind (yields_ofExcept hmoves' (follows_bind (follows_pure ?_)))
  refine h _ ⟨b', rfl, ?_, hpending'⟩
  rw [hbod', hbod]
  exact Function.update_self _ _ _

@[simp] theorem state_lookup (s : Storage) (key : List UInt8) (missing : UInt32) :
    (s.lookup key missing).state s.next =
      if (s.items key).isSome then CacheLookupState.found ||| CacheLookupState.usable
      else missing :=
  Function.update_self _ _ _

@[simp] theorem key_lookup (s : Storage) (key : List UInt8) (missing : UInt32) :
    (s.lookup key missing).key s.next = key :=
  Function.update_self _ _ _

@[simp] theorem key_accept (s : Storage) (h : ℕ) (tags : List (List UInt8)) :
    (s.accept h tags).key s.next = s.key h := by
  simp [accept]

@[simp] theorem key_accept_succ (s : Storage) (h : ℕ) (tags : List (List UInt8)) :
    (s.accept h tags).key (s.next + 1) = s.key h :=
  Function.update_self _ _ _

@[simp] theorem tags_accept (s : Storage) (h : ℕ) (tags : List (List UInt8)) :
    (s.accept h tags).tags s.next = tags :=
  Function.update_self _ _ _

theorem yields_get (key : List UInt8) :
    Yields (fun result _ t => SimpleState.contents result = .ok ((s.items key).map Item.bytes) ∧
      t.items = s.items ∧ t.closures = s.closures) (Simple.get key) H s := by
  refine follows_bind (follows_cacheTry (yields_host (c := .cacheLookup _ _ _) ?_))
  refine follows_cacheTry (yields_host (c := .cacheGetState _) ?_)
  refine follows_cacheTry (yields_host (c := .cacheGetState _) ?_)
  simp only [Storage.handle, Core.lookup, state_lookup]
  cases hitem : s.items key with
  | none =>
      rw [Option.isSome_none, if_neg (by decide)]
      exact follows_pure (follows_pure ⟨rfl, rfl, rfl⟩)
  | some item =>
      rw [Option.isSome_some, if_pos (by decide)]
      refine follows_bind (follows_make fun r H₁ hval hheld _ => follows_pure ?_)
      refine follows_bind (follows_copy hheld fun H₂ hheld => ?_)
      refine yields_readBack r fun result hreads => ?_
      refine follows_bind (follows_destroy hheld fun H₃ hheld _ => ?_)
      refine follows_bind (yields_destroy hheld fun H₄ _ => follows_pure ⟨?_, rfl, rfl⟩)
      simpa [hval, hitem, lookup] using hreads.contents

/-- The transaction is the only owner of a handle for `key`. -/
structure Opened (s : Storage) (tx : Transaction) (key : List UInt8) (H : RefHeap HandleObject) :
    Prop where
  holds : H.Holds tx.handle 1
  key : s.key tx.handle.val.handle = key

theorem yields_readFound {tx : Transaction} {key : List UInt8} {item : Item}
    (hopened : s.Opened tx key H) (hitem : s.items key = some item)
    (hstate : s.state tx.handle.val.handle = CacheLookupState.found ||| CacheLookupState.usable) :
    Yields (fun result H t => H.Holds tx.handle 1 ∧ Reads result item.bytes ∧
      t.items = s.items ∧ t.closures = s.closures) (Simple.readFound tx) H s := by
  refine follows_bind (follows_bind (follows_bind (yields_host (c := .cacheGetState _)
    (follows_pure ?_))))
  rw [hstate, if_pos (by decide)]
  refine follows_bind (follows_copy hopened.holds fun H₁ hheld => follows_pure ?_)
  refine yields_readBack tx.handle fun result hreads => ?_
  refine follows_bind (follows_destroy hheld fun H₂ hheld _ => follows_pure ⟨hheld, ?_, rfl, rfl⟩)
  have hbytes : Reads result ((s.items (s.key tx.handle.val.handle)).elim [] Item.bytes) := hreads
  rwa [hopened.key, hitem] at hbytes

/-- The bytes that an entry brings to the host. -/
def entryBytes (entry : Simple.CacheEntry) : List UInt8 :=
  entry.value.bod.content ++ entry.value.pending

theorem yields_fillAndReadBack {entry : Simple.CacheEntry} {insertBody : HostedStream}
    {r p : SharedPtr} {key : List UInt8} {tags : List (List UInt8)}
    (hentry : entry.value.bod.writes.Accepting) (hempty : insertBody.bod.content = [])
    (hpending : insertBody.pending = []) (hbody : s.key insertBody.handle = key)
    (htags : s.tags insertBody.handle = tags) (hread : s.key r.val.handle = key)
    (hholds : H.Holds r 1) (hheld : H.Holds p 1) (hcell : p.cell ≠ r.cell) :
    Yields (fun result H t => H.Holds p 1 ∧ Reads result (entryBytes entry) ∧
      t.items = Function.update s.items key (some ⟨entryBytes entry, tags⟩) ∧
      t.closures = s.closures) (Simple.fillAndReadBack entry insertBody (.cache r)) H s := by
  obtain ⟨body, hmoves, hbod, hpending, hhandle⟩ := HostedStream.moves_of_pending_nil hpending 1
  obtain ⟨value, hvalue, hcontent, -, -⟩ := Body.moves_content hentry 0
  obtain ⟨full, hflush, hfull, hhandle'⟩ :=
    HostedStream.flush_of_pending_nil (s := body.append value) hpending
  refine follows_bind (yields_ofExcept hmoves ?_)
  refine follows_bind (yields_ofExcept hvalue ?_)
  refine follows_bind (follows_bind (yields_ofExcept hflush ?_))
  refine yields_host (c := .streamingBodyFinish _ _) ?_
  have hbytes : full.bod.content = entryBytes entry := by
    rw [hfull]
    change body.bod.content ++ value.bod.content = _
    rw [hbod, hempty, hcontent]
    rfl
  have hitems : (s.complete full.handle full.bod.content).items =
      Function.update s.items key (some ⟨entryBytes entry, tags⟩) := by
    rw [hhandle', show (body.append value).handle = insertBody.handle from hhandle, hbytes]
    rw [complete, hbody, htags]
  refine yields_readBack r fun result hreads => ?_
  refine follows_bind (yields_destroy hholds fun H₁ hothers => follows_pure ?_)
  refine ⟨hothers _ _ hcell hheld, ?_, hitems, rfl⟩
  have hread' : Reads result (((s.complete full.handle full.bod.content).items
      (s.key r.val.handle)).elim [] Item.bytes) := hreads
  rwa [hitems, hread, Function.update_self] at hread'

/-- The tags of an entry that is stored under `key`. -/
def entryTags (platform : Platform) (key : List UInt8) : List (List UInt8) :=
  [Simple.surrogateKeyForCacheKey platform key .pop,
    Simple.surrogateKeyForCacheKey platform key .global]

theorem space_notMem_entryTags (platform : Platform) (key : List UInt8) :
    ∀ item ∈ entryTags platform key, space ∉ item := by
  simp [entryTags, space_notMem_surrogateKey]

/-- The host gets back the two keys that the builder was given. -/
theorem tagsOf_insert (platform : Platform) (key : List UInt8) (ttl : Int64) :
    tagsOf ((WriteOptions.setSurrogateKeys (entryTags platform key) { maxAge := ttl }).asAbi).2
      ((WriteOptions.setSurrogateKeys (entryTags platform key) { maxAge := ttl }).asAbi).1 =
      some (entryTags platform key) := by
  have hset : WriteOptions.setSurrogateKeys (entryTags platform key) { maxAge := ttl } =
      { maxAge := ttl, surrogateKeys := some (joinStrings (entryTags platform key) space) } :=
    if_neg (List.cons_ne_nil _ _)
  rw [hset, tagsOf_asAbi, Option.elim_some]
  exact congrArg some
    (splitOn_joinStrings (space_notMem_entryTags platform key) (List.cons_ne_nil _ _))

theorem yields_executeAndStreamBack {b : TransactionInsertBuilder} {n : ℕ}
    {tags : List (List UInt8)}
    {post : Except CacheError (HostedStream × Found) → RefHeap HandleObject → Storage → Prop}
    (hheld : H.Holds b.handle n) 
    (htags : tagsOf b.options.asAbi.2 b.options.asAbi.1 = some tags)
    (h : ∀ body r H', H'.Holds b.handle n → H'.Holds r 1 → b.handle.cell ≠ r.cell →
      body.bod.content = [] → body.pending = [] → body.handle = s.next →
      r.val.handle = s.next + 1 →
      post (.ok (body, .cache r)) H' (s.accept b.handle.val.handle tags)) :
    Yields post b.executeAndStreamBack H s := by
  have hhandle : s.handle (.cacheTransactionInsertAndStreamBack b.handle.val.handle
      b.options.asAbi.2 b.options.asAbi.1) =
      (.ok (s.next, s.next + 1), s.accept b.handle.val.handle tags) := by
    rw [handle, htags]
  refine follows_cacheTry (follows_host (c := .cacheTransactionInsertAndStreamBack _ _ _) trivial
    fun a t hmove => ?_)
  obtain ⟨rfl, rfl⟩ := Prod.mk.inj (hhandle.symm.trans hmove)
  refine follows_bind (follows_bind (yields_host (follows_pure ?_)))
  refine follows_bind (follows_make fun r H' hval hread hothers => ?_)
  obtain ⟨hheld, hcell⟩ := hothers _ _ hheld
  obtain ⟨body, hmoves, hbod, hpending, hhandle⟩ := HostedStream.moves_of_pending_nil
    (s := ⟨.ofBox (.new s.reads s.writes), s.next⟩) rfl 2
  refine follows_bind (yields_ofExcept hmoves (follows_pure ?_))
  exact h body r H' hheld hread hcell (by rw [hbod]; rfl) hpending hhandle (by rw [hval])

theorem yields_insertEntry {platform : Platform} {key : List UInt8} {tx : Transaction}
    {entry : Option Simple.CacheEntry}
    (hentry : ∀ e, entry = some e → e.value.bod.writes.Accepting)
    (hopened : s.Opened tx key H) :
    Yields (fun result H t => H.Holds tx.handle 1 ∧ t.closures = s.closures + 1 ∧
      match entry with
      | none => result = .error .getOrSet ∧ t.items = s.items
      | some e => Reads result (entryBytes e) ∧
        t.items = Function.update s.items key (some ⟨entryBytes e, entryTags platform key⟩))
      (Simple.insertEntry platform key (.ok entry) tx) H s := by
  refine follows_bind (follows_bind (yields_host (c := .closureBegin) ?_))
  refine follows_bind (yields_ofExcept rfl ?_)
  refine follows_bind (yields_host (c := .closureEnd) (follows_pure ?_))
  change Yields _ _ H { s with closures := s.closures + 1 }
  cases entry with
  | none => exact follows_pure ⟨hopened.holds, rfl, rfl, rfl⟩
  | some e =>
      refine follows_bind (follows_bind (follows_copy hopened.holds fun H₁ hheld =>
        follows_pure ?_))
      refine follows_bind (yields_executeAndStreamBack hheld
        (tagsOf_insert platform key e.ttl)
        fun body r H₂ hheld hread hcell hempty hpending hbody hback => ?_)
      refine follows_bind (follows_destroy hheld fun H₃ hheld hothers => ?_)
      have hkey : (accept { s with closures := s.closures + 1 } tx.handle.val.handle
          (entryTags platform key)).key body.handle = key := by
        rw [hbody, key_accept]
        exact hopened.key
      have hkey' : (accept { s with closures := s.closures + 1 } tx.handle.val.handle
          (entryTags platform key)).key r.val.handle = key := by
        rw [hback, key_accept_succ]
        exact hopened.key
      have htags : (accept { s with closures := s.closures + 1 } tx.handle.val.handle
          (entryTags platform key)).tags body.handle = entryTags platform key := by
        rw [hbody, tags_accept]
      refine (yields_fillAndReadBack (hentry e rfl) hempty hpending hkey htags hkey'
        (hothers r 1 hcell.symm hread) hheld hcell).mono fun result H t hresult => ?_
      obtain ⟨hheld, hreads, hitems, hclosures⟩ := hresult
      exact ⟨hheld, hclosures, hreads, hitems⟩

/-- What `get_or_set_with` does to the host, and its result. -/
def Sets (platform : Platform) (s : Storage) (key : List UInt8)
    (entry : Option Simple.CacheEntry) (result : Except Simple.CacheError (Option Body))
    (t : Storage) : Prop :=
  match s.items key with
  | some item => Reads result item.bytes ∧ t.items = s.items ∧ t.closures = s.closures
  | none => t.closures = s.closures + 1 ∧
    match entry with
    | none => result = .error .getOrSet ∧ t.items = s.items
    | some e => Reads result (entryBytes e) ∧
      t.items = Function.update s.items key (some ⟨entryBytes e, entryTags platform key⟩)

theorem yields_getOrSetWith {platform : Platform} {key : List UInt8}
    {entry : Option Simple.CacheEntry}
    (hentry : ∀ e, entry = some e → e.value.bod.writes.Accepting) :
    Yields (fun result _ t => s.Sets platform key entry result t)
      (Simple.getOrSetWith platform key (.ok entry)) H s := by
  refine follows_bind (follows_cacheTry (yields_host (c := .cacheTransactionLookup _ _ _) ?_))
  refine follows_cacheTry (yields_host (c := .cacheGetState _) ?_)
  refine follows_bind (follows_make fun r H₁ hval hheld _ => follows_pure ?_)
  change Yields _ _ H₁ (s.lookup key CacheLookupState.mustInsertOrUpdate)
  have hopened : (s.lookup key CacheLookupState.mustInsertOrUpdate).Opened ⟨r⟩ key H₁ :=
    ⟨hheld, by rw [hval]; exact key_lookup s key _⟩
  have hstate : (s.lookup key CacheLookupState.mustInsertOrUpdate).state r.val.handle =
      if (s.items key).isSome then CacheLookupState.found ||| CacheLookupState.usable
      else CacheLookupState.mustInsertOrUpdate := by
    rw [hval]
    exact state_lookup s key _
  -- the end of the transaction does not change the host
  have hclose : ∀ (x : Guest (Except Simple.CacheError (Option Body))),
      Yields (fun result H t => H.Holds r 1 ∧ s.Sets platform key entry result t) x H₁
        (s.lookup key CacheLookupState.mustInsertOrUpdate) →
      Yields (fun result _ t => s.Sets platform key entry result t)
        (do let result ← x; Transaction.destroy ⟨r⟩; pure result) H₁
        (s.lookup key CacheLookupState.mustInsertOrUpdate) := by
    intro x hx
    refine follows_bind (hx.mono fun result H₂ t hresult => ?_)
    exact follows_bind (yields_destroy hresult.1 fun H₃ _ => follows_pure hresult.2)
  refine follows_bind (follows_bind (follows_bind (yields_host (c := .cacheGetState _)
    (follows_pure (follows_pure ?_)))))
  cases hitem : s.items key with
  | some item =>
      rw [hitem, Option.isSome_some, if_pos rfl] at hstate
      rw [hstate, if_neg (by decide)]
      refine hclose _ ((yields_readFound hopened hitem hstate).mono fun result H t hresult => ?_)
      exact ⟨hresult.1, by unfold Sets; rw [hitem]; exact hresult.2⟩
  | none =>
      rw [hitem, Option.isSome_none, if_neg (by decide)] at hstate
      rw [hstate, if_pos (by decide)]
      refine hclose _ ((yields_insertEntry hentry hopened).mono fun result H t hresult => ?_)
      exact ⟨hresult.1, by unfold Sets; rw [hitem]; exact hresult.2⟩

/-- Where the closure returns an entry the result is a body, which may be replaced by one
that holds the same. -/
theorem Sets.replace {platform : Platform} {key : List UInt8} {e : Simple.CacheEntry}
    {result : Except Simple.CacheError (Option Body)} {t : Storage}
    (h : s.Sets platform key (some e) result t) (e' : Simple.CacheEntry)
    (hsame : entryBytes e = entryBytes e') :
    ∃ bytes, Reads result bytes ∧
      ∀ result', Reads result' bytes → s.Sets platform key (some e') result' t := by
  unfold Sets at h ⊢
  cases hitem : s.items key with
  | some item =>
      rw [hitem] at h
      exact ⟨item.bytes, h.1, fun result' hreads => ⟨hreads, h.2⟩⟩
  | none =>
      rw [hitem] at h
      obtain ⟨hclosures, hreads, hitems⟩ := h
      exact ⟨entryBytes e, hreads, fun result' hreads' =>
        ⟨hclosures, hsame ▸ hreads', hitems.trans (by rw [hsame])⟩⟩

/-- The closure of `get_or_set` returns the value. -/
theorem providing_eq {val : Body} (h : val.bod.writes.Accepting) (ttl : Int64) :
    ∃ e, Simple.providing val ttl = .ok (some e) ∧ e.value.bod.writes.Accepting ∧
      entryBytes e = val.bod.content ++ val.pending := by
  obtain ⟨b, hmoves, hcontent, hpending, haccepting⟩ := Body.moves_content h 0
  obtain ⟨b', hmoves', hbod', hpending'⟩ := Body.moves_of_pending_nil hpending 1
  obtain ⟨b'', hmoves'', hbod'', hpending''⟩ := Body.moves_of_pending_nil hpending' 1
  refine ⟨⟨b'', ttl⟩, ?_, ?_, ?_⟩
  · rw [Simple.providing, hmoves]
    simp only [bind, Except.bind, Simple.CacheEntry.make, Simple.CacheEntry.move, hmoves',
      hmoves'', Except.map, pure, Except.pure]
  · change b''.bod.writes.Accepting
    rwa [hbod'', hbod']
  · change b''.bod.content ++ b''.pending = _
    rw [hbod'', hbod', hpending'', hcontent, List.append_nil]

theorem yields_getOrSet {platform : Platform} {key : List UInt8} {value : Body} {ttl : Int64}
    (hvalue : value.bod.writes.Accepting) :
    Yields (fun result _ t => s.Sets platform key (some ⟨value, ttl⟩) (result.map some) t)
      (Simple.getOrSet platform key value ttl) H s := by
  obtain ⟨val, hmoves, hcontent, hpending, haccepting⟩ := Body.moves_content hvalue 0
  obtain ⟨e, hproviding, hentry, hbytes⟩ := providing_eq haccepting ttl
  refine follows_bind (yields_ofExcept hmoves ?_)
  rw [hproviding]
  have hset : Yields (fun result _ t => s.Sets platform key (some e) result t)
      (Simple.getOrSetWith platform key (.ok (some e))) H s :=
    yields_getOrSetWith (by rintro e' ⟨⟩; exact hentry)
  refine follows_bind (hset.mono fun result H' t hsets => ?_)
  obtain ⟨bytes, ⟨body, rfl, hbody, hsettled⟩, hreplace⟩ := hsets.replace ⟨value, ttl⟩
    (by rw [hbytes, hpending, List.append_nil, hcontent]; rfl)
  obtain ⟨body', hmoves', hbod', hpending'⟩ := Body.moves_of_pending_nil hsettled 2
  refine follows_bind (yields_ofExcept hmoves' (follows_pure ?_))
  exact hreplace _ ⟨body', rfl, by rw [hbod', hbody], hpending'⟩

/-- To the stored bytes this is `getOrInsert`. -/
theorem Sets.getOrInsert {platform : Platform} {key : List UInt8}
    {entry : Option Simple.CacheEntry} {result : Except Simple.CacheError (Option Body)}
    {t : Storage} (h : s.Sets platform key entry result t) :
    ((SimpleState.contents result, t.closures - s.closures), t.stored) =
      FirstWriteMap.getOrInsert s.stored key (entry.map entryBytes) := by
  unfold Sets at h
  unfold FirstWriteMap.getOrInsert
  cases hitem : s.items key with
  | some item =>
      rw [hitem] at h
      obtain ⟨hreads, hitems, hclosures⟩ := h
      have hstored : s.stored key = some item.bytes := by simp [stored, hitem]
      have hsame : t.stored = s.stored := funext fun k => by simp [stored, hitems]
      rw [hstored, hreads.contents, hclosures, Nat.sub_self, hsame]
  | none =>
      rw [hitem] at h
      obtain ⟨hclosures, h⟩ := h
      have hstored : s.stored key = none := by simp [stored, hitem]
      have hruns : t.closures - s.closures = 1 := by omega
      rw [hstored, hruns]
      cases entry with
      | none =>
          obtain ⟨rfl, hitems⟩ := h
          have hsame : t.stored = s.stored := funext fun k => by simp [stored, hitems]
          rw [hsame]
          rfl
      | some e =>
          obtain ⟨hreads, hitems⟩ := h
          have hupdate : t.stored = Function.update s.stored key (some (entryBytes e)) := by
            funext k
            rw [stored, hitems]
            by_cases hk : k = key
            · subst hk
              simp
            · simp [hk, stored]
          rw [hreads.contents, hupdate]
          rfl

/-- What a computation yields is what its run ends with. -/
theorem Yields.run {α : Type} {post : α → RefHeap HandleObject → Storage → Prop} {x : Guest α}
    (h : Yields post x H s) :
    ∃ a H' t, (x.run H).run handle s = (.ok (a, H'), t) ∧ post a H' t := by
  have hrun := Prog.Follows.run h
  split at hrun
  · rename_i p t heq
    exact ⟨p.1, p.2, t, heq, hrun⟩
  · exact hrun.elim

end Storage

namespace SimpleOp

variable {H : RefHeap HandleObject} {s : Storage}

/-- What a call does to the host, and its result. -/
def Effect (platform : Platform) (s : Storage) (op : SimpleOp)
    (result : Except Simple.CacheError (Option Body)) (t : Storage) : Prop :=
  match op with
  | .get _ key => SimpleState.contents result = .ok (s.stored key) ∧ t.items = s.items ∧
      t.closures = s.closures
  | .getOrSet _ key value _ => ∃ e, Storage.entryBytes e = value.bytes ∧
      s.Sets platform key (some e) result t
  | .getOrSetWith _ key entry =>
      s.Sets platform key (entry.map fun p => ⟨p.1.body, p.2⟩) result t

theorem yields_exec (platform : Platform) (op : SimpleOp) :
    Storage.Yields (fun result _ t => Effect platform s op result t) (op.exec platform) H s := by
  have hsetWith : ∀ key (entry : Option (Value × Int64)), Storage.Yields
      (fun result _ t => s.Sets platform key (entry.map fun p => ⟨p.1.body, p.2⟩) result t)
      (Simple.getOrSetWith platform key (closure entry)) H s := by
    intro key entry
    refine Storage.yields_getOrSetWith fun e he => ?_
    obtain ⟨p, -, rfl⟩ := Option.map_eq_some_iff.mp he
    exact p.1.accepting
  cases op with
  | get overload key => cases overload <;> exact Storage.yields_get key
  | getOrSet overload key value ttl =>
      cases overload with
      | span =>
          exact follows_map ((Storage.yields_getOrSet value.accepting).mono
            fun result H' t hsets => ⟨⟨value.body, ttl⟩, value.bytes_eq.symm, hsets⟩)
      | view =>
          obtain ⟨val, hmoves, hcontent, hpending, haccepting⟩ :=
            Body.moves_content value.accepting 0
          refine follows_map (follows_bind (Storage.yields_ofExcept hmoves ?_))
          refine (Storage.yields_getOrSet haccepting).mono fun result H' t hsets =>
            ⟨_, ?_, hsets⟩
          rw [Storage.entryBytes, hpending, List.append_nil, hcontent, value.bytes_eq]
  | getOrSetWith overload key entry => cases overload <;> exact hsetWith key entry

/-- To the stored bytes a call does what the map does. -/
theorem Effect.firstWrite {platform : Platform} {op : SimpleOp}
    {result : Except Simple.CacheError (Option Body)} {t : Storage}
    (h : Effect platform s op result t) :
    ((SimpleState.contents result, t.closures - s.closures), t.stored) =
      FirstWriteMap.step s.stored op := by
  cases op with
  | get overload key =>
      obtain ⟨hcontents, hitems, hclosures⟩ := h
      have hsame : t.stored = s.stored := funext fun k => by simp [Storage.stored, hitems]
      rw [hcontents, hclosures, Nat.sub_self, hsame]
      rfl
  | getOrSet overload key value ttl =>
      obtain ⟨e, hbytes, hsets⟩ := h
      rw [hsets.getOrInsert, FirstWriteMap.step, Option.map_some, hbytes]
  | getOrSetWith overload key entry =>
      rw [Storage.Sets.getOrInsert h, FirstWriteMap.step, Option.map_map]
      cases entry with
      | none => rfl
      | some p => rw [Option.map_some, Option.map_some, p.1.bytes_eq]; rfl

end SimpleOp

/-- Whatever is stored at first, the results of a run of the simple cache, and how often
each call runs its closure, are those of the map of the stored bytes in which the first
write wins. -/
theorem refines_firstWriteMap (platform : Platform) (s : SimpleState) (ops : List SimpleOp) :
    outputs (SimpleState.step platform) s ops =
      .ok (totalOutputs FirstWriteMap.step s.host.stored ops) := by
  refine outputs_of_simulates (fun s M => s.host.stored = M) ?_ rfl ops
  rintro s M op rfl
  obtain ⟨result, H', t, hrun, heffect⟩ :=
    (SimpleOp.yields_exec (H := s.heap) (s := s.host) platform op).run
  have hstep := heffect.firstWrite
  refine ⟨⟨H', t⟩, ?_, congrArg Prod.snd hstep⟩
  rw [← congrArg Prod.fst hstep, SimpleState.step, hrun]

end ComputeSdk
