import ComputeSdk.Verification.Cache.Ledger

/-! # Ownership of host handles

A handle that the host hands out is a debt until an object owns it. Most calls leave the
debt as it is; three leave a new handle behind where they return early. -/

namespace ComputeSdk

open Shared Guest ComputeSdk.Core

/-- The references `rs` are those that the heap counts, and the handles that are open are
the owned ones and the debt. -/
structure Balance (rs : List SharedPtr) (debt : List ℕ) (H : RefHeap HandleObject)
    (L : Ledger) : Prop where
  counts : H.Counts rs
  opened : ∀ h, L.opened.count h = (H.live.map HandleObject.handle).count h + debt.count h
  stray : L.stray = []

namespace Balance

variable {rs rs' : List SharedPtr} {debt : List ℕ} {H : RefHeap HandleObject} {L : Ledger}

theorem perm (b : Balance rs debt H L) (h : rs.Perm rs') : Balance rs' debt H L :=
  ⟨fun r => by rw [← h.count_eq r]; exact b.counts r, b.opened, b.stray⟩

theorem tick (b : Balance rs debt H L) : Balance rs debt H L.tick := ⟨b.counts, b.opened, b.stray⟩

/-- A new handle is owed. -/
theorem granted (b : Balance rs debt H L) :
    Balance rs (L.next :: debt) H L.granted := by
  refine ⟨b.counts, fun h => ?_, b.stray⟩
  unfold Ledger.granted
  rw [List.count_cons, List.count_cons, b.opened h]
  omega

/-- A handle object takes over a handle that is owed. -/
theorem make (object : HandleObject) (b : Balance rs (object.handle :: debt) H L) :
    Balance ((H.alloc object).1 :: rs) debt (H.alloc object).2 L := by
  refine ⟨b.counts.alloc object, fun h => ?_, b.stray⟩
  have hopened := b.opened h
  rw [List.count_cons] at hopened
  rw [RefHeap.live_alloc, List.map_append, List.count_append, List.map_singleton,
    List.count_singleton, hopened]
  omega

theorem copy {r : SharedPtr} (b : Balance rs debt H L) (hr : r ∈ rs) :
    Balance (r :: rs) debt (H.retain r) L := by
  obtain ⟨hcounts, hlive⟩ := b.counts.retain hr
  exact ⟨hcounts, fun h => by rw [hlive]; exact b.opened h, b.stray⟩

/-- The last reference to a handle object closes its handle, which is open. -/
theorem release {r : SharedPtr} (b : Balance (r :: rs) debt H L) :
    ∃ gone H', H.release r = (gone, H') ∧
      match gone with
      | none => Balance rs debt H' L
      | some object => Balance rs debt H' (L.close object.handle) := by
  obtain ⟨gone, H', hrelease, hcounts, hlive, -⟩ := b.counts.release
  refine ⟨gone, H', hrelease, ?_⟩
  have hcount : ∀ h, (H.live.map HandleObject.handle).count h =
      ((gone.toList ++ H'.live).map HandleObject.handle).count h :=
    fun h => (hlive.map _).count_eq h
  cases gone with
  | none => exact ⟨hcounts, fun h => by rw [b.opened h, hcount h]; rfl, b.stray⟩
  | some object =>
      have hopened : ∀ h, L.opened.count h = (if object.handle = h then 1 else 0) +
          (H'.live.map HandleObject.handle).count h + debt.count h := by
        intro h
        rw [b.opened h, hcount h, Option.toList_some, List.singleton_append, List.map_cons,
          List.count_cons]
        simp only [beq_iff_eq]
        omega
      have hmem : object.handle ∈ L.opened := by
        apply List.count_pos_iff.mp
        rw [hopened, if_pos rfl]
        omega
      change Balance rs debt H' (L.close object.handle)
      unfold Ledger.close
      rw [if_pos hmem]
      refine ⟨hcounts, fun h => ?_, b.stray⟩
      have herase := hopened h
      simp only [List.count_erase, beq_iff_eq] at herase ⊢
      by_cases hh : object.handle = h
      · simp only [if_pos hh] at herase ⊢
        omega
      · simp only [if_neg hh] at herase ⊢
        omega

end Balance

/-! ## Computations -/

theorem result_inj {α : Type} {a a' : α} {H H' : RefHeap HandleObject} {L L' : Ledger}
    (h : ((.ok (a, H) : Except Abort (α × RefHeap HandleObject)), L) = (.ok (a', H'), L')) :
    a = a' ∧ H = H' ∧ L = L' := by
  cases h
  exact ⟨rfl, rfl, rfl⟩

theorem run_bind_ok {α β : Type} {x : Guest α} {f : α → Guest β} {H H' : RefHeap HandleObject}
    {L L' : Ledger} {b : β} (h : ((x >>= f).run H).run Ledger.handle L = (.ok (b, H'), L')) :
    ∃ a H'' L'', (x.run H).run Ledger.handle L = (.ok (a, H''), L'') ∧
      ((f a).run H'').run Ledger.handle L'' = (.ok (b, H'), L') := by
  rw [run_bind, Prog.run_bind] at h
  cases hrun : (x.run H).run Ledger.handle L with
  | mk r L'' =>
      rw [hrun] at h
      cases r with
      | error e => cases h
      | ok p => exact ⟨p.1, p.2, L'', rfl, h⟩

theorem run_map_ok {α β : Type} {x : Guest α} {f : α → β} {H H' : RefHeap HandleObject}
    {L L' : Ledger} {b : β} (h : ((f <$> x).run H).run Ledger.handle L = (.ok (b, H'), L')) :
    ∃ a, (x.run H).run Ledger.handle L = (.ok (a, H'), L') ∧ f a = b := by
  obtain ⟨a, H'', L'', hrun, hrest⟩ := run_bind_ok (f := fun a => pure (f a)) h
  obtain ⟨hb, rfl, rfl⟩ := result_inj hrest
  exact ⟨a, hrun, hb⟩

/-- From a balance of `rs` and `debt`, a value of `x` comes with one of `post`. -/
def Balances {α : Type} (rs : List SharedPtr) (debt : List ℕ) (x : Guest α)
    (post : α → List SharedPtr) : Prop :=
  ∀ H L, Balance rs debt H L → ∀ a H' L',
    (x.run H).run Ledger.handle L = (.ok (a, H'), L') → Balance (post a) debt H' L'

namespace Balances

variable {α β : Type} {rs : List SharedPtr} {debt : List ℕ} {post : α → List SharedPtr}
  {post' : β → List SharedPtr}

theorem pure {a : α} (h : rs.Perm (post a)) : Balances rs debt (pure a) post := by
  intro H L b a' H' L' hrun
  obtain ⟨rfl, rfl, rfl⟩ := result_inj hrun
  exact b.perm h

theorem bind {x : Guest α} {f : α → Guest β} (hx : Balances rs debt x post)
    (hf : ∀ a, Balances (post a) debt (f a) post') : Balances rs debt (x >>= f) post' := by
  intro H L b a' H' L' hrun
  obtain ⟨a, H'', L'', hx', hf'⟩ := run_bind_ok hrun
  exact hf a H'' L'' (hx H L b a H'' L'' hx') a' H' L' hf'

theorem mono {x : Guest α} {post' : α → List SharedPtr} (hx : Balances rs debt x post)
    (h : ∀ a, (post a).Perm (post' a)) : Balances rs debt x post' :=
  fun H L b a H' L' hrun => (hx H L b a H' L' hrun).perm (h a)

theorem map {x : Guest α} {f : α → β} (hx : Balances rs debt x fun a => post' (f a)) :
    Balances rs debt (f <$> x) post' :=
  hx.bind fun _ => .pure (.refl _)

/-- A call that neither hands out nor closes a handle. -/
theorem host {c : HostCall} (h : ∀ L : Ledger, (L.handle c).2 = L.tick) :
    Balances rs debt (host c) fun _ => rs := by
  intro H L b a' H' L' hrun
  obtain ⟨-, rfl, rfl⟩ := result_inj hrun
  rw [h]
  exact b.tick

theorem abort (stderr : String) : Balances rs debt (abort stderr : Guest α) post := by
  intro H L b a' H' L' hrun
  cases (Prod.mk.inj hrun).1

theorem ofExcept (x : Except Abort α) : Balances rs debt (Guest.ofExcept x) fun _ => rs := by
  cases x with
  | ok a => exact .pure (.refl _)
  | error e =>
      intro H L b a' H' L' hrun
      cases (Prod.mk.inj hrun).1

theorem cacheTry {call : Guest (Except Status α)} {next : α → Guest (Except CacheError β)}
    {post' : Except CacheError β → List SharedPtr}
    (hcall : Balances rs debt call fun _ => rs)
    (herror : ∀ e, rs.Perm (post' (.error e)))
    (hnext : ∀ a, Balances rs debt (next a) post') :
    Balances rs debt (Core.cacheTry call next) post' := by
  refine hcall.bind fun r => ?_
  cases r with
  | error status => exact .pure (herror _)
  | ok a => exact hnext a

theorem copy {r : SharedPtr} (hr : r ∈ rs) : Balances rs debt r.copy fun _ => r :: rs := by
  intro H L b a' H' L' hrun
  obtain ⟨-, rfl, rfl⟩ := result_inj hrun
  exact b.copy hr

theorem destroy {r : SharedPtr} : Balances (r :: rs) debt r.destroy fun _ => rs := by
  intro H L b a' H' L' hrun
  obtain ⟨gone, H'', hrelease, hbalance⟩ := b.release
  cases gone with
  | none =>
      rw [SharedPtr.run_destroy_shared hrelease] at hrun
      obtain ⟨-, rfl, rfl⟩ := result_inj hrun
      exact hbalance
  | some object =>
      rw [SharedPtr.run_destroy_last hrelease] at hrun
      obtain ⟨-, rfl, rfl⟩ := result_inj hrun
      exact hbalance

end Balances

/-! ## Calls that leave the debt as it is -/

namespace Balances

variable {rs : List SharedPtr} {debt : List ℕ}

theorem streamResult (bodyHandle : ℕ) :
    Balances rs debt (Core.streamResult bodyHandle) fun _ => rs :=
  bind (bind (host fun _ => rfl) fun _ => pure (.refl _)) fun _ =>
    bind (ofExcept _) fun _ => pure (.refl _)

theorem destroyRequestHeaders (l : Option RequestHandle) :
    Balances rs debt (Core.destroyRequestHeaders l) fun _ => rs := by
  cases l with
  | none => exact pure (.refl _)
  | some h => exact bind (host fun _ => rfl) fun _ => pure (.refl _)

theorem setRequestHeaderValues (requestHeaders : Option RequestHandle) (name : List UInt8)
    (values : List HeaderValue) :
    Balances rs debt (Core.setRequestHeaderValues requestHeaders name values) fun _ => rs := by
  cases requestHeaders with
  | some h => exact bind (pure (.refl _)) fun _ => bind (host fun _ => rfl) fun _ => pure (.refl _)
  | none =>
      have hset : ∀ h : RequestHandle, Balances rs debt (do
          let _ ← Guest.host (.httpReqHeaderValuesSet h.handle name (headerBytes values))
          Pure.pure h) fun _ => rs := fun h => bind (host fun _ => rfl) fun _ => pure (.refl _)
      refine bind (host fun _ => rfl) fun r => ?_
      cases r with
      | error status => exact bind (abort _) hset
      | ok h =>
          exact bind (destroyRequestHeaders (some ⟨h⟩)) fun _ => bind (pure (.refl _)) hset

theorem getState (tx : Transaction) : Balances rs debt tx.getState fun _ => rs := by
  refine bind (host fun _ => rfl) fun r => ?_
  cases r with
  | error status => exact abort _
  | ok state => exact pure (.refl _)

theorem toStreamFromRange (f : Found) (first last : Option UInt64) :
    Balances rs debt (f.toStreamFromRange first last) fun _ => rs := by
  unfold Found.toStreamFromRange
  split
  · exact pure (.refl _)
  · cases f with
    | _ =>
      refine bind (host fun _ => rfl) fun r => ?_
      cases r with
      | error status => exact pure (.refl _)
      | ok bodyHandle =>
          exact bind (bind (host fun _ => rfl) fun _ => pure (.refl _)) fun _ =>
            bind (ofExcept _) fun _ => pure (.refl _)

end Balances

namespace CacheObject

variable {rs : List SharedPtr} {debt : List ℕ}

theorem balances_destroy (object : CacheObject) :
    Balances (object.refs ++ rs) debt object.destroy fun _ => rs := by
  cases object with
  | replace r =>
      refine .bind (.destroyRequestHeaders _) fun _ => ?_
      obtain ⟨handle, existingObject, options⟩ := r
      cases existingObject with
      | none => exact .destroy
      | some f => exact .bind (.bind .destroy fun _ => .pure (.refl _)) fun _ => .destroy
  | _ => exact .destroy

theorem balances_copy (object : CacheObject) {rs : List SharedPtr}
    (h : ∀ r ∈ object.refs, r ∈ rs) :
    Balances rs debt object.copy fun _ => object.refs ++ rs := by
  have hforM : ∀ (l rs : List SharedPtr), (∀ r ∈ l, r ∈ rs) →
      Balances rs debt (l.forM SharedPtr.copy) fun _ => l ++ rs := by
    intro l
    induction l with
    | nil => exact fun rs _ => .pure (.refl _)
    | cons r l ih =>
        intro rs hl
        refine .bind (.copy (hl r List.mem_cons_self)) fun _ => (ih (r :: rs) ?_).mono ?_
        · exact fun q hq => List.mem_cons_of_mem r (hl q (List.mem_cons_of_mem r hq))
        · exact fun _ => List.perm_middle
  exact hforM object.refs rs h

end CacheObject

namespace CacheOp

variable {rs : List SharedPtr} {debt : List ℕ}

theorem balances_configureObject (c : BuilderCall) (object : CacheObject) :
    Balances (object.refs ++ rs) debt (configureObject c object) fun o => o.refs ++ rs := by
  cases object with
  | insertBuilder b => cases c <;> exact .pure (.refl _)
  | updateBuilder b => cases c <;> exact .pure (.refl _)
  | replace r =>
      have hset : ∀ (name : List UInt8) (values : List HeaderValue),
          Balances ((CacheObject.replace r).refs ++ rs) debt
            (CacheObject.replace <$> r.headerValues name values) fun o => o.refs ++ rs :=
        fun name values => .map (.bind (.setRequestHeaderValues _ _ _) fun _ => .pure (.refl _))
      cases c with
      | headerValues name values => exact hset name values
      | header name value => exact hset name [value]
      | _ => exact .pure (.refl _)
  | _ => exact .pure (.refl _)

theorem balances_executeObject (maxAge : Int64) (object : CacheObject) :
    Balances (object.refs ++ rs) debt (executeObject maxAge object) fun o => o.refs ++ rs := by
  cases object with
  | insertBuilder b =>
      exact .map (.cacheTry (.host fun _ => rfl) (fun _ => .refl _) .streamResult)
  | updateBuilder b =>
      exact .map (.cacheTry (.host fun _ => rfl) (fun _ => .refl _) fun _ => .pure (.refl _))
  | replace r =>
      obtain ⟨handle, existingObject, options⟩ := r
      have hinsert : ∀ mask opts, Balances ([handle] ++ rs) debt
          (cacheTry (host (.cacheReplaceInsert handle.val.handle mask opts)) streamResult)
          fun _ => [handle] ++ rs :=
        fun _ _ => .cacheTry (.host fun _ => rfl) (fun _ => .refl _) .streamResult
      refine .map ?_
      cases existingObject with
      | none =>
          simp only [Replace.execute, Replace.resetExisting, pure_bind]
          exact .bind (hinsert _ _) fun _ => .pure (.refl _)
      | some f =>
          simp only [Replace.execute, Replace.resetExisting, bind_assoc, pure_bind]
          exact .bind .destroy fun _ => .bind (hinsert _ _) fun _ => .pure (.refl _)
  | _ => exact .pure (.refl _)

end CacheOp

/-! ## New handles -/

/-- From a debt of one handle `h` more, a value of `x` comes with `h` owned. -/
def Repays {α : Type} (rs : List SharedPtr) (h : ℕ) (debt : List ℕ) (x : Guest α)
    (post : α → List SharedPtr) : Prop :=
  ∀ H L, Balance rs (h :: debt) H L → ∀ a H' L',
    (x.run H).run Ledger.handle L = (.ok (a, H'), L') → Balance (post a) debt H' L'

/-- The call fails, or hands out the next handle. -/
def Grants {α : Type} (call : Guest (Except Status α)) (handle : α → ℕ) : Prop :=
  ∀ H L, (∃ status, (call.run H).run Ledger.handle L = (.ok (.error status, H), L.tick)) ∨
    ∃ a, handle a = L.next ∧ (call.run H).run Ledger.handle L = (.ok (.ok a, H), L.granted)

namespace Repays

variable {α β : Type} {rs : List SharedPtr} {h : ℕ} {debt : List ℕ} {post : β → List SharedPtr}

theorem make {kind : HandleKind} {f : SharedPtr → Guest β}
    (hf : ∀ r, Balances (r :: rs) debt (f r) post) :
    Repays rs h debt (SharedPtr.make ⟨kind, h⟩ >>= f) post :=
  fun _ L b a H' L' hrun => hf _ _ L (b.make ⟨kind, h⟩) a H' L' hrun

theorem bind {x : Guest α} {f : α → Guest β} (hx : Balances rs (h :: debt) x fun _ => rs)
    (hf : ∀ a, Repays rs h debt (f a) post) : Repays rs h debt (x >>= f) post := by
  intro H L b a' H' L' hrun
  obtain ⟨a, H'', L'', hx', hf'⟩ := run_bind_ok hrun
  exact hf a H'' L'' (hx H L b a H'' L'' hx') a' H' L' hf'

end Repays

theorem Balances.grant {α β : Type} {rs : List SharedPtr} {debt : List ℕ}
    {call : Guest (Except Status α)} {g : α → ℕ}
    {next : α → Guest (Except CacheError β)} {post : Except CacheError β → List SharedPtr}
    (hcall : Grants call g) (herror : ∀ e, rs.Perm (post (.error e)))
    (hnext : ∀ a, Repays rs (g a) debt (next a) post) :
    Balances rs debt (Core.cacheTry call next) post := by
  intro H L b a' H' L' hrun
  rcases hcall H L with ⟨status, hstatus⟩ | ⟨a, hhandle, ha⟩
  · rw [run_cacheTry_error hstatus] at hrun
    exact Balances.pure (herror _) H _ b.tick a' H' L' hrun
  · rw [run_cacheTry_ok ha] at hrun
    exact hnext a H _ (hhandle ▸ b.granted) a' H' L' hrun

/-- The host answers `call` with `answer`, or in its place with a new handle. -/
def GrantsAs (call : Guest (Except Status ℕ)) (answer : Ledger → Except Status ℕ) : Prop :=
  ∀ H L, (call.run H).run Ledger.handle L =
    (.ok ((L.grant (answer L)).1, H), (L.grant (answer L)).2)

theorem GrantsAs.run_error {call : Guest (Except Status ℕ)} {answer : Ledger → Except Status ℕ}
    (h : GrantsAs call answer) {L : Ledger} {status : Status} (hanswer : answer L = .error status)
    (H : RefHeap HandleObject) :
    (call.run H).run Ledger.handle L = (.ok (.error status, H), L.tick) := by
  rw [h H L, hanswer]
  rfl

theorem GrantsAs.run_ok {call : Guest (Except Status ℕ)} {answer : Ledger → Except Status ℕ}
    (h : GrantsAs call answer) {L : Ledger} {ignored : ℕ} (hanswer : answer L = .ok ignored)
    (H : RefHeap HandleObject) :
    (call.run H).run Ledger.handle L = (.ok (.ok L.next, H), L.granted) := by
  rw [h H L, hanswer]
  rfl

theorem GrantsAs.grants {call : Guest (Except Status ℕ)} {answer : Ledger → Except Status ℕ}
    (h : GrantsAs call answer) : Grants call id := by
  intro H L
  cases hanswer : answer L with
  | error status => exact .inl ⟨status, h.run_error hanswer H⟩
  | ok ignored => exact .inr ⟨L.next, rfl, h.run_ok hanswer H⟩

theorem grantsAs_lookup (key : List UInt8) (mask : UInt32) (options : CacheLookupOptions) :
    GrantsAs (host (.cacheLookup key mask options)) fun L =>
      L.answers L.clock (.cacheLookup key mask options) := fun _ _ => rfl

/-! ## The calls that may leave a debt -/

/-- A transaction over a new handle whose state is asked for first. -/
def awaited (call : Guest (Except Status ℕ)) : Guest (Except CacheError Transaction) :=
  cacheTry call fun cacheHandle =>
  cacheTry (host (.cacheGetState cacheHandle)) fun _ => do
    let handle ← SharedPtr.make ⟨.cache, cacheHandle⟩
    pure (.ok ⟨handle⟩)

theorem awaited_spec {call : Guest (Except Status ℕ)} {answer : Ledger → Except Status ℕ}
    (hcall : GrantsAs call answer) {rs : List SharedPtr} {debt : List ℕ}
    {H H' : RefHeap HandleObject} {L L' : Ledger} {r : Except CacheError Transaction}
    (b : Balance rs debt H L)
    (hrun : ((awaited call).run H).run Ledger.handle L = (.ok (r, H'), L')) :
    ∃ debt', Balance (match r with | .ok tx => tx.handle :: rs | .error _ => rs) debt' H' L' ∧
      (debt' = debt ↔ (∃ status, answer L = .error status) ∨
        ∃ ignored, L.answers (L.clock + 1) (.cacheGetState L.next) = .ok ignored) := by
  have hget : ((host (.cacheGetState L.next)).run H).run Ledger.handle L.granted =
      (.ok (L.answers (L.clock + 1) (.cacheGetState L.next), H), L.granted.tick) := rfl
  cases hanswer : answer L with
  | error status =>
      rw [awaited, run_cacheTry_error (hcall.run_error hanswer H)] at hrun
      obtain ⟨rfl, rfl, rfl⟩ := result_inj hrun
      exact ⟨debt, b.tick, iff_of_true rfl (.inl ⟨status, rfl⟩)⟩
  | ok ignored =>
      rw [awaited, run_cacheTry_ok (hcall.run_ok hanswer H)] at hrun
      cases hstate : L.answers (L.clock + 1) (.cacheGetState L.next) with
      | error status =>
          rw [hstate] at hget
          rw [run_cacheTry_error hget] at hrun
          obtain ⟨rfl, rfl, rfl⟩ := result_inj hrun
          exact ⟨L.next :: debt, b.granted.tick, iff_of_false (List.cons_ne_self _ _) (by simp)⟩
      | ok state =>
          rw [hstate] at hget
          rw [run_cacheTry_ok hget] at hrun
          obtain ⟨rfl, rfl, rfl⟩ := result_inj hrun
          exact ⟨debt, (b.granted.tick).make ⟨.cache, L.next⟩,
            iff_of_true rfl (.inr ⟨state, rfl⟩)⟩

/-- A lookup keeps its new handle if it finds something. -/
theorem lookup_spec (lb : LookupBuilder) {rs : List SharedPtr} {debt : List ℕ}
    {H H' : RefHeap HandleObject} {L L' : Ledger} {r : Except CacheError (Option Found)}
    (b : Balance rs debt H L)
    (hrun : (lb.execute.run H).run Ledger.handle L = (.ok (r, H'), L')) :
    ∃ debt', Balance (match r with | .ok (some f) => f.ptr :: rs | _ => rs) debt' H' L' ∧
      (debt' = debt ↔
        (∃ status, L.answers L.clock (.cacheLookup lb.key lb.options.asAbi.2 lb.options.asAbi.1) =
          .error status) ∨
        ∃ ignored state, L.answers (L.clock + 1) (.cacheGetState L.next) = .ok ignored ∧
          L.answers (L.clock + 2) (.cacheGetState L.next) = .ok state ∧
          state &&& CacheLookupState.found ≠ 0) := by
  have hcall := grantsAs_lookup lb.key lb.options.asAbi.2 lb.options.asAbi.1
  have hget : ((host (.cacheGetState L.next)).run H).run Ledger.handle L.granted =
      (.ok (L.answers (L.clock + 1) (.cacheGetState L.next), H), L.granted.tick) := rfl
  have hagain : ((host (.cacheGetState L.next)).run H).run Ledger.handle L.granted.tick =
      (.ok (L.answers (L.clock + 2) (.cacheGetState L.next), H), L.granted.tick.tick) := rfl
  have howed : ∀ {p : Prop}, ¬ p → (L.next :: debt = debt ↔ p) :=
    fun hp => iff_of_false (List.cons_ne_self _ _) hp
  rw [LookupBuilder.execute] at hrun
  cases hanswer : L.answers L.clock (.cacheLookup lb.key lb.options.asAbi.2 lb.options.asAbi.1) with
  | error status =>
      rw [run_cacheTry_error (hcall.run_error hanswer H)] at hrun
      obtain ⟨rfl, rfl, rfl⟩ := result_inj hrun
      exact ⟨debt, b.tick, iff_of_true rfl (.inl ⟨status, rfl⟩)⟩
  | ok ignored =>
      rw [run_cacheTry_ok (hcall.run_ok hanswer H)] at hrun
      cases hstate : L.answers (L.clock + 1) (.cacheGetState L.next) with
      | error status =>
          rw [hstate] at hget
          rw [run_cacheTry_error hget] at hrun
          obtain ⟨rfl, rfl, rfl⟩ := result_inj hrun
          exact ⟨L.next :: debt, b.granted.tick, howed (by simp)⟩
      | ok ignored =>
          rw [hstate] at hget
          rw [run_cacheTry_ok hget] at hrun
          cases hstate' : L.answers (L.clock + 2) (.cacheGetState L.next) with
          | error status =>
              rw [hstate'] at hagain
              rw [run_cacheTry_error hagain] at hrun
              obtain ⟨rfl, rfl, rfl⟩ := result_inj hrun
              exact ⟨L.next :: debt, b.granted.tick.tick, howed (by simp)⟩
          | ok state =>
              rw [hstate'] at hagain
              rw [run_cacheTry_ok hagain] at hrun
              split at hrun
              · rename_i hfound
                obtain ⟨rfl, rfl, rfl⟩ := result_inj hrun
                exact ⟨debt, (b.granted.tick.tick).make ⟨.cache, L.next⟩,
                  iff_of_true rfl (.inr ⟨ignored, state, rfl, rfl, hfound⟩)⟩
              · rename_i hmiss
                obtain ⟨rfl, rfl, rfl⟩ := result_inj hrun
                exact ⟨L.next :: debt, b.granted.tick.tick, howed (by simpa using hmiss)⟩

theorem grantsAs_transactionLookup (key : List UInt8) (mask : UInt32)
    (options : CacheLookupOptions) :
    GrantsAs (host (.cacheTransactionLookup key mask options)) fun L =>
      L.answers L.clock (.cacheTransactionLookup key mask options) := fun _ _ => rfl

theorem grantsAs_busyHandleWait (busy : ℕ) :
    GrantsAs (host (.cacheBusyHandleWait busy)) fun L =>
      L.answers L.clock (.cacheBusyHandleWait busy) := fun _ _ => rfl

theorem grantsAs_transactionLookupAsync (key : List UInt8) (mask : UInt32)
    (options : CacheLookupOptions) :
    GrantsAs (host (.cacheTransactionLookupAsync key mask options)) fun L =>
      L.answers L.clock (.cacheTransactionLookupAsync key mask options) := fun _ _ => rfl

theorem grantsAs_replace (key : List UInt8) (mask : UInt32) (options : CacheReplaceOptions) :
    GrantsAs (host (.cacheReplace key mask options)) fun L =>
      L.answers L.clock (.cacheReplace key mask options) := fun _ _ => rfl

theorem grants_insertAndStreamBack (handle : ℕ) (mask : UInt32) (options : CacheWriteOptions) :
    Grants (host (.cacheTransactionInsertAndStreamBack handle mask options)) Prod.snd := by
  intro H L
  have hrun : ((host (.cacheTransactionInsertAndStreamBack handle mask options)).run H).run
      Ledger.handle L = (.ok ((L.grantStream (L.answers L.clock
        (.cacheTransactionInsertAndStreamBack handle mask options))).1, H),
      (L.grantStream (L.answers L.clock
        (.cacheTransactionInsertAndStreamBack handle mask options))).2) := rfl
  rw [hrun]
  cases L.answers L.clock (.cacheTransactionInsertAndStreamBack handle mask options) with
  | error status => exact .inl ⟨status, rfl⟩
  | ok p => exact .inr ⟨(p.1, L.next), rfl, rfl⟩

/-! ## The other calls -/

namespace Balances

variable {rs : List SharedPtr} {debt : List ℕ}

theorem executeAndStreamBack (b : TransactionInsertBuilder) :
    Balances rs debt b.executeAndStreamBack fun r =>
      match r with | .ok (_, f) => f.ptr :: rs | .error _ => rs := by
  refine grant (grants_insertAndStreamBack _ _ _) (fun _ => .refl _) fun p => ?_
  exact .bind (bind (host fun _ => rfl) fun _ => pure (.refl _)) fun _ =>
    .make fun _ => bind (ofExcept _) fun _ => pure (.refl _)

theorem executeAsync (b : TransactionLookupBuilder) :
    Balances rs debt b.executeAsync fun r =>
      match r with | .ok p => p.handle :: rs | .error _ => rs :=
  grant (grantsAs_transactionLookupAsync _ _ _).grants (fun _ => .refl _) fun _ =>
    .make fun _ => pure (.refl _)

theorem begin (b : ReplaceBuilder) :
    Balances rs debt b.begin fun r =>
      match r with | .ok r => (CacheObject.replace r).refs ++ rs | .error _ => rs := by
  refine grant (grantsAs_replace _ _ _).grants (fun _ => .refl _) fun replaceHandle => ?_
  refine .make fun r => bind (host fun _ => rfl) fun answer => ?_
  cases answer with
  | error status => exact bind destroy fun _ => pure (.refl _)
  | ok state =>
      dsimp only
      split
      · exact bind (copy List.mem_cons_self) fun _ => pure (.refl _)
      · exact pure (.refl _)

end Balances

namespace CacheOp

variable {rs : List SharedPtr} {debt : List ℕ}

theorem balances_returned (object : CacheObject) (op : CacheOp) (hop : ∀ i, op ≠ .wait i)
    (h : ∀ r ∈ object.refs, r ∈ rs) :
    Balances rs debt (returned object op) fun new => new.flatMap CacheObject.refs ++ rs := by
  have hnone : Balances rs debt (pure []) fun new => new.flatMap CacheObject.refs ++ rs :=
    .pure (.refl _)
  cases op with
  | wait i => exact absurd rfl (hop i)
  | isPending i =>
      cases object with
      | pending p =>
          exact .map (.cacheTry (.host fun _ => rfl) (fun _ => .refl _) fun _ => .pure (.refl _))
      | _ => exact hnone
  | mustInsert i =>
      cases object with
      | transaction tx => exact .map (.bind (.getState tx) fun _ => .pure (.refl _))
      | _ => exact hnone
  | mustInsertOrUpdate i =>
      cases object with
      | transaction tx => exact .map (.bind (.getState tx) fun _ => .pure (.refl _))
      | _ => exact hnone
  | cancelInsertOrUpdate i =>
      cases object with
      | transaction tx =>
          exact .map (.cacheTry (.host fun _ => rfl) (fun _ => .refl _) fun _ => .pure (.refl _))
      | _ => exact hnone
  | found i =>
      cases object with
      | transaction tx =>
          refine .map (.bind (.getState tx) fun state => ?_)
          split
          · exact .bind (.copy (h _ (by simp [CacheObject.refs]))) fun _ => .pure (.refl _)
          · exact .pure (.refl _)
      | _ => exact hnone
  | insert i maxAge =>
      cases object with
      | transaction tx =>
          exact .map (.bind (.copy (h _ (by simp [CacheObject.refs]))) fun _ => .pure (.refl _))
      | _ => exact hnone
  | update i maxAge =>
      cases object with
      | transaction tx =>
          exact .map (.bind (.copy (h _ (by simp [CacheObject.refs]))) fun _ => .pure (.refl _))
      | _ => exact hnone
  | executeAndStreamBack i =>
      cases object with
      | insertBuilder b =>
          refine .bind (.executeAndStreamBack b) fun r => ?_
          cases r with
          | error e => exact hnone
          | ok p => exact .pure (.refl _)
      | _ => exact hnone
  | toStream i first last =>
      cases object with
      | found f => exact .map (.toStreamFromRange f first last)
      | _ => exact hnone
  | existingObject i =>
      cases object with
      | replace r =>
          obtain ⟨handle, existingObject, options⟩ := r
          cases existingObject with
          | none => exact hnone
          | some f =>
              exact .bind (.copy (h _ (by simp [CacheObject.refs]))) fun _ => .pure (.refl _)
      | _ => exact hnone
  | copy i =>
      refine .bind (object.balances_copy h) fun _ => .pure ?_
      rw [List.flatMap_cons, List.flatMap_nil, List.append_nil]
  | _ => exact hnone

theorem balances_created (op : CacheOp) (hlookup : ∀ b, op ≠ .lookup b)
    (htransactionLookup : ∀ b, op ≠ .transactionLookup b) :
    Balances rs debt (created op) fun new => new.flatMap CacheObject.refs ++ rs := by
  have hnone : Balances rs debt (pure []) fun new => new.flatMap CacheObject.refs ++ rs :=
    .pure (.refl _)
  cases op with
  | lookup b => exact absurd rfl (hlookup b)
  | transactionLookup b => exact absurd rfl (htransactionLookup b)
  | transactionLookupAsync b =>
      refine .bind (.executeAsync b) fun r => ?_
      cases r with
      | error e => exact hnone
      | ok p => exact .pure (.refl _)
  | nonTransactionalInsert b =>
      exact .map (.cacheTry (.host fun _ => rfl) (fun _ => .refl _) .streamResult)
  | replaceBegin b =>
      refine .bind (.begin b) fun r => ?_
      cases r with
      | error e => exact hnone
      | ok r =>
          refine .pure ?_
          rw [List.flatMap_cons, List.flatMap_nil, List.append_nil]
  | _ => exact hnone

end CacheOp

/-! ## Steps -/

/-- What the objects of a program own. -/
def ownedRefs (objects : List CacheObject) : List SharedPtr := objects.flatMap CacheObject.refs

theorem ownedRefs_append (objects new : List CacheObject) :
    (new.flatMap CacheObject.refs ++ ownedRefs objects).Perm (ownedRefs (objects ++ new)) := by
  rw [ownedRefs, ownedRefs, List.flatMap_append]
  exact List.perm_append_comm

/-- An object among others. -/
theorem exists_middle {objects : List CacheObject} {i : ℕ} {object : CacheObject}
    (h : objects[i]? = some object) :
    ∃ before after, objects = before ++ object :: after ∧ before.length = i := by
  obtain ⟨hlt, hget⟩ := List.getElem?_eq_some_iff.mp h
  refine ⟨objects.take i, objects.drop (i + 1), ?_, ?_⟩
  · rw [← hget, List.getElem_cons_drop, List.take_append_drop]
  · rw [List.length_take]
    omega

theorem ownedRefs_middle (before after : List CacheObject) (object : CacheObject) :
    (ownedRefs (before ++ object :: after)).Perm
      (object.refs ++ ownedRefs (before ++ after)) := by
  simp only [ownedRefs, List.flatMap_append, List.flatMap_cons, ← List.append_assoc]
  exact List.perm_append_comm.append_right _

namespace Balances

variable {debt : List ℕ}

theorem perm {α : Type} {rs rs' : List SharedPtr} {x : Guest α} {post : α → List SharedPtr}
    (hx : Balances rs debt x post) (h : rs'.Perm rs) : Balances rs' debt x post :=
  fun H L b => hx H L (b.perm h)

/-- A call that changes one object. -/
theorem set {before after : List CacheObject} {object : CacheObject} {x : Guest CacheObject}
    (hx : Balances (object.refs ++ ownedRefs (before ++ after)) debt x
      fun o => o.refs ++ ownedRefs (before ++ after)) :
    Balances (ownedRefs (before ++ object :: after)) debt
      ((fun o => (before ++ object :: after).set before.length o) <$> x) ownedRefs := by
  refine .map ((hx.perm (ownedRefs_middle before after object)).mono fun o => ?_)
  rw [List.set_append_right _ _ (Nat.le_refl _), Nat.sub_self, List.set_cons_zero]
  exact (ownedRefs_middle before after o).symm

/-- The destruction of one object. -/
theorem erase (before after : List CacheObject) (object : CacheObject) :
    Balances (ownedRefs (before ++ object :: after)) debt
      ((fun _ => (before ++ object :: after).eraseIdx before.length) <$> object.destroy)
      ownedRefs := by
  refine .map ((object.balances_destroy.perm (ownedRefs_middle before after object)).mono
    fun _ => ?_)
  rw [List.eraseIdx_append_of_length_le (Nat.le_refl _), Nat.sub_self, List.eraseIdx_cons_zero]

end Balances

namespace CacheState

variable {debt : List ℕ}

/-- The calls that leave no debt behind. -/
def Tidy : CacheOp → Prop
  | .lookup _ => False
  | .transactionLookup _ => False
  | .wait _ => False
  | _ => True

theorem balances_exec (objects : List CacheObject) {op : CacheOp} (h : Tidy op) :
    Balances (ownedRefs objects) debt (exec objects op) ownedRefs := by
  unfold exec
  cases htarget : op.target with
  | none =>
      refine .map ((CacheOp.balances_created op ?_ ?_).mono (ownedRefs_append objects))
      · rintro b rfl
        exact h
      · rintro b rfl
        exact h
  | some i =>
      dsimp only
      cases hobject : objects[i]? with
      | none => exact .pure (.refl _)
      | some object =>
          obtain ⟨before, after, rfl, rfl⟩ := exists_middle hobject
          have hmem : ∀ r ∈ object.refs, r ∈ ownedRefs (before ++ object :: after) :=
            fun r hr => (ownedRefs_middle before after object).mem_iff.mpr
              (List.mem_append_left _ hr)
          have hreturned : Balances (ownedRefs (before ++ object :: after)) debt
              (CacheOp.returned object op)
              (fun new => ownedRefs (before ++ object :: after ++ new)) :=
            .mono (CacheOp.balances_returned object op (by rintro j rfl; exact h) hmem)
              (ownedRefs_append (before ++ object :: after))
          cases op with
          | drop j => exact .erase before after object
          | configure j c => exact .set (CacheOp.balances_configureObject c object)
          | execute j maxAge => exact .set (CacheOp.balances_executeObject maxAge object)
          | _ => exact .map hreturned

theorem run_of_step {s t : CacheState} {op : CacheOp} (h : s.step op = .ok t) :
    ((exec s.objects op).run s.heap).run Ledger.handle s.host =
      (.ok (t.objects, t.heap), t.host) := by
  unfold step at h
  split at h
  · rename_i objects heap host hrun
    obtain rfl := Except.ok.inj h
    exact hrun
  · cases h

/-- The objects that a call returns are live after it. -/
theorem balance_of_new {objects objects' new new' : List CacheObject}
    {H H' : RefHeap HandleObject} {L L' : Ledger}
    (hnew : ((pure new : Guest (List CacheObject)).run H).run Ledger.handle L =
      (.ok (new', H'), L'))
    (hobjects : objects ++ new' = objects')
    (b : Balance (new.flatMap CacheObject.refs ++ ownedRefs objects) debt H L) :
    Balance (ownedRefs objects') debt H' L' := by
  obtain ⟨rfl, rfl, rfl⟩ := result_inj hnew
  subst hobjects
  exact b.perm (ownedRefs_append objects new)

/-- What a call does to the debt: it stays as it is exactly if the call is clean. -/
theorem step_spec {s t : CacheState} {op : CacheOp}
    (b : Balance (ownedRefs s.objects) debt s.heap s.host) (h : s.step op = .ok t) :
    ∃ debt', Balance (ownedRefs t.objects) debt' t.heap t.host ∧ (debt' = debt ↔ s.Clean op) := by
  replace h := run_of_step h
  have htidy : Tidy op → Balance (ownedRefs t.objects) debt t.heap t.host :=
    fun htidy => balances_exec s.objects htidy s.heap s.host b _ _ _ h
  cases op with
  | lookup lb =>
      obtain ⟨new, hnew, hobjects⟩ := run_map_ok h
      obtain ⟨r, H, L, hexecute, hrest⟩ := run_bind_ok hnew
      obtain ⟨debt', hbalance, hclean⟩ := lookup_spec lb b hexecute
      refine ⟨debt', ?_, hclean⟩
      cases r with
      | error e => exact balance_of_new hrest hobjects hbalance
      | ok found => cases found <;> exact balance_of_new hrest hobjects hbalance
  | transactionLookup lb =>
      obtain ⟨new, hnew, hobjects⟩ := run_map_ok h
      obtain ⟨r, H, L, hexecute, hrest⟩ := run_bind_ok hnew
      obtain ⟨debt', hbalance, hclean⟩ :=
        awaited_spec (grantsAs_transactionLookup _ _ _) b hexecute
      refine ⟨debt', ?_, hclean⟩
      cases r with
      | error e => exact balance_of_new hrest hobjects hbalance
      | ok tx => exact balance_of_new hrest hobjects hbalance
  | wait i =>
      have hidle : (∀ p, s.objects[i]? ≠ some (.pending p)) → s.Clean (.wait i) :=
        fun hnone p hp => absurd hp (hnone p)
      cases hobject : s.objects[i]? with
      | none =>
          have hexec : exec s.objects (.wait i) = pure s.objects := by
            simp [exec, CacheOp.target, hobject]
          rw [hexec] at h
          obtain ⟨hobjects, hheap, hhost⟩ := result_inj h
          rw [← hobjects, ← hheap, ← hhost]
          exact ⟨debt, b, iff_of_true rfl (hidle (by simp [hobject]))⟩
      | some object =>
          have hexec : exec s.objects (.wait i) =
              (fun new => s.objects ++ new) <$> CacheOp.returned object (.wait i) := by
            simp [exec, CacheOp.target, hobject]
          rw [hexec] at h
          obtain ⟨new, hnew, hobjects⟩ := run_map_ok h
          cases object with
          | pending p =>
              obtain ⟨r, H, L, hwait, hrest⟩ := run_bind_ok hnew
              obtain ⟨debt', hbalance, hclean⟩ :=
                awaited_spec (grantsAs_busyHandleWait _) b hwait
              refine ⟨debt', ?_, hclean.trans ?_⟩
              · cases r with
                | error e => exact balance_of_new hrest hobjects hbalance
                | ok tx => exact balance_of_new hrest hobjects hbalance
              · simp [Clean, hobject]
          | _ =>
              exact ⟨debt, balance_of_new hnew hobjects b,
                iff_of_true rfl (hidle (by simp [hobject]))⟩
  | _ => exact ⟨debt, htidy trivial, iff_of_true rfl trivial⟩

/-- The handles are exact if nothing is owed. -/
theorem exact_iff {s : CacheState} (b : Balance (ownedRefs s.objects) debt s.heap s.host) :
    s.Exact ↔ debt = [] := by
  constructor
  · intro h
    refine List.eq_nil_iff_forall_not_mem.mpr fun owed howed => ?_
    have hpos := List.count_pos_iff.mpr howed
    have hcount := h.opened.count_eq owed
    rw [b.opened owed, owned] at hcount
    omega
  · rintro rfl
    exact ⟨List.perm_iff_count.mpr fun h => by rw [b.opened h]; rfl, b.stray⟩

/-- The program before its first call. -/
def start (answers : ℕ → (c : HostCall) → c.Answer) : CacheState :=
  { host := { answers := answers } }

theorem balance_start (answers : ℕ → (c : HostCall) → c.Answer) :
    Balance (ownedRefs (start answers).objects) [] (start answers).heap (start answers).host :=
  ⟨RefHeap.counts_empty, fun _ => rfl, rfl⟩

end CacheState

/-- Between all calls of a run the open handles are the owned ones, and none was closed
twice, exactly if every call is clean. -/
theorem exact_prefixes_iff (answers : ℕ → (c : HostCall) → c.Answer) (ops : List CacheOp) :
    (∀ past t, past <+: ops → run CacheState.step (.start answers) past = .ok t → t.Exact) ↔
      ∀ past op s t, past ++ [op] <+: ops → run CacheState.step (.start answers) past = .ok s →
        s.step op = .ok t → s.Clean op := by
  refine forall_prefix_iff
    (J := fun s => ∃ debt, Balance (ownedRefs s.objects) debt s.heap s.host) ?_ ?_
    ⟨[], CacheState.balance_start answers⟩
    ((CacheState.exact_iff (CacheState.balance_start answers)).mpr rfl) ops
  · rintro s op t ⟨debt, b⟩ hstep
    obtain ⟨debt', hbalance, -⟩ := CacheState.step_spec b hstep
    exact ⟨debt', hbalance⟩
  · rintro s op t ⟨debt, b⟩ hexact hstep
    obtain rfl := (CacheState.exact_iff b).mp hexact
    obtain ⟨debt', hbalance, hclean⟩ := CacheState.step_spec b hstep
    rw [CacheState.exact_iff hbalance, hclean]

/-- A lookup that misses leaves its handle open. -/
theorem not_exact_miss :
    ∃ t, run CacheState.step (.start fun _ => HostCall.succeed) [.lookup ⟨[107], {}⟩] = .ok t ∧
      t.host.opened = [0] ∧ t.owned = [] ∧ ¬ t.Exact := by
  refine ⟨⟨[], .empty, ⟨1, [0], [], 3, fun _ => HostCall.succeed⟩⟩, rfl, rfl, rfl, fun h => ?_⟩
  cases h.opened.length_eq

end ComputeSdk
