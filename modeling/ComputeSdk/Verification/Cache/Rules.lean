import ComputeSdk.Model.Cache.Simple

/-! # Rules for programs of the guest

A computation follows a protocol from a heap and a state; one rule for each way to build a
computation. -/

namespace ComputeSdk

open Shared

namespace Guest

variable {σ : Type} {P : Protocol HostCall.Answer σ} {stops : Abort → Prop} {α β : Type}

/-- What `x` does from `H` and `s` follows the protocol, and what it ends with meets `post`. -/
def Follows (P : Protocol HostCall.Answer σ) (stops : Abort → Prop)
    (post : α → RefHeap HandleObject → σ → Prop) (x : Guest α) (H : RefHeap HandleObject)
    (s : σ) : Prop :=
  (x.run H).Follows P stops (fun p => post p.1 p.2) s

variable {post : α → RefHeap HandleObject → σ → Prop} {H : RefHeap HandleObject} {s : σ}

theorem follows_pure {a : α} (h : post a H s) : Follows P stops post (pure a) H s := h

theorem follows_bind {x : Guest β} {f : β → Guest α}
    (h : Follows P stops (fun b => Follows P stops post (f b)) x H s) :
    Follows P stops post (x >>= f) H s :=
  Prog.Follows.bind h fun _ _ hf => hf

theorem Follows.mono {post' : α → RefHeap HandleObject → σ → Prop} {x : Guest α}
    (hx : Follows P stops post x H s) (h : ∀ a H' t, post a H' t → post' a H' t) :
    Follows P stops post' x H s :=
  Prog.Follows.mono hx fun p t => h p.1 p.2 t

theorem follows_map {f : β → α} {x : Guest β}
    (h : Follows P stops (fun b => post (f b)) x H s) : Follows P stops post (f <$> x) H s :=
  follows_bind (f := fun b => pure (f b)) h

theorem follows_host {c : HostCall} {post : c.Answer → RefHeap HandleObject → σ → Prop}
    (hpermits : P.permits s c) (h : ∀ a t, P.moves s c a t → post a H t) :
    Follows P stops post (host c) H s :=
  ⟨hpermits, h⟩

theorem follows_ofExcept {x : Except Abort α} (hok : ∀ a, x = .ok a → post a H s)
    (herror : ∀ e, x = .error e → stops e) : Follows P stops post (ofExcept x) H s := by
  cases x with
  | ok a => exact hok a rfl
  | error e => exact herror e rfl

theorem follows_make {object : HandleObject} {post : SharedPtr → RefHeap HandleObject → σ → Prop}
    (h : ∀ r H', r.val = object → H'.Holds r 1 →
      (∀ q n, H.Holds q n → H'.Holds q n ∧ q.cell ≠ r.cell) → post r H' s) :
    Follows P stops post (SharedPtr.make object) H s :=
  h _ _ rfl (RefHeap.holds_alloc object H) fun _ _ hq => hq.alloc object

theorem follows_copy {r : SharedPtr} {n : ℕ} {post : Unit → RefHeap HandleObject → σ → Prop}
    (hr : H.Holds r n) (h : ∀ H', H'.Holds r (n + 1) → post () H' s) :
    Follows P stops post r.copy H s :=
  h _ hr.retain

/-- The end of a reference that is not the last one. -/
theorem follows_destroy {r : SharedPtr} {n : ℕ}
    {post : Unit → RefHeap HandleObject → σ → Prop} (hr : H.Holds r (n + 2))
    (h : ∀ H', H'.Holds r (n + 1) → (∀ q m, q.cell ≠ r.cell → H.Holds q m → H'.Holds q m) →
      post () H' s) :
    Follows P stops post r.destroy H s := by
  obtain ⟨H', hrelease, hheld, hothers⟩ := hr.release
  rw [Follows, SharedPtr.run_destroy_shared hrelease]
  exact h H' hheld hothers

/-- The end of the last reference closes the handle. -/
theorem follows_destroy_last {r : SharedPtr}
    {post : Unit → RefHeap HandleObject → σ → Prop} (hr : H.Holds r 1)
    (hpermits : P.permits s (.cacheClose r.val.handle))
    (h : ∀ H' a t, (∀ q m, q.cell ≠ r.cell → H.Holds q m → H'.Holds q m) →
      P.moves s (.cacheClose r.val.handle) a t → post () H' t) :
    Follows P stops post r.destroy H s := by
  obtain ⟨H', hrelease, hothers⟩ := hr.release_last
  rw [Follows, SharedPtr.run_destroy_last hrelease]
  exact ⟨hpermits, fun a t hmove => h H' a t hothers hmove⟩

theorem follows_cacheTry {call : Guest (Except Status β)}
    {next : β → Guest (Except Core.CacheError α)}
    {post : Except Core.CacheError α → RefHeap HandleObject → σ → Prop}
    (h : Follows P stops (fun r H' t =>
      match r with
      | .error status => post (.error (Core.fromStatus status)) H' t
      | .ok b => Follows P stops post (next b) H' t) call H s) :
    Follows P stops post (Core.cacheTry call next) H s := by
  refine follows_bind (Follows.mono h fun r H' t hr => ?_)
  cases r with
  | error status => exact hr
  | ok b => exact hr

/-! ## All calls -/

section

variable {Q R : HostCall → Prop}

/-- Every call that a computation can make has the property. -/
def Calls (Q : HostCall → Prop) (x : Guest α) : Prop := ∀ H, (x.run H).AllCalls Q

theorem Calls.imp {x : Guest α} (hx : Calls Q x) (h : ∀ c, Q c → R c) : Calls R x :=
  fun H => (hx H).imp h

theorem calls_pure (a : α) : Calls Q (pure a : Guest α) := fun _ => trivial

theorem calls_bind {x : Guest β} {f : β → Guest α} (hx : Calls Q x) (hf : ∀ b, Calls Q (f b)) :
    Calls Q (x >>= f) :=
  fun H => (hx H).bind fun p => hf p.1 p.2

theorem Calls.of_bind {x : Guest β} {f : β → Guest α} (h : Calls Q (x >>= f)) : Calls Q x :=
  fun H => (h H).of_bind

theorem calls_discard {x : Guest α} : Calls Q (discard x) ↔ Calls Q x :=
  ⟨Calls.of_bind (f := fun _ => pure ()), fun h => calls_bind h fun _ => calls_pure ()⟩

theorem calls_host {c : HostCall} (h : Q c) : Calls Q (host c) := fun _ => ⟨h, fun _ => trivial⟩

theorem calls_ofExcept (x : Except Abort α) : Calls Q (ofExcept x) := by
  cases x <;> exact fun _ => trivial

theorem calls_make (object : HandleObject) : Calls Q (SharedPtr.make object) := fun _ => trivial

theorem calls_copy (r : SharedPtr) : Calls Q r.copy := fun _ => trivial

theorem calls_destroy (h : ∀ handle, Q (.cacheClose handle)) (r : SharedPtr) :
    Calls Q r.destroy := by
  refine calls_bind (fun _ => trivial) fun last => ?_
  cases last with
  | none => exact calls_pure ()
  | some object => exact calls_bind (calls_host (h _)) fun _ => calls_pure ()

theorem calls_cacheTry {call : Guest (Except Status β)}
    {next : β → Guest (Except Core.CacheError α)} (hcall : Calls Q call)
    (hnext : ∀ b, Calls Q (next b)) : Calls Q (Core.cacheTry call next) := by
  refine calls_bind hcall fun r => ?_
  cases r with
  | error status => exact calls_pure _
  | ok b => exact hnext b

end

/-! ## Some call -/

section

variable {Q R : HostCall → Prop}

/-- Every run makes a call with the property. -/
def Makes (Q : HostCall → Prop) (x : Guest α) : Prop :=
  ∀ (κ : Type) (handle : κ → (c : HostCall) → c.Answer × κ) (H : RefHeap HandleObject) (s : κ),
    ∃ c ∈ (x.run H).trace handle s, Q c

theorem Makes.bind {x : Guest β} (h : Makes Q x) (f : β → Guest α) : Makes Q (x >>= f) := by
  intro κ handle H s
  obtain ⟨c, hc, hq⟩ := h κ handle H s
  exact ⟨c, Prog.mem_trace_bind handle _ hc, hq⟩

theorem Makes.discarded {x : Guest α} (h : Makes Q x) : Makes Q (discard x) :=
  h.bind fun _ => pure ()

theorem makes_host {c : HostCall} (h : Q c) : Makes Q (host c) :=
  fun _ _ _ _ => ⟨c, List.mem_cons_self, h⟩

theorem makes_cacheTry {call : Guest (Except Status β)}
    {next : β → Guest (Except Core.CacheError α)} (h : Makes Q call) :
    Makes Q (Core.cacheTry call next) :=
  h.bind _

/-- What comes first does not matter if it ends. -/
theorem makes_after {x : Guest β} {f : β → Guest α}
    (hx : ∀ (κ : Type) (handle : κ → (c : HostCall) → c.Answer × κ) (H : RefHeap HandleObject)
      (s : κ), ∃ r t, (x.run H).run handle s = (.ok r, t))
    (hf : ∀ b, Makes Q (f b)) : Makes Q (x >>= f) := by
  intro κ handle H s
  obtain ⟨r, t, hrun⟩ := hx κ handle H s
  obtain ⟨c, hc, hq⟩ := hf r.1 κ handle r.2 t
  refine ⟨c, ?_, hq⟩
  rw [run_bind, Prog.trace_bind_of_ok handle _ hrun]
  exact List.mem_append_right _ hc

theorem exists_run_destroy (r : SharedPtr) (κ : Type)
    (handle : κ → (c : HostCall) → c.Answer × κ) (H : RefHeap HandleObject) (s : κ) :
    ∃ q t, (r.destroy.run H).run handle s = (.ok q, t) := by
  cases hrelease : H.release r with
  | mk last H' =>
      cases last with
      | none => exact ⟨_, _, by rw [SharedPtr.run_destroy_shared hrelease]; rfl⟩
      | some object => exact ⟨_, _, by rw [SharedPtr.run_destroy_last hrelease]; rfl⟩

end

/-! ## Runs against a handler -/

section

variable {handle : σ → (c : HostCall) → c.Answer × σ}

/-- What comes first does not matter where all that follows meets the postcondition. -/
theorem follows_after {x : Guest β} {f : β → Guest α}
    (h : ∀ b H s, Follows (.ofHandler handle) (fun _ => True) post (f b) H s) :
    Follows (.ofHandler handle) (fun _ => True) post (x >>= f) H s :=
  Prog.Follows.bind (Prog.follows_ofHandler handle (x.run H) s) fun p t _ => h p.1 p.2 t

/-- A run that ends does so with the postcondition. -/
theorem Follows.post_of_run {x : Guest α} {a : α} {H' : RefHeap HandleObject} {t : σ}
    (h : Follows (.ofHandler handle) stops post x H s)
    (hrun : (x.run H).run handle s = (.ok (a, H'), t)) : post a H' t := by
  have hpost := Prog.Follows.run h
  rw [hrun] at hpost
  exact hpost

end

end Guest

/-- How the simple cache reads what it found, before the rest of an operation. -/
abbrev Simple.readBack {α : Type} (found : Core.Found)
    (rest : Except Simple.CacheError (Option Body) → Guest α) : Guest α := do
  let streamResult ← found.toStream
  let result ←
    match streamResult with
    | .error err => pure (.error (Simple.fromCoreError err))
    | .ok stream => do
      let body ← Guest.ofExcept (stream.moves 2)
      pure (.ok (some body))
  rest result

end ComputeSdk
