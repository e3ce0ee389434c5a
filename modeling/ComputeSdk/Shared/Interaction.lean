import Mathlib.Tactic.Common

/-! # Programs that call an environment

A program is the tree of its calls. What it does is said either by running it against a
handler, or by the protocol that it follows whatever it is answered. -/

namespace ComputeSdk.Shared

/-- A program that makes calls `c : C`, each answered by a value of `A c`. It ends with a
value of `α`, or stops the process with one of `ε`. -/
inductive Prog {C : Type} (A : C → Type) (ε α : Type) where
  | ret (a : α)
  | stop (e : ε)
  | call (c : C) (next : A c → Prog A ε α)

namespace Prog

variable {C : Type} {A : C → Type} {ε α β γ σ : Type}

def bind : Prog A ε α → (α → Prog A ε β) → Prog A ε β
  | ret a, f => f a
  | stop e, _ => stop e
  | call c next, f => call c fun a => (next a).bind f

instance : Monad (Prog A ε) where
  pure := ret
  bind := bind

/-- The program that makes one call. -/
def perform (c : C) : Prog A ε (A c) := call c ret

@[simp] theorem pure_eq (a : α) : (pure a : Prog A ε α) = ret a := rfl

@[simp] theorem ret_bind (a : α) (f : α → Prog A ε β) : (ret a >>= f) = f a := rfl

@[simp] theorem stop_bind (e : ε) (f : α → Prog A ε β) : (stop e >>= f) = stop e := rfl

@[simp] theorem call_bind (c : C) (next : A c → Prog A ε α) (f : α → Prog A ε β) :
    (call c next >>= f) = call c fun a => next a >>= f := rfl

theorem bind_assoc (p : Prog A ε α) (f : α → Prog A ε β) (g : β → Prog A ε γ) :
    (p >>= f >>= g) = p >>= fun a => f a >>= g := by
  induction p with
  | ret a => rfl
  | stop e => rfl
  | call c next ih =>
      simp only [call_bind]
      exact congrArg (call c) (funext ih)

theorem bind_ret (p : Prog A ε α) : (p >>= ret) = p := by
  induction p with
  | ret a => rfl
  | stop e => rfl
  | call c next ih => exact congrArg (call c) (funext ih)

instance : LawfulMonad (Prog A ε) :=
  LawfulMonad.mk' _ bind_ret (fun _ _ => rfl) bind_assoc

/-! ## Running -/

/-- The run of a program against a handler with a state. -/
def run (handle : σ → (c : C) → A c × σ) : Prog A ε α → σ → Except ε α × σ
  | ret a, s => (.ok a, s)
  | stop e, s => (.error e, s)
  | call c next, s => (next (handle s c).1).run handle (handle s c).2

variable (handle : σ → (c : C) → A c × σ)

@[simp] theorem run_ret (a : α) (s : σ) : (ret a : Prog A ε α).run handle s = (.ok a, s) := rfl

@[simp] theorem run_stop (e : ε) (s : σ) : (stop e : Prog A ε α).run handle s = (.error e, s) :=
  rfl

@[simp] theorem run_call (c : C) (next : A c → Prog A ε α) (s : σ) :
    (call c next).run handle s = (next (handle s c).1).run handle (handle s c).2 := rfl

theorem run_bind (p : Prog A ε α) (f : α → Prog A ε β) (s : σ) :
    (p >>= f).run handle s =
      match p.run handle s with
      | (.ok a, t) => (f a).run handle t
      | (.error e, t) => (.error e, t) := by
  induction p generalizing s with
  | ret a => rfl
  | stop e => rfl
  | call c next ih => exact ih _ _

theorem run_bind_of_ok {p : Prog A ε α} {s t : σ} {a : α} (f : α → Prog A ε β)
    (h : p.run handle s = (.ok a, t)) : (p >>= f).run handle s = (f a).run handle t := by
  rw [run_bind, h]

/-- The calls of a run, in order. -/
def trace : Prog A ε α → σ → List C
  | ret _, _ => []
  | stop _, _ => []
  | call c next, s => c :: (next (handle s c).1).trace (handle s c).2

theorem trace_bind_of_ok {p : Prog A ε α} {s t : σ} {a : α} (f : α → Prog A ε β)
    (h : p.run handle s = (.ok a, t)) :
    (p >>= f).trace handle s = p.trace handle s ++ (f a).trace handle t := by
  induction p generalizing s with
  | ret a =>
      cases h
      rfl
  | stop e => cases h
  | call c next ih => exact congrArg (c :: ·) (ih _ h)

/-- The program ends with a value, after `n` calls. -/
structure Ends (p : Prog A ε α) (s : σ) (a : α) (n : ℕ) (t : σ) : Prop where
  value : p.run handle s = (.ok a, t)
  calls : (p.trace handle s).length = n

theorem ends_ret (a : α) (s : σ) : (ret a : Prog A ε α).Ends handle s a 0 s := ⟨rfl, rfl⟩

variable {handle} in
theorem Ends.bind {p : Prog A ε α} {f : α → Prog A ε β} {s t u : σ} {a : α} {b : β} {m n : ℕ}
    (hp : p.Ends handle s a m t) (hf : (f a).Ends handle t b n u) :
    (p >>= f).Ends handle s b (m + n) u where
  value := by rw [run_bind_of_ok handle f hp.value, hf.value]
  calls := by rw [trace_bind_of_ok handle f hp.value, List.length_append, hp.calls, hf.calls]

/-- What follows a program adds calls to its own. -/
theorem mem_trace_bind {p : Prog A ε α} {s : σ} {c : C} (f : α → Prog A ε β)
    (h : c ∈ p.trace handle s) : c ∈ (p >>= f).trace handle s := by
  induction p generalizing s with
  | ret a => cases h
  | stop e => cases h
  | call c' next ih =>
      rcases List.mem_cons.mp h with rfl | h
      · exact List.mem_cons_self
      · exact List.mem_cons_of_mem c' (ih _ h)

/-! ## The calls of a program -/

/-- Every call that the program can make has the property, whatever it is answered. -/
def AllCalls (Q : C → Prop) : Prog A ε α → Prop
  | ret _ => True
  | stop _ => True
  | call c next => Q c ∧ ∀ a, (next a).AllCalls Q

variable {Q R : C → Prop}

theorem AllCalls.bind {p : Prog A ε α} {f : α → Prog A ε β} (hp : p.AllCalls Q)
    (hf : ∀ a, (f a).AllCalls Q) : (p >>= f).AllCalls Q := by
  induction p with
  | ret a => exact hf a
  | stop e => trivial
  | call c next ih => exact ⟨hp.1, fun a => ih a (hp.2 a)⟩

theorem AllCalls.of_bind {p : Prog A ε α} {f : α → Prog A ε β} (h : (p >>= f).AllCalls Q) :
    p.AllCalls Q := by
  induction p with
  | ret a => trivial
  | stop e => trivial
  | call c next ih => exact ⟨h.1, fun a => ih a (h.2 a)⟩

theorem AllCalls.imp {p : Prog A ε α} (hp : p.AllCalls Q) (h : ∀ c, Q c → R c) :
    p.AllCalls R := by
  induction p with
  | ret a => trivial
  | stop e => trivial
  | call c next ih => exact ⟨h c hp.1, fun a => ih a (hp.2 a)⟩

end Prog

/-! ## Protocols -/

/-- What a program may call in a state, and how each answer changes the state. -/
structure Protocol {C : Type} (A : C → Type) (σ : Type) where
  permits : σ → C → Prop
  moves : σ → (c : C) → A c → σ → Prop

/-- The protocol of the calls of a handler. -/
def Protocol.ofHandler {C σ : Type} {A : C → Type} (handle : σ → (c : C) → A c × σ) :
    Protocol A σ where
  permits _ _ := True
  moves s c a t := handle s c = (a, t)

namespace Prog

variable {C : Type} {A : C → Type} {ε α β σ : Type} {P : Protocol A σ} {stops : ε → Prop}

/-- From this state on the program makes only calls that are permitted, whatever it is
answered; it stops only as `stops` says, and a value it ends with meets `post`. -/
def Follows (P : Protocol A σ) (stops : ε → Prop) (post : α → σ → Prop) : Prog A ε α → σ → Prop
  | ret a, s => post a s
  | stop e, _ => stops e
  | call c next, s => P.permits s c ∧ ∀ a t, P.moves s c a t → (next a).Follows P stops post t

/-- A program followed by another follows the protocol if the second goes on from where
the first ends. -/
theorem Follows.bind {post : α → σ → Prop} {post' : β → σ → Prop} {p : Prog A ε α}
    {f : α → Prog A ε β} {s : σ} (hp : p.Follows P stops post s)
    (hf : ∀ a t, post a t → (f a).Follows P stops post' t) :
    (p >>= f).Follows P stops post' s := by
  induction p generalizing s with
  | ret a => exact hf a s hp
  | stop e => exact hp
  | call c next ih => exact ⟨hp.1, fun a t hmove => ih a (hp.2 a t hmove)⟩

theorem Follows.mono {post post' : α → σ → Prop} {p : Prog A ε α} {s : σ}
    (hp : p.Follows P stops post s) (h : ∀ a s, post a s → post' a s) :
    p.Follows P stops post' s := by
  rw [← bind_ret p]
  exact hp.bind h

/-- A program that follows a protocol also follows another one, which permits the calls that it
can make and in which they do the same to the images of the states. -/
theorem Follows.embed {τ : Type} {Q : Protocol A τ} {R : C → Prop} {post : α → σ → Prop} (f : σ → τ)
    (hpermits : ∀ s c, P.permits s c → R c → Q.permits (f s) c)
    (hmoves : ∀ s c a t, Q.moves (f s) c a t → ∃ u, P.moves s c a u ∧ t = f u)
    {p : Prog A ε α} {s : σ} (hp : p.Follows P stops post s) (hcalls : p.AllCalls R) :
    p.Follows Q stops (fun a t => ∃ u, post a u ∧ t = f u) (f s) := by
  induction p generalizing s with
  | ret a => exact ⟨s, hp, rfl⟩
  | stop e => exact hp
  | call c next ih =>
      refine ⟨hpermits s c hp.1 hcalls.1, fun a t hmove => ?_⟩
      obtain ⟨u, hu, rfl⟩ := hmoves s c a t hmove
      exact ih a (hp.2 a u hu) (hcalls.2 a)

/-- The calls of a handler are all permitted. -/
theorem follows_ofHandler (handle : σ → (c : C) → A c × σ) (p : Prog A ε α) (s : σ) :
    p.Follows (.ofHandler handle) (fun _ => True) (fun _ _ => True) s := by
  induction p generalizing s with
  | ret a => trivial
  | stop e => trivial
  | call c next ih => exact ⟨trivial, fun a t _ => ih a t⟩

/-- The run of a program against a handler whose protocol it follows. -/
theorem Follows.run {handle : σ → (c : C) → A c × σ} {post : α → σ → Prop} {p : Prog A ε α}
    {s : σ} (hp : p.Follows (.ofHandler handle) stops post s) :
    match p.run handle s with
    | (.ok a, t) => post a t
    | (.error e, _) => stops e := by
  induction p generalizing s with
  | ret a => exact hp
  | stop e => exact hp
  | call c next ih => exact ih _ (hp.2 _ _ rfl)

end Prog

/-! ## Clients side by side -/

/-- The programs of all clients, as far as they are still to be run, and the environment
they share. -/
structure Pool {C : Type} (A : C → Type) (ε α ι κ : Type) where
  prog : ι → Prog A ε α
  env : κ

namespace Pool

variable {C : Type} {A : C → Type} {ε α ι κ σ : Type} [DecidableEq ι]

/-- One step of a pool: the environment answers the next call of one client, or changes by
itself. -/
inductive Step (answers : κ → ι → (c : C) → A c → κ → Prop) (drift : κ → κ → Prop) :
    Pool A ε α ι κ → Pool A ε α ι κ → Prop where
  | call {p : Pool A ε α ι κ} {i : ι} {c : C} {next : A c → Prog A ε α} {a : A c} {e : κ}
      (hprog : p.prog i = .call c next) (hanswer : answers p.env i c a e) :
      Step answers drift p ⟨fun j => if j = i then next a else p.prog j, e⟩
  | drift {p : Pool A ε α ι κ} {e : κ} (hdrift : drift p.env e) :
      Step answers drift p ⟨p.prog, e⟩

/-- The pools that are reached from `p` by any number of steps. -/
inductive Reachable (answers : κ → ι → (c : C) → A c → κ → Prop) (drift : κ → κ → Prop)
    (p : Pool A ε α ι κ) : Pool A ε α ι κ → Prop where
  | start : Reachable answers drift p p
  | step {q r : Pool A ε α ι κ} (h : Reachable answers drift p q)
      (hstep : Step answers drift q r) : Reachable answers drift p r

variable {answers serves : κ → ι → (c : C) → A c → κ → Prop} {drift drift' : κ → κ → Prop}

/-- The clients go on from where they are, at an environment that is no less free. -/
theorem Reachable.trans {p q r : Pool A ε α ι κ} (h : Reachable answers drift p q)
    (hqr : Reachable serves drift' q r)
    (hserves : ∀ e i c a e', serves e i c a e' → answers e i c a e')
    (hdrift : ∀ e e', drift' e e' → drift e e') : Reachable answers drift p r := by
  induction hqr with
  | start => exact h
  | step _ hstep ih =>
      cases hstep with
      | call hprog hanswer => exact .step ih (.call hprog (hserves _ _ _ _ _ hanswer))
      | drift hd => exact .step ih (.drift (hdrift _ _ hd))

/-- Let every client follow the protocol from its own state, and let the environment answer
the calls that are permitted as the protocol says. Then the clients follow the protocol in
every interleaving, from states that agree with the environment. -/
theorem Reachable.follows (P : Protocol A σ) (stops : ε → Prop) (post : α → σ → Prop)
    (agree : κ → (ι → σ) → Prop)
    (hanswer : ∀ e s i c a e', agree e s → P.permits (s i) c → answers e i c a e' →
      ∃ t, P.moves (s i) c a t ∧ agree e' fun j => if j = i then t else s j)
    (hdrift : ∀ e s e', agree e s → drift e e' → agree e' s)
    {p q : Pool A ε α ι κ} (hreach : Reachable answers drift p q) (s : ι → σ)
    (hagree : agree p.env s) (hfollows : ∀ i, (p.prog i).Follows P stops post (s i)) :
    ∃ t, agree q.env t ∧ ∀ i, (q.prog i).Follows P stops post (t i) := by
  induction hreach with
  | start => exact ⟨s, hagree, hfollows⟩
  | step _ hstep ih =>
      obtain ⟨t, hagree, hfollows⟩ := ih
      cases hstep with
      | call hprog ha =>
          rename_i i c next a e
          have hcall := hfollows i
          rw [hprog] at hcall
          obtain ⟨u, hmove, hagree'⟩ := hanswer _ _ _ _ _ _ hagree hcall.1 ha
          refine ⟨_, hagree', fun j => ?_⟩
          by_cases hj : j = i
          · subst hj
            simpa only [if_true] using hcall.2 a u hmove
          · simpa only [if_neg hj] using hfollows j
      | drift hd => exact ⟨t, hdrift _ _ _ hagree hd, hfollows⟩

end Pool

end ComputeSdk.Shared
