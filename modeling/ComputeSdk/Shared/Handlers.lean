import ComputeSdk.Shared.Interaction

/-! # Computations in lockstep

Two stateful computations that may stop the process are compared: from related states they
end alike, in related states. A program is compared by what its two handlers do. -/

namespace ComputeSdk.Shared

variable {C : Type} {A : C → Type} {δ ε κ α β σ τ : Type}

/-- The ends of two runs that are alike. Where the second one stops, `stops` says how the first
one ends. If it does not say so, the first one may do anything. -/
inductive Lockstep (stops : δ → Option ε) (R : σ → τ → Prop) :
    Except ε (α × σ) → Except δ (α × τ) → Prop where
  | ok (a : α) {s : σ} {t : τ} (h : R s t) : Lockstep stops R (.ok (a, s)) (.ok (a, t))
  | error {d : δ} {e : ε} (h : stops d = some e) : Lockstep stops R (.error e) (.error d)
  | free {d : δ} (h : stops d = none) (x : Except ε (α × σ)) : Lockstep stops R x (.error d)

/-- From related states the computations end alike. -/
def Refines (stops : δ → Option ε) (R : σ → τ → Prop) (x : StateT σ (Except ε) α)
    (y : StateT τ (Except δ) α) : Prop :=
  ∀ s t, R s t → Lockstep stops R (x.run s) (y.run t)

theorem run_bind_of_ok {x : StateT σ (Except ε) α} {f : α → StateT σ (Except ε) β} {s t : σ}
    {a : α} (h : x.run s = .ok (a, t)) : (x >>= f).run s = (f a).run t := by
  rw [StateT.run_bind, h]
  rfl

theorem run_bind_congr {x y : StateT σ (Except ε) α} (f : α → StateT σ (Except ε) β) {s t : σ}
    (h : x.run s = y.run t) : (x >>= f).run s = (y >>= f).run t := by
  rw [StateT.run_bind, StateT.run_bind, h]

variable {stops : δ → Option ε} {R : σ → τ → Prop}

theorem refines_pure (a : α) :
    Refines stops R (pure a : StateT σ (Except ε) α) (pure a) := fun _ _ h => .ok a h

theorem refines_throw {d : δ} {e : ε} (h : stops d = some e) :
    Refines stops R (throw e : StateT σ (Except ε) α) (throw d) := fun _ _ _ => .error h

theorem Refines.bind {x : StateT σ (Except ε) α} {y : StateT τ (Except δ) α}
    {f : α → StateT σ (Except ε) β} {g : α → StateT τ (Except δ) β} (hx : Refines stops R x y)
    (hf : ∀ a, Refines stops R (f a) (g a)) : Refines stops R (x >>= f) (y >>= g) := by
  intro s t hR
  have hlock := hx s t hR
  rw [StateT.run_bind, StateT.run_bind]
  generalize x.run s = r at hlock ⊢
  generalize y.run t = q at hlock ⊢
  cases hlock with
  | ok a h => exact hf a _ _ h
  | error h => exact .error h
  | free h x => exact .free h _

/-- The run of a program against a handler that may stop the process. -/
def Prog.exec (stops : κ → ε) (handle : (c : C) → StateT σ (Except ε) (A c)) :
    Prog A κ α → StateT σ (Except ε) α
  | ret a => pure a
  | stop e => throw (stops e)
  | call c next => do
    let a ← handle c
    (next a).exec stops handle

theorem refines_exec {handle : (c : C) → StateT σ (Except ε) (A c)}
    {spec : (c : C) → StateT τ (Except δ) (A c)} (h : ∀ c, Refines stops R (handle c) (spec c))
    {first : κ → ε} {second : κ → δ} (hstops : ∀ k, stops (second k) = some (first k))
    (p : Prog A κ α) : Refines stops R (p.exec first handle) (p.exec second spec) := by
  induction p with
  | ret a => exact refines_pure a
  | stop k => exact refines_throw (hstops k)
  | call c next ih => exact (h c).bind ih

end ComputeSdk.Shared
