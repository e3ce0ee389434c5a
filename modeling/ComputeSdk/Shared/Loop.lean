import Mathlib.Tactic.Common

/-! # Loops with a variant

A loop body either hands on a smaller state or leaves the loop with a result. -/

namespace ComputeSdk.Shared

/-- A loop together with the reason why it ends: each turn that does not leave the
loop decreases the variant. -/
structure Loop (σ ρ : Type*) where
  body : σ → σ ⊕ ρ
  variant : σ → ℕ
  decreases : ∀ s t, body s = .inl t → variant t < variant s

namespace Loop

variable {σ ρ : Type*} (L : Loop σ ρ)

/-- The result of the loop if it is left within `fuel` turns. -/
def within : ℕ → σ → Option ρ
  | 0, _ => none
  | fuel + 1, s =>
    match L.body s with
    | .inl t => within fuel t
    | .inr r => some r

/-- A loop is left after at most as many turns as its variant allows. -/
theorem within_isSome {fuel : ℕ} {s : σ} (h : L.variant s < fuel) :
    (L.within fuel s).isSome := by
  induction fuel generalizing s with
  | zero => exact absurd h (Nat.not_lt_zero _)
  | succ fuel ih =>
      simp only [within]
      cases hb : L.body s with
      | inl t => exact ih (Nat.lt_of_lt_of_le (L.decreases s t hb) (Nat.le_of_lt_succ h))
      | inr r => rfl

/-- The result with which the loop is left. -/
def run (s : σ) : ρ :=
  (L.within (L.variant s + 1) s).get (L.within_isSome (Nat.lt_succ_self _))

theorem within_run (s : σ) : L.within (L.variant s + 1) s = some (L.run s) :=
  (Option.some_get _).symm

/-- The number of turns allowed does not matter once it suffices. -/
theorem within_eq_run (fuel : ℕ) {s : σ} {r : ρ} (h : L.within fuel s = some r) :
    L.run s = r := by
  have agree : ∀ (m n : ℕ) (s : σ) (a b : ρ),
      L.within m s = some a → L.within n s = some b → a = b := by
    intro m
    induction m with
    | zero => intro n s a b ha; simp [within] at ha
    | succ m ih =>
        intro n s a b ha hb
        cases n with
        | zero => simp [within] at hb
        | succ n =>
            simp only [within] at ha hb
            cases hs : L.body s with
            | inl t =>
                simp only [hs] at ha hb
                exact ih n t a b ha hb
            | inr r =>
                simp only [hs, Option.some.injEq] at ha hb
                exact ha.symm.trans hb
  exact agree _ _ s _ _ (L.within_run s) h

theorem run_of_inl {s t : σ} (h : L.body s = .inl t) : L.run s = L.run t := by
  apply L.within_eq_run (L.variant t + 1 + 1)
  simp only [within, h]
  exact L.within_run t

theorem run_of_inr {s : σ} {r : ρ} (h : L.body s = .inr r) : L.run s = r := by
  apply L.within_eq_run 1
  simp only [within, h]

/-- What holds where the loop is left, and is carried back over each turn, holds of
the state the loop starts in and its result. -/
theorem run_induction {motive : σ → ρ → Prop}
    (leave : ∀ s r, L.body s = .inr r → motive s r)
    (turn : ∀ s t, L.body s = .inl t → motive t (L.run t) → motive s (L.run t)) (s : σ) :
    motive s (L.run s) := by
  induction hn : L.variant s using Nat.strongRecOn generalizing s with
  | _ n ih =>
      cases hs : L.body s with
      | inl t =>
          rw [L.run_of_inl hs]
          exact turn s t hs (ih _ (hn ▸ L.decreases s t hs) t rfl)
      | inr r =>
          rw [L.run_of_inr hs]
          exact leave s r hs

/-- A loop commutes with a map of the states that its body commutes with. -/
theorem run_map {f : σ → σ} {g : ρ → ρ} (h : ∀ s, L.body (f s) = (L.body s).map f g) (s : σ) :
    L.run (f s) = g (L.run s) := by
  apply L.run_induction (motive := fun s result => L.run (f s) = g result)
  · intro s r hs
    exact L.run_of_inr (by rw [h, hs, Sum.map_inr])
  · intro s t hs ih
    rw [← ih]
    exact L.run_of_inl (by rw [h, hs, Sum.map_inl])

end Loop

end ComputeSdk.Shared
