import Mathlib.Data.List.Perm.Basic
import Mathlib.Tactic.Common

/-! # Draining a pool

A selection takes one task out of a pool and reports its outcome. It is repeated on what it
leaves. -/

namespace ComputeSdk.Shared

variable {α β : Type*}

/-- On a pool that is not empty, the selection reports the outcome of one task and leaves the
others in some order. -/
def Selects (select : List α → β × List α) (outcome : α → β) : Prop :=
  ∀ pool, pool ≠ [] → ∃ task, (select pool).1 = outcome task ∧
    (task :: (select pool).2).Perm pool

/-- The pools that `n` selections are given with their reports, and what they leave. -/
def drain (select : List α → β × List α) : ℕ → List α → List (List α × β) × List α
  | 0, pool => ([], pool)
  | n + 1, pool =>
    let rest := drain select n (select pool).2
    ((pool, (select pool).1) :: rest.1, rest.2)

/-- In this order the tasks of a pool are reported, each once. A selection is given those that
were not reported yet. -/
structure Drained (outcome : α → β) (pool order : List α) (turns : List (List α × β)) :
    Prop where
  perm : order.Perm pool
  reports : turns.map Prod.snd = order.map outcome
  given : ∀ (i : ℕ) (turn : List α × β), turns[i]? = some turn → turn.1.Perm (order.drop i)

variable {select : List α → β × List α} {outcome : α → β}

/-- A pool is empty after as many selections as it has tasks. -/
theorem Selects.drained (h : Selects select outcome) {n : ℕ} {pool : List α}
    (hn : pool.length = n) :
    ∃ order, Drained outcome pool order (drain select n pool).1 ∧
      (drain select n pool).2 = [] := by
  induction n generalizing pool with
  | zero =>
      obtain rfl := List.length_eq_zero_iff.mp hn
      exact ⟨[], ⟨.nil, rfl, nofun⟩, rfl⟩
  | succ n ih =>
      obtain ⟨task, houtcome, hperm⟩ := h pool (List.ne_nil_of_length_eq_add_one hn)
      have hlength : (select pool).2.length = n :=
        Nat.succ.inj (hperm.length_eq.trans hn)
      obtain ⟨order, horder, hempty⟩ := ih hlength
      have horder' : (task :: order).Perm pool := (horder.perm.cons task).trans hperm
      refine ⟨task :: order, ⟨horder', ?_, fun i turn hturn => ?_⟩, hempty⟩
      · rw [drain, List.map_cons, List.map_cons, horder.reports, houtcome]
      · cases i with
        | zero =>
            obtain rfl := Option.some.inj hturn
            exact horder'.symm
        | succ i => exact horder.given i turn hturn

end ComputeSdk.Shared
