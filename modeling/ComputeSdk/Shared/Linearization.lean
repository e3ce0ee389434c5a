import Mathlib.Data.List.Nodup
import ComputeSdk.Shared.Interaction
import ComputeSdk.Shared.Run

/-! # Calls that overlap

Clients side by side are explained by an order in which their calls take effect one after the
other, each at one step of the client, so between its first call and its end. -/

namespace ComputeSdk.Shared

variable {ω ο τ : Type}

/-! ## Operations of a sequential object -/

/-- What is left after a run of a sequential object. -/
def totalState (spec : τ → ω → ο × τ) (t : τ) (ops : List ω) : τ :=
  ops.foldl (fun t op => (spec t op).2) t

theorem totalOutputs_concat (spec : τ → ω → ο × τ) (t : τ) (ops : List ω) (op : ω) :
    totalOutputs spec t (ops ++ [op]) =
      totalOutputs spec t ops ++ [(spec (totalState spec t ops) op).1] := by
  induction ops generalizing t with
  | nil => rfl
  | cons x ops ih => exact congrArg _ (ih _)

theorem totalState_concat (spec : τ → ω → ο × τ) (t : τ) (ops : List ω) (op : ω) :
    totalState spec t (ops ++ [op]) = (spec (totalState spec t ops) op).2 :=
  List.foldl_concat ..

/-- Before and after a step of a client: the output of its operation, if that took effect,
and the state of the object. -/
inductive Effect (spec : τ → ω → ο × τ) (op : ω) : Option ο → τ → Option ο → τ → Prop where
  | stay (o : Option ο) (t : τ) : Effect spec op o t o t
  | take (t : τ) : Effect spec op none t (some (spec t op).1) (spec t op).2

/-! ## Orders of effects -/

section

variable {ι : Type}

/-- The operations of the clients in `log`, in this order, have these outputs and lead from
`t₀` to `t`; `took` says which client had which output. -/
structure Logged (spec : τ → ω → ο × τ) (op : ι → ω) (t₀ : τ) (log : List (ι × ο))
    (took : ι → Option ο) (t : τ) : Prop where
  legal : log.map Prod.snd = totalOutputs spec t₀ (log.map fun x => op x.1)
  state : totalState spec t₀ (log.map fun x => op x.1) = t
  once : (log.map Prod.fst).Nodup
  took : ∀ i o, (i, o) ∈ log ↔ took i = some o

variable {spec : τ → ω → ο × τ} {op : ι → ω} {t₀ t t' : τ} {log : List (ι × ο)}
  {took : ι → Option ο}

theorem logged_nil (spec : τ → ω → ο × τ) (op : ι → ω) (t₀ : τ) :
    Logged spec op t₀ [] (fun _ => none) t₀ :=
  ⟨rfl, rfl, List.nodup_nil, by simp⟩

/-- A client that has taken no effect yet comes last. -/
theorem Logged.take (h : Logged spec op t₀ log took t) {i : ι} (hnone : took i = none)
    {took' : ι → Option ο} (hi : took' i = some (spec t (op i)).1)
    (hothers : ∀ j, j ≠ i → took' j = took j) :
    Logged spec op t₀ (log ++ [(i, (spec t (op i)).1)]) took' (spec t (op i)).2 := by
  have hnew : i ∉ log.map Prod.fst := by
    intro hmem
    obtain ⟨⟨j, o⟩, hlogged, rfl⟩ := List.mem_map.mp hmem
    exact Option.some_ne_none o (((h.took j o).mp hlogged).symm.trans hnone)
  refine ⟨?_, ?_, ?_, fun j o => ?_⟩
  · rw [List.map_append, List.map_append, List.map_singleton, List.map_singleton,
      totalOutputs_concat, h.legal, h.state]
  · rw [List.map_append, List.map_singleton, totalState_concat, h.state]
  · rw [List.map_append, List.map_singleton]
    exact List.nodup_append_comm.mp (List.nodup_cons.mpr ⟨hnew, h.once⟩)
  · rw [List.mem_append, List.mem_singleton, h.took]
    by_cases hj : j = i
    · subst hj
      simp [hnone, hi, eq_comm]
    · simp [hj, hothers j hj]

/-- A step of one client adds it to the end of the order, or leaves the order as it is. -/
theorem Logged.effect (h : Logged spec op t₀ log took t) {i : ι} (took' : ι → Option ο)
    (heffect : Effect spec (op i) (took i) t (took' i) t')
    (hothers : ∀ j, j ≠ i → took' j = took j) :
    ∃ log', log <+: log' ∧ Logged spec op t₀ log' took' t' := by
  generalize hi : took i = o at heffect
  generalize hi' : took' i = o' at heffect
  cases heffect with
  | stay =>
      have hsame : took' = took := by
        funext j
        by_cases hj : j = i
        · rw [hj, hi, hi']
        · exact hothers j hj
      exact ⟨log, List.prefix_rfl, hsame ▸ h⟩
  | take => exact ⟨_, List.prefix_append .., h.take hi hi' hothers⟩

end

/-! ## Runs of pools -/

namespace Pool

variable {C : Type} {A : C → Type} {ε α ι κ σ : Type} [DecidableEq ι]
  {answers : κ → ι → (c : C) → A c → κ → Prop} {drift : κ → κ → Prop}

/-- A run: a step at a time, or none. -/
def IsRun (answers : κ → ι → (c : C) → A c → κ → Prop) (drift : κ → κ → Prop)
    (run : ℕ → Pool A ε α ι κ) : Prop :=
  ∀ n, run (n + 1) = run n ∨ Step answers drift (run n) (run (n + 1))

/-- Every pool that is reached is in a run. -/
theorem Reachable.exists_run {p q : Pool A ε α ι κ} (h : Reachable answers drift p q) :
    ∃ run, run 0 = p ∧ IsRun answers drift run ∧ ∃ n, run n = q := by
  induction h with
  | start => exact ⟨fun _ => p, rfl, fun _ => .inl rfl, 0, rfl⟩
  | @step q r _ hstep ih =>
      obtain ⟨run, hstart, hrun, n, hn⟩ := ih
      refine ⟨fun m => if m ≤ n then run m else r, ?_, fun m => ?_, n + 1, ?_⟩
      · simp [hstart]
      · rcases Nat.lt_trichotomy m n with hlt | rfl | hlt
        · simpa [hlt.le, Nat.succ_le_of_lt hlt] using hrun m
        · refine .inr ?_
          dsimp only
          rw [if_pos (Nat.le_refl m), if_neg (Nat.not_succ_le_self m), hn]
          exact hstep
        · simp [Nat.not_le.mpr hlt, Nat.not_le.mpr (Nat.lt_succ_of_lt hlt)]
      · exact if_neg (Nat.not_succ_le_self n)

/-- What a step does to a record of the past, it does all along a run. -/
theorem IsRun.exists_log {β : Type} {run : ℕ → Pool A ε α ι κ} (hrun : IsRun answers drift run)
    {L : Pool A ε α ι κ → List β → Prop}
    (hstep : ∀ p log q, L p log → Step answers drift p q → ∃ log', log <+: log' ∧ L q log')
    (log₀ : List β) (hstart : L (run 0) log₀) :
    ∃ log : ℕ → List β, ∀ n, log n <+: log (n + 1) ∧ L (run n) (log n) := by
  have hnext : ∀ n (log : {log // L (run n) log}),
      ∃ log' : {log' // L (run (n + 1)) log'}, log.1 <+: log'.1 := by
    rintro n ⟨log, hlog⟩
    rcases hrun n with hsame | hstep'
    · exact ⟨⟨log, hsame ▸ hlog⟩, List.prefix_rfl⟩
    · obtain ⟨log', hgrows, hlog'⟩ := hstep _ _ _ hlog hstep'
      exact ⟨⟨log', hlog'⟩, hgrows⟩
  choose next hgrows using hnext
  let logs : (n : ℕ) → {log // L (run n) log} := fun n => n.rec ⟨log₀, hstart⟩ next
  exact ⟨fun n => (logs n).1, fun n => ⟨hgrows n (logs n), (logs n).2⟩⟩

/-- The pool is explained by the operations in `log`, one after the other. `output` is the
output of a client that ended, unless it was refused. -/
structure Explained (spec : τ → ω → ο × τ) (op : ι → ω) (t₀ : τ) (began : κ → ι → Prop)
    (output : κ → ι → α → Option ο) (p : Pool A ε α ι κ) (log : List (ι × ο)) : Prop where
  legal : log.map Prod.snd = totalOutputs spec t₀ (log.map fun x => op x.1)
  once : (log.map Prod.fst).Nodup
  began : ∀ x ∈ log, began p.env x.1
  ended : ∀ i a o, p.prog i = .ret a → output p.env i a = some o → (i, o) ∈ log

/-- Clients follow a protocol, and each one's state says whether its operation took effect:
this is so in a step of a client at most once, and a client that ends with an output has it
from there. Then each run has an order of effects that only grows and explains every pool. -/
theorem IsRun.exists_explained {run : ℕ → Pool A ε α ι κ} (hrun : IsRun answers drift run)
    (P : Protocol A σ) (post : α → σ → Prop) (agrees : κ → ι → σ → Prop)
    (took : σ → Option ο) (state : κ → τ) {spec : τ → ω → ο × τ} {op : ι → ω} {t₀ : τ}
    {began : κ → ι → Prop} {output : κ → ι → α → Option ο}
    (hanswer : ∀ e (s : ι → σ) i c a e', (∀ j, agrees e j (s j)) → P.permits (s i) c →
      answers e i c a e' → ∃ t, P.moves (s i) c a t ∧ agrees e' i t ∧
        (∀ j, j ≠ i → agrees e' j (s j)) ∧
        Effect spec (op i) (took (s i)) (state e) (took t) (state e'))
    (hdrift : ∀ e e', drift e e' → state e' = state e ∧ ∀ i s, agrees e i s → agrees e' i s)
    (hbegan : ∀ e i s o, agrees e i s → took s = some o → began e i)
    (houtput : ∀ e i a s o, agrees e i s → post a s → output e i a = some o → took s = some o)
    (s : ι → σ) (hagrees : ∀ i, agrees (run 0).env i (s i)) (hnone : ∀ i, took (s i) = none)
    (hstate : state (run 0).env = t₀)
    (hfollows : ∀ i, ((run 0).prog i).Follows P (fun _ => True) post (s i)) :
    ∃ log : ℕ → List (ι × ο), ∀ n, log n <+: log (n + 1) ∧
      Explained spec op t₀ began output (run n) (log n) := by
  obtain ⟨log, hlog⟩ := hrun.exists_log
    (L := fun p log => ∃ s : ι → σ, (∀ i, agrees p.env i (s i)) ∧
      (∀ i, (p.prog i).Follows P (fun _ => True) post (s i)) ∧
      Logged spec op t₀ log (fun i => took (s i)) (state p.env))
    (fun p log q hp hstep => by
      obtain ⟨s, hagrees, hfollows, hlogged⟩ := hp
      cases hstep with
      | drift hd =>
          obtain ⟨hstate, hkeep⟩ := hdrift _ _ hd
          exact ⟨log, List.prefix_rfl, s, fun i => hkeep i _ (hagrees i), hfollows,
            hstate.symm ▸ hlogged⟩
      | call hprog ha =>
          rename_i i c next a e
          have hcall := hfollows i
          rw [hprog] at hcall
          obtain ⟨t, hmove, ht, hothers, heffect⟩ := hanswer _ s _ _ _ _ hagrees hcall.1 ha
          obtain ⟨log', hgrows, hlogged'⟩ := hlogged.effect (i := i)
            (fun j => took (if j = i then t else s j)) (by simpa using heffect)
            fun j hj => by simp [hj]
          refine ⟨log', hgrows, fun j => if j = i then t else s j, fun j => ?_, fun j => ?_,
            hlogged'⟩
          · by_cases hj : j = i
            · subst hj
              simpa using ht
            · simpa [hj] using hothers j hj
          · by_cases hj : j = i
            · subst hj
              simpa using hcall.2 a t hmove
            · simpa [hj] using hfollows j)
    [] ⟨s, hagrees, hfollows, by
      rw [hstate, funext hnone]
      exact logged_nil spec op t₀⟩
  refine ⟨log, fun n => ⟨(hlog n).1, ?_⟩⟩
  obtain ⟨s, hagrees, hfollows, hlogged⟩ := (hlog n).2
  refine ⟨hlogged.legal, hlogged.once, fun x hx => ?_, fun i a o hprog ho => ?_⟩
  · exact hbegan _ _ _ _ (hagrees x.1) ((hlogged.took x.1 x.2).mp hx)
  · have hpost := hfollows i
    rw [hprog] at hpost
    exact (hlogged.took i o).mpr (houtput _ _ _ _ _ (hagrees i) hpost ho)

end Pool

end ComputeSdk.Shared
