import Mathlib.Data.List.Infix
import Mathlib.Tactic.Common

/-! # Runs

A run feeds a list of operations to a step function and stops at the first error. -/

namespace ComputeSdk.Shared

variable {σ τ ι ε : Type*}

def run (step : σ → ι → Except ε σ) : σ → List ι → Except ε σ
  | s, [] => .ok s
  | s, op :: ops =>
    match step s op with
    | .error e => .error e
    | .ok t => run step t ops

@[simp] theorem run_nil (step : σ → ι → Except ε σ) (s : σ) : run step s [] = .ok s := rfl

theorem run_cons_of_ok {step : σ → ι → Except ε σ} {s t : σ} {op : ι} (ops : List ι)
    (h : step s op = .ok t) : run step s (op :: ops) = run step t ops := by
  simp only [run, h]

theorem run_cons_of_error {step : σ → ι → Except ε σ} {s : σ} {e : ε} {op : ι} (ops : List ι)
    (h : step s op = .error e) : run step s (op :: ops) = .error e := by
  simp only [run, h]

/-- A first step that succeeds comes before every longer run that does. -/
theorem run_cons_eq_ok_iff {step : σ → ι → Except ε σ} {s u : σ} {op : ι} {ops : List ι} :
    run step s (op :: ops) = .ok u ↔ ∃ t, step s op = .ok t ∧ run step t ops = .ok u := by
  cases h : step s op with
  | error e => simp [run_cons_of_error ops h]
  | ok t => simp [run_cons_of_ok ops h]

/-- Runs commute with a map of the states that every step commutes with. -/
theorem run_map {step : σ → ι → Except ε σ} {step' : τ → ι → Except ε τ} {f : σ → τ}
    {ops : List ι} (h : ∀ op ∈ ops, ∀ s, step' (f s) op = (step s op).map f) (s : σ) :
    run step' (f s) ops = (run step s ops).map f := by
  induction ops generalizing s with
  | nil => rfl
  | cons op ops ih =>
      have hop := h op List.mem_cons_self s
      cases hs : step s op with
      | error e =>
          rw [hs] at hop
          rw [run_cons_of_error ops hs, run_cons_of_error ops hop]
          rfl
      | ok t =>
          rw [hs] at hop
          rw [run_cons_of_ok ops hs, run_cons_of_ok ops hop]
          exact ih (fun op' hop' => h op' (List.mem_cons_of_mem op hop')) t

theorem run_concat_of_ok {step : σ → ι → Except ε σ} {s t : σ} {ops : List ι} (op : ι)
    (h : run step s ops = .ok t) : run step s (ops ++ [op]) = step t op := by
  induction ops generalizing s with
  | nil =>
      obtain rfl := Except.ok.inj h
      cases hop : step s op with
      | error e => exact run_cons_of_error [] hop
      | ok u => exact run_cons_of_ok [] hop
  | cons a ops ih =>
      obtain ⟨s', hs', hrun⟩ := run_cons_eq_ok_iff.mp h
      rw [List.cons_append, run_cons_of_ok (ops ++ [op]) hs', ih hrun]

/-- A run that fails does so at one of its steps. -/
theorem run_eq_error {step : σ → ι → Except ε σ} {s : σ} {ops : List ι} {e : ε}
    (h : run step s ops = .error e) :
    ∃ past op rest t, ops = past ++ op :: rest ∧ run step s past = .ok t ∧
      step t op = .error e := by
  induction ops generalizing s with
  | nil => cases h
  | cons op ops ih =>
      cases hs : step s op with
      | error e' =>
          rw [run_cons_of_error ops hs] at h
          exact ⟨[], op, ops, s, rfl, rfl, hs.trans h⟩
      | ok t =>
          rw [run_cons_of_ok ops hs] at h
          obtain ⟨past, op', rest, u, rfl, hrun, hstep⟩ := ih h
          exact ⟨op :: past, op', rest, u, rfl, by rw [run_cons_of_ok past hs, hrun], hstep⟩

/-- Every operation of a run that succeeds has been a step of it. -/
theorem exists_step_of_run {step : σ → ι → Except ε σ} {s u : σ} {op : ι} {ops : List ι}
    (h : run step s ops = .ok u) (hop : op ∈ ops) : ∃ t t', step t op = .ok t' := by
  induction ops generalizing s with
  | nil => cases hop
  | cons a ops ih =>
      obtain ⟨t, hs, hrest⟩ := run_cons_eq_ok_iff.mp h
      rcases List.mem_cons.mp hop with rfl | hop
      · exact ⟨s, t, hs⟩
      · exact ih hrest hop

/-- A relation that each step can follow, a run can follow. -/
theorem run_follows {step : σ → ι → Except ε σ} {step' : τ → ι → Except ε τ}
    {R : σ → τ → Prop}
    (next : ∀ s t op s', R s t → step s op = .ok s' → ∃ t', step' t op = .ok t' ∧ R s' t')
    {s s' : σ} {t : τ} {ops : List ι} (h : R s t) (hrun : run step s ops = .ok s') :
    ∃ t', run step' t ops = .ok t' ∧ R s' t' := by
  induction ops generalizing s t with
  | nil =>
      obtain rfl := Except.ok.inj hrun
      exact ⟨t, rfl, h⟩
  | cons op ops ih =>
      obtain ⟨s₁, hs, hrest⟩ := run_cons_eq_ok_iff.mp hrun
      obtain ⟨t₁, ht, h₁⟩ := next s t op s₁ h hs
      obtain ⟨t', hrun', h'⟩ := ih h₁ hrest
      exact ⟨t', by rw [run_cons_of_ok ops ht, hrun'], h'⟩

/-- A property of the operations so far and the state, which holds at the start and which
every step with `G` carries on, holds after every run whose steps have `G`; and every
such run succeeds. -/
theorem run_guarded {step : σ → ι → Except ε σ} {I : List ι → σ → Prop}
    {G : σ → ι → Prop} {s : σ} (start : I [] s)
    (next : ∀ past s op, I past s → G s op →
      ∃ t, step s op = .ok t ∧ I (past ++ [op]) t)
    (ops : List ι)
    (h : ∀ past op t, past ++ [op] <+: ops → run step s past = .ok t → G t op) :
    ∃ t, run step s ops = .ok t ∧ I ops t := by
  induction ops using List.reverseRecOn with
  | nil => exact ⟨s, rfl, start⟩
  | append_singleton ops op ih =>
      obtain ⟨t, hrun, ht⟩ := ih fun past op' t hpast =>
        h past op' t (hpast.trans (List.prefix_append ops [op]))
      obtain ⟨u, hstep, hu⟩ := next ops t op ht (h ops op t List.prefix_rfl hrun)
      exact ⟨u, by rw [run_concat_of_ok op hrun, hstep], hu⟩

/-- The rule for steps without a condition. -/
theorem run_history {step : σ → ι → Except ε σ} {I : List ι → σ → Prop} {s : σ}
    (start : I [] s)
    (next : ∀ past s op, I past s → ∃ t, step s op = .ok t ∧ I (past ++ [op]) t)
    (ops : List ι) : ∃ t, run step s ops = .ok t ∧ I ops t :=
  run_guarded (G := fun _ _ => True) start
    (fun past s op h _ => next past s op h) ops (fun _ _ _ _ _ => trivial)

/-- The run without its silent steps is related to the whole run, if each silent step keeps
the relation and each visible one does so on both sides where it has `G`. -/
theorem run_filter {step : σ → ι → Except ε σ} {step' : τ → ι → Except ε τ}
    {R : σ → τ → Prop} {visible : ι → Bool} {G : τ → ι → Prop}
    (silent : ∀ s t op, R s t → visible op = false → ∃ s', step s op = .ok s' ∧ R s' t)
    (call : ∀ s t op, R s t → visible op → G t op →
      ∃ s' t', step s op = .ok s' ∧ step' t op = .ok t' ∧ R s' t')
    {s : σ} {t : τ} (h : R s t) (ops : List ι)
    (hops : ∀ past op u, past ++ [op] <+: ops.filter visible → run step' t past = .ok u →
      G u op) :
    ∃ s' t', run step s ops = .ok s' ∧ run step' t (ops.filter visible) = .ok t' ∧ R s' t' := by
  induction ops generalizing s t with
  | nil => exact ⟨s, t, rfl, rfl, h⟩
  | cons op ops ih =>
      cases hv : visible op with
      | false =>
          rw [List.filter_cons_of_neg (by rw [hv]; exact Bool.false_ne_true)] at hops ⊢
          obtain ⟨s₁, hs, h₁⟩ := silent s t op h hv
          obtain ⟨s', t', hrun, hrun', h'⟩ := ih h₁ hops
          exact ⟨s', t', by rw [run_cons_of_ok ops hs, hrun], hrun', h'⟩
      | true =>
          rw [List.filter_cons_of_pos hv] at hops ⊢
          obtain ⟨s₁, t₁, hs, ht, h₁⟩ := call s t op h hv (hops [] op t (by simp) rfl)
          obtain ⟨s', t', hrun, hrun', h'⟩ := ih h₁ fun past op' u hpast hu =>
            hops (op :: past) op' u (List.cons_prefix_cons.mpr ⟨rfl, hpast⟩)
              (by rw [run_cons_of_ok past ht, hu])
          exact ⟨s', t', by rw [run_cons_of_ok ops hs, hrun],
            by rw [run_cons_of_ok _ ht, hrun'], h'⟩

/-- Suppose that a step from a state with `I` reaches a state with `I` exactly if it is
permitted there. Then all states that a run passes through have `I` exactly if all its
steps are permitted. `J` is an invariant of all steps. -/
theorem forall_prefix_iff {step : σ → ι → Except ε σ} {I J : σ → Prop}
    {permitted : σ → ι → Prop} (keep : ∀ s op t, J s → step s op = .ok t → J t)
    (exact_step : ∀ s op t, J s → I s → step s op = .ok t → (I t ↔ permitted s op))
    {s : σ} (hJ : J s) (hI : I s) (ops : List ι) :
    (∀ past t, past <+: ops → run step s past = .ok t → I t) ↔
      ∀ past op t u, past ++ [op] <+: ops → run step s past = .ok t → step t op = .ok u →
        permitted t op := by
  induction ops generalizing s with
  | nil =>
      refine iff_of_true ?_ ?_
      · intro past t hpast hrun
        obtain rfl := List.prefix_nil.mp hpast
        obtain rfl := Except.ok.inj hrun
        exact hI
      · intro past op t u hpast
        simp at hpast
  | cons a ops ih =>
      constructor
      · intro hall past op t u hpast hrun hstep
        cases past with
        | nil =>
            obtain rfl := Except.ok.inj hrun
            obtain ⟨rfl, -⟩ := List.cons_prefix_cons.mp hpast
            apply (exact_step s op u hJ hI hstep).mp
            exact hall [op] u (by simp) (by rw [run_cons_of_ok [] hstep, run_nil])
        | cons b past =>
            obtain ⟨rfl, htail⟩ := List.cons_prefix_cons.mp hpast
            obtain ⟨s', hs', hrun⟩ := run_cons_eq_ok_iff.mp hrun
            have hI' : I s' :=
              hall [b] s' (by simp) (by rw [run_cons_of_ok [] hs', run_nil])
            refine (ih (keep s b s' hJ hs') hI').mp ?_ past op t u htail hrun hstep
            intro past t hpast hrun
            exact hall (b :: past) t (List.cons_prefix_cons.mpr ⟨rfl, hpast⟩)
              (by rw [run_cons_of_ok past hs', hrun])
      · intro hall past t hpast hrun
        cases past with
        | nil =>
            obtain rfl := Except.ok.inj hrun
            exact hI
        | cons b past =>
            obtain ⟨rfl, htail⟩ := List.cons_prefix_cons.mp hpast
            obtain ⟨s', hs', hrun⟩ := run_cons_eq_ok_iff.mp hrun
            have hI' : I s' := (exact_step s b s' hJ hI hs').mpr
              (hall [] b s s' (by simp) rfl hs')
            refine (ih (keep s b s' hJ hs') hI').mpr ?_ past t htail hrun
            intro past op t u hpast hrun hstep
            exact hall (b :: past) op t u (List.cons_prefix_cons.mpr ⟨rfl, hpast⟩)
              (by rw [run_cons_of_ok past hs', hrun]) hstep

/-- The same where `J` also means that every step succeeds. -/
theorem forall_prefix_exists_iff {step : σ → ι → Except ε σ} {I J : σ → Prop}
    {permitted : σ → ι → Prop}
    (next : ∀ s op, J s → ∃ t, step s op = .ok t ∧ J t ∧ (I s → (I t ↔ permitted s op)))
    {s : σ} (hJ : J s) (hI : I s) (ops : List ι) :
    (∀ past, past <+: ops → ∃ t, run step s past = .ok t ∧ I t) ↔
      ∀ past op, past ++ [op] <+: ops → ∀ t, run step s past = .ok t → permitted t op := by
  have reached : ∀ past, ∃ t, run step s past = .ok t ∧ J t :=
    run_history (I := fun _ t => J t) hJ fun _ s op hJ => by
      obtain ⟨t, hstep, ht, -⟩ := next s op hJ
      exact ⟨t, hstep, ht⟩
  have keep : ∀ s op t, J s → step s op = .ok t → J t := by
    intro s op t hJ hstep
    obtain ⟨t', hstep', ht, -⟩ := next s op hJ
    obtain rfl := Except.ok.inj (hstep.symm.trans hstep')
    exact ht
  have exact_step : ∀ s op t, J s → I s → step s op = .ok t → (I t ↔ permitted s op) := by
    intro s op t hJ hI hstep
    obtain ⟨t', hstep', -, hiff⟩ := next s op hJ
    obtain rfl := Except.ok.inj (hstep.symm.trans hstep')
    exact hiff hI
  have hiff := forall_prefix_iff keep exact_step hJ hI ops
  constructor
  · intro hall past op hpast t hrun
    obtain ⟨t', hrun', ht⟩ := reached past
    obtain rfl := Except.ok.inj (hrun.symm.trans hrun')
    obtain ⟨u, hstep, -⟩ := next t op ht
    refine hiff.mp (fun past t hpast hrun => ?_) past op t u hpast hrun hstep
    obtain ⟨t', hrun', hI⟩ := hall past hpast
    obtain rfl := Except.ok.inj (hrun.symm.trans hrun')
    exact hI
  · intro hall past hpast
    obtain ⟨t, hrun, -⟩ := reached past
    exact ⟨t, hrun, hiff.mpr (fun past op t _ hpast hrun _ => hall past op hpast t hrun)
      past t hpast hrun⟩

/-! ## Steps that may be refused -/

section

variable {α β : Type*} {step : σ → ι → Except ε (Except α β × σ)}

/-- The states that the steps lead to, whatever they return. -/
def after (step : σ → ι → Except ε (Except α β × σ)) (s : σ) (op : ι) : Except ε σ :=
  (step s op).map Prod.snd

/-- The steps of a run that do not return an error. -/
def accepted (step : σ → ι → Except ε (Except α β × σ)) : σ → List ι → List ι
  | _, [] => []
  | s, op :: ops =>
    match step s op with
    | .error _ => []
    | .ok (.error _, t) => accepted step t ops
    | .ok (.ok _, t) => op :: accepted step t ops

theorem after_of_ok {s t : σ} {op : ι} {r : Except α β} (h : step s op = .ok (r, t)) :
    after step s op = .ok t := by
  rw [after, h]
  rfl

theorem accepted_cons_of_error {s t : σ} {op : ι} {a : α} (ops : List ι)
    (h : step s op = .ok (.error a, t)) : accepted step s (op :: ops) = accepted step t ops := by
  simp only [accepted, h]

theorem accepted_cons_of_ok {s t : σ} {op : ι} {b : β} (ops : List ι)
    (h : step s op = .ok (.ok b, t)) :
    accepted step s (op :: ops) = op :: accepted step t ops := by
  simp only [accepted, h]

/-- Where a refused step leaves the state, a run is the run of the accepted steps alone. -/
theorem run_accepted (refused : ∀ s op a t, step s op = .ok (.error a, t) → t = s) {s u : σ}
    {ops : List ι} (h : run (after step) s ops = .ok u) :
    run (after step) s (accepted step s ops) = .ok u := by
  induction ops generalizing s with
  | nil => exact h
  | cons op ops ih =>
      obtain ⟨t, hop, hrest⟩ := run_cons_eq_ok_iff.mp h
      cases hs : step s op with
      | error e =>
          rw [after, hs] at hop
          cases hop
      | ok p =>
          obtain ⟨r, t'⟩ := p
          obtain rfl := Except.ok.inj ((after_of_ok hs).symm.trans hop)
          cases r with
          | error a =>
              obtain rfl := refused s op a t' hs
              rw [accepted_cons_of_error ops hs]
              exact ih hrest
          | ok b =>
              rw [accepted_cons_of_ok ops hs, run_cons_of_ok _ hop]
              exact ih hrest

end

/-! ## Outputs -/

section

variable {ο : Type*}

/-- The outputs of a run whose steps may stop it. -/
def outputs (step : σ → ι → Except ε (ο × σ)) : σ → List ι → Except ε (List ο)
  | _, [] => .ok []
  | s, op :: ops =>
    match step s op with
    | .error e => .error e
    | .ok (o, t) => (outputs step t ops).map fun os => o :: os

/-- The outputs of a run whose steps always go on. -/
def totalOutputs (step : τ → ι → ο × τ) : τ → List ι → List ο
  | _, [] => []
  | s, op :: ops => (step s op).1 :: totalOutputs step (step s op).2 ops

/-- If each step from related states has the output of the other and leads to related
states, then so do the runs. -/
theorem outputs_of_simulates {step : σ → ι → Except ε (ο × σ)} {spec : τ → ι → ο × τ}
    (related : σ → τ → Prop)
    (h : ∀ s t op, related s t →
      ∃ s', step s op = .ok ((spec t op).1, s') ∧ related s' (spec t op).2)
    {s : σ} {t : τ} (hrel : related s t) (ops : List ι) :
    outputs step s ops = .ok (totalOutputs spec t ops) := by
  induction ops generalizing s t with
  | nil => rfl
  | cons op ops ih =>
      obtain ⟨s', hstep, hrel'⟩ := h s t op hrel
      simp only [outputs, totalOutputs, hstep, ih hrel', Except.map]

end

end ComputeSdk.Shared
