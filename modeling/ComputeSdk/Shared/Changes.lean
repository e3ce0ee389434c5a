import Mathlib.Logic.Function.Basic
import ComputeSdk.Shared.Linearization

/-! # Calls that overlap with changes

The object that the clients share also changes by itself. The order that explains the calls
has the changes in it. -/

namespace ComputeSdk.Shared

variable {ι τ ω ο ε : Type}

/-- The operation of a client takes effect, or the object changes by itself. -/
inductive Happening (ι ο ε : Type) where
  | effect (i : ι) (o : ο)
  | change (x : ε)

namespace Happening

def client : Happening ι ο ε → Option ι
  | effect i _ => some i
  | change _ => none

def changed : Happening ι ο ε → Option ε
  | effect _ _ => none
  | change x => some x

end Happening

/-- A sequential object, with what its operations and its own changes do. -/
structure Changing (τ ω ο ε : Type) where
  step : τ → ω → ο × τ
  change : τ → ε → τ

/-- One after the other, the operations in `log` have these outputs, and lead with the changes
from `t₀` to a state. -/
inductive Changing.Leads (spec : Changing τ ω ο ε) (op : ι → ω) (t₀ : τ) :
    List (Happening ι ο ε) → τ → Prop where
  | nil : Leads spec op t₀ [] t₀
  | effect {log : List (Happening ι ο ε)} {t : τ} (h : Leads spec op t₀ log t) (i : ι) :
      Leads spec op t₀ (log ++ [.effect i (spec.step t (op i)).1]) (spec.step t (op i)).2
  | change {log : List (Happening ι ο ε)} {t : τ} (h : Leads spec op t₀ log t) (x : ε) :
      Leads spec op t₀ (log ++ [.change x]) (spec.change t x)

/-! ## What happened -/

/-- The outputs that clients had, the changes, and the state that is left. -/
structure Past (ι τ ο ε : Type) where
  took : ι → Option ο
  changes : List ε
  state : τ

structure Recorded (spec : Changing τ ω ο ε) (op : ι → ω) (t₀ : τ)
    (log : List (Happening ι ο ε)) (p : Past ι τ ο ε) : Prop where
  leads : spec.Leads op t₀ log p.state
  once : (log.filterMap Happening.client).Nodup
  took : ∀ i o, .effect i o ∈ log ↔ p.took i = some o
  changes : log.filterMap Happening.changed = p.changes

theorem recorded_nil (spec : Changing τ ω ο ε) (op : ι → ω) (t₀ : τ) :
    Recorded spec op t₀ [] ⟨fun _ => none, [], t₀⟩ :=
  ⟨.nil, List.nodup_nil, by simp, rfl⟩

variable {spec : Changing τ ω ο ε} {op : ι → ω} {t₀ : τ} {log : List (Happening ι ο ε)}
  {p q : Past ι τ ο ε}

theorem Recorded.change (h : Recorded spec op t₀ log p) (x : ε) :
    Recorded spec op t₀ (log ++ [.change x]) ⟨p.took, p.changes ++ [x], spec.change p.state x⟩ where
  leads := h.leads.change x
  once := by
    rw [List.filterMap_append]
    exact (List.append_nil _).symm ▸ h.once
  took i o := by
    rw [List.mem_append, List.mem_singleton, h.took]
    simp
  changes := by
    rw [List.filterMap_append, h.changes]
    rfl

variable [DecidableEq ι]

theorem Recorded.effect (h : Recorded spec op t₀ log p) {i : ι} (hnone : p.took i = none) :
    Recorded spec op t₀ (log ++ [.effect i (spec.step p.state (op i)).1])
      ⟨Function.update p.took i (some (spec.step p.state (op i)).1), p.changes,
        (spec.step p.state (op i)).2⟩ := by
  have hnew : i ∉ log.filterMap Happening.client := by
    intro hmem
    obtain ⟨x, hx, hi⟩ := List.mem_filterMap.mp hmem
    cases x with
    | change x => cases hi
    | effect j o =>
        obtain rfl := Option.some.inj hi
        exact Option.some_ne_none o (((h.took j o).mp hx).symm.trans hnone)
  refine ⟨h.leads.effect i, ?_, fun j o => ?_, ?_⟩
  · rw [List.filterMap_append]
    exact List.nodup_append_comm.mp (List.nodup_cons.mpr ⟨hnew, h.once⟩)
  · rw [List.mem_append, List.mem_singleton, h.took]
    by_cases hj : j = i
    · subst hj
      simp [hnone, eq_comm]
    · simp [hj]
  · rw [List.filterMap_append, h.changes]
    exact List.append_nil _

/-- At most one thing happens. -/
inductive Happens (spec : Changing τ ω ο ε) (op : ι → ω) : Past ι τ ο ε → Past ι τ ο ε → Prop where
  | nothing (p : Past ι τ ο ε) : Happens spec op p p
  | effect (p : Past ι τ ο ε) (i : ι) (hnone : p.took i = none) :
      Happens spec op p
        ⟨Function.update p.took i (some (spec.step p.state (op i)).1), p.changes,
          (spec.step p.state (op i)).2⟩
  | change (p : Past ι τ ο ε) (x : ε) :
      Happens spec op p ⟨p.took, p.changes ++ [x], spec.change p.state x⟩

/-- What happens is added to the end of the order. -/
theorem Recorded.happens (h : Recorded spec op t₀ log p) (hnext : Happens spec op p q) :
    ∃ log', log <+: log' ∧ Recorded spec op t₀ log' q := by
  cases hnext with
  | nothing => exact ⟨log, List.prefix_rfl, h⟩
  | effect i hnone => exact ⟨_, List.prefix_append .., h.effect hnone⟩
  | change x => exact ⟨_, List.prefix_append .., h.change x⟩

/-! ## Runs of pools -/

namespace Pool

variable {C : Type} {A : C → Type} {β α κ σ : Type} {answers : κ → ι → (c : C) → A c → κ → Prop}
  {drift : κ → κ → Prop}

/-- The pool is explained by what is in `log`, one after the other. `output` is the output of a
client that ended, unless it was refused. -/
structure ExplainedBy (spec : Changing τ ω ο ε) (op : ι → ω) (t₀ : τ) (began : κ → ι → Prop)
    (output : κ → ι → α → Option ο) (changes : κ → List ε) (p : Pool A β α ι κ)
    (log : List (Happening ι ο ε)) : Prop where
  legal : ∃ t, spec.Leads op t₀ log t
  once : (log.filterMap Happening.client).Nodup
  began : ∀ i o, .effect i o ∈ log → began p.env i
  ended : ∀ i a o, p.prog i = .ret a → output p.env i a = some o → .effect i o ∈ log
  changes : log.filterMap Happening.changed = changes p.env

/-- Clients follow a protocol, and in each step at most one thing happens. Then each run has an
order of what happened that only grows and explains every pool. -/
theorem IsRun.exists_explainedBy {run : ℕ → Pool A β α ι κ} (hrun : IsRun answers drift run)
    (P : Protocol A σ) (post : α → σ → Prop) (agrees : κ → (ι → σ) → Past ι τ ο ε → Prop)
    {spec : Changing τ ω ο ε} {op : ι → ω} {t₀ : τ} {began : κ → ι → Prop}
    {output : κ → ι → α → Option ο} {changes : κ → List ε}
    (hanswer : ∀ e s p i c a e', agrees e s p → P.permits (s i) c → answers e i c a e' →
      ∃ t q, P.moves (s i) c a t ∧ agrees e' (Function.update s i t) q ∧ Happens spec op p q)
    (hdrift : ∀ e s p e', agrees e s p → drift e e' → ∃ q, agrees e' s q ∧ Happens spec op p q)
    (hbegan : ∀ e s p i o, agrees e s p → p.took i = some o → began e i)
    (houtput : ∀ e s p i a o, agrees e s p → post a (s i) → output e i a = some o →
      p.took i = some o)
    (hchanges : ∀ e s p, agrees e s p → p.changes = changes e)
    (s : ι → σ) (hagrees : agrees (run 0).env s ⟨fun _ => none, [], t₀⟩)
    (hfollows : ∀ i, ((run 0).prog i).Follows P (fun _ => True) post (s i)) :
    ∃ log : ℕ → List (Happening ι ο ε), ∀ n, log n <+: log (n + 1) ∧
      ExplainedBy spec op t₀ began output changes (run n) (log n) := by
  obtain ⟨log, hlog⟩ := hrun.exists_log
    (L := fun pool log => ∃ s p, agrees pool.env s p ∧
      (∀ i, (pool.prog i).Follows P (fun _ => True) post (s i)) ∧ Recorded spec op t₀ log p)
    (fun pool log pool' hpool hstep => by
      obtain ⟨s, p, hagrees, hfollows, hrecorded⟩ := hpool
      cases hstep with
      | drift hd =>
          obtain ⟨q, hagrees', hnext⟩ := hdrift _ _ _ _ hagrees hd
          obtain ⟨log', hgrows, hrecorded'⟩ := hrecorded.happens hnext
          exact ⟨log', hgrows, s, q, hagrees', hfollows, hrecorded'⟩
      | call hprog ha =>
          rename_i i c next a e
          have hcall := hfollows i
          rw [hprog] at hcall
          obtain ⟨t, q, hmove, hagrees', hnext⟩ := hanswer _ _ _ _ _ _ _ hagrees hcall.1 ha
          obtain ⟨log', hgrows, hrecorded'⟩ := hrecorded.happens hnext
          refine ⟨log', hgrows, Function.update s i t, q, hagrees', fun j => ?_, hrecorded'⟩
          by_cases hj : j = i
          · subst hj
            simpa using hcall.2 a t hmove
          · simpa [hj] using hfollows j)
    [] ⟨s, _, hagrees, hfollows, recorded_nil spec op t₀⟩
  refine ⟨log, fun n => ⟨(hlog n).1, ?_⟩⟩
  obtain ⟨s, p, hagrees, hfollows, hrecorded⟩ := (hlog n).2
  refine ⟨⟨_, hrecorded.leads⟩, hrecorded.once, fun i o hmem => ?_, fun i a o hprog ho => ?_, ?_⟩
  · exact hbegan _ _ _ _ _ hagrees ((hrecorded.took i o).mp hmem)
  · have hpost := hfollows i
    rw [hprog] at hpost
    exact (hrecorded.took i o).mpr (houtput _ _ _ _ _ _ hagrees hpost ho)
  · exact hrecorded.changes.trans (hchanges _ _ _ hagrees)

end Pool

end ComputeSdk.Shared
