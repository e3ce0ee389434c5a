import ComputeSdk.Shared.Run

/-! # Components and writes

A state seen through its components, the functions that change only some of them, and what a
run leaves in a component that its steps overwrite or leave alone. -/

namespace ComputeSdk.Shared

section

variable {ι σ : Type} {V : ι → Type}

/-- A function that changes only the components in `C`, each by itself. -/
structure Only (view : (i : ι) → σ → V i) (C : List ι) (f : σ → σ) : Prop where
  others : ∀ i, i ∉ C → ∀ s, view i (f s) = view i s
  own : ∀ i s t, view i s = view i t → view i (f s) = view i (f t)

/-- A function that leaves the components outside `C` as they are. -/
def Leaves (view : (i : ι) → σ → V i) (C : List ι) (f : σ → σ) : Prop :=
  ∀ i, i ∉ C → ∀ s, view i (f s) = view i s

theorem Only.leaves {view : (i : ι) → σ → V i} {C : List ι} {f : σ → σ} (h : Only view C f) :
    Leaves view C f := h.others

/-- What a component becomes does not depend on the state. -/
def Overwrites (view : (i : ι) → σ → V i) (i : ι) (f : σ → σ) : Prop :=
  ∀ s t, view i (f s) = view i (f t)

/-- A function that gives one component a value. -/
theorem Only.of_overwrites [DecidableEq ι] {view : (i : ι) → σ → V i} {i : ι} {f : σ → σ}
    (others : ∀ j, j ≠ i → ∀ s, view j (f s) = view j s) (own : Overwrites view i f) :
    Only view [i] f where
  others j hj := others j fun h => hj (List.mem_singleton.mpr h)
  own j s t hst := by
    by_cases h : j = i
    · subst h
      exact own s t
    · rw [others j h s, others j h t, hst]

end

/-! ## The last write -/

section

variable {κ σ α ε : Type}

/-- What the operations leave in a place that held `a`, where some of them write to it. -/
def lastWrite (writes : κ → Option α) (a : α) (ops : List κ) : α :=
  ops.foldl (fun a op => (writes op).getD a) a

/-- The last operation that writes. -/
def lastWriter (p : κ → Bool) (ops : List κ) : Option κ := (ops.filter p).getLast?

variable {writes writes' : κ → Option α} {p : κ → Bool}

theorem lastWrite_concat (writes : κ → Option α) (a : α) (ops : List κ) (op : κ) :
    lastWrite writes a (ops ++ [op]) = (writes op).getD (lastWrite writes a ops) := by
  simp only [lastWrite, List.foldl_append, List.foldl_cons, List.foldl_nil]

theorem lastWrite_eq (h : ∀ op, (writes op).isSome = p op) (a : α) (ops : List κ) :
    lastWrite writes a ops = ((lastWriter p ops).bind writes).getD a := by
  induction ops using List.reverseRecOn with
  | nil => rfl
  | append_singleton ops op ih =>
      rw [lastWrite_concat, ih, lastWriter, lastWriter, List.filter_append]
      cases hp : p op with
      | true =>
          obtain ⟨b, hb⟩ := Option.isSome_iff_exists.mp ((h op).trans hp)
          simp [hp, hb]
      | false =>
          have hnone : writes op = none := by
            rw [← Option.not_isSome_iff_eq_none, h op, hp]
            exact Bool.false_ne_true
          simp [hp, hnone]

/-- A function of what is left is what the same operations leave if each writes the function of
what it wrote. -/
theorem lastWrite_map {β : Type} (f : α → β) (writes : κ → Option α) (a : α) (ops : List κ) :
    f (lastWrite writes a ops) = lastWrite (fun op => (writes op).map f) (f a) ops := by
  induction ops generalizing a with
  | nil => rfl
  | cons op ops ih =>
      rw [lastWrite, List.foldl_cons, ← lastWrite, ih, lastWrite, lastWrite, List.foldl_cons]
      cases writes op <;> rfl

theorem lastWriter_mem {ops : List κ} {op : κ} (h : lastWriter p ops = some op) : op ∈ ops :=
  (List.mem_filter.mp (List.mem_of_getLast? h)).1

/-- Two ways of writing, by the same operations, leave the same if they agree on the last
operation that writes. -/
theorem lastWrite_eq_iff (h : ∀ op, (writes op).isSome = p op)
    (h' : ∀ op, (writes' op).isSome = p op) (a : α) (ops : List κ) :
    lastWrite writes a ops = lastWrite writes' a ops ↔
      ∀ op, lastWriter p ops = some op → writes op = writes' op := by
  rw [lastWrite_eq h, lastWrite_eq h']
  cases hlast : lastWriter p ops with
  | none => simp
  | some op =>
      have hp : p op = true := by
        have hmem := List.mem_of_getLast? hlast
        exact (List.mem_filter.mp hmem).2
      obtain ⟨b, hb⟩ := Option.isSome_iff_exists.mp ((h op).trans hp)
      obtain ⟨b', hb'⟩ := Option.isSome_iff_exists.mp ((h' op).trans hp)
      simp [hb, hb']

theorem lastWrite_eq_getLast? (writes : κ → Option α) (a : α) (ops : List κ) :
    lastWrite writes a ops = (ops.filterMap writes).getLast?.getD a := by
  induction ops using List.reverseRecOn with
  | nil => rfl
  | append_singleton ops op ih =>
      rw [lastWrite_concat, ih, List.filterMap_append]
      cases h : writes op with
      | none => simp [h]
      | some b => simp [h]

/-- Of a way to write values that may be absent, the writes of those that are present. -/
def present (gives : κ → Option (Option α)) (op : κ) : Option (Option α) :=
  (gives op).bind (Option.map some)

theorem present_of_none {gives : κ → Option (Option α)} {op : κ} (h : gives op = none) :
    present gives op = none := by
  rw [present, h]
  rfl

/-- Nothing is left exactly if there was nothing and nothing was present. -/
theorem lastWrite_present_eq_none_iff (gives : κ → Option (Option α)) (a : Option α)
    (ops : List κ) :
    lastWrite (present gives) a ops = none ↔ a = none ∧ ∀ x ∈ ops.filterMap gives, x = none := by
  induction ops using List.reverseRecOn with
  | nil => simp [lastWrite]
  | append_singleton ops op ih =>
      rw [lastWrite_concat, present, List.filterMap_append]
      cases h : gives op with
      | none => simpa [h] using ih
      | some x =>
          cases x with
          | none => simpa [h, or_imp, forall_and] using ih
          | some b => simp [h, or_imp, forall_and]

/-- To skip the absent values makes no difference exactly if an absent one that comes last has
only absent ones before it. -/
theorem lastWrite_present_iff (gives : κ → Option (Option α)) (a : Option α) (ops : List κ) :
    lastWrite (present gives) a ops = lastWrite gives a ops ↔
      ((ops.filterMap gives).getLast? = some none →
        a = none ∧ ∀ x ∈ ops.filterMap gives, x = none) := by
  induction ops using List.reverseRecOn with
  | nil => simp [lastWrite]
  | append_singleton ops op ih =>
      rw [lastWrite_concat, lastWrite_concat, present, List.filterMap_append]
      cases h : gives op with
      | none => simpa [h] using ih
      | some x =>
          cases x with
          | none => simpa [h, or_imp, forall_and] using lastWrite_present_eq_none_iff gives a ops
          | some b => simp [h]

/-- What a run leaves in a component. -/
theorem run_lastWrite {step : σ → κ → Except ε σ} {get : σ → α} {ops : List κ}
    (next : ∀ op ∈ ops, ∀ s t, step s op = .ok t → get t = (writes op).getD (get s)) {s t : σ}
    (hrun : run step s ops = .ok t) : get t = lastWrite writes (get s) ops := by
  induction ops generalizing s with
  | nil =>
      obtain rfl := Except.ok.inj hrun
      rfl
  | cons op ops ih =>
      obtain ⟨s₁, hs, hrest⟩ := run_cons_eq_ok_iff.mp hrun
      change get t = lastWrite writes ((writes op).getD (get s)) ops
      rw [← next op List.mem_cons_self s s₁ hs]
      exact ih (fun op' hop => next op' (List.mem_cons_of_mem op hop)) hrest

end

end ComputeSdk.Shared
