import Mathlib.Data.List.Basic
import Mathlib.Tactic.Common

/-! # Reference-counted objects

The heap keeps a cell for each object that was ever allocated, with the number of
references to it. An object lives as long as there is one. -/

namespace ComputeSdk.Shared

/-- A reference: the cell of an object, and the object, which does not change. -/
structure Ref (α : Type) where
  cell : ℕ
  val : α
  deriving DecidableEq

structure RefHeap (α : Type) where
  cells : List (α × ℕ)

namespace RefHeap

variable {α : Type}

def empty : RefHeap α := ⟨[]⟩

/-- `std::make_shared`. -/
def alloc (a : α) (H : RefHeap α) : Ref α × RefHeap α :=
  (⟨H.cells.length, a⟩, ⟨H.cells ++ [(a, 1)]⟩)

/-- A copy of a reference. -/
def retain (r : Ref α) (H : RefHeap α) : RefHeap α :=
  match H.cells[r.cell]? with
  | some (a, n) => ⟨H.cells.set r.cell (a, n + 1)⟩
  | none => H

/-- The end of a reference. The result is the object whose last reference it was. -/
def release (r : Ref α) (H : RefHeap α) : Option α × RefHeap α :=
  match H.cells[r.cell]? with
  | some (a, 1) => (some a, ⟨H.cells.set r.cell (a, 0)⟩)
  | some (a, n) => (none, ⟨H.cells.set r.cell (a, n - 1)⟩)
  | none => (none, H)

/-- The objects with at least one reference. -/
def live (H : RefHeap α) : List α :=
  H.cells.filterMap fun c => if c.2 = 0 then none else some c.1

/-- How many references to the object of `r` the heap counts. -/
def uses [DecidableEq α] (H : RefHeap α) (r : Ref α) : ℕ :=
  match H.cells[r.cell]? with
  | some (a, n) => if a = r.val then n else 0
  | none => 0

/-- The references in `rs` are those that the heap counts. -/
def Counts [DecidableEq α] (H : RefHeap α) (rs : List (Ref α)) : Prop :=
  ∀ r, rs.count r = H.uses r

/-- The heap counts `n` references to the object of `r`. -/
def Holds (H : RefHeap α) (r : Ref α) (n : ℕ) : Prop := H.cells[r.cell]? = some (r.val, n)

@[simp] theorem live_alloc (a : α) (H : RefHeap α) : (H.alloc a).2.live = H.live ++ [a] := by
  simp [live, alloc]

/-! ## One object -/

theorem holds_alloc (a : α) (H : RefHeap α) : (H.alloc a).2.Holds (H.alloc a).1 1 := by
  simp [Holds, alloc]

/-- A new object does not disturb the others. -/
theorem Holds.alloc {H : RefHeap α} {r : Ref α} {n : ℕ} (h : H.Holds r n) (a : α) :
    (H.alloc a).2.Holds r n ∧ r.cell ≠ (H.alloc a).1.cell := by
  obtain ⟨hlt, -⟩ := List.getElem?_eq_some_iff.mp h
  refine ⟨?_, Nat.ne_of_lt hlt⟩
  simp only [Holds, RefHeap.alloc]
  rw [List.getElem?_append_left hlt]
  exact h

theorem Holds.retain {H : RefHeap α} {r : Ref α} {n : ℕ} (h : H.Holds r n) :
    (H.retain r).Holds r (n + 1) := by
  obtain ⟨hlt, -⟩ := List.getElem?_eq_some_iff.mp h
  unfold Holds at h
  simp only [Holds, RefHeap.retain, h]
  exact List.getElem?_set_self hlt

/-- The end of the last reference. -/
theorem Holds.release_last {H : RefHeap α} {r : Ref α} (h : H.Holds r 1) :
    ∃ H', H.release r = (some r.val, H') ∧
      ∀ q n, q.cell ≠ r.cell → H.Holds q n → H'.Holds q n := by
  unfold Holds at h
  refine ⟨⟨H.cells.set r.cell (r.val, 0)⟩, by simp only [release, h], fun q n hne hq => ?_⟩
  simp only [Holds, List.getElem?_set_ne (Ne.symm hne)]
  exact hq

/-- The end of another reference. -/
theorem Holds.release {H : RefHeap α} {r : Ref α} {n : ℕ} (h : H.Holds r (n + 2)) :
    ∃ H', H.release r = (none, H') ∧ H'.Holds r (n + 1) ∧
      ∀ q m, q.cell ≠ r.cell → H.Holds q m → H'.Holds q m := by
  obtain ⟨hlt, -⟩ := List.getElem?_eq_some_iff.mp h
  unfold Holds at h
  refine ⟨⟨H.cells.set r.cell (r.val, n + 1)⟩, ?_, List.getElem?_set_self hlt,
    fun q m hne hq => ?_⟩
  · simp only [RefHeap.release, h]
    rfl
  · simp only [Holds, List.getElem?_set_ne (Ne.symm hne)]
    exact hq

/-! ## All objects -/

theorem get_middle {before after : List (α × ℕ)} {r : Ref α} {n : ℕ}
    (hlength : before.length = r.cell) :
    (before ++ (r.val, n) :: after)[r.cell]? = some (r.val, n) := by
  rw [← hlength, List.getElem?_append_right (Nat.le_refl _), Nat.sub_self,
    List.getElem?_cons_zero]

theorem set_middle {before after : List (α × ℕ)} {r : Ref α} {n : ℕ} (m : ℕ)
    (hlength : before.length = r.cell) :
    (before ++ (r.val, n) :: after).set r.cell (r.val, m) = before ++ (r.val, m) :: after := by
  rw [← hlength, List.set_append_right _ _ (Nat.le_refl _), Nat.sub_self, List.set_cons_zero]

variable [DecidableEq α]

theorem counts_empty : Counts (empty : RefHeap α) [] := fun _ => rfl

/-- A new object has the one reference that is returned. -/
theorem Counts.alloc {H : RefHeap α} {rs : List (Ref α)} (h : H.Counts rs) (a : α) :
    (H.alloc a).2.Counts ((H.alloc a).1 :: rs) := by
  intro r
  have hcount : rs.count r = H.uses r := h r
  simp only [uses] at hcount
  rw [List.count_cons, hcount]
  simp only [uses, RefHeap.alloc, beq_iff_eq]
  obtain ⟨cell, val⟩ := r
  rcases Nat.lt_trichotomy cell H.cells.length with hlt | heq | hgt
  · rw [List.getElem?_append_left hlt, if_neg, Nat.add_zero]
    exact fun hsame => Nat.ne_of_lt hlt (Ref.mk.inj hsame).1.symm
  · subst heq
    simp
  · rw [List.getElem?_eq_none (Nat.le_of_lt hgt), List.getElem?_eq_none (by simp; omega),
      if_neg]
    exact fun hsame => Nat.ne_of_gt hgt (Ref.mk.inj hsame).1.symm

/-- The cell of a reference that is counted. -/
theorem Counts.cell {H : RefHeap α} {rs : List (Ref α)} {r : Ref α} (h : H.Counts rs)
    (hr : r ∈ rs) :
    ∃ before after n, H = ⟨before ++ (r.val, n + 1) :: after⟩ ∧ before.length = r.cell := by
  have hpos : 0 < H.uses r := by
    rw [← h r]
    exact List.count_pos_iff.mpr hr
  unfold uses at hpos
  split at hpos
  · rename_i a n hcell
    split at hpos
    · rename_i hval
      subst hval
      obtain ⟨hlt, hget⟩ := List.getElem?_eq_some_iff.mp hcell
      refine ⟨H.cells.take r.cell, H.cells.drop (r.cell + 1), n - 1, ?_, ?_⟩
      · rw [show n - 1 + 1 = n by omega, ← hget, List.getElem_cons_drop, List.take_append_drop]
      · rw [List.length_take]
        omega
    · exact absurd hpos (Nat.lt_irrefl 0)
  · exact absurd hpos (Nat.lt_irrefl 0)

/-- How the counts change with the number in one cell. -/
theorem uses_set {before : List (α × ℕ)} {r : Ref α} (after : List (α × ℕ)) (m n : ℕ)
    (hlength : before.length = r.cell) (q : Ref α) :
    uses ⟨before ++ (r.val, m) :: after⟩ q + (if r = q then n else 0) =
      uses ⟨before ++ (r.val, n) :: after⟩ q + (if r = q then m else 0) := by
  simp only [uses]
  obtain ⟨cell, val⟩ := r
  obtain ⟨cell', val'⟩ := q
  simp only at hlength
  subst hlength
  by_cases hcell : before.length = cell'
  · subst hcell
    by_cases hval : val = val'
    · subst hval
      simp [Nat.add_comm]
    · simp [hval]
  · have hne : Ref.mk before.length val ≠ ⟨cell', val'⟩ := fun hsame => hcell (Ref.mk.inj hsame).1
    rw [if_neg hne, if_neg hne]
    rcases Nat.lt_or_gt_of_ne hcell with hlt | hgt
    · obtain ⟨k, rfl⟩ := Nat.exists_eq_add_of_lt hlt
      simp only [List.getElem?_append_right (Nat.le_of_lt hlt)]
      rw [show before.length + k + 1 - before.length = k + 1 by omega, List.getElem?_cons_succ,
        List.getElem?_cons_succ]
    · simp only [List.getElem?_append_left hgt]

theorem Counts.retain {H : RefHeap α} {rs : List (Ref α)} {r : Ref α} (h : H.Counts rs)
    (hr : r ∈ rs) : (H.retain r).Counts (r :: rs) ∧ (H.retain r).live = H.live := by
  obtain ⟨before, after, n, rfl, hlength⟩ := h.cell hr
  simp only [RefHeap.retain, get_middle hlength, set_middle _ hlength]
  refine ⟨fun q => ?_, ?_⟩
  · have hset := uses_set after (n + 1 + 1) (n + 1) hlength q
    rw [List.count_cons, h q]
    by_cases hq : r = q
    · simp only [hq, if_true, beq_self_eq_true] at hset ⊢
      omega
    · simp only [if_neg hq, beq_iff_eq] at hset ⊢
      omega
  · simp [live]

/-- The last reference takes its object with it. -/
theorem Counts.release {H : RefHeap α} {rs : List (Ref α)} {r : Ref α}
    (h : H.Counts (r :: rs)) :
    ∃ gone H', H.release r = (gone, H') ∧ H'.Counts rs ∧
      H.live.Perm (gone.toList ++ H'.live) ∧ (gone = none ∨ gone = some r.val) := by
  obtain ⟨before, after, n, rfl, hlength⟩ := h.cell List.mem_cons_self
  have hcounts : Counts ⟨before ++ (r.val, n) :: after⟩ rs := by
    intro q
    have hset := uses_set after (n + 1) n hlength q
    have hall := h q
    rw [List.count_cons] at hall
    by_cases hq : r = q
    · simp only [hq, if_true, beq_self_eq_true] at hset hall ⊢
      omega
    · simp only [if_neg hq, beq_iff_eq] at hset hall ⊢
      omega
  cases n with
  | zero =>
      refine ⟨some r.val, _, ?_, hcounts, ?_, .inr rfl⟩
      · simp only [RefHeap.release, get_middle hlength, set_middle _ hlength]
      · simp [live, List.perm_middle]
  | succ n =>
      refine ⟨none, _, ?_, hcounts, ?_, .inl rfl⟩
      · simp only [RefHeap.release, get_middle hlength, set_middle _ hlength]
        rfl
      · simp [live]

end RefHeap

end ComputeSdk.Shared
