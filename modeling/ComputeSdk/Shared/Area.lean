import Mathlib.Data.List.Basic
import Mathlib.Tactic.Common

/-! # Buffer areas

An area is an array of fixed capacity with a cursor and a limit, the shape of the get
and put areas of a stream buffer whose base is the start of the array. -/

namespace ComputeSdk.Shared

structure Area (α : Type*) (cap : ℕ) where
  data : List α
  next : ℕ
  limit : ℕ
  length_data : data.length = cap
  next_le : next ≤ limit
  limit_le : limit ≤ cap

namespace Area

variable {α : Type*} {cap : ℕ}

/-- The elements between the base and the cursor. -/
def before (a : Area α cap) : List α :=
  a.data.take a.next

/-- The elements between the cursor and the limit. -/
def ahead (a : Area α cap) : List α :=
  (a.data.take a.limit).drop a.next

/-- An area over an uninitialised array: every cell holds `x`. -/
def blank (x : α) (cap : ℕ) : Area α cap where
  data := List.replicate cap x
  next := 0
  limit := 0
  length_data := List.length_replicate
  next_le := Nat.le_refl 0
  limit_le := Nat.zero_le cap

/-- Put the cursor back to the base and open the whole array. -/
def reset (a : Area α cap) : Area α cap :=
  { a with next := 0, limit := cap, next_le := Nat.zero_le cap, limit_le := Nat.le_refl cap }

/-- Store at the cursor and advance it. -/
def put (a : Area α cap) (x : α) (h : a.next < a.limit) : Area α cap :=
  { a with
    data := a.data.set a.next x
    next := a.next + 1
    length_data := by rw [List.length_set, a.length_data]
    next_le := h }

/-- Advance the cursor. -/
def bump (a : Area α cap) (h : a.next < a.limit) : Area α cap :=
  { a with next := a.next + 1, next_le := h }

/-- The element at the cursor. -/
def current (a : Area α cap) (h : a.next < a.limit) : α :=
  a.data.get ⟨a.next, by rw [a.length_data]; exact Nat.lt_of_lt_of_le h a.limit_le⟩

/-- Overwrite the start of the array and open exactly what was written. -/
def fill (a : Area α cap) (xs : List α) (h : xs.length ≤ cap) : Area α cap where
  data := xs ++ a.data.drop xs.length
  next := 0
  limit := xs.length
  length_data := by
    rw [List.length_append, List.length_drop, a.length_data]
    omega
  next_le := Nat.zero_le _
  limit_le := h

/-! ## Views -/

theorem length_before (a : Area α cap) : a.before.length = a.next := by
  have := a.next_le
  have := a.limit_le
  simp only [before, List.length_take, a.length_data]
  omega

theorem length_before_le (a : Area α cap) : a.before.length ≤ cap := by
  rw [length_before]
  exact Nat.le_trans a.next_le a.limit_le

@[simp] theorem before_reset (a : Area α cap) : a.reset.before = [] := rfl

theorem next_reset_lt (a : Area α cap) (h : 0 < cap) : a.reset.next < a.reset.limit := h

@[simp] theorem ahead_blank (x : α) (cap : ℕ) : (blank x cap).ahead = [] := rfl

theorem before_put (a : Area α cap) (x : α) (h : a.next < a.limit) :
    (a.put x h).before = a.before ++ [x] := by
  have hlen : a.next < a.data.length := by
    rw [a.length_data]
    exact Nat.lt_of_lt_of_le h a.limit_le
  simp only [put, before]
  rw [List.take_add_one, List.take_set_of_le (Nat.le_refl _)]
  simp [hlen]

@[simp] theorem ahead_fill (a : Area α cap) (xs : List α) (h : xs.length ≤ cap) :
    (a.fill xs h).ahead = xs := by
  simp [fill, ahead]

theorem ahead_eq_cons (a : Area α cap) (h : a.next < a.limit) :
    a.ahead = a.current h :: (a.bump h).ahead := by
  have hlen : a.next < (a.data.take a.limit).length := by
    have := a.limit_le
    simp only [List.length_take, a.length_data]
    omega
  simp only [ahead, bump, current, List.get_eq_getElem]
  rw [List.drop_eq_getElem_cons hlen, List.getElem_take]

theorem ahead_eq_nil (a : Area α cap) (h : ¬ a.next < a.limit) : a.ahead = [] :=
  List.drop_eq_nil_of_le (Nat.le_trans (List.length_take_le _ _) (Nat.le_of_not_lt h))

end Area

end ComputeSdk.Shared
