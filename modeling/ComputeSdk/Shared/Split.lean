import Mathlib.Tactic.Common

/-! # Splitting what was put together

The pieces of lists that were joined with a separator between them, or that each have a
terminator behind them, where the lists may hold the separator themselves. -/

namespace ComputeSdk.Shared

variable {α β : Type*}

/-! ## Pieces one after another -/

theorem length_flatMap_le {f g : α → List β} {xs : List α}
    (h : ∀ x ∈ xs, (g x).length ≤ (f x).length) :
    (xs.flatMap g).length ≤ (xs.flatMap f).length := by
  induction xs with
  | nil => exact Nat.le_refl 0
  | cons x xs ih =>
      rw [List.forall_mem_cons] at h
      rw [List.flatMap_cons, List.flatMap_cons, List.length_append, List.length_append]
      exact Nat.add_le_add h.1 (ih h.2)

/-- Where no element gives less to the left, the pieces of all are the same only if those of
each are. -/
theorem flatMap_eq_flatMap_iff {f g : α → List β} {xs : List α}
    (h : ∀ x ∈ xs, (g x).length ≤ (f x).length) :
    xs.flatMap f = xs.flatMap g ↔ ∀ x ∈ xs, f x = g x := by
  induction xs with
  | nil => simp
  | cons x xs ih =>
      rw [List.forall_mem_cons] at h
      have hlen := length_flatMap_le h.2
      rw [List.flatMap_cons, List.flatMap_cons, List.forall_mem_cons, ← ih h.2]
      constructor
      · intro heq
        have hsum := congrArg List.length heq
        rw [List.length_append, List.length_append] at hsum
        have hx := h.1
        exact List.append_inj heq (by omega)
      · rintro ⟨hx, hxs⟩
        rw [hx, hxs]

theorem flatMap_eq_self_iff {f : α → List α} {xs : List α} (h : ∀ x ∈ xs, f x ≠ []) :
    xs.flatMap f = xs ↔ ∀ x ∈ xs, f x = [x] := by
  have hpos : ∀ x ∈ xs, [x].length ≤ (f x).length := fun x hx => List.length_pos_iff.mpr (h x hx)
  rw [← flatMap_eq_flatMap_iff hpos, List.flatMap_singleton']

/-- Where what is kept gives itself, nothing else is given exactly if each element that is not
kept gives nothing. -/
theorem flatMap_eq_filter_iff {p : α → Bool} {f : α → List α} {xs : List α}
    (h : ∀ x, p x → f x = [x]) :
    xs.flatMap f = xs.filter p ↔ ∀ x ∈ xs, p x = false → f x = [] := by
  have hfilter : xs.filter p = xs.flatMap fun x => if p x then [x] else [] := by
    induction xs with
    | nil => rfl
    | cons x xs ih => cases hx : p x <;> simp [hx, ih]
  rw [hfilter, flatMap_eq_flatMap_iff fun x _ => ?_]
  · refine forall₂_congr fun x _ => ?_
    cases hx : p x with
    | false => simp
    | true => simp [h x hx]
  · cases hx : p x with
    | false => simp
    | true => simp [h x hx]

/-! ## Separators -/

/-- Terminated lists are joined ones with a terminator behind all. -/
theorem flatMap_terminator {a : α} {ls : List (List α)} (hne : ls ≠ []) :
    ls.flatMap (· ++ [a]) = [a].intercalate ls ++ [a] := by
  induction ls with
  | nil => exact absurd rfl hne
  | cons l ls ih =>
      cases ls with
      | nil => simp
      | cons l' ls =>
          rw [List.flatMap_cons, ih (List.cons_ne_nil l' ls), List.intercalate_cons_cons,
            List.append_assoc, List.append_assoc, List.append_assoc]

variable [BEq α] [LawfulBEq α] {a : α}

theorem splitOn_eq_singleton_iff {xs : List α} : xs.splitOn a = [xs] ↔ a ∉ xs := by
  constructor
  · intro h hmem
    obtain ⟨before, after, rfl⟩ := List.append_of_mem hmem
    rw [List.splitOn_append_cons_self] at h
    have hbefore := List.length_pos_iff.mpr (List.splitOn_ne_nil a before)
    have hafter := List.length_pos_iff.mpr (List.splitOn_ne_nil a after)
    have hlen := congrArg List.length h
    rw [List.length_append, List.length_singleton] at hlen
    omega
  · exact List.splitOn_eq_singleton

/-- Joined lists split into the pieces of each. -/
theorem splitOn_intercalate_eq_flatMap {ls : List (List α)} (hne : ls ≠ []) :
    ([a].intercalate ls).splitOn a = ls.flatMap (List.splitOn a) := by
  induction ls with
  | nil => exact absurd rfl hne
  | cons l ls ih =>
      cases ls with
      | nil => simp
      | cons l' ls =>
          rw [List.intercalate_cons_cons, List.append_assoc, List.singleton_append,
            List.splitOn_append_cons_self, ih (List.cons_ne_nil l' ls), ← List.flatMap_cons]

/-- Lists with a terminator each split into the pieces of each, and an empty one at the end. -/
theorem splitOn_terminated (ls : List (List α)) :
    (ls.flatMap (· ++ [a])).splitOn a = ls.flatMap (List.splitOn a) ++ [[]] := by
  induction ls with
  | nil => exact List.splitOn_nil a
  | cons l ls ih =>
      rw [List.flatMap_cons, List.append_assoc, List.singleton_append,
        List.splitOn_append_cons_self, ih, List.flatMap_cons, List.append_assoc]

/-- The lists that are terminated by `a`. -/
def terminated (a : α) (xs : List α) : List (List α) := (xs.splitOn a).dropLast

theorem terminated_flatMap (ls : List (List α)) :
    terminated a (ls.flatMap (· ++ [a])) = ls.flatMap (List.splitOn a) := by
  rw [terminated, splitOn_terminated, List.dropLast_concat]

/-- The lists come back exactly if none of them holds the terminator. -/
theorem terminated_flatMap_eq_iff (ls : List (List α)) :
    terminated a (ls.flatMap (· ++ [a])) = ls ↔ ∀ l ∈ ls, a ∉ l := by
  rw [terminated_flatMap, flatMap_eq_self_iff fun l _ => List.splitOn_ne_nil a l]
  exact forall₂_congr fun l _ => splitOn_eq_singleton_iff

theorem notMem_of_mem_splitOn {xs piece : List α} (h : piece ∈ xs.splitOn a) : a ∉ piece := by
  induction xs generalizing piece with
  | nil =>
      rw [List.splitOn_nil, List.mem_singleton] at h
      exact h ▸ List.not_mem_nil
  | cons x xs ih =>
      rw [List.splitOn_cons_eq_if_modifyHead] at h
      obtain ⟨first, rest, hsplit⟩ := List.exists_cons_of_ne_nil (List.splitOn_ne_nil a xs)
      rw [hsplit] at h ih
      split at h
      · rcases List.mem_cons.mp h with rfl | hrest
        · exact List.not_mem_nil
        · exact ih hrest
      · rename_i hx
        rcases List.mem_cons.mp h with rfl | hrest
        · rw [List.mem_cons, not_or]
          exact ⟨fun ha => hx (beq_iff_eq.mpr ha.symm), ih List.mem_cons_self⟩
        · exact ih (List.mem_cons_of_mem first hrest)

/-- The pieces of the lists, terminated, are the lists, terminated. -/
theorem flatMap_flatMap_splitOn (ls : List (List α)) :
    (ls.flatMap (List.splitOn a)).flatMap (· ++ [a]) = ls.flatMap (· ++ [a]) := by
  rw [List.flatMap_assoc]
  refine congrArg (List.flatMap · ls) (funext fun l => ?_)
  rw [flatMap_terminator (List.splitOn_ne_nil a l), List.intercalate_splitOn]

end ComputeSdk.Shared
