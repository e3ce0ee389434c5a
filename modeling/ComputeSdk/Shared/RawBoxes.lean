import Mathlib.Data.List.Basic
import Mathlib.Tactic.Common

/-! # Boxes behind raw pointers

A box that its owner has released as a raw pointer belongs to nobody until somebody adopts
it. A value may also be read out of it, which leaves the box itself behind. -/

namespace ComputeSdk.Shared

/-- A raw pointer: null or the address of a box. -/
abbrev RawBox := Option ℕ

/-- What is at the address of a box. -/
inductive BoxCell (α : Type) where
  | released (a : α)
  | hollow (a : α)
  | adopted
  deriving DecidableEq

/-- What is wrong with a pointer that is used. -/
inductive BadPointer where
  | null
  | movedOut
  | dangling
  deriving DecidableEq, Repr

structure RawBoxes (α : Type) where
  cells : List (BoxCell α)
  deriving DecidableEq

namespace RawBoxes

variable {α : Type}

def empty : RawBoxes α := ⟨[]⟩

/-- `Box::into_raw`. -/
def intoRaw (a : α) (B : RawBoxes α) : RawBox × RawBoxes α :=
  (some B.cells.length, ⟨B.cells ++ [.released a]⟩)

/-- The value behind a pointer. `after` says what its box is then. -/
def take (after : α → BoxCell α) (p : RawBox) (B : RawBoxes α) :
    Except BadPointer (α × RawBoxes α) :=
  match p with
  | none => .error .null
  | some i =>
    match B.cells[i]? with
    | some (.released a) => .ok (a, ⟨B.cells.set i (after a)⟩)
    | some (.hollow _) => .error .movedOut
    | _ => .error .dangling

/-- `Box::from_raw`, the end of which frees the box. -/
def fromRaw : RawBox → RawBoxes α → Except BadPointer (α × RawBoxes α) := take fun _ => .adopted

/-- `ptr::read`, which does not free the box. -/
def read : RawBox → RawBoxes α → Except BadPointer (α × RawBoxes α) := take .hollow

/-- The values whose boxes were released and not adopted. -/
def unclaimed (B : RawBoxes α) : List α :=
  B.cells.filterMap fun
    | .released a => some a
    | _ => none

/-- The values that were moved out of boxes, which nobody frees any more. -/
def leaked (B : RawBoxes α) : List α :=
  B.cells.filterMap fun
    | .hollow a => some a
    | _ => none

/-- No box waits for an owner, and the boxes of `lost` are lost. -/
structure Settled (B : RawBoxes α) (lost : List α) : Prop where
  unclaimed : B.unclaimed = []
  leaked : B.leaked = lost

theorem settled_empty : (empty : RawBoxes α).Settled [] := ⟨rfl, rfl⟩

/-- The use of a pointer to a released box, wherever the box is. -/
theorem take_middle (new : α → BoxCell α) (before after : List (BoxCell α)) (a : α) :
    take new (some before.length) ⟨before ++ .released a :: after⟩ =
      .ok (a, ⟨before ++ new a :: after⟩) := by
  simp [take]

/-- Boxes of which none waits for an owner do not change what is settled. -/
theorem Settled.append {B : RawBoxes α} {lost : List α} (h : B.Settled lost)
    (cells : List (BoxCell α)) (hcells : RawBoxes.unclaimed ⟨cells⟩ = []) :
    (⟨B.cells ++ cells⟩ : RawBoxes α).Settled (lost ++ RawBoxes.leaked ⟨cells⟩) where
  unclaimed := by
    have hB := h.unclaimed
    unfold RawBoxes.unclaimed at hB hcells ⊢
    rw [List.filterMap_append, hB, hcells]
    rfl
  leaked := by
    have hB := h.leaked
    unfold RawBoxes.leaked at hB ⊢
    rw [List.filterMap_append, hB]

theorem Settled.append_of_nil {B : RawBoxes α} {lost : List α} (h : B.Settled lost)
    (cells : List (BoxCell α)) (hcells : RawBoxes.unclaimed ⟨cells⟩ = [])
    (hleaked : RawBoxes.leaked ⟨cells⟩ = []) :
    (⟨B.cells ++ cells⟩ : RawBoxes α).Settled lost := by
  have happend := h.append cells hcells
  rwa [hleaked, List.append_nil] at happend

end RawBoxes

end ComputeSdk.Shared
