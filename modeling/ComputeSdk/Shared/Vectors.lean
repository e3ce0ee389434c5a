import Mathlib.Data.List.TakeDrop

/-! # Growing vectors

The operations of `std::vector` on the list of its elements. -/

namespace ComputeSdk.Shared.Vec

variable {α β : Type*}

/-- `resize`, where new elements are `x`. -/
def resize (n : ℕ) (x : α) (v : List α) : List α := v.takeD n x

/-- `reserve` makes room for elements and leaves those that there are. -/
def reserve (_ : ℕ) (v : List α) : List α := v

/-- `push_back`, `emplace_back`. -/
def emplaceBack (v : List α) (x : α) : List α := v ++ [x]

/-- Bytes are written through `data()`. -/
def overwrite (bytes v : List α) : List α := bytes ++ v.drop bytes.length

@[simp] theorem length_resize (n : ℕ) (x : α) (v : List α) : (resize n x v).length = n :=
  List.takeD_length n v x

@[simp] theorem resize_nil (n : ℕ) (x : α) : resize n x [] = List.replicate n x :=
  List.takeD_nil n x

/-- Whatever the vector held, the size cuts out what was written. -/
@[simp] theorem resize_overwrite (bytes v : List α) (x : α) :
    resize bytes.length x (overwrite bytes v) = bytes :=
  List.takeD_left bytes (v.drop bytes.length) x

/-- A loop that puts a value for every element of `xs` at the end. -/
def appendEach (f : β → α) (xs : List β) (v : List α) : List α :=
  xs.foldl (fun v x => emplaceBack v (f x)) v

theorem appendEach_eq (f : β → α) (xs : List β) (v : List α) :
    appendEach f xs v = v ++ xs.map f := by
  induction xs generalizing v with
  | nil => exact (List.append_nil v).symm
  | cons x xs ih =>
      rw [appendEach, List.foldl_cons]
      exact (ih (emplaceBack v (f x))).trans (List.append_assoc v [f x] (xs.map f))

end ComputeSdk.Shared.Vec
