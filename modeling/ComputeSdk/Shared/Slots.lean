import Mathlib.Tactic.Common

/-! # Result slots

A function that reports through two variables of its caller, one for an error and one for a
value, and the caller that looks at the error first. -/

namespace ComputeSdk.Shared

/-- A raw pointer: null, to a value in a box, or whatever else the memory held. -/
inductive RawPtr (α : Type) where
  | null
  | box (a : α)
  | wild (address : ℕ)
  deriving DecidableEq

def RawPtr.isNull {α : Type} : RawPtr α → Bool
  | null => true
  | _ => false

/-- The variables of the caller. -/
structure Slots (ε τ : Type) where
  err : RawPtr ε
  out : τ

/-- A computation on an object and the slots of a caller. It may return early with a value of
`ρ`, or stop the process with one of `χ`. -/
abbrev SlotM (χ ε τ σ ρ : Type) := ExceptT ρ (StateT (σ × Slots ε τ) (Except χ))

/-- A computation on an object that ends with an error instead. -/
abbrev Operation (χ ε σ : Type) := ExceptT ε (StateT σ (Except χ))

variable {χ ε τ σ ρ α β : Type}

namespace SlotM

def setErr (p : RawPtr ε) : SlotM χ ε τ σ ρ Unit :=
  modify fun s => (s.1, { s.2 with err := p })

def modifyOut (f : τ → τ) : SlotM χ ε τ σ ρ Unit :=
  modify fun s => (s.1, { s.2 with out := f s.2.out })

def setOut (a : τ) : SlotM χ ε τ σ ρ Unit := modifyOut fun _ => a

/-- A method of the object. -/
def onObject (f : σ → α × σ) : SlotM χ ε τ σ ρ α :=
  modifyGet fun s => ((f s.1).1, ((f s.1).2, s.2))

/-- An error ends the process. -/
def orStop (x : Except χ α) : SlotM χ ε τ σ ρ α := ExceptT.lift (StateT.lift x)

/-- An error goes to its slot and ends the function with the default value. A value clears
the slot. -/
def tryErr [Inhabited ρ] : Except ε α → SlotM χ ε τ σ ρ α
  | .ok a => do
    setErr .null
    pure a
  | .error e => do
    setErr (.box e)
    throw default

/-- The value of a function that may have returned early. -/
def returned : Except ρ ρ → ρ
  | .ok r => r
  | .error r => r

/-- The value, the object and the slots after a call. -/
def call (f : SlotM χ ε τ σ ρ ρ) (slots : Slots ε τ) (obj : σ) :
    Except χ (ρ × σ × Slots ε τ) :=
  (f.run.run (obj, slots)).map fun p => (returned p.1, p.2)

section

variable {k : α → SlotM χ ε τ σ ρ ρ} {next : SlotM χ ε τ σ ρ ρ} {slots : Slots ε τ} {obj : σ}

@[simp] theorem call_onObject (f : σ → α × σ) :
    call (onObject f >>= k) slots obj = call (k (f obj).1) slots (f obj).2 := rfl

@[simp] theorem call_setErr (p : RawPtr ε) :
    call (setErr p >>= fun _ => next) slots obj = call next { slots with err := p } obj := rfl

end

end SlotM

namespace Operation

def onObject (f : σ → α × σ) : Operation χ ε σ α := ExceptT.lift (modifyGet f)

def orStop (x : Except χ α) : Operation χ ε σ α := ExceptT.lift (StateT.lift x)

def fromExcept (x : Except ε α) : Operation χ ε σ α := ExceptT.mk (pure x)

/-- What a caller should get: the value, or the error in a box. -/
def outcome (op : Operation χ ε σ β) (obj : σ) : Except χ (Except (RawPtr ε) β × σ) :=
  (op.run.run obj).map fun p => (p.1.mapError .box, p.2)

end Operation

open SlotM

/-- The caller that takes an error if the slot is not null, and otherwise the value. -/
def checked (f : SlotM χ ε τ σ ρ ρ) (value : ρ → τ → β) (slots : Slots ε τ) (obj : σ) :
    Except χ (Except (RawPtr ε) β × σ) :=
  (f.call slots obj).map fun p =>
    (if p.2.2.err.isNull then .ok (value p.1 p.2.2.out) else .error p.2.2.err, p.2.1)

/-- The caller gets from these slots what it should. -/
def Reports (f : SlotM χ ε τ σ ρ ρ) (value : ρ → τ → β) (op : Operation χ ε σ β)
    (slots : Slots ε τ) : Prop :=
  ∀ obj, checked f value slots obj = op.outcome obj

section

variable {value : ρ → τ → β} {k : α → SlotM χ ε τ σ ρ ρ}
  {next : α → Operation χ ε σ β} {slots : Slots ε τ}

/-- Once a value cleared the slot, the rest has to report from there. -/
theorem reports_tryErr [Inhabited ρ] {x : Except ε α}
    (h : ∀ a, Reports (k a) value (next a) { slots with err := .null }) :
    Reports (tryErr x >>= k) value (Operation.fromExcept x >>= next) slots := by
  intro obj
  cases x with
  | ok a => exact h a obj
  | error e => rfl

/-- The operation ends with the value, which the function still has to pass on. -/
theorem reports_tryErr_id [Inhabited ρ] {x : Except ε β} {k : β → SlotM χ ε τ σ ρ ρ}
    (h : ∀ b, Reports (k b) value (pure b) { slots with err := .null }) :
    Reports (tryErr x >>= k) value (Operation.fromExcept x) slots := by
  intro obj
  cases x with
  | ok a => exact h a obj
  | error e => rfl

theorem reports_onObject {f : σ → α × σ} (h : ∀ a, Reports (k a) value (next a) slots) :
    Reports (onObject f >>= k) value (Operation.onObject f >>= next) slots :=
  fun obj => h (f obj).1 (f obj).2

/-- The rest makes something of what the method returns. -/
theorem reports_onObject_map {g : σ → α × σ} (f : α → β)
    (h : ∀ a, Reports (k a) value (pure (f a)) slots) :
    Reports (onObject g >>= k) value (Operation.onObject fun s => (f (g s).1, (g s).2)) slots :=
  fun obj => h (g obj).1 (g obj).2

theorem reports_orStop {x : Except χ α} (h : ∀ a, Reports (k a) value (next a) slots) :
    Reports (orStop x >>= k) value (Operation.orStop x >>= next) slots := by
  intro obj
  cases x with
  | ok a => exact h a obj
  | error e => rfl

end

end ComputeSdk.Shared
