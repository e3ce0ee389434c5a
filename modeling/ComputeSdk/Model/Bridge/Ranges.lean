import ComputeSdk.Model.Bridge.Getters
import ComputeSdk.Model.Bridge.Kv
import Mathlib.Data.Stream.Init

/-! # Ranges over iterators of Rust

An iterator of Rust is given by what `next` does to its state. -/

namespace ComputeSdk

open Shared

variable {It N α : Type}

/-! ## Bridged functions -/

namespace Sys

/-- `for byte in bytes { out.push(byte) }`. -/
def pushBytes (bytes out : List UInt8) : List UInt8 :=
  bytes.foldl (fun out byte => out ++ [byte]) out

@[simp] theorem pushBytes_eq_append (bytes out : List UInt8) :
    pushBytes bytes out = out ++ bytes := by
  induction bytes generalizing out with
  | nil => exact (List.append_nil out).symm
  | cons byte bytes ih =>
      rw [pushBytes, List.foldl_cons]
      exact (ih (out ++ [byte])).trans (List.append_assoc out [byte] bytes)

def HeaderValuesIter.next (step : It → Option HeaderValue × It) (valueOut : List UInt8)
    (isSensitiveOut : Bool) (iter : It) : (Bool × List UInt8 × Bool) × It :=
  (writeIfSome (step iter).1
    (fun val => (pushBytes val.value valueOut, val.isSensitive)) (valueOut, isSensitiveOut),
    (step iter).2)

/-- `HeaderNamesIter::next`, where `asStr` gives the bytes of a name. -/
def HeaderNamesIter.next (asStr : N → List UInt8) (step : It → Option N × It)
    (out : List UInt8) (iter : It) : (Bool × List UInt8) × It :=
  (writeIfSome (step iter).1 (fun name => out ++ asStr name) out, (step iter).2)

def OriginalHeaderNamesIter.next (step : It → Option (List UInt8) × It) (out : List UInt8)
    (iter : It) : (Bool × List UInt8) × It :=
  (writeIfSome (step iter).1 (fun name => out ++ name) out, (step iter).2)

def HeadersIter.next (asStr : N → List UInt8) (step : It → Option (N × HeaderValue) × It)
    (nameOut valueOut : List UInt8) (isSensitiveOut : Bool) (iter : It) :
    (Bool × List UInt8 × List UInt8 × Bool) × It :=
  match step iter with
  | (some (name, value), iter) =>
    ((true, nameOut ++ asStr name, pushBytes value.value valueOut, value.isSensitive), iter)
  | (none, iter) => ((false, nameOut, valueOut, isSensitiveOut), iter)

end Sys

/-! ## `next` of the ranges -/

/-- A `next` of a range, on the state of the iterator that it wraps. -/
abbrev RangeNext (It α : Type) := StateT It (Except Abort) (Option α)

def HeaderValuesRange.next (step : It → Option HeaderValue × It) : RangeNext It HeaderValue :=
  fun iter =>
    let p := Sys.HeaderValuesIter.next step [] false iter
    .ok (if p.1.1 then some ⟨p.1.2.1, p.1.2.2⟩ else none, p.2)

def HeadersRange.next (asStr : N → List UInt8) (step : It → Option (N × HeaderValue) × It) :
    RangeNext It (List UInt8 × HeaderValue) :=
  fun iter =>
    let p := Sys.HeadersIter.next asStr step [] [] false iter
    .ok (if p.1.1 then some (p.1.2.1, ⟨p.1.2.2.1, p.1.2.2.2⟩) else none, p.2)

def HeaderNamesRange.next (asStr : N → List UInt8) (step : It → Option N × It) :
    RangeNext It (List UInt8) :=
  fun iter =>
    let p := Sys.HeaderNamesIter.next asStr step [] iter
    .ok (if p.1.1 then some p.1.2 else none, p.2)

def OriginalHeaderNamesRange.next (step : It → Option (List UInt8) × It) :
    RangeNext It (List UInt8) :=
  fun iter =>
    let p := Sys.OriginalHeaderNamesIter.next step [] iter
    .ok (if p.1.1 then some p.1.2 else none, p.2)

/-- `ListResponse::next` of `kv`, on the response and what the slots of the calls to come hold
before them. -/
def ListResponseRange.next (F : Crates) :
    RangeNext (F.ListResponse × Stream' (Slots KVStoreError (RawPtr F.ListPage)))
      (Except (RawPtr KVStoreError) (RawPtr F.ListPage)) :=
  fun iter => (Kv.ListResponse.next F iter.2.head iter.1).map fun p => (p.1, p.2, iter.2.tail)

/-! ## The adaptor -/

namespace RustIteratorRange

/-- `iterator`, which points to the range it was made for or to none. -/
structure Iterator (α : Type) where
  hasRange : Bool
  cache : Option α
  deriving DecidableEq

/-- `operator==`, between iterators of one range. -/
def Iterator.beq (i other : Iterator α) : Bool := i.hasRange == other.hasRange

variable (next : RangeNext It α)

/-- `operator++`. -/
def Iterator.increment (i : Iterator α) : StateT It (Except Abort) (Iterator α) := do
  if i.hasRange then
    match ← next with
    | some val => pure { i with cache := some val }
    | none => pure { i with hasRange := false }
  else pure i

/-- The constructor with a range fetches the first value. -/
def begin_ : StateT It (Except Abort) (Iterator α) := Iterator.increment next ⟨true, none⟩

def end_ : Iterator α := ⟨false, none⟩

/-- The loop of a range-for with what it has visited so far, for at most `fuel` tests of its
condition. -/
def loop : ℕ → Iterator α → List (Option α) →
    StateT It (Except Abort) (Option (List (Option α)))
  | 0, _, _ => pure none
  | fuel + 1, i, visited =>
    if i.beq end_ then pure (some visited)
    else do
      let visited := visited ++ [i.cache]
      let i ← i.increment next
      loop fuel i visited

/-- A range-for that visits what its iterator holds. -/
def rangeFor (fuel : ℕ) : StateT It (Except Abort) (Option (List (Option α))) := do
  let i ← begin_ next
  loop next fuel i []

end RustIteratorRange

end ComputeSdk
