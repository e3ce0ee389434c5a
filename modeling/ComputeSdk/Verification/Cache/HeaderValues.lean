import ComputeSdk.Shared.Split
import ComputeSdk.Verification.Cache.Rules

/-! # Values of a header

The values of a header are passed to the host with a NUL behind each. -/

namespace ComputeSdk

open Shared Guest ComputeSdk.Core

/-- The values that a call sets, as the host receives them. -/
def HostCall.headerValues : HostCall → Option (List UInt8)
  | httpReqHeaderValuesSet _ _ values => some values
  | _ => none

/-- The bytes of the values, in order. -/
def valueBytes (values : List HeaderValue) : List (List UInt8) := values.map HeaderValue.value

def NulFree (values : List HeaderValue) : Prop := ∀ value ∈ values, (0 : UInt8) ∉ value.value

/-- Whenever the values are set the host decodes them as they were given. -/
def ValuesSurvive (requestHeaders : Option RequestHandle) (name : List UInt8)
    (values : List HeaderValue) : Prop :=
  Calls (fun c => ∀ bytes, c.headerValues = some bytes → terminated 0 bytes = valueBytes values)
    (setRequestHeaderValues requestHeaders name values)

theorem headerBytes_eq (values : List HeaderValue) :
    headerBytes values = (valueBytes values).flatMap (· ++ [0]) := by
  have hfold : ∀ (values : List HeaderValue) (bytes : List UInt8),
      values.foldl (fun bytes value => bytes ++ value.value ++ [0]) bytes =
        bytes ++ (valueBytes values).flatMap (· ++ [0]) := by
    intro values
    induction values with
    | nil => exact fun bytes => (List.append_nil bytes).symm
    | cons value values ih =>
        intro bytes
        rw [List.foldl_cons, ih]
        simp [valueBytes]
  exact hfold values []

/-- Decoding gives back the values exactly if there is no NUL in them. -/
theorem terminated_headerBytes_iff (values : List HeaderValue) :
    terminated 0 (headerBytes values) = valueBytes values ↔ NulFree values := by
  rw [headerBytes_eq, terminated_flatMap_eq_iff, valueBytes, List.forall_mem_map]
  rfl

theorem valuesSurvive_iff (requestHeaders : Option RequestHandle) (name : List UInt8)
    (values : List HeaderValue) :
    ValuesSurvive requestHeaders name values ↔ NulFree values := by
  rw [← terminated_headerBytes_iff]
  constructor
  · intro h
    cases requestHeaders with
    | some handle => exact (h .empty).1 _ rfl
    | none => exact (((h .empty).2 (.ok 0)).2 (.ok ())).1 _ rfl
  · intro h
    have hrest : ∀ handle : RequestHandle, Calls (fun c => ∀ bytes, c.headerValues = some bytes →
        terminated 0 bytes = valueBytes values) (do
          let _ ← host (.httpReqHeaderValuesSet handle.handle name (headerBytes values))
          pure handle) :=
      fun handle => calls_bind (calls_host fun bytes hbytes => Option.some.inj hbytes ▸ h)
        fun _ => calls_pure handle
    cases requestHeaders with
    | some handle => exact hrest handle
    | none =>
        refine calls_bind (calls_host fun bytes hbytes => nomatch hbytes) fun answer => ?_
        cases answer with
        | error status => exact fun _ => trivial
        | ok reqHandle =>
            refine calls_bind ?_ fun _ => hrest ⟨reqHandle⟩
            exact calls_bind (calls_host fun bytes hbytes => nomatch hbytes)
              fun _ => calls_pure ()

/-! ## The list that a buffer is taken for -/

/-- The values that the host takes the bytes for. -/
def decoded (bytes : List UInt8) : List HeaderValue :=
  (terminated 0 bytes).map fun bytes => ⟨bytes, false⟩

theorem valueBytes_decoded (bytes : List UInt8) :
    valueBytes (decoded bytes) = terminated 0 bytes := by
  rw [valueBytes, decoded, List.map_map]
  exact List.map_id _

theorem nulFree_decoded (bytes : List UInt8) : NulFree (decoded bytes) := by
  rw [NulFree, decoded, List.forall_mem_map]
  exact fun value h => notMem_of_mem_splitOn ((List.dropLast_subset _) h)

theorem headerBytes_decoded (values : List HeaderValue) :
    headerBytes (decoded (headerBytes values)) = headerBytes values := by
  rw [headerBytes_eq, valueBytes_decoded, headerBytes_eq, terminated_flatMap,
    flatMap_flatMap_splitOn]

/-- The list has the buffer of no other list without a NUL in it. -/
def ToldApart (values : List HeaderValue) : Prop :=
  ∀ values', NulFree values' → headerBytes values = headerBytes values' →
    valueBytes values = valueBytes values'

theorem toldApart_iff (values : List HeaderValue) : ToldApart values ↔ NulFree values := by
  constructor
  · intro h
    have hvalues := h _ (nulFree_decoded (headerBytes values)) (headerBytes_decoded values).symm
    rw [valueBytes_decoded] at hvalues
    exact (terminated_headerBytes_iff values).mp hvalues.symm
  · intro h values' h' heq
    rw [← (terminated_headerBytes_iff values).mpr h, heq,
      (terminated_headerBytes_iff values').mpr h']

/-- A list is decoded as it was given, and told apart from others, exactly if there is no NUL
in it. -/
theorem headerValues_iff (values : List HeaderValue) :
    (∀ (requestHeaders : Option RequestHandle) (name : List UInt8),
      ValuesSurvive requestHeaders name values ↔ NulFree values) ∧
    (ToldApart values ↔ NulFree values) :=
  ⟨fun requestHeaders name => valuesSurvive_iff requestHeaders name values, toldApart_iff values⟩

/-- Lists with the same buffer have the same values, and the host decodes what it is given. -/
def HeaderEncodingInjective : Prop :=
  (∀ values values', headerBytes values = headerBytes values' →
    valueBytes values = valueBytes values') ∧
  ∀ requestHeaders name values, ValuesSurvive requestHeaders name values

/-- One value with a NUL in it, and two without. -/
theorem not_headerEncodingInjective : ¬ HeaderEncodingInjective := by
  intro h
  have hvalues := h.1 [⟨[97, 0, 98], false⟩] [⟨[97], false⟩, ⟨[98], false⟩] rfl
  cases hvalues

end ComputeSdk
