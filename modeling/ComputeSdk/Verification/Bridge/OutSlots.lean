import ComputeSdk.Model.Bridge.Getters
import ComputeSdk.Verification.Bridge.Errors

/-! # Uninitialised variables

The functions that return an optional made of a variable that they declare without a value.
What it holds before the call should not reach the result. -/

namespace ComputeSdk

open Shared

variable (F : Crates)

/-- A function without an error slot, as a function of its variable. -/
def Contract.getter {τ β : Type} (wrapper : τ → β) (expected : β) : Contract :=
  ⟨Empty, τ, β, fun slots => wrapper slots.out, expected⟩

/-- The functions of the interface that return such an optional, with their arguments. -/
inductive Getter where
  | originalHeaderNames (req : F.Request)
  | originalHeaderCount (req : F.Request)
  | clientDdosDetected (req : F.Request)
  | requestContentLength (req : F.Request)
  | responseContentLength (res : F.Response)
  | ttl (res : F.Response)
  | age (res : F.Response)
  | staleWhileRevalidate (res : F.Response)
  | kvStoreOpen (name : List UInt8)
  | tryTakeBody (res : F.LookupResponse)
  | listResponseNext (iter : F.ListResponse)
  | intoRedirect (response : F.InspectResponse)
  | secretStoreGet (ss : F.SecretStore) (key : List UInt8)
  | geoLookup (ip : List UInt8)
  | deviceLookup (userAgent : List UInt8)

namespace Getter

variable {F}

/-- Each function, and what it should return: the value that the crate has, in a box where
it is passed in one. -/
def contract : Getter F → Contract
  | originalHeaderNames req =>
    .getter (Http.Request.getOriginalHeaderNames F req) ((F.getOriginalHeaderNames req).map .box)
  | originalHeaderCount req =>
    .getter (Http.Request.getOriginalHeaderCount F req) (F.getOriginalHeaderCount req)
  | clientDdosDetected req =>
    .getter (Http.Request.getClientDdosDetected F req) (F.getClientDdosDetected req)
  | requestContentLength req =>
    .getter (Http.Request.getContentLength F req) (F.request.getContentLength req)
  | responseContentLength res =>
    .getter (Http.Response.getContentLength F res) (F.response.getContentLength res)
  | ttl res =>
    .getter (Http.Response.getTtl F res) ((F.getTtl res).map (min 4294967295))
  | age res =>
    .getter (Http.Response.getAge F res) ((F.getAge res).map (min 4294967295))
  | staleWhileRevalidate res =>
    .getter (Http.Response.getStaleWhileRevalidate F res)
      ((F.getStaleWhileRevalidate res).map (min 4294967295))
  | kvStoreOpen name => (Wrapper.kvStoreOpen name : Wrapper F).contract
  | tryTakeBody res =>
    .getter (Kv.LookupResponse.tryTakeBody F res)
      ((F.tryTakeBody res).1.map .box, (F.tryTakeBody res).2)
  | listResponseNext iter => (Wrapper.listResponseNext iter).contract
  | intoRedirect response =>
    .getter (InspectResponse.intoRedirect F response) ((F.intoRedirect response).map .box)
  | secretStoreGet ss key => (Wrapper.secretStoreGet ss key).contract
  | geoLookup ip => (Wrapper.geoLookup ip : Wrapper F).contract
  | deviceLookup userAgent => (Wrapper.deviceLookup userAgent : Wrapper F).contract

/-- Whether the variable is written, or was null already. Only one function looks at it when
it may not have been written. -/
def Settled : (g : Getter F) → Slots g.contract.Err g.contract.Out → Prop
  | originalHeaderNames req, slots =>
    (F.getOriginalHeaderNames req).isSome ∨ RawPtr.isNull slots.out
  | _, _ => True

end Getter

/-! ## Conventions -/

section

variable {α τ β : Type}

theorem ifWritten_writeIfSome (x : Option α) (put : α → τ) (value : τ → β) (out : τ) :
    ifWritten (writeIfSome x put) value out = x.map fun a => value (put a) := by
  cases x <;> rfl

/-- A caller that takes the variable unless it is null. -/
theorem unlessNull_writeIfSome (x : Option α) (out : RawPtr α) :
    (if (writeIfSome x RawPtr.box out).2.isNull then none
      else some (writeIfSome x RawPtr.box out).2) = x.map RawPtr.box ↔
      x.isSome ∨ out.isNull := by
  cases x <;> cases out <;> simp [writeIfSome, RawPtr.isNull]

theorem getter_value (x : Option τ) (slots : Slots Empty τ) :
    (Contract.getter (ifWritten (writeIfSome x id) id) x).AgreesAt slots :=
  (ifWritten_writeIfSome x id id slots.out).trans (congrFun Option.map_id x)

theorem getter_box (x : Option α) (slots : Slots Empty (RawPtr α)) :
    (Contract.getter (ifWritten (writeIfSome x RawPtr.box) id) (x.map .box)).AgreesAt slots :=
  ifWritten_writeIfSome x RawPtr.box id slots.out

theorem getter_duration (x : Option ℕ) (slots : Slots Empty UInt32) :
    (Contract.getter (ifWritten (writeIfSome (x.map Sys.ensureU32) id) UInt32.toNat)
      (x.map (min 4294967295))).AgreesAt slots := by
  refine (ifWritten_writeIfSome _ id UInt32.toNat slots.out).trans ?_
  cases x with
  | none => rfl
  | some ms => exact congrArg some (Sys.toNat_ensureU32 ms)

end

namespace Getter

variable {F}

/-- Every other function tests what the bridged function returned. -/
theorem agreesAt_of_settled (g : Getter F) (slots : Slots g.contract.Err g.contract.Out)
    (h : g.Settled slots) : g.contract.AgreesAt slots := by
  cases g with
  | originalHeaderNames req =>
      exact (unlessNull_writeIfSome (F.getOriginalHeaderNames req) slots.out).mpr h
  | originalHeaderCount req => exact getter_value (F.getOriginalHeaderCount req) slots
  | clientDdosDetected req => exact getter_value (F.getClientDdosDetected req) slots
  | requestContentLength req => exact getter_value (F.request.getContentLength req) slots
  | responseContentLength res => exact getter_value (F.response.getContentLength res) slots
  | ttl res => exact getter_duration (F.getTtl res) slots
  | age res => exact getter_duration (F.getAge res) slots
  | staleWhileRevalidate res => exact getter_duration (F.getStaleWhileRevalidate res) slots
  | kvStoreOpen name => exact Wrapper.agreesAt_kvStoreOpen name slots
  | tryTakeBody res =>
      exact congrArg (·, (F.tryTakeBody res).2) (getter_box (F.tryTakeBody res).1 slots)
  | listResponseNext iter => exact Wrapper.agreesAt_listResponseNext iter slots
  | intoRedirect response => exact getter_box (F.intoRedirect response) slots
  | secretStoreGet ss key =>
      exact Wrapper.agreesAt_of_not_inverted (.secretStoreGet ss key) id slots
  | geoLookup ip => exact Wrapper.agreesAt_of_not_inverted (.geoLookup ip) id slots
  | deviceLookup userAgent =>
      exact Wrapper.agreesAt_of_not_inverted (.deviceLookup userAgent) id slots

theorem settled_of_agreesAt (g : Getter F) (slots : Slots g.contract.Err g.contract.Out)
    (h : g.contract.AgreesAt slots) : g.Settled slots := by
  cases g with
  | originalHeaderNames req =>
      exact (unlessNull_writeIfSome (F.getOriginalHeaderNames req) slots.out).mp h
  | _ => exact trivial

/-- Two calls with the same answer of the crate return the same, which is that answer,
whatever the variable held in each of them. -/
def SameAt (g : Getter F) (slots slots' : Slots g.contract.Err g.contract.Out) : Prop :=
  g.contract.wrapper slots = g.contract.wrapper slots' ∧
    g.contract.wrapper slots = g.contract.expected

end Getter

/-- No function lets what its variable held reach its result. -/
def SlotsDoNotInterfere : Prop :=
  ∀ (F : Crates) (g : Getter F) (slots slots' : Slots g.contract.Err g.contract.Out),
    g.SameAt slots slots'

theorem sameAt_iff (g : Getter F) (slots slots' : Slots g.contract.Err g.contract.Out) :
    g.SameAt slots slots' ↔ g.Settled slots ∧ g.Settled slots' := by
  constructor
  · rintro ⟨hsame, hexpected⟩
    exact ⟨g.settled_of_agreesAt slots hexpected,
      g.settled_of_agreesAt slots' (hsame.symm.trans hexpected)⟩
  · rintro ⟨h, h'⟩
    have hslots := g.agreesAt_of_settled slots h
    exact ⟨hslots.trans (g.agreesAt_of_settled slots' h').symm, hslots⟩

/-- A request that did not come from a client has no original headers, and the caller takes
what the memory held for the box of their names. -/
theorem not_slotsDoNotInterfere : ¬ SlotsDoNotInterfere := by
  intro h
  have hwild := h Plain.crates (.originalHeaderNames Plain.message) ⟨.null, .wild 1⟩
    ⟨.null, .null⟩
  cases hwild.1

end ComputeSdk
