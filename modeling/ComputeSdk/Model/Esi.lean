import ComputeSdk.Model.Bridge.Services
import ComputeSdk.Shared.Handlers
import ComputeSdk.Shared.RawBoxes

/-! # Edge side includes

The processor of the crate calls back into C++ for the fragments of a document. The objects
of a callback cross the bridge in boxes behind raw pointers. -/

namespace ComputeSdk.Esi

open Shared

/-- What ends the process: a panic, or a use of a pointer that is undefined behaviour. -/
inductive Crash where
  | panic (message : String)
  | badPointer (bad : BadPointer)
  | wrongType
  deriving DecidableEq, Repr

/-- `esi::ExecutionError`. -/
inductive ExecutionError where
  | functionError (message : String)
  | other (message : String)
  deriving DecidableEq, Repr

structure Configuration where
  namespc : List UInt8 := [101, 115, 105]
  isEscapedContent : Bool := true

/-- `esi::Configuration`, of the crate. -/
structure CrateConfiguration where
  namespc : String
  escaped : Bool

/-- `DispatchFragmentRequestFnResult`, a number to both languages. -/
structure DispatchFragmentRequestFnResult where
  repr : UInt32
  deriving DecidableEq

namespace DispatchFragmentRequestFnResult

def error : DispatchFragmentRequestFnResult := ⟨0⟩
def pendingRequest : DispatchFragmentRequestFnResult := ⟨1⟩
def completedRequest : DispatchFragmentRequestFnResult := ⟨2⟩
def noContent : DispatchFragmentRequestFnResult := ⟨3⟩

end DispatchFragmentRequestFnResult

section

variable (F : Crates)

/-- `PendingFragmentContent`, in C++ and in the crate. -/
inductive PendingFragmentContent where
  | pendingRequest (req : F.PendingRequest)
  | completedRequest (resp : F.Response)
  | noContent

/-- What crosses the bridge in a box. -/
inductive Boxed where
  | request (req : F.Request)
  | response (resp : F.Response)
  | pendingRequest (req : F.PendingRequest)

/-- A call of the processor to a callback that it was given. -/
inductive Callback (dispatch process : Bool) where
  | dispatchFragmentRequest (given : dispatch = true) (req : F.Request)
  | processFragmentResponse (given : process = true) (req : F.Request) (resp : F.Response)

/-- What the processor gets. The request that it lends comes back. -/
@[reducible] def Callback.Answer {dispatch process : Bool} : Callback F dispatch process → Type
  | .dispatchFragmentRequest _ _ => Except ExecutionError (PendingFragmentContent F)
  | .processFragmentResponse _ _ _ => Except ExecutionError F.Response × F.Request

/-- A computation of the crate, given some of the callbacks. It may panic. -/
abbrev Processing (dispatch process : Bool) :=
  Prog (Callback.Answer F : Callback F dispatch process → Type) String

/-- The `esi` crate, and `Request::clone_with_body`, which may replace the body of the
original. -/
structure EsiCrate where
  Processor : Type
  errorMsg : ExecutionError → String
  cloneWithBody : F.Request → F.Request × F.Request
  new : Option F.Request → CrateConfiguration → Processor
  processResponse : Processor → Option F.Response → (dispatch process : Bool) → F.Response →
    Processing F dispatch process (Except ExecutionError Unit × F.Response)
  processDocument : Processor → String → (dispatch process : Bool) →
    Processing F dispatch process (Except ExecutionError Unit × List UInt8)

/-- `DispatchFragmentRequestFn`: a function object with what it has captured. It may also
read and change the rest of the world. -/
structure DispatchFragmentRequestFn (K W : Type) where
  captured : K
  invoke : F.Request → K → W → Option (PendingFragmentContent F) × K × W

/-- `ProcessFragmentResponseFn`. The request is a reference, so it comes back. -/
structure ProcessFragmentResponseFn (K W : Type) where
  captured : K
  invoke : F.Request → F.Response → K → W → Option F.Response × F.Request × K × W

/-- The boxes that raw pointers lead to, and the world. -/
structure Memory (W : Type) where
  boxes : RawBoxes (Boxed F)
  world : W

abbrev CallbackM (W : Type) := StateT (Memory F W) (Except Crash)

end

variable {F : Crates} {K W : Type}

/-! ## Raw pointers -/

def intoRaw (a : Boxed F) : CallbackM F W RawBox :=
  modifyGet fun m => ((m.boxes.intoRaw a).1, { m with boxes := (m.boxes.intoRaw a).2 })

/-- A use of a pointer. -/
def behind (use : RawBoxes (Boxed F) → Except BadPointer (Boxed F × RawBoxes (Boxed F))) :
    CallbackM F W (Boxed F) := fun m =>
  match use m.boxes with
  | .ok (a, boxes) => .ok (a, { m with boxes := boxes })
  | .error bad => .error (.badPointer bad)

def asRequest : Boxed F → CallbackM F W F.Request
  | .request req => pure req
  | _ => throw .wrongType

def asResponse : Boxed F → CallbackM F W F.Response
  | .response resp => pure resp
  | _ => throw .wrongType

def asPendingRequest : Boxed F → CallbackM F W F.PendingRequest
  | .pendingRequest req => pure req
  | _ => throw .wrongType

@[simp] theorem asRequest_request (req : F.Request) :
    (asRequest (.request req) : CallbackM F W F.Request) = pure req := rfl

@[simp] theorem asResponse_response (resp : F.Response) :
    (asResponse (.response resp) : CallbackM F W F.Response) = pure resp := rfl

/-! ## Callbacks -/

/-- The function object runs on what it has captured, and is not used again. -/
def DispatchFragmentRequestFn.call (fn : DispatchFragmentRequestFn F K W) (req : F.Request) :
    CallbackM F W (Option (PendingFragmentContent F)) := fun m =>
  let (res, _, world) := fn.invoke req fn.captured m.world
  .ok (res, { m with world := world })

/-- The same, on a request whose changes nobody sees. -/
def ProcessFragmentResponseFn.call (fn : ProcessFragmentResponseFn F K W) (req : F.Request)
    (resp : F.Response) : CallbackM F W (Option F.Response) := fun m =>
  let (res, _, _, world) := fn.invoke req resp fn.captured m.world
  .ok (res, { m with world := world })

/-- The call that Rust makes, with the variables that it passes by reference as it leaves
them. `fn` is a copy of the function object. -/
def DispatchFragmentRequestFn.manualbridgeCall (fnTag : DispatchFragmentRequestFn F K W)
    (rawReq outPending outComplete : RawBox) :
    CallbackM F W (DispatchFragmentRequestFnResult × RawBox × RawBox) := do
  let req ← asRequest (← behind (RawBoxes.fromRaw rawReq))
  let fn := fnTag
  match ← fn.call req with
  | none => pure (.error, outPending, outComplete)
  | some (.pendingRequest req) => do
    let outPending ← intoRaw (.pendingRequest req)
    pure (.pendingRequest, outPending, outComplete)
  | some (.completedRequest resp) => do
    let outComplete ← intoRaw (.response resp)
    pure (.completedRequest, outPending, outComplete)
  | some .noContent => pure (.noContent, outPending, outComplete)

def ProcessFragmentResponseFn.manualbridgeCall (fnTag : ProcessFragmentResponseFn F K W)
    (rawReq rawResp outResp : RawBox) : CallbackM F W (Bool × RawBox) := do
  let req ← asRequest (← behind (RawBoxes.fromRaw rawReq))
  let fn := fnTag
  let resp ← asResponse (← behind (RawBoxes.fromRaw rawResp))
  match ← fn.call req resp with
  | some resp => do
    let outResp ← intoRaw (.response resp)
    pure (true, outResp)
  | none => pure (false, outResp)

namespace Sys

open DispatchFragmentRequestFnResult in
/-- The closure of `shim_dispatch_fragment_request_fn`. -/
def shimDispatchFragmentRequestFn (func : DispatchFragmentRequestFn F K W) (req : F.Request) :
    CallbackM F W (Except ExecutionError (PendingFragmentContent F)) := do
  let raw ← intoRaw (.request req)
  let (result, outPending, outCompleted) ← func.manualbridgeCall raw none none
  if result = pendingRequest then
    let req ← asPendingRequest (← behind (RawBoxes.read outPending))
    pure (.ok (.pendingRequest req))
  else if result = completedRequest then
    let resp ← asResponse (← behind (RawBoxes.read outCompleted))
    pure (.ok (.completedRequest resp))
  else if result = noContent then pure (.ok .noContent)
  else if result = error then pure (.error (.functionError "dispatch_fragment_request"))
  else throw (.panic "internal error: entered unreachable code")

/-- The closure of `shim_process_fragment_response_fn`, with the request as it leaves it. -/
def shimProcessFragmentResponseFn (E : EsiCrate F) (func : ProcessFragmentResponseFn F K W)
    (req : F.Request) (resp : F.Response) :
    CallbackM F W (Except ExecutionError F.Response × F.Request) := do
  let (clone, req) := E.cloneWithBody req
  let rawReq ← intoRaw (.request clone)
  let rawResp ← intoRaw (.response resp)
  let (result, outResp) ← func.manualbridgeCall rawReq rawResp none
  if result then
    let resp ← asResponse (← behind (RawBoxes.read outResp))
    pure (.ok resp, req)
  else pure (.error (.functionError "process_fragment_response"), req)

/-- The callbacks that the processor is given. A null pointer is `none`. -/
def shims {K' : Type} (E : EsiCrate F) (dispatch : Option (DispatchFragmentRequestFn F K W))
    (process : Option (ProcessFragmentResponseFn F K' W)) :
    (c : Callback F dispatch.isSome process.isSome) → CallbackM F W (c.Answer F)
  | .dispatchFragmentRequest given req =>
    shimDispatchFragmentRequestFn (dispatch.get given) req
  | .processFragmentResponse given req resp =>
    shimProcessFragmentResponseFn E (process.get given) req resp

/-- Bridged functions that process a document, on an object of `σ`. -/
abbrev ProcessM (τ σ ρ : Type) := SlotM Crash FastlyError τ σ ρ

/-- A computation on the object that may end the process. -/
def during {τ σ ρ α : Type} (x : StateT σ (Except Crash) α) : ProcessM τ σ ρ α :=
  ExceptT.lift fun s => (x.run s.1).map fun p => (p.1, p.2, s.2)

/-- A pointer that models an optional box. -/
def asOption {α : Type} (as : Boxed F → CallbackM F W α) (p : RawBox) :
    CallbackM F W (Option α) :=
  if p.isNone then pure none
  else do
    let a ← as (← behind (RawBoxes.fromRaw p))
    pure (some a)

def mStaticEsiProcessorNew (E : EsiCrate F) (originalRequestMetadata : RawBox)
    (namespc : List UInt8) (isEscapedContent : Bool) : CallbackM F W E.Processor := do
  let originalRequestMetadata ← asOption asRequest originalRequestMetadata
  pure (E.new originalRequestMetadata ⟨F.toStringLossy namespc, isEscapedContent⟩)

/-- The object is the memory and `src_document`. -/
def mEsiProcessorProcessResponse {K' : Type} (E : EsiCrate F) (processor : E.Processor)
    (clientResponseMetadata : RawBox) (dispatch : Option (DispatchFragmentRequestFn F K W))
    (process : Option (ProcessFragmentResponseFn F K' W)) :
    ProcessM Unit (Memory F W × F.Response) Bool Bool := do
  let clientResponseMetadata ← during fun s =>
    ((asOption asResponse clientResponseMetadata).run s.1).map fun p => (p.1, p.2, s.2)
  let result ← during fun s =>
    (((E.processResponse processor clientResponseMetadata dispatch.isSome process.isSome s.2).exec
      .panic (shims E dispatch process)).run s.1).map fun p => (p.1.1, p.2, p.1.2)
  SlotM.tryErr (into .esiError (result.mapError E.errorMsg))
  pure true

def mEsiProcessorProcessDocument {K' : Type} (E : EsiCrate F) (processor : E.Processor)
    (srcDocument : List UInt8) (dispatch : Option (DispatchFragmentRequestFn F K W))
    (process : Option (ProcessFragmentResponseFn F K' W)) :
    ProcessM (List UInt8) (Memory F W) Bool Bool := do
  let docStr ← SlotM.tryErr (into .utf8Error (F.toStr srcDocument))
  let result ← during ((E.processDocument processor docStr dispatch.isSome process.isSome).exec
    .panic (shims E dispatch process))
  SlotM.modifyOut fun out => out ++ result.2
  SlotM.tryErr (into .esiError (result.1.mapError E.errorMsg))
  pure true

end Sys

/-! ## Processors -/

/-- The box is empty once the processor was moved out of it. -/
structure Processor (E : EsiCrate F) where
  processor : Option E.Processor

/-- The pointer to an optional object, which is null if there is none. -/
def orNull {α : Type} (box : α → Boxed F) : Option α → CallbackM F W RawBox
  | some a => intoRaw (box a)
  | none => pure none

namespace Processor

variable {K' : Type} {E : EsiCrate F}

def make (E : EsiCrate F) (originalRequestMetadata : Option F.Request) (config : Configuration) :
    CallbackM F W (Processor E) := do
  let originalRequestMetadata ← orNull .request originalRequestMetadata
  let processor ← Sys.mStaticEsiProcessorNew E originalRequestMetadata config.namespc
    config.isEscapedContent
  pure ⟨some processor⟩

/-- The box is moved into the call. An empty one is a null pointer there. -/
def take (self : Processor E) : CallbackM F W E.Processor :=
  match self.processor with
  | some processor => pure processor
  | none => throw (.badPointer .null)

/-- `process_response`, with the document as it leaves it. -/
def processResponse (self : Processor E) (srcDocument : F.Response)
    (clientResponseMetadata : Option F.Response)
    (dispatch : Option (DispatchFragmentRequestFn F K W))
    (process : Option (ProcessFragmentResponseFn F K' W)) :
    CallbackM F W (Except (RawPtr FastlyError) Unit × F.Response × Processor E) := do
  let rawMetadata ← orNull .response clientResponseMetadata
  let processor ← self.take
  let memory ← get
  let (success, (memory, srcDocument), slots) ← (Sys.mEsiProcessorProcessResponse E processor
    rawMetadata dispatch process).call ⟨.null, ()⟩ (memory, srcDocument)
  set memory
  pure (if success then .ok () else .error slots.err, srcDocument, ⟨none⟩)

def processDocument (self : Processor E) (srcDocument : List UInt8)
    (dispatch : Option (DispatchFragmentRequestFn F K W))
    (process : Option (ProcessFragmentResponseFn F K' W)) :
    CallbackM F W (Except (RawPtr FastlyError) (List UInt8) × Processor E) := do
  let processor ← self.take
  let (success, memory, slots) ← (Sys.mEsiProcessorProcessDocument E processor srcDocument
    dispatch process).call ⟨.null, []⟩ (← get)
  set memory
  pure (if success then .ok slots.out else .error slots.err, ⟨none⟩)

end Processor

end ComputeSdk.Esi
