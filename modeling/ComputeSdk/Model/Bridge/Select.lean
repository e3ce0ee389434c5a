import ComputeSdk.Model.Bridge.Http

/-! # The boxes of `select`

A vector of pending requests crosses the bridge as one of boxes that can be emptied. -/

namespace ComputeSdk

open Shared SlotM Http

variable (F : Crates)

namespace Sys

section

variable {P : Type}

/-- `BoxPendingRequest`, for pending requests `P`. -/
structure BoxPendingRequest (P : Type) where
  bx : Option P
  deriving DecidableEq

def fHttpPushBoxPendingRequestIntoVec (vec : List (BoxPendingRequest P)) (bx : P) :
    List (BoxPendingRequest P) :=
  vec ++ [⟨some bx⟩]

/-- The request in the box, and the box without it. -/
def BoxPendingRequest.extractReq (box : BoxPendingRequest P) :
    Except Abort (P × BoxPendingRequest P) :=
  match box.bx with
  | some req => .ok (req, ⟨none⟩)
  | none => .error ⟨"nothing in the box. oops."⟩

/-- A loop that extracts the request of every box, with the boxes as it leaves them. -/
def extractReqs : List (BoxPendingRequest P) → Except Abort (List P × List (BoxPendingRequest P))
  | [] => .ok ([], [])
  | box :: boxes => do
    let (req, box) ← box.extractReq
    let (reqs, boxes) ← extractReqs boxes
    pure (req :: reqs, box :: boxes)

end

/-- The vector of the others, with what the crate was given at each of its calls. -/
structure SelectObject (P : Type) where
  others : List (BoxPendingRequest P)
  given : List (List P) := []

/-- The call of the crate's `select`. -/
def crateSelect (reqs : List F.PendingRequest) :
    FastlyM (RawPtr F.Response) (SelectObject F.PendingRequest) Unit
      (Except String F.Response × List F.PendingRequest) :=
  onObject fun object => (F.select reqs, { object with given := object.given ++ [reqs] })

/-- `fHttpRequestSelect` on the boxes of the requests. -/
def fHttpRequestSelectBoxes (reqs : List (BoxPendingRequest F.PendingRequest)) :
    FastlyM (RawPtr F.Response) (SelectObject F.PendingRequest) Unit Unit := do
  let reqs ← orStop (extractReqs reqs)
  let (res, xs) ← crateSelect F reqs.1
  onObject fun object =>
    ((), { object with others := xs.foldl fHttpPushBoxPendingRequestIntoVec object.others })
  let res ← tryFe .fastlySendError res
  setOut (.box res)

end Sys

namespace Http

/-- The vector that is passed, and what the vector of the caller holds once every request was
moved out of it. -/
def moveReqs {P : Type} (reqs : List P) : List (Sys.BoxPendingRequest P) × List (Option P) :=
  reqs.foldl
    (fun p boxed => (Sys.fHttpPushBoxPendingRequestIntoVec p.1 boxed, p.2 ++ [none])) ([], [])

/-- What `select` returns. -/
structure Selected where
  result : Except (RawPtr FastlyError) (RawPtr F.Response)
  retOthers : List F.PendingRequest
  /-- The vector of the caller. -/
  reqs : List (Option F.PendingRequest)
  /-- What the crate was given. -/
  given : List (List F.PendingRequest)

/-- `select`, with the vectors that it fills. -/
def selectBoxes (reqs : List F.PendingRequest) (slots : Slots FastlyError (RawPtr F.Response)) :
    Except Abort (Selected F) := do
  let (vecreqs, reqs) := moveReqs reqs
  let (_, object, slots) ← (Sys.fHttpRequestSelectBoxes F vecreqs).call (initErr slots) ⟨[], []⟩
  let (retOthers, _) ← Sys.extractReqs object.others
  pure ⟨if slots.err.isNull then .ok slots.out else .error slots.err, retOthers, reqs,
    object.given⟩

end Http

end ComputeSdk
