import ComputeSdk.Model.Bridge.Crates

/-! # The getters of the bridge

Functions that report through a variable of the caller for a value, and by their result
whether they wrote it. The caller leaves the variable uninitialised. -/

namespace ComputeSdk

open Shared

variable (F : Crates)

/-- `x.map(|a| out.set(…)).is_some()`, from what the slot held. -/
def writeIfSome {α τ : Type} (x : Option α) (put : α → τ) (out : τ) : Bool × τ :=
  match x with
  | some a => (true, put a)
  | none => (false, out)

/-- The caller that looks at the result. -/
def ifWritten {τ β : Type} (f : τ → Bool × τ) (value : τ → β) (out : τ) : Option β :=
  if (f out).1 then some (value (f out).2) else none

/-! ## Bridged functions -/

namespace Sys

def Request.getContentLength (req : F.Request) : ℕ → Bool × ℕ :=
  writeIfSome (F.request.getContentLength req) id

def Request.getClientDdosDetected (req : F.Request) : Bool → Bool × Bool :=
  writeIfSome (F.getClientDdosDetected req) id

def Request.getOriginalHeaderNames (req : F.Request) :
    RawPtr (List (List UInt8)) → Bool × RawPtr (List (List UInt8)) :=
  writeIfSome (F.getOriginalHeaderNames req) .box

def Request.getOriginalHeaderCount (req : F.Request) : UInt32 → Bool × UInt32 :=
  writeIfSome (F.getOriginalHeaderCount req) id

def ensureU32 (num : ℕ) : UInt32 :=
  if num > 4294967295 then 4294967295 else num.toUInt32

theorem toNat_ensureU32 (num : ℕ) : (ensureU32 num).toNat = min 4294967295 num := by
  unfold ensureU32
  split
  · rename_i h
    rw [Nat.min_eq_left (Nat.le_of_lt h)]
    rfl
  · rename_i h
    rw [Nat.min_eq_right (Nat.le_of_not_lt h), Nat.toUInt32_eq, UInt32.toNat_ofNat']
    exact Nat.mod_eq_of_lt (by omega)

def Response.getContentLength (res : F.Response) : ℕ → Bool × ℕ :=
  writeIfSome (F.response.getContentLength res) id

def Response.getTtl (res : F.Response) : UInt32 → Bool × UInt32 :=
  writeIfSome ((F.getTtl res).map ensureU32) id

def Response.getAge (res : F.Response) : UInt32 → Bool × UInt32 :=
  writeIfSome ((F.getAge res).map ensureU32) id

def Response.getStaleWhileRevalidate (res : F.Response) : UInt32 → Bool × UInt32 :=
  writeIfSome ((F.getStaleWhileRevalidate res).map ensureU32) id

/-- The response is left without its body. -/
def LookupResponse.tryTakeBody (res : F.LookupResponse) (out : RawPtr HostBody) :
    (Bool × RawPtr HostBody) × F.LookupResponse :=
  (writeIfSome (F.tryTakeBody res).1 .box out, (F.tryTakeBody res).2)

def mSecurityInspectResponseIntoRedirect (response : F.InspectResponse) :
    RawPtr F.Response → Bool × RawPtr F.Response :=
  writeIfSome (F.intoRedirect response) .box

end Sys

/-! ## Callers -/

namespace Http.Request

def getContentLength (req : F.Request) : ℕ → Option ℕ :=
  ifWritten (Sys.Request.getContentLength F req) id

def getClientDdosDetected (req : F.Request) : Bool → Option Bool :=
  ifWritten (Sys.Request.getClientDdosDetected F req) id

/-- The result is not looked at, the variable is. -/
def getOriginalHeaderNames (req : F.Request) (out : RawPtr (List (List UInt8))) :
    Option (RawPtr (List (List UInt8))) :=
  let out := (Sys.Request.getOriginalHeaderNames F req out).2
  if out.isNull then none else some out

def getOriginalHeaderCount (req : F.Request) : UInt32 → Option UInt32 :=
  ifWritten (Sys.Request.getOriginalHeaderCount F req) id

end Http.Request

namespace Http.Response

def getContentLength (res : F.Response) : ℕ → Option ℕ :=
  ifWritten (Sys.Response.getContentLength F res) id

/-- In milliseconds, as the other two. -/
def getTtl (res : F.Response) : UInt32 → Option ℕ :=
  ifWritten (Sys.Response.getTtl F res) UInt32.toNat

def getAge (res : F.Response) : UInt32 → Option ℕ :=
  ifWritten (Sys.Response.getAge F res) UInt32.toNat

def getStaleWhileRevalidate (res : F.Response) : UInt32 → Option ℕ :=
  ifWritten (Sys.Response.getStaleWhileRevalidate F res) UInt32.toNat

end Http.Response

namespace Kv.LookupResponse

def tryTakeBody (res : F.LookupResponse) (out : RawPtr HostBody) :
    Option (RawPtr HostBody) × F.LookupResponse :=
  (ifWritten (fun out => (Sys.LookupResponse.tryTakeBody F res out).1) id out,
    (Sys.LookupResponse.tryTakeBody F res out).2)

end Kv.LookupResponse

def InspectResponse.intoRedirect (ir : F.InspectResponse) :
    RawPtr F.Response → Option (RawPtr F.Response) :=
  ifWritten (Sys.mSecurityInspectResponseIntoRedirect F ir) id

end ComputeSdk
