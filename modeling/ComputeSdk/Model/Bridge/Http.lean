import ComputeSdk.Model.Bridge.Crates

/-! # The bridge of HTTP

For each function of the C++ interface that passes an error slot, the bridged function that
it calls, in the namespace `Sys`, and the function itself. -/

namespace ComputeSdk

open Shared SlotM

variable (F : Crates)

/-- The body of a bridged function with an `ErrPtr` that returns a value of `ρ`. -/
abbrev FastlyM (τ σ ρ : Type) := SlotM Abort FastlyError τ σ ρ

/-- What a function of the interface returns, and the object it leaves. -/
abbrev Expected (ε β σ : Type) := Except Abort (Except (RawPtr ε) β × σ)

/-- `try_fe!`, where `code` is the variant that the conversion of the error chooses. -/
abbrev tryFe {τ σ ρ α : Type} [Inhabited ρ] (code : FastlyErrorCode) (x : Except String α) :
    FastlyM τ σ ρ α :=
  tryErr (into code x)

/-- `x.map(…).is_some()`, where the closure writes to the slot. -/
def setIfSome {χ ε τ σ ρ α : Type} (x : Option α) (put : α → τ → τ) : SlotM χ ε τ σ ρ Bool :=
  match x with
  | some a => do
    modifyOut (put a)
    pure true
  | none => pure false

/-- `err{nullptr}`. -/
def initErr {ε τ : Type} (slots : Slots ε τ) : Slots ε τ := { slots with err := .null }

/-- The same with an out variable that starts as `a`. -/
def initSlots {ε τ : Type} (a : τ) (slots : Slots ε τ) : Slots ε τ :=
  { slots with err := .null, out := a }

/-! ## Bridged functions that are alike -/

namespace Sys

variable {M α : Type}

/-- `out.set(Box::into_raw(Box::new(try_fe!(err, x))))`. -/
def boxed (code : FastlyErrorCode) (x : Except String α) : FastlyM (RawPtr α) Unit Unit Unit := do
  let a ← tryFe code x
  setOut (.box a)

/-- The same for something that is found by its name. -/
def boxedByName (code : FastlyErrorCode) (x : String → Except String α) (name : List UInt8) :
    FastlyM (RawPtr α) Unit Unit Unit := do
  let name ← tryFe .utf8Error (F.toStr name)
  let a ← tryFe code (x name)
  setOut (.box a)

/-- `self.0.set(try_fe!(err, x))`. -/
def setter (set : α → M → M) (code : FastlyErrorCode) (x : Except String α) :
    FastlyM Unit M Unit Unit := do
  let a ← tryFe code x
  onObject fun m => ((), set a m)

/-- A setter of a header or a trailer. -/
def headerSetter (set : F.HeaderName → HeaderValue → M → M) (name value : List UInt8) :
    FastlyM Unit M Unit Unit := do
  let name ← tryFe .invalidHeaderName (F.headerName name)
  let value ← tryFe .invalidHeaderValue (F.headerValue value)
  onObject fun m => ((), set name value m)

def containsHeader (ops : MessageOps F.HeaderName M) (name : List UInt8) :
    FastlyM Unit M Bool Bool := do
  let name ← tryFe .invalidHeaderName (F.headerName name)
  onObject fun m => (ops.containsHeader name m, m)

def getHeader (ops : MessageOps F.HeaderName M) (name : List UInt8) :
    FastlyM (List UInt8 × Bool) M Bool Bool := do
  let name ← tryFe .invalidHeaderName (F.headerName name)
  let value ← onObject fun m => (ops.getHeader name m, m)
  setIfSome value fun value out => (out.1 ++ value.value, value.isSensitive)

def getHeaderAll (ops : MessageOps F.HeaderName M) (name : List UInt8) :
    FastlyM (RawPtr (List HeaderValue)) M Unit Unit := do
  let name ← tryFe .invalidHeaderName (F.headerName name)
  let iter ← onObject fun m => (ops.getHeaderAll name m, m)
  setOut (.box iter)

def removeHeader (ops : MessageOps F.HeaderName M) (name : List UInt8) :
    FastlyM (List UInt8) M Bool Bool := do
  let name ← tryFe .invalidHeaderName (F.headerName name)
  let header ← onObject (ops.removeHeader name)
  setIfSome header fun header out => out ++ header.value

end Sys

/-! ## Callers that are alike -/

namespace Http

variable {M ε σ β : Type}

/-- A caller that returns no value. -/
def checkedVoid (f : SlotM Abort ε Unit σ Unit Unit) (slots : Slots ε Unit) (obj : σ) :
    Expected ε Unit σ :=
  checked f (fun _ _ => ()) (initErr slots) obj

/-- A caller that takes the box in the slot. -/
def checkedBox (f : SlotM Abort ε (RawPtr β) σ Unit Unit) (slots : Slots ε (RawPtr β))
    (obj : σ) : Expected ε (RawPtr β) σ :=
  checked f (fun _ out => out) (initErr slots) obj

/-- A caller that returns what the bridged function returns. -/
def checkedValue (f : SlotM Abort ε Unit σ β β) (slots : Slots ε Unit) (obj : σ) :
    Expected ε β σ :=
  checked f (fun ret _ => ret) (initErr slots) obj

/-- A caller that builds a header value from the two out variables. -/
def checkedHeader (f : SlotM Abort ε (List UInt8 × Bool) σ Bool Bool)
    (slots : Slots ε (List UInt8 × Bool)) (obj : σ) : Expected ε (Option HeaderValue) σ :=
  checked f (fun hasHeader out => if hasHeader then some ⟨out.1, out.2⟩ else none)
    (initSlots ([], false) slots) obj

/-- A caller that takes a string if the bridged function says so. -/
def checkedString (f : SlotM Abort ε (List UInt8) σ Bool Bool) (slots : Slots ε (List UInt8))
    (obj : σ) : Expected ε (Option (List UInt8)) σ :=
  checked f (fun isSome out => if isSome then some out else none)
    (initSlots [] slots) obj

end Http

/-! ## Requests -/

/-- `x.expect(message)`. -/
def expect {α : Type} (message : String) (x : Except String α) : Except Abort α :=
  x.mapError fun _ => ⟨message⟩

namespace Sys

def mHttpRequestPendingRequestWait (req : F.PendingRequest) :
    FastlyM (RawPtr F.Response) Unit Unit Unit :=
  boxed .fastlySendError (F.wait req)

/-- The object is `others`. -/
def fHttpRequestSelect (reqs : List F.PendingRequest) :
    FastlyM (RawPtr F.Response) (List F.PendingRequest) Unit Unit := do
  onObject fun others => ((), others ++ (F.select reqs).2)
  let res ← tryFe .fastlySendError (F.select reqs).1
  setOut (.box res)

def mStaticHttpRequestNewStr (method url : List UInt8) :
    FastlyM (RawPtr F.Request) Unit Unit Unit := do
  let method ← tryFe .invalidMethod (F.httpMethod method)
  let url ← orStop (expect "Invalid UTF-8 in URL" (F.toStr url))
  setOut (.box (F.newRequest method url))

def mHttpRequestSend (request : F.Request) (backend : F.Backend) :
    FastlyM (RawPtr F.Response) Unit Unit Unit :=
  boxed .fastlySendError (F.send request backend)

def mHttpRequestSendAsync (request : F.Request) (backend : F.Backend) :
    FastlyM (RawPtr F.PendingRequest) Unit Unit Unit :=
  boxed .fastlySendError (F.sendAsync request backend)

def mHttpRequestSendAsyncStreaming (request : F.Request) (backend : F.Backend) :
    FastlyM (RawPtr (HostBody × F.PendingRequest)) Unit Unit Unit :=
  boxed .fastlySendError (F.sendAsyncStreaming request backend)

namespace Request

def setBodyTextPlain (body : List UInt8) : FastlyM Unit F.Request Unit Unit :=
  setter F.request.setBodyTextPlain .utf8Error (F.toStr body)

def setBodyTextHtml (body : List UInt8) : FastlyM Unit F.Request Unit Unit :=
  setter F.request.setBodyTextHtml .utf8Error (F.toStr body)

def setMethodStr (method : List UInt8) : FastlyM Unit F.Request Unit Unit :=
  setter F.setMethod .invalidMethod (F.httpMethod method)

def setUrl (url : List UInt8) : FastlyM Unit F.Request Unit Unit :=
  setter F.setUrl .utf8Error (F.toStr url)

def setPath (path : List UInt8) : FastlyM Unit F.Request Unit Unit :=
  setter F.setPath .utf8Error (F.toStr path)

def setQueryString (qs : List UInt8) : FastlyM Unit F.Request Unit Unit :=
  setter F.setQueryStr .utf8Error (F.toStr qs)

def setSurrogateKey (sk : List UInt8) : FastlyM Unit F.Request Unit Unit :=
  setter F.setSurrogateKey .invalidHeaderValue (F.headerValue sk)

def setHeader (name value : List UInt8) : FastlyM Unit F.Request Unit Unit :=
  headerSetter F F.request.setHeader name value

def appendHeader (name value : List UInt8) : FastlyM Unit F.Request Unit Unit :=
  headerSetter F F.request.appendHeader name value

end Request

end Sys

namespace Http

namespace PendingRequest

def wait (req : F.PendingRequest) (slots : Slots FastlyError (RawPtr F.Response)) :
    Expected FastlyError (RawPtr F.Response) Unit :=
  checkedBox (Sys.mHttpRequestPendingRequestWait F req) slots ()

end PendingRequest

/-- Next to the response, the requests that are still pending. -/
def select (reqs : List F.PendingRequest) (slots : Slots FastlyError (RawPtr F.Response)) :
    Expected FastlyError (RawPtr F.Response) (List F.PendingRequest) :=
  checkedBox (Sys.fHttpRequestSelect F reqs) slots []

namespace Request

/-- The error slot is not initialised. -/
def create (method url : List UInt8) (slots : Slots FastlyError (RawPtr F.Request)) :
    Expected FastlyError (RawPtr F.Request) Unit :=
  checked (Sys.mStaticHttpRequestNewStr F method url) (fun _ out => out) slots ()

def send (backend : F.Backend) (slots : Slots FastlyError (RawPtr F.Response))
    (req : F.Request) : Expected FastlyError (RawPtr F.Response) Unit :=
  checkedBox (Sys.mHttpRequestSend F req backend) slots ()

def sendAsync (backend : F.Backend) (slots : Slots FastlyError (RawPtr F.PendingRequest))
    (req : F.Request) : Expected FastlyError (RawPtr F.PendingRequest) Unit :=
  checkedBox (Sys.mHttpRequestSendAsync F req backend) slots ()

/-- The caller takes both halves out of the box. -/
def sendAsyncStreaming (backend : F.Backend)
    (slots : Slots FastlyError (RawPtr (HostBody × F.PendingRequest))) (req : F.Request) :
    Expected FastlyError (RawPtr (HostBody × F.PendingRequest)) Unit :=
  checkedBox (Sys.mHttpRequestSendAsyncStreaming F req backend) slots ()

def setBodyTextPlain (body : List UInt8) :
    Slots FastlyError Unit → F.Request → Expected FastlyError Unit F.Request :=
  checkedVoid (Sys.Request.setBodyTextPlain F body)

def setBodyTextHtml (body : List UInt8) :
    Slots FastlyError Unit → F.Request → Expected FastlyError Unit F.Request :=
  checkedVoid (Sys.Request.setBodyTextHtml F body)

def containsHeader (name : List UInt8) :
    Slots FastlyError Unit → F.Request → Expected FastlyError Bool F.Request :=
  checkedValue (Sys.containsHeader F F.request name)

def getHeader (name : List UInt8) : Slots FastlyError (List UInt8 × Bool) → F.Request →
    Expected FastlyError (Option HeaderValue) F.Request :=
  checkedHeader (Sys.getHeader F F.request name)

def getHeaderAll (name : List UInt8) : Slots FastlyError (RawPtr (List HeaderValue)) →
    F.Request → Expected FastlyError (RawPtr (List HeaderValue)) F.Request :=
  checkedBox (Sys.getHeaderAll F F.request name)

def setHeader (name value : List UInt8) :
    Slots FastlyError Unit → F.Request → Expected FastlyError Unit F.Request :=
  checkedVoid (Sys.Request.setHeader F name value)

def appendHeader (name value : List UInt8) :
    Slots FastlyError Unit → F.Request → Expected FastlyError Unit F.Request :=
  checkedVoid (Sys.Request.appendHeader F name value)

def removeHeader (name : List UInt8) : Slots FastlyError (List UInt8) → F.Request →
    Expected FastlyError (Option (List UInt8)) F.Request :=
  checkedString (Sys.removeHeader F F.request name)

/-- `set_method(std::string_view)`. The error slot is not initialised. -/
def setMethodStr (method : List UInt8) :
    Slots FastlyError Unit → F.Request → Expected FastlyError Unit F.Request :=
  checked (Sys.Request.setMethodStr F method) fun _ _ => ()

def setUrl (url : List UInt8) :
    Slots FastlyError Unit → F.Request → Expected FastlyError Unit F.Request :=
  checkedVoid (Sys.Request.setUrl F url)

def setPath (path : List UInt8) :
    Slots FastlyError Unit → F.Request → Expected FastlyError Unit F.Request :=
  checkedVoid (Sys.Request.setPath F path)

def setQueryString (query : List UInt8) :
    Slots FastlyError Unit → F.Request → Expected FastlyError Unit F.Request :=
  checkedVoid (Sys.Request.setQueryString F query)

def setSurrogateKey (sk : List UInt8) :
    Slots FastlyError Unit → F.Request → Expected FastlyError Unit F.Request :=
  checkedVoid (Sys.Request.setSurrogateKey F sk)

end Request

end Http

/-! ## Responses -/

namespace Sys.Response

def setBodyTextPlain (body : List UInt8) : FastlyM Unit F.Response Unit Unit :=
  setter F.response.setBodyTextPlain .utf8Error (F.toStr body)

def setBodyTextHtml (body : List UInt8) : FastlyM Unit F.Response Unit Unit :=
  setter F.response.setBodyTextHtml .utf8Error (F.toStr body)

def setHeader (name value : List UInt8) : FastlyM Unit F.Response Unit Unit :=
  headerSetter F F.response.setHeader name value

def appendHeader (name value : List UInt8) : FastlyM Unit F.Response Unit Unit :=
  headerSetter F F.response.appendHeader name value

end Sys.Response

namespace Http.Response

def setBodyTextPlain (body : List UInt8) :
    Slots FastlyError Unit → F.Response → Expected FastlyError Unit F.Response :=
  checkedVoid (Sys.Response.setBodyTextPlain F body)

/-- Here the branches of the test are the other way round. -/
def setBodyTextHtml (body : List UInt8) (slots : Slots FastlyError Unit) (res : F.Response) :
    Expected FastlyError Unit F.Response :=
  ((Sys.Response.setBodyTextHtml F body).call (initErr slots) res).map fun p =>
    (if p.2.2.err.isNull then .error p.2.2.err else .ok (), p.2.1)

def containsHeader (name : List UInt8) :
    Slots FastlyError Unit → F.Response → Expected FastlyError Bool F.Response :=
  checkedValue (Sys.containsHeader F F.response name)

def getHeader (name : List UInt8) : Slots FastlyError (List UInt8 × Bool) → F.Response →
    Expected FastlyError (Option HeaderValue) F.Response :=
  checkedHeader (Sys.getHeader F F.response name)

def getHeaderAll (name : List UInt8) : Slots FastlyError (RawPtr (List HeaderValue)) →
    F.Response → Expected FastlyError (RawPtr (List HeaderValue)) F.Response :=
  checkedBox (Sys.getHeaderAll F F.response name)

def setHeader (name value : List UInt8) :
    Slots FastlyError Unit → F.Response → Expected FastlyError Unit F.Response :=
  checkedVoid (Sys.Response.setHeader F name value)

def appendHeader (name value : List UInt8) :
    Slots FastlyError Unit → F.Response → Expected FastlyError Unit F.Response :=
  checkedVoid (Sys.Response.appendHeader F name value)

def removeHeader (name : List UInt8) : Slots FastlyError (List UInt8) → F.Response →
    Expected FastlyError (Option (List UInt8)) F.Response :=
  checkedString (Sys.removeHeader F F.response name)

end Http.Response

/-! ## Bodies, status codes and purges -/

instance instInhabitedBuffer {n : ℕ} : Inhabited {xs : List UInt8 // xs.length ≤ n} :=
  ⟨⟨[], Nat.zero_le n⟩⟩

namespace Sys

/-- The number of bytes that are read is the length of the result. -/
def Body.read (n : ℕ) : FastlyM Unit HostBody {xs : List UInt8 // xs.length ≤ n}
    {xs : List UInt8 // xs.length ≤ n} := do
  let xs ← onObject (HostBody.read n)
  tryErr xs

def Body.write (bytes : List UInt8) : FastlyM Unit HostBody ℕ ℕ := do
  let written ← onObject (HostBody.write bytes)
  tryErr written

def Body.appendTrailer (name value : List UInt8) : FastlyM Unit HostBody Unit Unit :=
  headerSetter F F.appendTrailer name value

def StreamingBody.write (bytes : List UInt8) : FastlyM Unit HostBody ℕ ℕ := do
  let written ← onObject (HostBody.write bytes)
  tryErr written

def StreamingBody.appendTrailer (name value : List UInt8) : FastlyM Unit HostBody Unit Unit :=
  headerSetter F F.appendTrailer name value

def mHttpStreamingBodyFinish (body : HostBody) : FastlyM Unit Unit Unit Unit :=
  tryFe .ioError (F.finishStreaming body)

def fHttpStatusCodeCanonicalReason (code : UInt16) :
    FastlyM (List UInt8) Unit Bool Bool := do
  let code ← tryFe .invalidStatusCode (F.statusCode code)
  setIfSome (F.canonicalReason code) fun r string => string ++ r

def fHttpPurgePurgeSurrogateKey (surrogateKey : List UInt8) : FastlyM Unit Unit Unit Unit := do
  let surrogateKey ← tryFe .utf8Error (F.toStr surrogateKey)
  tryFe .fastlyError (F.purgeSurrogateKey surrogateKey)

def fHttpPurgeSoftPurgeSurrogateKey (surrogateKey : List UInt8) :
    FastlyM Unit Unit Unit Unit := do
  let surrogateKey ← tryFe .utf8Error (F.toStr surrogateKey)
  tryFe .fastlyError (F.softPurgeSurrogateKey surrogateKey)

end Sys

namespace Http

/-- What goes into the buffer of `bufsize` bytes is the result. -/
def Body.read (bufsize : ℕ) : Slots FastlyError Unit → HostBody →
    Expected FastlyError {xs : List UInt8 // xs.length ≤ bufsize} HostBody :=
  checkedValue (Sys.Body.read bufsize)

def Body.write (buf : List UInt8) :
    Slots FastlyError Unit → HostBody → Expected FastlyError ℕ HostBody :=
  checkedValue (Sys.Body.write buf)

def Body.appendTrailer (headerName headerValue : List UInt8) :
    Slots FastlyError Unit → HostBody → Expected FastlyError Unit HostBody :=
  checkedVoid (Sys.Body.appendTrailer F headerName headerValue)

def StreamingBody.write (buf : List UInt8) :
    Slots FastlyError Unit → HostBody → Expected FastlyError ℕ HostBody :=
  checkedValue (Sys.StreamingBody.write buf)

def StreamingBody.appendTrailer (headerName headerValue : List UInt8) :
    Slots FastlyError Unit → HostBody → Expected FastlyError Unit HostBody :=
  checkedVoid (Sys.StreamingBody.appendTrailer F headerName headerValue)

def StreamingBody.finish (s : ComputeSdk.StreamingBody) (slots : Slots FastlyError Unit) :
    Expected FastlyError Unit Unit :=
  s.flush.bind fun s => checkedVoid (Sys.mHttpStreamingBodyFinish F s.bod) slots ()

def StatusCode.canonicalReason (value : UInt16) (slots : Slots FastlyError (List UInt8)) :
    Expected FastlyError (Option (List UInt8)) Unit :=
  checkedString (Sys.fHttpStatusCodeCanonicalReason F value) slots ()

def purgeSurrogateKey (surrogateKey : List UInt8) (slots : Slots FastlyError Unit) :
    Expected FastlyError Unit Unit :=
  checkedVoid (Sys.fHttpPurgePurgeSurrogateKey F surrogateKey) slots ()

def softPurgeSurrogateKey (surrogateKey : List UInt8) (slots : Slots FastlyError Unit) :
    Expected FastlyError Unit Unit :=
  checkedVoid (Sys.fHttpPurgeSoftPurgeSurrogateKey F surrogateKey) slots ()

end Http

end ComputeSdk
