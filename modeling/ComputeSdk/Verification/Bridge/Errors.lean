import ComputeSdk.Model.Bridge.Kv
import ComputeSdk.Model.Bridge.Plain
import ComputeSdk.Model.Bridge.Services

/-! # Agreement on errors

What each function of the interface should return is said by the operation of the crates
behind it, with errors in place of slots. -/

namespace ComputeSdk

open Shared Operation

variable (F : Crates)

/-! ## Operations -/

section

variable {ε σ M α β : Type}

/-- An operation whose value is passed in a box. -/
def inBox (x : Except ε α) : Operation Abort ε σ (RawPtr α) := do
  let a ← fromExcept x
  pure (.box a)

/-- A step that needs its argument to be UTF-8. -/
def withUtf8 (text : List UInt8) (next : String → Operation Abort FastlyError σ β) :
    Operation Abort FastlyError σ β := do
  let text ← fromExcept (into .utf8Error (F.toStr text))
  next text

def setting (set : α → M → M) (x : Except ε α) : Operation Abort ε M Unit := do
  let a ← fromExcept x
  onObject fun m => ((), set a m)

def settingHeader (set : F.HeaderName → HeaderValue → M → M) (name value : List UInt8) :
    Operation Abort FastlyError M Unit := do
  let name ← fromExcept (into .invalidHeaderName (F.headerName name))
  let value ← fromExcept (into .invalidHeaderValue (F.headerValue value))
  onObject fun m => ((), set name value m)

/-- A method that needs the name of a header. -/
def withHeaderName (name : List UInt8) (method : F.HeaderName → M → β × M) :
    Operation Abort FastlyError M β := do
  let name ← fromExcept (into .invalidHeaderName (F.headerName name))
  onObject (method name)

/-- A method that may fail. -/
def calling (method : σ → Except ε α × σ) : Operation Abort ε σ α := do
  let a ← onObject method
  fromExcept a

end

/-- Inspection, with its errors in place of slots. -/
def inspecting (request : F.Request) (config : InspectConfig) :
    Operation Abort InspectError Unit (RawPtr F.InspectResponse) := do
  let icfg ←
    match config.clientIp with
    | none => pure (F.inspectConfigFromRequest request)
    | some clientIp => do
      let ip ← fromExcept ((F.toStr clientIp).mapError fun _ => .invalidConfig)
      let ip ← fromExcept ((F.parseIpAddr ip).mapError fun _ => .invalidConfig)
      pure (F.inspectClientIp ip (F.inspectConfigFromRequest request))
  inBox (F.inspect (Sys.withOptions F config.corp config.workspace config.bufferSize icfg))

/-! ## All functions -/

/-- A function of the interface with its slots, and what it should return. -/
structure Contract where
  Err : Type
  Out : Type
  Result : Type
  wrapper : Slots Err Out → Result
  expected : Result

namespace Contract

variable {ε τ σ β : Type}

/-- A method of `obj`. -/
def method (wrapper : Slots ε τ → σ → Expected ε β σ) (obj : σ) (op : Operation Abort ε σ β) :
    Contract :=
  ⟨ε, τ, _, fun slots => wrapper slots obj, op.outcome obj⟩

def function (wrapper : Slots ε τ → Expected ε β Unit) (op : Operation Abort ε Unit β) :
    Contract :=
  ⟨ε, τ, _, wrapper, op.outcome ()⟩

/-- Whatever the slots hold before the call does not matter. -/
def AgreesAt (c : Contract) (slots : Slots c.Err c.Out) : Prop := c.wrapper slots = c.expected

end Contract

/-- The functions of the interface that pass an error slot, with their arguments. -/
inductive Wrapper where
  | pendingRequestWait (req : F.PendingRequest)
  | select (reqs : List F.PendingRequest)
  | requestCreate (method url : List UInt8)
  | requestSend (backend : F.Backend) (req : F.Request)
  | requestSendAsync (backend : F.Backend) (req : F.Request)
  | requestSendAsyncStreaming (backend : F.Backend) (req : F.Request)
  | requestSetBodyTextPlain (body : List UInt8) (req : F.Request)
  | requestSetBodyTextHtml (body : List UInt8) (req : F.Request)
  | requestContainsHeader (name : List UInt8) (req : F.Request)
  | requestGetHeader (name : List UInt8) (req : F.Request)
  | requestGetHeaderAll (name : List UInt8) (req : F.Request)
  | requestSetHeader (name value : List UInt8) (req : F.Request)
  | requestAppendHeader (name value : List UInt8) (req : F.Request)
  | requestRemoveHeader (name : List UInt8) (req : F.Request)
  | requestSetMethod (method : List UInt8) (req : F.Request)
  | requestSetUrl (url : List UInt8) (req : F.Request)
  | requestSetPath (path : List UInt8) (req : F.Request)
  | requestSetQueryString (query : List UInt8) (req : F.Request)
  | requestSetSurrogateKey (sk : List UInt8) (req : F.Request)
  | responseSetBodyTextPlain (body : List UInt8) (res : F.Response)
  | responseSetBodyTextHtml (body : List UInt8) (res : F.Response)
  | responseContainsHeader (name : List UInt8) (res : F.Response)
  | responseGetHeader (name : List UInt8) (res : F.Response)
  | responseGetHeaderAll (name : List UInt8) (res : F.Response)
  | responseSetHeader (name value : List UInt8) (res : F.Response)
  | responseAppendHeader (name value : List UInt8) (res : F.Response)
  | responseRemoveHeader (name : List UInt8) (res : F.Response)
  | bodyRead (bufsize : ℕ) (bod : HostBody)
  | bodyWrite (buf : List UInt8) (bod : HostBody)
  | bodyAppendTrailer (headerName headerValue : List UInt8) (bod : HostBody)
  | streamingBodyWrite (buf : List UInt8) (bod : HostBody)
  | streamingBodyAppendTrailer (headerName headerValue : List UInt8) (bod : HostBody)
  | streamingBodyFinish (body : StreamingBody)
  | canonicalReason (value : UInt16)
  | purgeSurrogateKey (surrogateKey : List UInt8)
  | softPurgeSurrogateKey (surrogateKey : List UInt8)
  | backendFromName (name : List UInt8)
  | backendBuilderFinish (builder : F.BackendBuilder)
  | configStoreOpen (name : List UInt8)
  | configStoreGet (cs : F.ConfigStore) (key : List UInt8)
  | configStoreContains (cs : F.ConfigStore) (key : List UInt8)
  | secretFromBytes (data : List UInt8)
  | secretStoreOpen (name : List UInt8)
  | secretStoreGet (ss : F.SecretStore) (key : List UInt8)
  | secretStoreContains (ss : F.SecretStore) (key : List UInt8)
  | geoLookup (ip : List UInt8)
  | deviceLookup (userAgent : List UInt8)
  | endpointFromName (name : List UInt8)
  | inspect (request : F.Request) (config : InspectConfig)
  | processResponse (processor : F.Processor) (clientResponseMetadata : Option F.Response)
      (dispatchFragmentRequest : Option F.DispatchFragmentRequestFn)
      (processFragmentResponse : Option F.ProcessFragmentResponseFn) (srcDocument : F.Response)
  | processDocument (processor : F.Processor) (srcDocument : List UInt8)
      (dispatchFragmentRequest : Option F.DispatchFragmentRequestFn)
      (processFragmentResponse : Option F.ProcessFragmentResponseFn)
  | insertBuilderExecute (builder : F.InsertBuilder) (key : List UInt8) (body : HostBody)
  | insertBuilderExecuteAsync (builder : F.InsertBuilder) (key : List UInt8) (body : HostBody)
  | lookupBuilderExecute (builder : F.LookupBuilder) (key : List UInt8)
  | lookupBuilderExecuteAsync (builder : F.LookupBuilder) (key : List UInt8)
  | eraseBuilderExecute (builder : F.EraseBuilder) (key : List UInt8)
  | eraseBuilderExecuteAsync (builder : F.EraseBuilder) (key : List UInt8)
  | listBuilderExecute (builder : F.ListBuilder)
  | listBuilderExecuteAsync (builder : F.ListBuilder)
  | listResponseNext (iter : F.ListResponse)
  | kvStoreOpen (name : List UInt8)
  | kvStoreLookup (store : F.KVStore) (key : List UInt8)
  | kvStorePendingLookupWait (store : F.KVStore) (handle : UInt32)
  | kvStoreInsert (store : F.KVStore) (key : List UInt8) (value : HostBody)
  | kvStorePendingInsertWait (store : F.KVStore) (handle : UInt32)
  | kvStoreErase (store : F.KVStore) (key : List UInt8)
  | kvStorePendingEraseWait (store : F.KVStore) (handle : UInt32)
  | kvStoreList (store : F.KVStore)
  | kvStorePendingListWait (store : F.KVStore) (handle : UInt32)

namespace Wrapper

variable {F}

def contract : Wrapper F → Contract
  | pendingRequestWait req =>
    .function (Http.PendingRequest.wait F req) (inBox (into .fastlySendError (F.wait req)))
  | select reqs =>
    .method (fun slots _ => Http.select F reqs slots) [] do
      onObject fun others => ((), others ++ (F.select reqs).2)
      inBox (into .fastlySendError (F.select reqs).1)
  | requestCreate method url =>
    .function (Http.Request.create F method url) do
      let method ← fromExcept (into .invalidMethod (F.httpMethod method))
      let url ← orStop (expect "Invalid UTF-8 in URL" (F.toStr url))
      pure (.box (F.newRequest method url))
  | requestSend backend req =>
    .function (fun slots => Http.Request.send F backend slots req)
      (inBox (into .fastlySendError (F.send req backend)))
  | requestSendAsync backend req =>
    .function (fun slots => Http.Request.sendAsync F backend slots req)
      (inBox (into .fastlySendError (F.sendAsync req backend)))
  | requestSendAsyncStreaming backend req =>
    .function (fun slots => Http.Request.sendAsyncStreaming F backend slots req)
      (inBox (into .fastlySendError (F.sendAsyncStreaming req backend)))
  | requestSetBodyTextPlain body req =>
    .method (Http.Request.setBodyTextPlain F body) req
      (setting F.request.setBodyTextPlain (into .utf8Error (F.toStr body)))
  | requestSetBodyTextHtml body req =>
    .method (Http.Request.setBodyTextHtml F body) req
      (setting F.request.setBodyTextHtml (into .utf8Error (F.toStr body)))
  | requestContainsHeader name req =>
    .method (Http.Request.containsHeader F name) req
      (withHeaderName F name fun name req => (F.request.containsHeader name req, req))
  | requestGetHeader name req =>
    .method (Http.Request.getHeader F name) req
      (withHeaderName F name fun name req => (F.request.getHeader name req, req))
  | requestGetHeaderAll name req =>
    .method (Http.Request.getHeaderAll F name) req
      (withHeaderName F name fun name req => (.box (F.request.getHeaderAll name req), req))
  | requestSetHeader name value req =>
    .method (Http.Request.setHeader F name value) req
      (settingHeader F F.request.setHeader name value)
  | requestAppendHeader name value req =>
    .method (Http.Request.appendHeader F name value) req
      (settingHeader F F.request.appendHeader name value)
  | requestRemoveHeader name req =>
    .method (Http.Request.removeHeader F name) req
      (withHeaderName F name fun name req =>
        ((F.request.removeHeader name req).1.map HeaderValue.value,
          (F.request.removeHeader name req).2))
  | requestSetMethod method req =>
    .method (Http.Request.setMethodStr F method) req
      (setting F.setMethod (into .invalidMethod (F.httpMethod method)))
  | requestSetUrl url req =>
    .method (Http.Request.setUrl F url) req (setting F.setUrl (into .utf8Error (F.toStr url)))
  | requestSetPath path req =>
    .method (Http.Request.setPath F path) req
      (setting F.setPath (into .utf8Error (F.toStr path)))
  | requestSetQueryString query req =>
    .method (Http.Request.setQueryString F query) req
      (setting F.setQueryStr (into .utf8Error (F.toStr query)))
  | requestSetSurrogateKey sk req =>
    .method (Http.Request.setSurrogateKey F sk) req
      (setting F.setSurrogateKey (into .invalidHeaderValue (F.headerValue sk)))
  | responseSetBodyTextPlain body res =>
    .method (Http.Response.setBodyTextPlain F body) res
      (setting F.response.setBodyTextPlain (into .utf8Error (F.toStr body)))
  | responseSetBodyTextHtml body res =>
    .method (Http.Response.setBodyTextHtml F body) res
      (setting F.response.setBodyTextHtml (into .utf8Error (F.toStr body)))
  | responseContainsHeader name res =>
    .method (Http.Response.containsHeader F name) res
      (withHeaderName F name fun name res => (F.response.containsHeader name res, res))
  | responseGetHeader name res =>
    .method (Http.Response.getHeader F name) res
      (withHeaderName F name fun name res => (F.response.getHeader name res, res))
  | responseGetHeaderAll name res =>
    .method (Http.Response.getHeaderAll F name) res
      (withHeaderName F name fun name res => (.box (F.response.getHeaderAll name res), res))
  | responseSetHeader name value res =>
    .method (Http.Response.setHeader F name value) res
      (settingHeader F F.response.setHeader name value)
  | responseAppendHeader name value res =>
    .method (Http.Response.appendHeader F name value) res
      (settingHeader F F.response.appendHeader name value)
  | responseRemoveHeader name res =>
    .method (Http.Response.removeHeader F name) res
      (withHeaderName F name fun name res =>
        ((F.response.removeHeader name res).1.map HeaderValue.value,
          (F.response.removeHeader name res).2))
  | bodyRead bufsize bod => .method (Http.Body.read bufsize) bod (calling (HostBody.read bufsize))
  | bodyWrite buf bod => .method (Http.Body.write buf) bod (calling (HostBody.write buf))
  | bodyAppendTrailer headerName headerValue bod =>
    .method (Http.Body.appendTrailer F headerName headerValue) bod
      (settingHeader F F.appendTrailer headerName headerValue)
  | streamingBodyWrite buf bod =>
    .method (Http.StreamingBody.write buf) bod (calling (HostBody.write buf))
  | streamingBodyAppendTrailer headerName headerValue bod =>
    .method (Http.StreamingBody.appendTrailer F headerName headerValue) bod
      (settingHeader F F.appendTrailer headerName headerValue)
  | streamingBodyFinish body =>
    .function (Http.StreamingBody.finish F body) do
      let body ← orStop body.flush
      fromExcept (into .ioError (F.finishStreaming body.bod))
  | canonicalReason value =>
    .function (Http.StatusCode.canonicalReason F value) do
      let code ← fromExcept (into .invalidStatusCode (F.statusCode value))
      pure (F.canonicalReason code)
  | purgeSurrogateKey surrogateKey =>
    .function (Http.purgeSurrogateKey F surrogateKey)
      (withUtf8 F surrogateKey fun key => fromExcept (into .fastlyError (F.purgeSurrogateKey key)))
  | softPurgeSurrogateKey surrogateKey =>
    .function (Http.softPurgeSurrogateKey F surrogateKey)
      (withUtf8 F surrogateKey fun key =>
        fromExcept (into .fastlyError (F.softPurgeSurrogateKey key)))
  | backendFromName name =>
    .function (Backend.fromName F name)
      (withUtf8 F name fun name => inBox (into .backendError (F.backendFromName name)))
  | backendBuilderFinish builder =>
    .function (BackendBuilder.finish F builder)
      (inBox (into .backendCreationError (F.backendFinish builder)))
  | configStoreOpen name =>
    .function (ConfigStore.open_ F name)
      (withUtf8 F name fun name => inBox (into .configStoreOpenError (F.configTryOpen name)))
  | configStoreGet cs key =>
    .function (ConfigStore.get F cs key)
      (withUtf8 F key fun key => fromExcept (into .configStoreLookupError (F.configTryGet cs key)))
  | configStoreContains cs key =>
    .function (ConfigStore.contains F cs key)
      (withUtf8 F key fun key => pure (F.configContains cs key))
  | secretFromBytes data =>
    .function (Secret.fromBytes F data)
      (inBox (into .fastlyStatus (fastlyStatusWrapper (F.secretFromBytes data))))
  | secretStoreOpen name =>
    .function (SecretStore.open_ F name)
      (withUtf8 F name fun name => inBox (into .secretStoreOpenError (F.secretOpen name)))
  | secretStoreGet ss key =>
    .function (SecretStore.get F ss key)
      (withUtf8 F key fun key => pure ((F.secretGet ss key).map .box))
  | secretStoreContains ss key =>
    .function (SecretStore.contains F ss key)
      (withUtf8 F key fun key =>
        fromExcept (into .secretStoreLookupError (F.secretContains ss key)))
  | geoLookup ip =>
    .function (ComputeSdk.geoLookup F ip) (withUtf8 F ip fun ip => do
      let ip ← fromExcept (into .addrParseError (F.parseIpAddr ip))
      pure ((F.geoLookup ip).map .box))
  | deviceLookup userAgent =>
    .function (ComputeSdk.deviceLookup F userAgent)
      (withUtf8 F userAgent fun userAgent => pure ((F.deviceLookup userAgent).map .box))
  | endpointFromName name =>
    .function (Endpoint.fromName F name)
      (withUtf8 F name fun name => inBox (into .logError (F.endpointTryFromName name)))
  | inspect request config =>
    .function (ComputeSdk.inspect F request config) (inspecting F request config)
  | processResponse processor metadata dispatch process srcDocument =>
    .method (Processor.processResponse F processor metadata dispatch process) srcDocument do
      let result ← onObject (F.processResponse processor metadata dispatch process)
      fromExcept (into .esiError result)
  | processDocument processor srcDocument dispatch process =>
    .function (Processor.processDocument F processor srcDocument dispatch process)
      (withUtf8 F srcDocument fun doc => do
        let result := F.processDocument processor doc dispatch process
        fromExcept (into .esiError result.1)
        pure result.2)
  | insertBuilderExecute builder key body =>
    .function (Kv.InsertBuilder.execute F builder key body) do
      let key ← orStop (expect "Invalid UTF-8" (F.toStr key))
      fromExcept (F.insertExecute builder key body)
  | insertBuilderExecuteAsync builder key body =>
    .function (Kv.InsertBuilder.executeAsync F builder key body) do
      let key ← orStop (expect "Invalid UTF-8" (F.toStr key))
      fromExcept (F.insertExecuteAsync builder key body)
  | lookupBuilderExecute builder key =>
    .function (Kv.LookupBuilder.execute F builder key) do
      let key ← orStop (F.rustStr key)
      inBox (F.lookupExecute builder key)
  | lookupBuilderExecuteAsync builder key =>
    .function (Kv.LookupBuilder.executeAsync F builder key) do
      let key ← orStop (F.rustStr key)
      fromExcept (F.lookupExecuteAsync builder key)
  | eraseBuilderExecute builder key =>
    .function (Kv.EraseBuilder.execute F builder key) do
      let key ← orStop (F.rustStr key)
      fromExcept (F.eraseExecute builder key)
  | eraseBuilderExecuteAsync builder key =>
    .function (Kv.EraseBuilder.executeAsync F builder key) do
      let key ← orStop (F.rustStr key)
      fromExcept (F.eraseExecuteAsync builder key)
  | listBuilderExecute builder =>
    .function (Kv.ListBuilder.execute F builder) (inBox (F.listExecute builder))
  | listBuilderExecuteAsync builder =>
    .function (Kv.ListBuilder.executeAsync F builder) (fromExcept (F.listExecuteAsync builder))
  | listResponseNext iter =>
    ⟨_, _, _, fun slots => Kv.ListResponse.next F slots iter,
      .ok ((F.listNext iter).1.map fun page => (page.map .box).mapError .box,
        (F.listNext iter).2)⟩
  | kvStoreOpen name =>
    .function (Kv.KVStore.open_ F name) do
      let name ← orStop (F.rustStr name)
      let store ← fromExcept (F.kvOpen name)
      pure (store.map .box)
  | kvStoreLookup store key =>
    .function (Kv.KVStore.lookup F store key) do
      let key ← orStop (F.rustStr key)
      inBox (F.kvLookup store key)
  | kvStorePendingLookupWait store handle =>
    .function (Kv.KVStore.pendingLookupWait F store handle)
      (inBox (F.kvPendingLookupWait store handle))
  | kvStoreInsert store key value =>
    .function (Kv.KVStore.insert F store key value) do
      let key ← orStop (F.rustStr key)
      fromExcept (F.kvInsert store key value)
  | kvStorePendingInsertWait store handle =>
    .function (Kv.KVStore.pendingInsertWait F store handle)
      (fromExcept (F.kvPendingInsertWait store handle))
  | kvStoreErase store key =>
    .function (Kv.KVStore.erase F store key) do
      let key ← orStop (F.rustStr key)
      fromExcept (F.kvDelete store key)
  | kvStorePendingEraseWait store handle =>
    .function (Kv.KVStore.pendingEraseWait F store handle)
      (fromExcept (F.kvPendingDeleteWait store handle))
  | kvStoreList store => .function (Kv.KVStore.list F store) (inBox (F.kvList store))
  | kvStorePendingListWait store handle =>
    .function (Kv.KVStore.pendingListWait F store handle)
      (inBox (F.kvPendingListWait store handle))

/-- The function that tests the error slot the wrong way round. -/
def Inverted : Wrapper F → Prop
  | responseSetBodyTextHtml _ _ => True
  | _ => False

end Wrapper

/-! ## Callers -/

section

variable {ε τ σ M α β : Type} {code : FastlyErrorCode}

theorem reports_value {ρ : Type} [Inhabited ρ] {x : Except ε ρ} (slots : Slots ε τ) :
    Reports (χ := Abort) (σ := σ) (SlotM.tryErr x) (fun ret _ => ret) (fromExcept x) slots := by
  intro obj
  cases x <;> rfl

theorem reports_pure {b : β} {out : τ} :
    Reports (χ := Abort) (ε := ε) (σ := σ) (pure b) (fun ret _ => ret) (pure b) ⟨.null, out⟩ :=
  fun _ => rfl

theorem reports_setOut {a out : τ} :
    Reports (χ := Abort) (ε := ε) (σ := σ) (SlotM.setOut a) (fun _ out => out) (pure a)
      ⟨.null, out⟩ :=
  fun _ => rfl

theorem reports_boxed {x : Except String α} (slots : Slots FastlyError (RawPtr α)) :
    Reports (Sys.boxed code x) (fun _ out => out) (inBox (into code x)) slots :=
  reports_tryErr fun _ _ => rfl

theorem reports_boxedByName {x : String → Except String α} (name : List UInt8)
    (slots : Slots FastlyError (RawPtr α)) :
    Reports (Sys.boxedByName F code x name) (fun _ out => out)
      (withUtf8 F name fun name => inBox (into code (x name))) slots :=
  reports_tryErr fun _ => reports_tryErr fun _ _ => rfl

theorem reports_setter {set : α → M → M} {x : Except String α} (slots : Slots FastlyError Unit) :
    Reports (Sys.setter set code x) (fun _ _ => ()) (setting set (into code x)) slots :=
  reports_tryErr fun _ _ => rfl

theorem reports_headerSetter {set : F.HeaderName → HeaderValue → M → M}
    (name value : List UInt8) (slots : Slots FastlyError Unit) :
    Reports (Sys.headerSetter F set name value) (fun _ _ => ())
      (settingHeader F set name value) slots :=
  reports_tryErr fun _ => reports_tryErr fun _ _ => rfl

variable (ops : MessageOps F.HeaderName M)

theorem reports_containsHeader (name : List UInt8) (slots : Slots FastlyError Unit) :
    Reports (Sys.containsHeader F ops name) (fun ret _ => ret)
      (withHeaderName F name fun name m => (ops.containsHeader name m, m)) slots :=
  reports_tryErr fun _ _ => rfl

theorem reports_getHeaderAll (name : List UInt8)
    (slots : Slots FastlyError (RawPtr (List HeaderValue))) :
    Reports (Sys.getHeaderAll F ops name) (fun _ out => out)
      (withHeaderName F name fun name m => (.box (ops.getHeaderAll name m), m)) slots :=
  reports_tryErr fun _ _ => rfl

/-- The caller of an optional value gets what it makes of the value, or of nothing. -/
theorem reports_setIfSome {x : Option α} {put : α → τ → τ} {value : Bool → τ → β} {out : τ} {b : β}
    (h : (x.elim (value false out) fun a => value true (put a out)) = b) :
    Reports (χ := Abort) (ε := ε) (σ := σ) (setIfSome x put) value (pure b) ⟨.null, out⟩ := by
  subst h
  intro obj
  cases x <;> rfl

/-- The caller of a string that the function appends to an empty one. -/
theorem reports_string {x : Option (List UInt8)} {out : List UInt8} (h : out = []) :
    Reports (χ := Abort) (ε := ε) (σ := σ) (setIfSome x fun r string => string ++ r)
      (fun isSome out => if isSome then some out else none) (pure x) ⟨.null, out⟩ := by
  subst h
  refine reports_setIfSome ?_
  cases x <;> rfl

/-- The caller that takes the box in the slot unless it is null. -/
theorem reports_boxOrNull {x : Option α} {out : RawPtr α} :
    Reports (χ := Abort) (ε := ε) (σ := σ) (SlotM.setOut (boxOrNull x))
      (fun _ out => if out.isNull then none else some out) (pure (x.map .box)) ⟨.null, out⟩ := by
  intro obj
  cases x <;> rfl

/-- What may stop the process before the call stops it in the operation. -/
theorem bind_checked {ρ : Type} {x : Except Abort α} {k : α → SlotM Abort ε τ σ ρ ρ}
    {value : ρ → τ → β} {next : α → Operation Abort ε σ β} {slots : Slots ε τ}
    (h : ∀ a, Reports (k a) value (next a) slots) (obj : σ) :
    (x.bind fun a => checked (k a) value slots obj) = (orStop x >>= next).outcome obj := by
  cases x with
  | ok a => exact h a obj
  | error e => rfl

theorem reports_kvBoxed {x : Except KVStoreError α} (slots : Slots KVStoreError (RawPtr α)) :
    Reports (Sys.Kv.boxed x) (fun _ out => out) (inBox x) slots :=
  reports_tryErr fun _ => reports_setOut

theorem reports_handle {x : Except KVStoreError UInt32} (slots : Slots KVStoreError UInt32) :
    Reports (Sys.Kv.handle x) (fun _ out => out) (fromExcept x) slots :=
  reports_tryErr_id fun _ => reports_setOut

theorem reports_getHeader (name : List UInt8) (slots : Slots FastlyError (List UInt8 × Bool)) :
    Reports (Sys.getHeader F ops name)
      (fun hasHeader out => if hasHeader then some ⟨out.1, out.2⟩ else none)
      (withHeaderName F name fun name m => (ops.getHeader name m, m))
      (initSlots ([], false) slots) := by
  refine reports_tryErr fun name => reports_onObject_map id fun value => reports_setIfSome ?_
  cases value <;> rfl

theorem reports_removeHeader (name : List UInt8) (slots : Slots FastlyError (List UInt8)) :
    Reports (Sys.removeHeader F ops name)
      (fun isSome out => if isSome then some out else none)
      (withHeaderName F name fun name m =>
        ((ops.removeHeader name m).1.map HeaderValue.value, (ops.removeHeader name m).2))
      (initSlots [] slots) := by
  refine reports_tryErr fun name =>
    reports_onObject_map (Option.map HeaderValue.value) fun header => reports_setIfSome ?_
  cases header <;> rfl

end

namespace Wrapper

variable {F}

/-! ### The functions that do not look at the error slot first -/

theorem agreesAt_listResponseNext (iter : F.ListResponse)
    (slots : Slots KVStoreError (RawPtr F.ListPage)) :
    (listResponseNext iter).contract.AgreesAt slots := by
  change Kv.ListResponse.next F slots iter = .ok _
  unfold Kv.ListResponse.next Sys.Kv.ListResponse.next
  simp only [SlotM.call_setErr, SlotM.call_onObject]
  rcases (F.listNext iter).1 with _ | e | page <;> rfl

theorem agreesAt_kvStoreOpen (name : List UInt8)
    (slots : Slots KVStoreError (RawPtr F.KVStore)) :
    (kvStoreOpen name).contract.AgreesAt slots := by
  change (F.rustStr name).bind (fun name => _) = (orStop (F.rustStr name) >>= _).outcome ()
  cases F.rustStr name with
  | error e => rfl
  | ok name =>
      change Except.map _ (SlotM.call (Sys.Kv.open_ F name) (initErr slots) ()) =
        (fromExcept (F.kvOpen name) >>= _).outcome ()
      unfold Sys.Kv.open_
      simp only [SlotM.call_setErr]
      rcases F.kvOpen name with e | _ | store <;> rfl

theorem agreesAt_processResponse (processor : F.Processor) (metadata : Option F.Response)
    (dispatch : Option F.DispatchFragmentRequestFn) (process : Option F.ProcessFragmentResponseFn)
    (srcDocument : F.Response) (slots : Slots FastlyError Unit) :
    (processResponse processor metadata dispatch process srcDocument).contract.AgreesAt
      slots := by
  have h : ∀ (result : Except String Unit) (res : F.Response),
      succeeded (do tryFe .esiError result; pure true) id (initErr slots) res =
        (fromExcept (into .esiError result)).outcome res := by
    rintro (_ | _) res <;> rfl
  exact h (F.processResponse processor metadata dispatch process srcDocument).1
    (F.processResponse processor metadata dispatch process srcDocument).2

theorem agreesAt_processDocument (processor : F.Processor) (srcDocument : List UInt8)
    (dispatch : Option F.DispatchFragmentRequestFn) (process : Option F.ProcessFragmentResponseFn)
    (slots : Slots FastlyError (List UInt8)) :
    (processDocument processor srcDocument dispatch process).contract.AgreesAt slots := by
  have h : ∀ result : Except String Unit × List UInt8,
      succeeded (do
          SlotM.modifyOut fun out => out ++ result.2
          tryFe .esiError result.1
          pure true) id (initSlots [] slots) () =
        (do
          fromExcept (into .esiError result.1)
          pure result.2 : Operation Abort FastlyError Unit (List UInt8)).outcome () := by
    rintro ⟨_ | _, doc⟩ <;> rfl
  change succeeded (Sys.mEsiProcessorProcessDocument F processor srcDocument dispatch process) id
      (initSlots [] slots) () = (withUtf8 F srcDocument _).outcome ()
  unfold Sys.mEsiProcessorProcessDocument withUtf8
  cases F.toStr srcDocument with
  | error e => rfl
  | ok doc => exact h (F.processDocument processor doc dispatch process)

theorem agreesAt_inspect (request : F.Request) (config : InspectConfig)
    (slots : Slots InspectError (RawPtr F.InspectResponse)) :
    (inspect request config).contract.AgreesAt slots := by
  obtain ⟨_ | clientIp, corp, workspace, bufferSize⟩ := config
  · exact reports_tryErr (fun _ => reports_setOut) ()
  · change checked (Sys.fSecurityLookup F request (some clientIp) corp workspace bufferSize)
        (fun _ out => out) (initErr slots) () =
      (inspecting F request ⟨some clientIp, corp, workspace, bufferSize⟩).outcome ()
    simp only [Sys.fSecurityLookup, Sys.withClientIp, inspecting, inBox, bind_assoc, pure_bind]
    exact reports_tryErr
      (fun _ => reports_tryErr fun _ => reports_tryErr fun _ => reports_setOut) ()

theorem agreesAt_of_not_inverted (w : Wrapper F) (h : ¬ w.Inverted)
    (slots : Slots w.contract.Err w.contract.Out) : w.contract.AgreesAt slots := by
  cases w with
  | pendingRequestWait req => exact reports_boxed (initErr slots) ()
  | select reqs => exact reports_onObject (fun _ => reports_tryErr fun _ => reports_setOut) []
  | requestCreate method url =>
      exact reports_tryErr (fun _ => reports_orStop fun _ => reports_setOut) ()
  | requestSend backend req => exact reports_boxed (initErr slots) ()
  | requestSendAsync backend req => exact reports_boxed (initErr slots) ()
  | requestSendAsyncStreaming backend req => exact reports_boxed (initErr slots) ()
  | requestSetBodyTextPlain body req => exact reports_setter (initErr slots) req
  | requestSetBodyTextHtml body req => exact reports_setter (initErr slots) req
  | requestContainsHeader name req => exact reports_containsHeader F F.request name _ req
  | requestGetHeader name req => exact reports_getHeader F F.request name slots req
  | requestGetHeaderAll name req => exact reports_getHeaderAll F F.request name _ req
  | requestSetHeader name value req => exact reports_headerSetter F name value (initErr slots) req
  | requestAppendHeader name value req =>
      exact reports_headerSetter F name value (initErr slots) req
  | requestRemoveHeader name req => exact reports_removeHeader F F.request name slots req
  | requestSetMethod method req => exact reports_setter slots req
  | requestSetUrl url req => exact reports_setter (initErr slots) req
  | requestSetPath path req => exact reports_setter (initErr slots) req
  | requestSetQueryString query req => exact reports_setter (initErr slots) req
  | requestSetSurrogateKey sk req => exact reports_setter (initErr slots) req
  | responseSetBodyTextPlain body res => exact reports_setter (initErr slots) res
  | responseSetBodyTextHtml body res => exact absurd trivial h
  | responseContainsHeader name res => exact reports_containsHeader F F.response name _ res
  | responseGetHeader name res => exact reports_getHeader F F.response name slots res
  | responseGetHeaderAll name res => exact reports_getHeaderAll F F.response name _ res
  | responseSetHeader name value res => exact reports_headerSetter F name value (initErr slots) res
  | responseAppendHeader name value res =>
      exact reports_headerSetter F name value (initErr slots) res
  | responseRemoveHeader name res => exact reports_removeHeader F F.response name slots res
  | bodyRead bufsize bod => exact reports_onObject (fun _ => reports_value (initErr slots)) bod
  | bodyWrite buf bod => exact reports_onObject (fun _ => reports_value (initErr slots)) bod
  | bodyAppendTrailer headerName headerValue bod =>
      exact reports_headerSetter F headerName headerValue (initErr slots) bod
  | streamingBodyWrite buf bod =>
      exact reports_onObject (fun _ => reports_value (initErr slots)) bod
  | streamingBodyAppendTrailer headerName headerValue bod =>
      exact reports_headerSetter F headerName headerValue (initErr slots) bod
  | streamingBodyFinish body => exact bind_checked (fun _ => reports_value _) ()
  | canonicalReason value =>
      exact reports_tryErr (fun _ => reports_string (by rfl)) ()
  | purgeSurrogateKey surrogateKey => exact reports_tryErr (fun _ => reports_value _) ()
  | softPurgeSurrogateKey surrogateKey => exact reports_tryErr (fun _ => reports_value _) ()
  | backendFromName name => exact reports_boxedByName F name (initErr slots) ()
  | backendBuilderFinish builder => exact reports_boxed (initErr slots) ()
  | configStoreOpen name => exact reports_boxedByName F name (initErr slots) ()
  | configStoreGet cs key =>
      exact reports_tryErr (fun _ => reports_tryErr_id fun _ => reports_string (by rfl)) ()
  | configStoreContains cs key => exact reports_tryErr (fun _ => reports_pure) ()
  | secretFromBytes data => exact reports_boxed (initErr slots) ()
  | secretStoreOpen name => exact reports_boxedByName F name (initErr slots) ()
  | secretStoreGet ss key => exact reports_tryErr (fun _ => reports_boxOrNull) ()
  | secretStoreContains ss key => exact reports_tryErr (fun _ => reports_value _) ()
  | geoLookup ip =>
      exact reports_tryErr (fun _ => reports_tryErr fun _ => reports_boxOrNull) ()
  | deviceLookup userAgent => exact reports_tryErr (fun _ => reports_boxOrNull) ()
  | endpointFromName name => exact reports_boxedByName F name (initErr slots) ()
  | inspect request config => exact agreesAt_inspect request config slots
  | processResponse processor metadata dispatch process srcDocument =>
      exact agreesAt_processResponse processor metadata dispatch process srcDocument slots
  | processDocument processor srcDocument dispatch process =>
      exact agreesAt_processDocument processor srcDocument dispatch process slots
  | insertBuilderExecute builder key body => exact reports_orStop (fun _ => reports_value _) ()
  | insertBuilderExecuteAsync builder key body =>
      exact reports_orStop (fun _ => reports_handle _) ()
  | lookupBuilderExecute builder key => exact bind_checked (fun _ => reports_kvBoxed _) ()
  | lookupBuilderExecuteAsync builder key => exact bind_checked (fun _ => reports_handle _) ()
  | eraseBuilderExecute builder key => exact bind_checked (fun _ => reports_value _) ()
  | eraseBuilderExecuteAsync builder key => exact bind_checked (fun _ => reports_handle _) ()
  | listBuilderExecute builder => exact reports_kvBoxed (initErr slots) ()
  | listBuilderExecuteAsync builder => exact reports_handle (initErr slots) ()
  | listResponseNext iter => exact agreesAt_listResponseNext iter slots
  | kvStoreOpen name => exact agreesAt_kvStoreOpen name slots
  | kvStoreLookup store key => exact bind_checked (fun _ => reports_kvBoxed _) ()
  | kvStorePendingLookupWait store handle => exact reports_kvBoxed (initErr slots) ()
  | kvStoreInsert store key value => exact bind_checked (fun _ => reports_value _) ()
  | kvStorePendingInsertWait store handle => exact reports_value (initErr slots) ()
  | kvStoreErase store key => exact bind_checked (fun _ => reports_value _) ()
  | kvStorePendingEraseWait store handle => exact reports_value (initErr slots) ()
  | kvStoreList store => exact reports_kvBoxed (initErr slots) ()
  | kvStorePendingListWait store handle => exact reports_kvBoxed (initErr slots) ()

/-- It returns an error when there is none, and none when there is one. -/
theorem not_agreesAt_responseSetBodyTextHtml (body : List UInt8) (res : F.Response)
    (slots : Slots FastlyError Unit) :
    ¬ (responseSetBodyTextHtml body res).contract.AgreesAt slots := by
  intro h
  change Http.Response.setBodyTextHtml F body slots res =
    (setting F.response.setBodyTextHtml (into .utf8Error (F.toStr body))).outcome res at h
  simp only [Http.Response.setBodyTextHtml, Sys.Response.setBodyTextHtml, Sys.setter] at h
  cases hs : F.toStr body with
  | ok text =>
      rw [hs] at h
      cases h
  | error e =>
      rw [hs] at h
      cases h

end Wrapper

/-- Every function of the interface gives back what the bridged function reported, whatever
its slots held before. -/
def ErrorsAgree : Prop :=
  ∀ (F : Crates) (w : Wrapper F) (slots : Slots w.contract.Err w.contract.Out),
    w.contract.AgreesAt slots

theorem agreesAt_iff (w : Wrapper F) (slots : Slots w.contract.Err w.contract.Out) :
    w.contract.AgreesAt slots ↔ ¬ w.Inverted := by
  refine ⟨fun h hw => ?_, fun h => w.agreesAt_of_not_inverted h slots⟩
  cases w with
  | responseSetBodyTextHtml body res =>
      exact Wrapper.not_agreesAt_responseSetBodyTextHtml body res slots h
  | _ => exact hw

/-- A body of two characters is set, and the caller gets an error that is null. -/
theorem not_errorsAgree : ¬ ErrorsAgree := by
  intro h
  have hhi := h Plain.crates (.responseSetBodyTextHtml (Plain.ascii "hi") Plain.message)
    ⟨.null, ()⟩
  cases hhi

end ComputeSdk
