import ComputeSdk.Model.Bridge.Http

/-! # The bridge of the other services

Backends, the config and the secret store, geolocation, device detection, log endpoints,
inspection and ESI. -/

namespace ComputeSdk

open Shared SlotM Http

variable (F : Crates)

/-- `x.map(Box::new).map(Box::into_raw).unwrap_or_else(std::ptr::null_mut)`. -/
def boxOrNull {α : Type} : Option α → RawPtr α
  | some a => .box a
  | none => .null

/-- A caller that takes the box in the slot unless it is null. -/
def checkedNullable {ε σ α : Type} (f : SlotM Abort ε (RawPtr α) σ Unit Unit)
    (slots : Slots ε (RawPtr α)) (obj : σ) : Expected ε (Option (RawPtr α)) σ :=
  checked f (fun _ out => if out.isNull then none else some out) (initErr slots) obj

/-! ## Bridged functions -/

namespace Sys

def mStaticBackendBackendFromName (name : List UInt8) :
    FastlyM (RawPtr F.Backend) Unit Unit Unit :=
  boxedByName F .backendError F.backendFromName name

def mBackendBackendBuilderFinish (builder : F.BackendBuilder) :
    FastlyM (RawPtr F.Backend) Unit Unit Unit :=
  boxed .backendCreationError (F.backendFinish builder)

def mStaticConfigStoreConfigStoreOpen (name : List UInt8) :
    FastlyM (RawPtr F.ConfigStore) Unit Unit Unit :=
  boxedByName F .configStoreOpenError F.configTryOpen name

def ConfigStore.get (cs : F.ConfigStore) (key : List UInt8) :
    FastlyM (List UInt8) Unit Bool Bool := do
  let key ← tryFe .utf8Error (F.toStr key)
  let val ← tryFe .configStoreLookupError (F.configTryGet cs key)
  setIfSome val fun val out => out ++ val

def ConfigStore.contains (cs : F.ConfigStore) (key : List UInt8) :
    FastlyM Unit Unit Bool Bool := do
  let key ← tryFe .utf8Error (F.toStr key)
  pure (F.configContains cs key)

def mStaticSecretStoreSecretFromBytes (bytes : List UInt8) :
    FastlyM (RawPtr F.Secret) Unit Unit Unit :=
  boxed .fastlyStatus (fastlyStatusWrapper (F.secretFromBytes bytes))

def mStaticSecretStoreSecretStoreOpen (name : List UInt8) :
    FastlyM (RawPtr F.SecretStore) Unit Unit Unit :=
  boxedByName F .secretStoreOpenError F.secretOpen name

def SecretStore.get (ss : F.SecretStore) (key : List UInt8) :
    FastlyM (RawPtr F.Secret) Unit Unit Unit := do
  let key ← tryFe .utf8Error (F.toStr key)
  setOut (boxOrNull (F.secretGet ss key))

def SecretStore.contains (ss : F.SecretStore) (key : List UInt8) :
    FastlyM Unit Unit Bool Bool := do
  let key ← tryFe .utf8Error (F.toStr key)
  tryFe .secretStoreLookupError (F.secretContains ss key)

def fGeoGeoLookup (ip : List UInt8) : FastlyM (RawPtr F.Geo) Unit Unit Unit := do
  let ip ← tryFe .utf8Error (F.toStr ip)
  let ip ← tryFe .addrParseError (F.parseIpAddr ip)
  setOut (boxOrNull (F.geoLookup ip))

def fDeviceDetectionLookup (userAgent : List UInt8) :
    FastlyM (RawPtr F.Device) Unit Unit Unit := do
  let userAgent ← tryFe .utf8Error (F.toStr userAgent)
  setOut (boxOrNull (F.deviceLookup userAgent))

def mStaticLogEndpointTryFromName (name : List UInt8) :
    FastlyM (RawPtr F.Endpoint) Unit Unit Unit :=
  boxedByName F .logError F.endpointTryFromName name

/-- What `f_security_lookup` does with the address of the client. -/
def withClientIp (clientIp : Option (List UInt8)) (icfg : F.InspectConfig) :
    SlotM Abort InspectError (RawPtr F.InspectResponse) Unit Unit F.InspectConfig :=
  match clientIp with
  | none => pure icfg
  | some clientIp => do
    let ip ← tryErr ((F.toStr clientIp).mapError fun _ => .invalidConfig)
    let ip ← tryErr ((F.parseIpAddr ip).mapError fun _ => .invalidConfig)
    pure (F.inspectClientIp ip icfg)

/-- The options that `f_security_lookup` sets without a check. -/
def withOptions (corp workspace : Option (List UInt8)) (bufferSize : Option ℕ)
    (icfg : F.InspectConfig) : F.InspectConfig :=
  let icfg := corp.elim icfg fun corp => F.inspectCorp (F.toStringLossy corp) icfg
  let icfg := workspace.elim icfg fun workspace =>
    F.inspectWorkspace (F.toStringLossy workspace) icfg
  bufferSize.elim icfg fun bufferSize => F.inspectBufferSize bufferSize icfg

def fSecurityLookup (request : F.Request) (clientIp corp workspace : Option (List UInt8))
    (bufferSize : Option ℕ) :
    SlotM Abort InspectError (RawPtr F.InspectResponse) Unit Unit Unit := do
  let icfg ← withClientIp F clientIp (F.inspectConfigFromRequest request)
  let response ← tryErr (F.inspect (withOptions F corp workspace bufferSize icfg))
  setOut (.box response)

/-- The object is `src_document`. -/
def mEsiProcessorProcessResponse (processor : F.Processor)
    (clientResponseMetadata : Option F.Response)
    (dispatchFragmentRequest : Option F.DispatchFragmentRequestFn)
    (processFragmentResponse : Option F.ProcessFragmentResponseFn) :
    FastlyM Unit F.Response Bool Bool := do
  let result ← onObject (F.processResponse processor clientResponseMetadata
    dispatchFragmentRequest processFragmentResponse)
  tryFe .esiError result
  pure true

def mEsiProcessorProcessDocument (processor : F.Processor) (srcDocument : List UInt8)
    (dispatchFragmentRequest : Option F.DispatchFragmentRequestFn)
    (processFragmentResponse : Option F.ProcessFragmentResponseFn) :
    FastlyM (List UInt8) Unit Bool Bool := do
  let docStr ← tryFe .utf8Error (F.toStr srcDocument)
  let result := F.processDocument processor docStr dispatchFragmentRequest
    processFragmentResponse
  modifyOut fun out => out ++ result.2
  tryFe .esiError result.1
  pure true

end Sys

/-! ## Backends and stores -/

def Backend.fromName (name : List UInt8) (slots : Slots FastlyError (RawPtr F.Backend)) :
    Expected FastlyError (RawPtr F.Backend) Unit :=
  checkedBox (Sys.mStaticBackendBackendFromName F name) slots ()

def BackendBuilder.finish (builder : F.BackendBuilder)
    (slots : Slots FastlyError (RawPtr F.Backend)) :
    Expected FastlyError (RawPtr F.Backend) Unit :=
  checkedBox (Sys.mBackendBackendBuilderFinish F builder) slots ()

namespace ConfigStore

def open_ (name : List UInt8) (slots : Slots FastlyError (RawPtr F.ConfigStore)) :
    Expected FastlyError (RawPtr F.ConfigStore) Unit :=
  checkedBox (Sys.mStaticConfigStoreConfigStoreOpen F name) slots ()

def get (cs : F.ConfigStore) (key : List UInt8) (slots : Slots FastlyError (List UInt8)) :
    Expected FastlyError (Option (List UInt8)) Unit :=
  checkedString (Sys.ConfigStore.get F cs key) slots ()

def contains (cs : F.ConfigStore) (key : List UInt8) (slots : Slots FastlyError Unit) :
    Expected FastlyError Bool Unit :=
  checkedValue (Sys.ConfigStore.contains F cs key) slots ()

end ConfigStore

def Secret.fromBytes (data : List UInt8) (slots : Slots FastlyError (RawPtr F.Secret)) :
    Expected FastlyError (RawPtr F.Secret) Unit :=
  checkedBox (Sys.mStaticSecretStoreSecretFromBytes F data) slots ()

namespace SecretStore

def open_ (name : List UInt8) (slots : Slots FastlyError (RawPtr F.SecretStore)) :
    Expected FastlyError (RawPtr F.SecretStore) Unit :=
  checkedBox (Sys.mStaticSecretStoreSecretStoreOpen F name) slots ()

def get (ss : F.SecretStore) (key : List UInt8) (slots : Slots FastlyError (RawPtr F.Secret)) :
    Expected FastlyError (Option (RawPtr F.Secret)) Unit :=
  checkedNullable (Sys.SecretStore.get F ss key) slots ()

def contains (ss : F.SecretStore) (key : List UInt8) (slots : Slots FastlyError Unit) :
    Expected FastlyError Bool Unit :=
  checkedValue (Sys.SecretStore.contains F ss key) slots ()

end SecretStore

/-! ## Lookups -/

def geoLookup (ip : List UInt8) (slots : Slots FastlyError (RawPtr F.Geo)) :
    Expected FastlyError (Option (RawPtr F.Geo)) Unit :=
  checkedNullable (Sys.fGeoGeoLookup F ip) slots ()

/-- `device_detection::lookup`. -/
def deviceLookup (userAgent : List UInt8) (slots : Slots FastlyError (RawPtr F.Device)) :
    Expected FastlyError (Option (RawPtr F.Device)) Unit :=
  checkedNullable (Sys.fDeviceDetectionLookup F userAgent) slots ()

/-- The value comes first in the source, under the opposite test. -/
def Endpoint.fromName (name : List UInt8) (slots : Slots FastlyError (RawPtr F.Endpoint)) :
    Expected FastlyError (RawPtr F.Endpoint) Unit :=
  checkedBox (Sys.mStaticLogEndpointTryFromName F name) slots ()

/-! ## Inspection -/

/-- `InspectConfig` of the interface. -/
structure InspectConfig where
  clientIp : Option (List UInt8) := none
  corp : Option (List UInt8) := none
  workspace : Option (List UInt8) := none
  bufferSize : Option ℕ := none
  deriving DecidableEq

/-- The value comes first in the source, under the opposite test. -/
def inspect (request : F.Request) (config : InspectConfig)
    (slots : Slots InspectError (RawPtr F.InspectResponse)) :
    Expected InspectError (RawPtr F.InspectResponse) Unit :=
  checkedBox (Sys.fSecurityLookup F request config.clientIp config.corp config.workspace
    config.bufferSize) slots ()

/-! ## ESI -/

/-- A caller that takes the value if the bridged function says so, and an error otherwise. -/
def succeeded {ε τ σ β : Type} (f : SlotM Abort ε τ σ Bool Bool) (value : τ → β)
    (slots : Slots ε τ) (obj : σ) : Expected ε β σ :=
  (f.call slots obj).map fun p =>
    (if p.1 then .ok (value p.2.2.out) else .error p.2.2.err, p.2.1)

namespace Processor

def processResponse (processor : F.Processor) (clientResponseMetadata : Option F.Response)
    (dispatchFragmentRequest : Option F.DispatchFragmentRequestFn)
    (processFragmentResponse : Option F.ProcessFragmentResponseFn)
    (slots : Slots FastlyError Unit) (srcDocument : F.Response) :
    Expected FastlyError Unit F.Response :=
  succeeded (Sys.mEsiProcessorProcessResponse F processor clientResponseMetadata
    dispatchFragmentRequest processFragmentResponse) id (initErr slots) srcDocument

def processDocument (processor : F.Processor) (srcDocument : List UInt8)
    (dispatchFragmentRequest : Option F.DispatchFragmentRequestFn)
    (processFragmentResponse : Option F.ProcessFragmentResponseFn)
    (slots : Slots FastlyError (List UInt8)) : Expected FastlyError (List UInt8) Unit :=
  succeeded (Sys.mEsiProcessorProcessDocument F processor srcDocument
    dispatchFragmentRequest processFragmentResponse) id (initSlots [] slots) ()

end Processor

end ComputeSdk
