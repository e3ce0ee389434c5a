import ComputeSdk.Model.Cache.Options
import ComputeSdk.Model.KvStore
import ComputeSdk.Shared.Slots

/-! # The crates under the bridge

What the bridged functions call outside of this repository, as a parameter of the model. An
error of a crate is given by its message. -/

namespace ComputeSdk

open Shared

/-- `ffi::Method`. -/
inductive Method where
  | GET
  | POST
  | PUT
  | DELETE
  | HEAD
  | OPTIONS
  | CONNECT
  | PATCH
  | TRACE
  deriving DecidableEq, Repr

/-- `ffi::Version`. -/
inductive Version where
  | HTTP_09
  | HTTP_10
  | HTTP_11
  | HTTP_2
  | HTTP_3
  deriving DecidableEq, Repr

inductive FastlyStatus where
  | OK
  | ERROR
  | INVAL
  | BADF
  | BUFLEN
  | UNSUPPORTED
  | BADALIGN
  | HTTPINVALID
  | HTTPUSER
  | HTTPINCOMPLETE
  | NONE
  | HTTPHEADTOOLARGE
  | HTTPINVALIDSTATUS
  | LIMITEXCEEDED
  | AGAIN
  | other (code : Int)
  deriving DecidableEq, Repr

/-- `fastly::security::InspectError`. -/
inductive InspectError where
  | deserializeError (errorMsg : String)
  | invalidConfig
  | requestError (errorMsg : String)
  | bufferSizeError (n : ℕ)
  | unexpected (errorMsg : String)
  deriving DecidableEq, Repr

/-- What the crate does alike for requests and responses `M`. -/
structure MessageOps (HeaderName M : Type) where
  setBodyTextPlain : String → M → M
  setBodyTextHtml : String → M → M
  getContentLength : M → Option ℕ
  containsHeader : HeaderName → M → Bool
  getHeader : HeaderName → M → Option HeaderValue
  getHeaderAll : HeaderName → M → List HeaderValue
  setHeader : HeaderName → HeaderValue → M → M
  appendHeader : HeaderName → HeaderValue → M → M
  removeHeader : HeaderName → M → Option HeaderValue × M

structure Crates where
  -- types
  HeaderName : Type
  HttpMethod : Type
  Mime : Type
  StatusCode : Type
  IpAddr : Type
  Request : Type
  Response : Type
  PendingRequest : Type
  Backend : Type
  BackendBuilder : Type
  ConfigStore : Type
  Secret : Type
  SecretStore : Type
  Geo : Type
  Device : Type
  Endpoint : Type
  InspectConfig : Type
  InspectResponse : Type
  Processor : Type
  DispatchFragmentRequestFn : Type
  ProcessFragmentResponseFn : Type
  KVStore : Type
  InsertBuilder : Type
  LookupBuilder : Type
  LookupResponse : Type
  EraseBuilder : Type
  ListBuilder : Type
  ListResponse : Type
  ListPage : Type
  -- strings
  toStr : List UInt8 → Except String String
  toStringLossy : List UInt8 → String
  rustStr : List UInt8 → Except Abort String
  parseIpAddr : String → Except String IpAddr
  parseMime : String → Except String Mime
  -- `http`
  headerName : List UInt8 → Except String HeaderName
  headerValue : List UInt8 → Except String HeaderValue
  httpMethod : List UInt8 → Except String HttpMethod
  ofMethod : Method → HttpMethod
  statusCode : UInt16 → Except String StatusCode
  canonicalReason : StatusCode → Option (List UInt8)
  -- requests
  request : MessageOps HeaderName Request
  newRequest : HttpMethod → String → Request
  send : Request → Backend → Except String Response
  sendAsync : Request → Backend → Except String PendingRequest
  sendAsyncStreaming : Request → Backend → Except String (HostBody × PendingRequest)
  wait : PendingRequest → Except String Response
  select : List PendingRequest → Except String Response × List PendingRequest
  setBody : HostBody → Request → Request
  setBodyOctetStream : List UInt8 → Request → Request
  setContentType : Mime → Request → Request
  setMethod : HttpMethod → Request → Request
  setUrl : String → Request → Request
  setPath : String → Request → Request
  setQueryStr : String → Request → Request
  setVersion : Version → Request → Request
  setPass : Bool → Request → Request
  setTtl : UInt32 → Request → Request
  setStaleWhileRevalidate : UInt32 → Request → Request
  setPci : Bool → Request → Request
  setSurrogateKey : HeaderValue → Request → Request
  setAutoDecompressGzip : Bool → Request → Request
  setCacheKey : List UInt8 → Request → Request
  getClientDdosDetected : Request → Option Bool
  getOriginalHeaderNames : Request → Option (List (List UInt8))
  getOriginalHeaderCount : Request → Option UInt32
  -- responses, with durations in milliseconds
  response : MessageOps HeaderName Response
  getTtl : Response → Option ℕ
  getAge : Response → Option ℕ
  getStaleWhileRevalidate : Response → Option ℕ
  -- bodies
  appendTrailer : HeaderName → HeaderValue → HostBody → HostBody
  finishStreaming : HostBody → Except String Unit
  -- `purge`
  purgeSurrogateKey : String → Except String Unit
  softPurgeSurrogateKey : String → Except String Unit
  -- `backend`
  backendFromName : String → Except String Backend
  backendFinish : BackendBuilder → Except String Backend
  -- `config_store`
  configTryOpen : String → Except String ConfigStore
  configTryGet : ConfigStore → String → Except String (Option (List UInt8))
  configContains : ConfigStore → String → Bool
  -- `secret_store`
  secretFromBytes : List UInt8 → Except FastlyStatus Secret
  secretOpen : String → Except String SecretStore
  secretGet : SecretStore → String → Option Secret
  secretContains : SecretStore → String → Except String Bool
  -- `geo`, `device_detection` and `log`
  geoLookup : IpAddr → Option Geo
  deviceLookup : String → Option Device
  endpointTryFromName : String → Except String Endpoint
  -- `security`
  inspectConfigFromRequest : Request → InspectConfig
  inspectClientIp : IpAddr → InspectConfig → InspectConfig
  inspectCorp : String → InspectConfig → InspectConfig
  inspectWorkspace : String → InspectConfig → InspectConfig
  inspectBufferSize : ℕ → InspectConfig → InspectConfig
  inspect : InspectConfig → Except InspectError InspectResponse
  intoRedirect : InspectResponse → Option Response
  -- `esi`
  processResponse : Processor → Option Response → Option DispatchFragmentRequestFn →
    Option ProcessFragmentResponseFn → Response → Except String Unit × Response
  processDocument : Processor → String → Option DispatchFragmentRequestFn →
    Option ProcessFragmentResponseFn → Except String Unit × List UInt8
  -- `kv_store`
  insertExecute : InsertBuilder → String → HostBody → Except KVStoreError Unit
  insertExecuteAsync : InsertBuilder → String → HostBody → Except KVStoreError UInt32
  lookupExecute : LookupBuilder → String → Except KVStoreError LookupResponse
  lookupExecuteAsync : LookupBuilder → String → Except KVStoreError UInt32
  tryTakeBody : LookupResponse → Option HostBody × LookupResponse
  eraseExecute : EraseBuilder → String → Except KVStoreError Unit
  eraseExecuteAsync : EraseBuilder → String → Except KVStoreError UInt32
  listExecute : ListBuilder → Except KVStoreError ListPage
  listExecuteAsync : ListBuilder → Except KVStoreError UInt32
  listNext : ListResponse → Option (Except KVStoreError ListPage) × ListResponse
  kvOpen : String → Except KVStoreError (Option KVStore)
  kvLookup : KVStore → String → Except KVStoreError LookupResponse
  kvPendingLookupWait : KVStore → UInt32 → Except KVStoreError LookupResponse
  kvInsert : KVStore → String → HostBody → Except KVStoreError Unit
  kvPendingInsertWait : KVStore → UInt32 → Except KVStoreError Unit
  kvDelete : KVStore → String → Except KVStoreError Unit
  kvPendingDeleteWait : KVStore → UInt32 → Except KVStoreError Unit
  kvList : KVStore → Except KVStoreError ListPage
  kvPendingListWait : KVStore → UInt32 → Except KVStoreError ListPage

/-! ## Errors -/

/-- `fastly_status_message`. -/
def fastlyStatusMessage : FastlyStatus → String
  | .OK => "Ok"
  | .ERROR => "Unexpected error"
  | .INVAL => "Invalid argument"
  | .BADF => "Invalid handle"
  | .BUFLEN => "Buffer is too long"
  | .UNSUPPORTED => "Unsupported operation"
  | .BADALIGN => "Alignment error"
  | .HTTPINVALID => "Invalid HTTP error"
  | .HTTPUSER => "HTTP user error"
  | .HTTPINCOMPLETE => "HTTP incomplete message error"
  | .NONE => "Optional value did not exist"
  | .HTTPHEADTOOLARGE => "HTTP head too large error. Aw yeah it's the big brain time"
  | .HTTPINVALIDSTATUS => "HTTP invalid status error"
  | .LIMITEXCEEDED => "Limit exceeded"
  | .AGAIN => "Resource temporarily unavailable."
  | .other _ => "Unknown status code"

/-- `FastlyStatusWrapper` and its conversion. -/
def fastlyStatusWrapper {α : Type} (x : Except FastlyStatus α) : Except String α :=
  x.mapError fun status => "Fastly status error: " ++ fastlyStatusMessage status

/-- The conversion of the error of a crate, which chooses the variant. -/
def into {α : Type} (code : FastlyErrorCode) (x : Except String α) : Except FastlyError α :=
  x.mapError fun errorMsg => ⟨code, errorMsg⟩

end ComputeSdk
