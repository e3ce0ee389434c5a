import ComputeSdk.Model.Bridge.Crates

/-! # Plain crates

Crates whose messages are records, and behind whose services there is nothing. -/

namespace ComputeSdk

namespace Plain

/-- A URL, as the texts that it was set from. -/
structure Url where
  base : String := ""
  path : Option String := none
  query : Option String := none
  deriving DecidableEq

/-- What a request or a response holds. -/
structure Message where
  method : List UInt8 := []
  url : Url := {}
  version : Version := .HTTP_11
  headers : List (List UInt8 × HeaderValue) := []
  body : HostBody
  pass : Bool := false
  ttl : Option UInt32 := none
  staleWhileRevalidate : Option UInt32 := none
  pci : Bool := false
  surrogateKey : Option HeaderValue := none
  autoDecompressGzip : Bool := false
  cacheKey : Option (List UInt8) := none

/-- A body that a host holds which takes all it is offered. -/
def bodyOf (content : List UInt8) : HostBody := ⟨content, Schedule.atMost 0, Schedule.atMost 0⟩

/-- Text that is ASCII. -/
def toStr (bytes : List UInt8) : Except String String :=
  if bytes.all (· < 128) then .ok (String.ofList (bytes.map fun b => Char.ofNat b.toNat))
  else .error "invalid utf-8 sequence"

def headerName (bytes : List UInt8) : Except String (List UInt8) :=
  if bytes.length ≠ 0 ∧ bytes.all (fun b => 32 < b ∧ b < 127) then .ok bytes
  else .error "invalid HTTP header name"

def headerValue (bytes : List UInt8) : Except String HeaderValue :=
  if bytes.all (fun b => b = 9 ∨ 32 ≤ b ∧ b ≠ 127) then .ok ⟨bytes, false⟩
  else .error "failed to parse header value"

def httpMethod (bytes : List UInt8) : Except String (List UInt8) :=
  if bytes.length ≠ 0 ∧ bytes.all (fun b => 32 < b ∧ b < 127) then .ok bytes
  else .error "invalid HTTP method"

def statusCode (code : UInt16) : Except String UInt16 :=
  if 100 ≤ code ∧ code < 1000 then .ok code else .error "invalid status code"

def ascii (text : String) : List UInt8 := text.toList.map fun c => c.toNat.toUInt8

def ofMethod : Method → List UInt8
  | .GET => ascii "GET"
  | .POST => ascii "POST"
  | .PUT => ascii "PUT"
  | .DELETE => ascii "DELETE"
  | .HEAD => ascii "HEAD"
  | .OPTIONS => ascii "OPTIONS"
  | .CONNECT => ascii "CONNECT"
  | .PATCH => ascii "PATCH"
  | .TRACE => ascii "TRACE"

def contentType : List UInt8 := ascii "content-type"

abbrev Headers := List (List UInt8 × HeaderValue)

def putHeader (name : List UInt8) (value : HeaderValue) (headers : Headers) : Headers :=
  headers.filter (fun h => h.1 ≠ name) ++ [(name, value)]

def setHeader (name : List UInt8) (value : HeaderValue) (m : Message) : Message :=
  { m with headers := putHeader name value m.headers }

def setText (mime : String) (text : String) (m : Message) : Message :=
  setHeader contentType ⟨ascii mime, false⟩ { m with body := bodyOf (ascii text) }

def ops : MessageOps (List UInt8) Message where
  setBodyTextPlain := setText "text/plain; charset=utf-8"
  setBodyTextHtml := setText "text/html; charset=utf-8"
  getContentLength := fun _ => none
  containsHeader := fun name m => m.headers.any fun h => h.1 = name
  getHeader := fun name m => (m.headers.find? fun h => h.1 = name).map Prod.snd
  getHeaderAll := fun name m => (m.headers.filter fun h => h.1 = name).map Prod.snd
  setHeader := setHeader
  appendHeader := fun name value m => { m with headers := m.headers ++ [(name, value)] }
  removeHeader := fun name m => ((m.headers.find? fun h => h.1 = name).map Prod.snd,
    { m with headers := m.headers.filter fun h => h.1 ≠ name })

def message : Message := { body := bodyOf [] }

def crates : Crates where
  HeaderName := List UInt8
  HttpMethod := List UInt8
  Mime := String
  StatusCode := UInt16
  IpAddr := String
  Request := Message
  Response := Message
  PendingRequest := Message
  Backend := Unit
  BackendBuilder := Unit
  ConfigStore := Unit
  Secret := Unit
  SecretStore := Unit
  Geo := Unit
  Device := Unit
  Endpoint := Unit
  InspectConfig := Unit
  InspectResponse := Unit
  Processor := Unit
  DispatchFragmentRequestFn := Unit
  ProcessFragmentResponseFn := Unit
  KVStore := Unit
  InsertBuilder := Unit
  LookupBuilder := Unit
  LookupResponse := Unit
  EraseBuilder := Unit
  ListBuilder := Unit
  ListResponse := Unit
  ListPage := Unit
  toStr := toStr
  toStringLossy := fun bytes => String.ofList (bytes.map fun b => Char.ofNat b.toNat)
  rustStr := fun bytes => (toStr bytes).mapError fun message => ⟨message⟩
  parseIpAddr := .ok
  parseMime := .ok
  headerName := headerName
  headerValue := headerValue
  httpMethod := httpMethod
  ofMethod := ofMethod
  statusCode := statusCode
  canonicalReason := fun _ => none
  request := ops
  newRequest := fun method url => { method := method, url := ⟨url, none, none⟩, body := bodyOf [] }
  send := fun _ _ => .ok message
  sendAsync := fun req _ => .ok req
  sendAsyncStreaming := fun req _ => .ok (bodyOf [], req)
  wait := fun _ => .ok message
  select := fun reqs => (.ok message, reqs.tail)
  setBody := fun body m => { m with body := body }
  setBodyOctetStream := fun bytes m => setHeader contentType
    ⟨ascii "application/octet-stream", false⟩ { m with body := bodyOf bytes }
  setContentType := fun mime => setHeader contentType ⟨ascii mime, false⟩
  setMethod := fun method m => { m with method := method }
  setUrl := fun url m => { m with url := ⟨url, none, none⟩ }
  setPath := fun path m => { m with url := { m.url with path := some path } }
  setQueryStr := fun query m => { m with url := { m.url with query := some query } }
  setVersion := fun version m => { m with version := version }
  setPass := fun pass m => { m with pass := pass }
  setTtl := fun ttl m => { m with ttl := some ttl }
  setStaleWhileRevalidate := fun swr m => { m with staleWhileRevalidate := some swr }
  setPci := fun pci m => { m with pci := pci }
  setSurrogateKey := fun sk m => { m with surrogateKey := some sk }
  setAutoDecompressGzip := fun gzip m => { m with autoDecompressGzip := gzip }
  setCacheKey := fun key m => { m with cacheKey := some key }
  getClientDdosDetected := fun _ => none
  getOriginalHeaderNames := fun _ => none
  getOriginalHeaderCount := fun _ => none
  response := ops
  getTtl := fun _ => none
  getAge := fun _ => none
  getStaleWhileRevalidate := fun _ => none
  appendTrailer := fun _ _ body => body
  finishStreaming := fun _ => .ok ()
  purgeSurrogateKey := fun _ => .ok ()
  softPurgeSurrogateKey := fun _ => .ok ()
  backendFromName := fun _ => .ok ()
  backendFinish := fun _ => .ok ()
  configTryOpen := fun _ => .ok ()
  configTryGet := fun _ _ => .ok none
  configContains := fun _ _ => false
  secretFromBytes := fun _ => .ok ()
  secretOpen := fun _ => .ok ()
  secretGet := fun _ _ => none
  secretContains := fun _ _ => .ok false
  geoLookup := fun _ => none
  deviceLookup := fun _ => none
  endpointTryFromName := fun _ => .ok ()
  inspectConfigFromRequest := fun _ => ()
  inspectClientIp := fun _ _ => ()
  inspectCorp := fun _ _ => ()
  inspectWorkspace := fun _ _ => ()
  inspectBufferSize := fun _ _ => ()
  inspect := fun _ => .ok ()
  intoRedirect := fun _ => none
  processResponse := fun _ _ _ _ res => (.ok (), res)
  processDocument := fun _ doc _ _ => (.ok (), ascii doc)
  insertExecute := fun _ _ _ => .ok ()
  insertExecuteAsync := fun _ _ _ => .ok 0
  lookupExecute := fun _ _ => .ok ()
  lookupExecuteAsync := fun _ _ => .ok 0
  tryTakeBody := fun res => (none, res)
  eraseExecute := fun _ _ => .ok ()
  eraseExecuteAsync := fun _ _ => .ok 0
  listExecute := fun _ => .ok ()
  listExecuteAsync := fun _ => .ok 0
  listNext := fun iter => (none, iter)
  kvOpen := fun _ => .ok none
  kvLookup := fun _ _ => .ok ()
  kvPendingLookupWait := fun _ _ => .ok ()
  kvInsert := fun _ _ _ => .ok ()
  kvPendingInsertWait := fun _ _ => .ok ()
  kvDelete := fun _ _ => .ok ()
  kvPendingDeleteWait := fun _ _ => .ok ()
  kvList := fun _ => .ok ()
  kvPendingListWait := fun _ _ => .ok ()

end Plain

end ComputeSdk
