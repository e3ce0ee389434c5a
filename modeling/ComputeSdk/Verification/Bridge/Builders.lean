import ComputeSdk.Model.Bridge.Builders
import ComputeSdk.Model.Bridge.Plain
import ComputeSdk.Shared.Frame
import ComputeSdk.Verification.Body.MoveOn

/-! # Builders and setters

Each builder against the setter that it should call. Only `with_ttl` calls another one, and
only `with_body` moves its parameter on. -/

namespace ComputeSdk

open Shared

/-- How a chain of calls may stop. -/
inductive Stopped where
  | abort (a : Abort)
  | error (e : RawPtr FastlyError)
  deriving DecidableEq

/-- A setter and its builder, with the arguments. -/
inductive Call where
  | body (body : Body)
  | bodyTextPlain (body : List UInt8)
  | bodyTextHtml (body : List UInt8)
  | bodyOctetStream (body : List UInt8)
  | contentType (mime : List UInt8)
  | header (name value : List UInt8)
  | setHeader (name value : List UInt8)
  | method (method : Method)
  | methodStr (method : List UInt8)
  | url (url : List UInt8)
  | path (path : List UInt8)
  | queryString (query : List UInt8)
  | version (version : Version)
  | pass (pass : Bool)
  | ttl (ttl : UInt32)
  | staleWhileRevalidate (swr : UInt32)
  | pci (pci : Bool)
  | surrogateKey (sk : List UInt8)
  | autoDecompressGzip (gzip : Bool)
  | cacheKeyStr (key : List UInt8)
  | cacheKey (key : List UInt8)

/-- The components of a request. -/
inductive Component where
  | method
  | url
  | version
  | headers
  | body
  | pass
  | ttl
  | staleWhileRevalidate
  | pci
  | surrogateKey
  | autoDecompressGzip
  | cacheKey
  deriving DecidableEq

def Component.Value (F : Crates) (U : Type) : Component → Type
  | method => F.HttpMethod
  | url => U
  | version => Version
  | headers => List (F.HeaderName × HeaderValue)
  | body => List UInt8
  | pass => Bool
  | ttl => Option UInt32
  | staleWhileRevalidate => Option UInt32
  | pci => Bool
  | surrogateKey => Option HeaderValue
  | autoDecompressGzip => Bool
  | cacheKey => Option (List UInt8)

variable {F : Crates} {U : Type}

open Http.Request (asBool)

def orAbort {α : Type} (x : Except Abort α) : Except Stopped α := x.mapError .abort

def orError {α : Type} (x : Except FastlyError α) : Except Stopped α :=
  x.mapError fun e => .error (.box e)

theorem orAbort_eq_ok {α : Type} {x : Except Abort α} {a : α} (h : orAbort x = .ok a) :
    x = .ok a := by
  cases x with
  | error e => cases h
  | ok b => exact congrArg Except.ok (Except.ok.inj h)

/-- What a call that may fail in both ways leaves. -/
def orStopped (x : Http.Request.Built F) : Except Stopped F.Request :=
  (orAbort x).bind fun x => x.mapError .error

namespace Call

open Http.Request

/-- The call of the setter. -/
def set (slots : Slots FastlyError Unit) (req : F.Request) : Call → Except Stopped F.Request
  | body b => orAbort (Http.Request.setBody F b req)
  | bodyTextPlain t => orStopped (thenMove (setBodyTextPlain F t slots req))
  | bodyTextHtml t => orStopped (thenMove (setBodyTextHtml F t slots req))
  | bodyOctetStream b => .ok (setBodyOctetStream F b req)
  | contentType mime => orAbort (setContentType F mime req)
  | header name value => orStopped (thenMove (appendHeader F name value slots req))
  | setHeader name value => orStopped (thenMove (Http.Request.setHeader F name value slots req))
  | method m => .ok (setMethod F m req)
  | methodStr m => orStopped (thenMove (setMethodStr F m slots req))
  | url u => orStopped (thenMove (setUrl F u slots req))
  | path p => orStopped (thenMove (setPath F p slots req))
  | queryString q => orStopped (thenMove (setQueryString F q slots req))
  | version v => .ok (setVersion F v req)
  | pass p => .ok (setPass F p req)
  | ttl t => .ok (setTtl F t req)
  | staleWhileRevalidate s => .ok (setStaleWhileRevalidate F s req)
  | pci p => .ok (setPci F p req)
  | surrogateKey sk => orStopped (thenMove (setSurrogateKey F sk slots req))
  | autoDecompressGzip g => .ok (setAutoDecompressGzip F g req)
  | cacheKeyStr k => .ok (setCacheKeyStr F k req)
  | cacheKey k => .ok (setCacheKey F k req)

/-- The call of the builder. -/
def build (slots : Slots FastlyError Unit) (req : F.Request) : Call → Except Stopped F.Request
  | body b => orAbort (withBody F b req)
  | bodyTextPlain t => orStopped (withBodyTextPlain F t slots req)
  | bodyTextHtml t => orStopped (withBodyTextHtml F t slots req)
  | bodyOctetStream b => .ok (withBodyOctetStream F b req)
  | contentType mime => orAbort (withContentType F mime req)
  | header name value => orStopped (withHeader F name value slots req)
  | setHeader name value => orStopped (withSetHeader F name value slots req)
  | method m => .ok (withMethod F m req)
  | methodStr m => orStopped (withMethodStr F m slots req)
  | url u => orStopped (withUrl F u slots req)
  | path p => orStopped (withPath F p slots req)
  | queryString q => orStopped (withQueryString F q slots req)
  | version v => .ok (withVersion F v req)
  | pass p => .ok (withPass F p req)
  | ttl t => .ok (withTtl F t req)
  | staleWhileRevalidate s => .ok (withStaleWhileRevalidate F s req)
  | pci p => .ok (withPci F p req)
  | surrogateKey sk => orStopped (withSurrogateKey F sk slots req)
  | autoDecompressGzip g => .ok (withAutoDecompressGzip F g req)
  | cacheKeyStr k => .ok (withCacheKeyStr F k req)
  | cacheKey k => .ok (withCacheKey F k req)

/-! ### What a call makes of a request, once its arguments were accepted -/

def editHeader (set : F.HeaderName → HeaderValue → F.Request → F.Request)
    (name value : List UInt8) : Except Stopped (F.Request → F.Request) :=
  ((orError (into .invalidHeaderName (F.headerName name))).bind fun name =>
    (orError (into .invalidHeaderValue (F.headerValue value))).map fun value =>
      (name, value)).map fun p => set p.1 p.2

variable (F)

def edit : Call → Except Stopped (F.Request → F.Request)
  | body b => (orAbort b.flush).map fun b => F.setBody b.bod
  | bodyTextPlain t => (orError (into .utf8Error (F.toStr t))).map F.request.setBodyTextPlain
  | bodyTextHtml t => (orError (into .utf8Error (F.toStr t))).map F.request.setBodyTextHtml
  | bodyOctetStream b => .ok (F.setBodyOctetStream b)
  | contentType mime =>
    (orAbort ((expect "Invalid UTF-8" (F.toStr mime)).bind fun mime =>
      expect "Invalid MIME type" (F.parseMime mime))).map F.setContentType
  | header name value => editHeader F.request.appendHeader name value
  | setHeader name value => editHeader F.request.setHeader name value
  | method m => .ok (F.setMethod (F.ofMethod m))
  | methodStr m => (orError (into .invalidMethod (F.httpMethod m))).map F.setMethod
  | url u => (orError (into .utf8Error (F.toStr u))).map F.setUrl
  | path p => (orError (into .utf8Error (F.toStr p))).map F.setPath
  | queryString q => (orError (into .utf8Error (F.toStr q))).map F.setQueryStr
  | version v => .ok (F.setVersion v)
  | pass p => .ok (F.setPass p)
  | ttl t => .ok (F.setTtl t)
  | staleWhileRevalidate s => .ok (F.setStaleWhileRevalidate s)
  | pci p => .ok (F.setPci p)
  | surrogateKey sk =>
    (orError (into .invalidHeaderValue (F.headerValue sk))).map F.setSurrogateKey
  | autoDecompressGzip g => .ok (F.setAutoDecompressGzip g)
  | cacheKeyStr k => .ok (F.setCacheKey k)
  | cacheKey k => .ok (F.setCacheKey k)

/-- The same for the builder. -/
def built : Call → Except Stopped (F.Request → F.Request)
  | body b => (orAbort (b.move.bind Body.flush)).map fun b => F.setBody b.bod
  | ttl t => .ok (F.setPass (asBool t))
  | c => c.edit F

variable {F}

theorem orStopped_setter {α : Type} (set : α → F.Request → F.Request) (code : FastlyErrorCode)
    (x : Except String α) (slots : Slots FastlyError Unit) (req : F.Request) :
    orStopped (thenMove (checked (Sys.setter set code x) (fun _ _ => ()) slots req)) =
      ((orError (into code x)).map set).map fun f => f req := by
  cases x <;> rfl

theorem orStopped_headerSetter (set : F.HeaderName → HeaderValue → F.Request → F.Request)
    (name value : List UInt8) (slots : Slots FastlyError Unit) (req : F.Request) :
    orStopped (thenMove (checked (Sys.headerSetter F set name value) (fun _ _ => ()) slots req)) =
      (editHeader set name value).map fun f => f req := by
  unfold Sys.headerSetter editHeader
  cases F.headerName name with
  | error e => rfl
  | ok name => cases F.headerValue value <;> rfl

theorem set_eq (slots : Slots FastlyError Unit) (req : F.Request) (c : Call) :
    c.set slots req = (c.edit F).map fun f => f req := by
  cases c with
  | body b =>
      simp only [set, edit, Http.Request.setBody]
      cases b.flush <;> rfl
  | bodyTextPlain t => exact orStopped_setter _ _ _ _ req
  | bodyTextHtml t => exact orStopped_setter _ _ _ _ req
  | contentType mime =>
      have h : ∀ x : Except String F.Mime,
          orAbort (do
            let mime ← expect "Invalid MIME type" x
            pure (F.setContentType mime req)) =
          ((orAbort (expect "Invalid MIME type" x)).map F.setContentType).map
            fun f => f req := by
        rintro (_ | _) <;> rfl
      simp only [set, edit, setContentType, Sys.Request.setContentType]
      cases F.toStr mime with
      | error e => rfl
      | ok mime => exact h (F.parseMime mime)
  | header name value => exact orStopped_headerSetter _ name value _ req
  | setHeader name value => exact orStopped_headerSetter _ name value _ req
  | methodStr m => exact orStopped_setter _ _ _ _ req
  | url u => exact orStopped_setter _ _ _ _ req
  | path p => exact orStopped_setter _ _ _ _ req
  | queryString q => exact orStopped_setter _ _ _ _ req
  | surrogateKey sk => exact orStopped_setter _ _ _ _ req
  | _ => rfl

/-- All builders call their setters, except for two. -/
theorem build_eq_set (slots : Slots FastlyError Unit) (req : F.Request) (c : Call) :
    (c.build slots req = c.set slots req ∧ c.built F = c.edit F) ∨
      (∃ b, c = .body b) ∨ ∃ t, c = .ttl t := by
  cases c with
  | body b => exact .inr (.inl ⟨b, rfl⟩)
  | ttl t => exact .inr (.inr ⟨t, rfl⟩)
  | _ => exact .inl ⟨rfl, rfl⟩

theorem build_eq (slots : Slots FastlyError Unit) (req : F.Request) (c : Call) :
    c.build slots req = (c.built F).map fun f => f req := by
  rcases c.build_eq_set slots req with ⟨hbuild, hbuilt⟩ | ⟨b, rfl⟩ | ⟨t, rfl⟩
  · rw [hbuild, hbuilt, set_eq]
  · simp only [build, built, withBody, Http.Request.setBody]
    cases b.move with
    | error e => rfl
    | ok m =>
        change orAbort (m.flush.map _) = ((orAbort m.flush).map _).map _
        cases m.flush <;> rfl
  · rfl

end Call

/-! ## Components -/

/-- Each setter of the crate changes only its own component. The text setters also set the
content type. -/
structure Componentwise (view : (i : Component) → F.Request → i.Value F U) : Prop where
  setBody : ∀ x, Only view [.body] (F.setBody x)
  setBodyTextPlain : ∀ x, Only view [.body, .headers] (F.request.setBodyTextPlain x)
  setBodyTextHtml : ∀ x, Only view [.body, .headers] (F.request.setBodyTextHtml x)
  setBodyOctetStream : ∀ x, Only view [.body, .headers] (F.setBodyOctetStream x)
  setContentType : ∀ x, Only view [.headers] (F.setContentType x)
  setHeader : ∀ x y, Only view [.headers] (F.request.setHeader x y)
  appendHeader : ∀ x y, Only view [.headers] (F.request.appendHeader x y)
  setMethod : ∀ x, Only view [.method] (F.setMethod x)
  setUrl : ∀ x, Only view [.url] (F.setUrl x)
  setPath : ∀ x, Only view [.url] (F.setPath x)
  setQueryStr : ∀ x, Only view [.url] (F.setQueryStr x)
  setVersion : ∀ x, Only view [.version] (F.setVersion x)
  setPass : ∀ x, Only view [.pass] (F.setPass x)
  setTtl : ∀ x, Only view [.ttl] (F.setTtl x)
  setStaleWhileRevalidate :
    ∀ x, Only view [.staleWhileRevalidate] (F.setStaleWhileRevalidate x)
  setPci : ∀ x, Only view [.pci] (F.setPci x)
  setSurrogateKey : ∀ x, Only view [.surrogateKey] (F.setSurrogateKey x)
  setAutoDecompressGzip : ∀ x, Only view [.autoDecompressGzip] (F.setAutoDecompressGzip x)
  setCacheKey : ∀ x, Only view [.cacheKey] (F.setCacheKey x)
  body_setBody : ∀ x req, view .body (F.setBody x req) = x.content
  body_setBodyTextPlain : ∀ x, Overwrites view .body (F.request.setBodyTextPlain x)
  body_setBodyTextHtml : ∀ x, Overwrites view .body (F.request.setBodyTextHtml x)
  body_setBodyOctetStream : ∀ x, Overwrites view .body (F.setBodyOctetStream x)
  pass_setPass : ∀ x req, view .pass (F.setPass x req) = x
  ttl_setTtl : ∀ x req, view .ttl (F.setTtl x req) = some x

namespace Plain

def view : (i : Component) → crates.Request → i.Value crates Plain.Url
  | .method, (m : Message) => m.method
  | .url, (m : Message) => m.url
  | .version, (m : Message) => m.version
  | .headers, (m : Message) => m.headers
  | .body, (m : Message) => m.body.content
  | .pass, (m : Message) => m.pass
  | .ttl, (m : Message) => m.ttl
  | .staleWhileRevalidate, (m : Message) => m.staleWhileRevalidate
  | .pci, (m : Message) => m.pci
  | .surrogateKey, (m : Message) => m.surrogateKey
  | .autoDecompressGzip, (m : Message) => m.autoDecompressGzip
  | .cacheKey, (m : Message) => m.cacheKey

/-- A setter that makes the headers of what they were. -/
theorem only_headers (g : Headers → Headers) :
    Only view [.headers] fun (m : Message) => { m with headers := g m.headers } where
  others i hi s := by cases i <;> first | rfl | simp at hi
  own i s t hst := by cases i <;> first | exact hst | exact congrArg g hst

/-- A setter that sets the body and the content type. -/
theorem only_content (b : HostBody) (g : Headers → Headers) :
    Only view [.body, .headers] fun (m : Message) => { m with body := b, headers := g m.headers }
    where
  others i hi s := by cases i <;> first | rfl | simp at hi
  own i s t hst := by cases i <;> first | exact hst | rfl | exact congrArg g hst

theorem only_url (g : Plain.Url → Plain.Url) :
    Only view [.url] fun (m : Message) => { m with url := g m.url } where
  others i hi s := by cases i <;> first | rfl | simp at hi
  own i s t hst := by cases i <;> first | exact hst | exact congrArg g hst

theorem componentwise : Componentwise view where
  setBodyTextPlain x := only_content (bodyOf (ascii x))
    (putHeader contentType ⟨ascii "text/plain; charset=utf-8", false⟩)
  setBodyTextHtml x := only_content (bodyOf (ascii x))
    (putHeader contentType ⟨ascii "text/html; charset=utf-8", false⟩)
  setBodyOctetStream x := only_content (bodyOf x)
    (putHeader contentType ⟨ascii "application/octet-stream", false⟩)
  setContentType x := only_headers (putHeader contentType ⟨ascii x, false⟩)
  setHeader x y := only_headers (putHeader x y)
  appendHeader x y := only_headers (List.append · [(x, y)])
  setUrl x := only_url fun _ => ⟨x, none, none⟩
  setPath x := only_url fun url => { url with path := some x }
  setQueryStr x := only_url fun url => { url with query := some x }
  setBody x := .of_overwrites
    (fun i hi s => by cases i <;> first | rfl | exact absurd rfl hi) fun _ _ => rfl
  setMethod x := .of_overwrites
    (fun i hi s => by cases i <;> first | rfl | exact absurd rfl hi) fun _ _ => rfl
  setVersion x := .of_overwrites
    (fun i hi s => by cases i <;> first | rfl | exact absurd rfl hi) fun _ _ => rfl
  setPass x := .of_overwrites
    (fun i hi s => by cases i <;> first | rfl | exact absurd rfl hi) fun _ _ => rfl
  setTtl x := .of_overwrites
    (fun i hi s => by cases i <;> first | rfl | exact absurd rfl hi) fun _ _ => rfl
  setStaleWhileRevalidate x := .of_overwrites
    (fun i hi s => by cases i <;> first | rfl | exact absurd rfl hi) fun _ _ => rfl
  setPci x := .of_overwrites
    (fun i hi s => by cases i <;> first | rfl | exact absurd rfl hi) fun _ _ => rfl
  setSurrogateKey x := .of_overwrites
    (fun i hi s => by cases i <;> first | rfl | exact absurd rfl hi) fun _ _ => rfl
  setAutoDecompressGzip x := .of_overwrites
    (fun i hi s => by cases i <;> first | rfl | exact absurd rfl hi) fun _ _ => rfl
  setCacheKey x := .of_overwrites
    (fun i hi s => by cases i <;> first | rfl | exact absurd rfl hi) fun _ _ => rfl
  body_setBody x req := rfl
  body_setBodyTextPlain x s t := rfl
  body_setBodyTextHtml x s t := rfl
  body_setBodyOctetStream x s t := rfl
  pass_setPass x req := rfl
  ttl_setTtl x req := rfl

end Plain

namespace Call

/-- The components that a setter changes. -/
def components : Call → List Component
  | body _ => [.body]
  | bodyTextPlain _ => [.body, .headers]
  | bodyTextHtml _ => [.body, .headers]
  | bodyOctetStream _ => [.body, .headers]
  | contentType _ => [.headers]
  | header _ _ => [.headers]
  | setHeader _ _ => [.headers]
  | method _ => [.method]
  | methodStr _ => [.method]
  | url _ => [.url]
  | path _ => [.url]
  | queryString _ => [.url]
  | version _ => [.version]
  | pass _ => [.pass]
  | ttl _ => [.ttl]
  | staleWhileRevalidate _ => [.staleWhileRevalidate]
  | pci _ => [.pci]
  | surrogateKey _ => [.surrogateKey]
  | autoDecompressGzip _ => [.autoDecompressGzip]
  | cacheKeyStr _ => [.cacheKey]
  | cacheKey _ => [.cacheKey]

theorem map_eq_ok {ε α β : Type} {x : Except ε α} {f : α → β} {b : β} (h : x.map f = .ok b) :
    ∃ a, x = .ok a ∧ f a = b := by
  cases x with
  | error e => cases h
  | ok a => exact ⟨a, rfl, Except.ok.inj h⟩

variable {view : (i : Component) → F.Request → i.Value F U}

theorem only_edit (h : Componentwise view) {c : Call} {f : F.Request → F.Request}
    (hf : c.edit F = .ok f) : Only view c.components f := by
  cases c with
  | body b =>
      obtain ⟨b, -, rfl⟩ := map_eq_ok hf
      exact h.setBody b.bod
  | bodyTextPlain t =>
      obtain ⟨t, -, rfl⟩ := map_eq_ok hf
      exact h.setBodyTextPlain t
  | bodyTextHtml t =>
      obtain ⟨t, -, rfl⟩ := map_eq_ok hf
      exact h.setBodyTextHtml t
  | bodyOctetStream b =>
      obtain rfl := Except.ok.inj hf
      exact h.setBodyOctetStream b
  | contentType mime =>
      obtain ⟨mime, -, rfl⟩ := map_eq_ok hf
      exact h.setContentType mime
  | header name value =>
      obtain ⟨⟨n, v⟩, -, rfl⟩ := map_eq_ok hf
      exact h.appendHeader n v
  | setHeader name value =>
      obtain ⟨⟨n, v⟩, -, rfl⟩ := map_eq_ok hf
      exact h.setHeader n v
  | method m =>
      obtain rfl := Except.ok.inj hf
      exact h.setMethod (F.ofMethod m)
  | methodStr m =>
      obtain ⟨m, -, rfl⟩ := map_eq_ok hf
      exact h.setMethod m
  | url u =>
      obtain ⟨u, -, rfl⟩ := map_eq_ok hf
      exact h.setUrl u
  | path p =>
      obtain ⟨p, -, rfl⟩ := map_eq_ok hf
      exact h.setPath p
  | queryString q =>
      obtain ⟨q, -, rfl⟩ := map_eq_ok hf
      exact h.setQueryStr q
  | version v =>
      obtain rfl := Except.ok.inj hf
      exact h.setVersion v
  | pass p =>
      obtain rfl := Except.ok.inj hf
      exact h.setPass p
  | ttl t =>
      obtain rfl := Except.ok.inj hf
      exact h.setTtl t
  | staleWhileRevalidate s =>
      obtain rfl := Except.ok.inj hf
      exact h.setStaleWhileRevalidate s
  | pci p =>
      obtain rfl := Except.ok.inj hf
      exact h.setPci p
  | surrogateKey sk =>
      obtain ⟨sk, -, rfl⟩ := map_eq_ok hf
      exact h.setSurrogateKey sk
  | autoDecompressGzip g =>
      obtain rfl := Except.ok.inj hf
      exact h.setAutoDecompressGzip g
  | cacheKeyStr k =>
      obtain rfl := Except.ok.inj hf
      exact h.setCacheKey k
  | cacheKey k =>
      obtain rfl := Except.ok.inj hf
      exact h.setCacheKey k

/-! ### The components that the two chains treat differently -/

/-- The argument of `set_pass`. -/
def passArgument : Call → Option Bool
  | pass p => some p
  | _ => none

/-- The argument of `set_pass` in a builder. -/
def passBuilt : Call → Option Bool
  | pass p => some p
  | ttl t => some (asBool t)
  | _ => none

def ttlArgument : Call → Option (Option UInt32)
  | ttl t => some (some t)
  | _ => none

def setsBody : Call → Bool
  | body _ => true
  | bodyTextPlain _ => true
  | bodyTextHtml _ => true
  | bodyOctetStream _ => true
  | _ => false

theorem pass_edit (h : Componentwise view) {c : Call} {f : F.Request → F.Request}
    (hf : c.edit F = .ok f) (req : F.Request) :
    view .pass (f req) = c.passArgument.getD (view .pass req) := by
  cases c with
  | pass p =>
      obtain rfl := Except.ok.inj hf
      exact h.pass_setPass p req
  | _ => exact (only_edit h hf).others .pass (by simp [components]) req

theorem ttl_edit (h : Componentwise view) {c : Call} {f : F.Request → F.Request}
    (hf : c.edit F = .ok f) (req : F.Request) :
    view .ttl (f req) = c.ttlArgument.getD (view .ttl req) := by
  cases c with
  | ttl t =>
      obtain rfl := Except.ok.inj hf
      exact h.ttl_setTtl t req
  | _ => exact (only_edit h hf).others .ttl (by simp [components]) req

theorem built_cases {c : Call} {f : F.Request → F.Request} (hf : c.built F = .ok f) :
    (c.edit F = .ok f ∧ (∀ t, c ≠ .ttl t) ∧ ∀ b, c ≠ .body b) ∨
      (∃ t, c = .ttl t ∧ f = F.setPass (asBool t)) ∨
      ∃ b m, c = .body b ∧ b.move.bind Body.flush = .ok m ∧ f = F.setBody m.bod := by
  cases c with
  | ttl t => exact .inr (.inl ⟨t, rfl, (Except.ok.inj hf).symm⟩)
  | body b =>
      obtain ⟨m, hm, rfl⟩ := map_eq_ok hf
      exact .inr (.inr ⟨b, m, rfl, orAbort_eq_ok hm, rfl⟩)
  | _ => exact .inl ⟨hf, by simp, by simp⟩

/-- What a builder does, its setter can do. The other components are treated alike. -/
theorem edit_of_built (h : Componentwise view) {c : Call} {f : F.Request → F.Request}
    (hf : c.built F = .ok f) :
    ∃ g, c.edit F = .ok g ∧ ∀ i, i ∉ [.body, .pass, .ttl] → ∀ s t, view i s = view i t →
      view i (f s) = view i (g t) := by
  rcases built_cases hf with ⟨hedit, -⟩ | ⟨t, rfl, rfl⟩ | ⟨b, m, rfl, hm, rfl⟩
  · exact ⟨f, hedit, fun i _ => (only_edit h hedit).own i⟩
  · refine ⟨F.setTtl t, rfl, fun i hi s s' hs => ?_⟩
    rw [(h.setPass (asBool t)).others i (by simp_all) s, (h.setTtl t).others i (by simp_all) s', hs]
  · obtain ⟨m', hm', -⟩ := Body.flush_of_move hm
    refine ⟨F.setBody m'.bod, by simp only [edit, hm', orAbort, Except.mapError, Except.map],
      fun i hi s s' hs => ?_⟩
    rw [(h.setBody m.bod).others i (by simp_all) s, (h.setBody m'.bod).others i (by simp_all) s',
      hs]

theorem pass_built (h : Componentwise view) {c : Call} {f : F.Request → F.Request}
    (hf : c.built F = .ok f) (req : F.Request) :
    view .pass (f req) = c.passBuilt.getD (view .pass req) := by
  rcases built_cases hf with ⟨hedit, ht, -⟩ | ⟨t, rfl, rfl⟩ | ⟨b, m, rfl, -, rfl⟩
  · rw [pass_edit h hedit]
    cases c with
    | ttl t => exact absurd rfl (ht t)
    | _ => rfl
  · exact h.pass_setPass (asBool t) req
  · exact (h.setBody m.bod).others .pass (by simp) req

theorem ttl_built (h : Componentwise view) {c : Call} {f : F.Request → F.Request}
    (hf : c.built F = .ok f) (req : F.Request) : view .ttl (f req) = view .ttl req := by
  rcases built_cases hf with ⟨hedit, ht, -⟩ | ⟨t, rfl, rfl⟩ | ⟨b, m, rfl, -, rfl⟩
  · rw [ttl_edit h hedit]
    cases c with
    | ttl t => exact absurd rfl (ht t)
    | _ => rfl
  · exact (h.setPass (asBool t)).others .ttl (by simp) req
  · exact (h.setBody m.bod).others .ttl (by simp) req

/-- What a call writes to the body, where `makes` says what it makes of a request. -/
def bodyWrite (view : (i : Component) → F.Request → i.Value F U) (req : F.Request)
    (makes : Call → Except Stopped (F.Request → F.Request)) (c : Call) : Option (List UInt8) :=
  if c.setsBody then some ((makes c).toOption.elim (view .body req) fun f => view .body (f req))
  else none

theorem isSome_bodyWrite (req : F.Request)
    (makes : Call → Except Stopped (F.Request → F.Request)) (c : Call) :
    (bodyWrite view req makes c).isSome = c.setsBody := by
  unfold bodyWrite
  cases c.setsBody <;> rfl

theorem bodyWrite_of_ok (req : F.Request)
    {makes : Call → Except Stopped (F.Request → F.Request)} {c : Call}
    {f : F.Request → F.Request} (hf : makes c = .ok f) (hset : c.setsBody) :
    bodyWrite view req makes c = some (view .body (f req)) := by
  rw [bodyWrite, if_pos hset, hf]
  rfl

theorem overwrites_body (h : Componentwise view) {c : Call} {f : F.Request → F.Request}
    (hf : c.edit F = .ok f) (hset : c.setsBody) : Overwrites view .body f := by
  cases c with
  | body b =>
      obtain ⟨b, -, rfl⟩ := map_eq_ok hf
      intro s t
      rw [h.body_setBody, h.body_setBody]
  | bodyTextPlain t =>
      obtain ⟨t, -, rfl⟩ := map_eq_ok hf
      exact h.body_setBodyTextPlain t
  | bodyTextHtml t =>
      obtain ⟨t, -, rfl⟩ := map_eq_ok hf
      exact h.body_setBodyTextHtml t
  | bodyOctetStream b =>
      obtain rfl := Except.ok.inj hf
      exact h.body_setBodyOctetStream b
  | _ => cases hset

theorem body_not_mem_components {c : Call} (hset : ¬ c.setsBody) : .body ∉ c.components := by
  cases c <;> simp_all [components, setsBody]

theorem body_edit (h : Componentwise view) {c : Call} {f : F.Request → F.Request}
    (hf : c.edit F = .ok f) (req s : F.Request) :
    view .body (f s) = (bodyWrite view req (edit F) c).getD (view .body s) := by
  by_cases hset : c.setsBody
  · rw [bodyWrite_of_ok req hf hset]
    exact overwrites_body h hf hset s req
  · rw [bodyWrite, if_neg hset]
    exact (only_edit h hf).others .body (body_not_mem_components hset) s

theorem body_built (h : Componentwise view) {c : Call} {f : F.Request → F.Request}
    (hf : c.built F = .ok f) (req s : F.Request) :
    view .body (f s) = (bodyWrite view req (built F) c).getD (view .body s) := by
  rcases built_cases hf with ⟨hedit, -⟩ | ⟨t, rfl, rfl⟩ | ⟨b, m, rfl, -, rfl⟩
  · rw [body_edit h hedit req s, bodyWrite, bodyWrite, hf, hedit]
  · exact (h.setPass (asBool t)).others .body (by simp) s
  · rw [bodyWrite_of_ok req hf rfl]
    exact (h.body_setBody m.bod s).trans (h.body_setBody m.bod req).symm

/-- A call writes the same in both chains, unless it moves a body that is not idle. -/
theorem bodyWrite_eq_iff (h : Componentwise view) {c : Call} {f : F.Request → F.Request}
    (hf : c.built F = .ok f) (req : F.Request) :
    bodyWrite view req (built F) c = bodyWrite view req (edit F) c ↔
      ∀ b, c = .body b → b.MoveIdle := by
  rcases built_cases hf with ⟨hedit, -, hb⟩ | ⟨t, rfl, rfl⟩ | ⟨b, m, rfl, hm, rfl⟩
  · refine iff_of_true ?_ fun b hc => absurd hc (hb b)
    rw [bodyWrite, bodyWrite, hf, hedit]
  · exact iff_of_true rfl fun b hc => nomatch hc
  · obtain ⟨m', hm', hidle⟩ := Body.flush_of_move hm
    have hedit : (Call.body b).edit F = .ok (F.setBody m'.bod) := by
      simp only [edit, hm', orAbort, Except.mapError, Except.map]
    have hwrite : bodyWrite view req (built F) (.body b) = some m.bod.content :=
      (bodyWrite_of_ok req hf rfl).trans (congrArg some (h.body_setBody m.bod req))
    have hwrite' : bodyWrite view req (edit F) (.body b) = some m'.bod.content :=
      (bodyWrite_of_ok req hedit rfl).trans (congrArg some (h.body_setBody m'.bod req))
    rw [hwrite, hwrite', Option.some.injEq, hidle]
    constructor
    · intro hb b' hb'
      obtain rfl := Call.body.inj hb'
      exact hb
    · exact fun hb => hb b rfl

end Call

end ComputeSdk
