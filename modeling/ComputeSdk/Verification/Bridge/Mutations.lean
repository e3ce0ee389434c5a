import ComputeSdk.Verification.Bridge.Builders
import ComputeSdk.Verification.Bridge.Errors

/-! # Failed mutations

The mutators of a request that may fail parse all of their arguments before they call the
crate. -/

namespace ComputeSdk

open Shared

/-- A mutator of a request that may fail, with its arguments. -/
inductive Mutator where
  | setHeader (name value : List UInt8)
  | appendHeader (name value : List UInt8)
  | removeHeader (name : List UInt8)
  | setMethod (method : List UInt8)
  | setPath (path : List UInt8)
  | setQueryString (query : List UInt8)
  | setSurrogateKey (sk : List UInt8)
  | setBodyTextPlain (body : List UInt8)
  | setBodyTextHtml (body : List UInt8)

namespace Mutator

variable {F : Crates} {U : Type}

/-- The slots of a mutator that returns no value. -/
def noOut (slots : Slots FastlyError (List UInt8)) : Slots FastlyError Unit := ⟨slots.err, ()⟩

/-- A mutator that returns no value, among those that may return one. -/
def asVoid (x : Expected FastlyError Unit F.Request) :
    Expected FastlyError (Option (List UInt8)) F.Request :=
  x.map fun p => (p.1.map fun _ => none, p.2)

/-- The call, where the slots hold what they happen to hold. -/
def call (slots : Slots FastlyError (List UInt8)) (req : F.Request) :
    Mutator → Expected FastlyError (Option (List UInt8)) F.Request
  | setHeader name value => asVoid (Http.Request.setHeader F name value (noOut slots) req)
  | appendHeader name value => asVoid (Http.Request.appendHeader F name value (noOut slots) req)
  | removeHeader name => Http.Request.removeHeader F name slots req
  | setMethod method => asVoid (Http.Request.setMethodStr F method (noOut slots) req)
  | setPath path => asVoid (Http.Request.setPath F path (noOut slots) req)
  | setQueryString query => asVoid (Http.Request.setQueryString F query (noOut slots) req)
  | setSurrogateKey sk => asVoid (Http.Request.setSurrogateKey F sk (noOut slots) req)
  | setBodyTextPlain body => asVoid (Http.Request.setBodyTextPlain F body (noOut slots) req)
  | setBodyTextHtml body => asVoid (Http.Request.setBodyTextHtml F body (noOut slots) req)

/-! ## What a mutator should do -/

/-- The error of an argument that does not parse. -/
def rejection {α : Type} (code : FastlyErrorCode) : Except String α → Option FastlyError
  | .ok _ => none
  | .error errorMsg => some ⟨code, errorMsg⟩

variable (F)

/-- The error of the first argument that does not parse, a name before its value. -/
def rejected : Mutator → Option FastlyError
  | setHeader name value =>
    (rejection .invalidHeaderName (F.headerName name)).or
      (rejection .invalidHeaderValue (F.headerValue value))
  | appendHeader name value =>
    (rejection .invalidHeaderName (F.headerName name)).or
      (rejection .invalidHeaderValue (F.headerValue value))
  | removeHeader name => rejection .invalidHeaderName (F.headerName name)
  | setMethod method => rejection .invalidMethod (F.httpMethod method)
  | setPath path => rejection .utf8Error (F.toStr path)
  | setQueryString query => rejection .utf8Error (F.toStr query)
  | setSurrogateKey sk => rejection .invalidHeaderValue (F.headerValue sk)
  | setBodyTextPlain body => rejection .utf8Error (F.toStr body)
  | setBodyTextHtml body => rejection .utf8Error (F.toStr body)

variable {F}

/-- The components that a mutator is documented to change. -/
def components : Mutator → List Component
  | setHeader _ _ => [.headers]
  | appendHeader _ _ => [.headers]
  | removeHeader _ => [.headers]
  | setMethod _ => [.method]
  | setPath _ => [.url]
  | setQueryString _ => [.url]
  | setSurrogateKey _ => [.surrogateKey]
  | setBodyTextPlain _ => [.body, .headers]
  | setBodyTextHtml _ => [.body, .headers]

/-- Each setter of the crate leaves all components but its own. The text setters also set the
content type. -/
structure SettersLeave (view : (i : Component) → F.Request → i.Value F U) : Prop where
  setHeader : ∀ x y, Leaves view [.headers] (F.request.setHeader x y)
  appendHeader : ∀ x y, Leaves view [.headers] (F.request.appendHeader x y)
  removeHeader : ∀ x, Leaves view [.headers] fun req => (F.request.removeHeader x req).2
  setMethod : ∀ x, Leaves view [.method] (F.setMethod x)
  setPath : ∀ x, Leaves view [.url] (F.setPath x)
  setQueryStr : ∀ x, Leaves view [.url] (F.setQueryStr x)
  setSurrogateKey : ∀ x, Leaves view [.surrogateKey] (F.setSurrogateKey x)
  setBodyTextPlain : ∀ x, Leaves view [.body, .headers] (F.request.setBodyTextPlain x)
  setBodyTextHtml : ∀ x, Leaves view [.body, .headers] (F.request.setBodyTextHtml x)

/-- What a call that went well may leave: the error of a rejected argument in a box with the
request as it was, or a request that differs in the documented components. -/
structure Atomic (view : (i : Component) → F.Request → i.Value F U) (req : F.Request)
    (m : Mutator) (result : Except (RawPtr FastlyError) (Option (List UInt8)))
    (req' : F.Request) : Prop where
  error : ∀ e, result = .error e → req' = req ∧ (m.rejected F).map .box = some e
  success : ∀ v, result = .ok v → m.rejected F = none ∧
    ∀ i, i ∉ m.components → view i req' = view i req

/-! ## One call -/

variable {view : (i : Component) → F.Request → i.Value F U} {m : Mutator} {req : F.Request}

theorem atomic_of_rejected {e : FastlyError} (h : m.rejected F = some e) :
    Atomic view req m (.error (.box e)) req where
  error e' he' := by
    obtain rfl := Except.error.inj he'
    exact ⟨rfl, by rw [h]; rfl⟩
  success v hv := nomatch hv

theorem atomic_of_parsed {f : F.Request → F.Request} (h : m.rejected F = none)
    (hf : Leaves view m.components f) (v : Option (List UInt8)) :
    Atomic view req m (.ok v) (f req) where
  error _ he := nomatch he
  success _ _ := ⟨h, fun i hi => hf i hi req⟩

/-- A setter parses its argument before it calls the crate. -/
theorem exists_atomic_setter {α : Type} {set : α → F.Request → F.Request}
    {code : FastlyErrorCode} {x : Except String α} (hm : m.rejected F = rejection code x)
    (hset : ∀ a, Leaves view m.components (set a)) (slots : Slots FastlyError Unit) :
    ∃ result req', asVoid (checked (Sys.setter set code x) (fun _ _ => ()) slots req) =
      .ok (result, req') ∧ Atomic view req m result req' := by
  cases x with
  | ok a => exact ⟨.ok none, set a req, rfl, atomic_of_parsed hm (hset a) none⟩
  | error errorMsg => exact ⟨_, req, rfl, atomic_of_rejected hm⟩

/-- A setter of a header parses the name, then the value, before it calls the crate. -/
theorem exists_atomic_headerSetter {set : F.HeaderName → HeaderValue → F.Request → F.Request}
    {name value : List UInt8}
    (hm : m.rejected F = (rejection .invalidHeaderName (F.headerName name)).or
      (rejection .invalidHeaderValue (F.headerValue value)))
    (hset : ∀ name value, Leaves view m.components (set name value))
    (slots : Slots FastlyError Unit) :
    ∃ result req', asVoid (checked (Sys.headerSetter F set name value) (fun _ _ => ()) slots req) =
      .ok (result, req') ∧ Atomic view req m result req' := by
  unfold Sys.headerSetter
  cases hname : F.headerName name with
  | error errorMsg =>
      rw [hname] at hm
      exact ⟨_, req, rfl, atomic_of_rejected hm⟩
  | ok n =>
      cases hvalue : F.headerValue value with
      | error errorMsg =>
          rw [hname, hvalue] at hm
          exact ⟨_, req, rfl, atomic_of_rejected hm⟩
      | ok v =>
          rw [hname, hvalue] at hm
          exact ⟨.ok none, set n v req, rfl, atomic_of_parsed hm (hset n v) none⟩

/-- The bytes that are returned are those of the value that the crate removes. -/
theorem exists_atomic_removeHeader {name : List UInt8}
    (h : ∀ name, Leaves view [.headers] fun req => (F.request.removeHeader name req).2)
    (slots : Slots FastlyError (List UInt8)) :
    ∃ result req', Http.Request.removeHeader F name slots req = .ok (result, req') ∧
      Atomic view req (.removeHeader name) result req' := by
  have hreports : Http.Request.removeHeader F name slots req = _ :=
    reports_removeHeader F F.request name slots req
  rw [hreports, withHeaderName]
  cases hname : F.headerName name with
  | error errorMsg =>
      refine ⟨_, req, rfl, atomic_of_rejected ?_⟩
      rw [rejected, hname]
      rfl
  | ok n =>
      refine ⟨_, (F.request.removeHeader n req).2, rfl,
        atomic_of_parsed (f := fun req => (F.request.removeHeader n req).2) ?_ (h n) _⟩
      rw [rejected, hname]
      rfl

theorem exists_atomic_call (h : SettersLeave view) (m : Mutator)
    (slots : Slots FastlyError (List UInt8)) (req : F.Request) :
    ∃ result req', m.call slots req = .ok (result, req') ∧ Atomic view req m result req' := by
  cases m with
  | setHeader name value => exact exists_atomic_headerSetter rfl h.setHeader _
  | appendHeader name value => exact exists_atomic_headerSetter rfl h.appendHeader _
  | removeHeader name => exact exists_atomic_removeHeader h.removeHeader slots
  | setMethod method => exact exists_atomic_setter rfl h.setMethod _
  | setPath path => exact exists_atomic_setter rfl h.setPath _
  | setQueryString query => exact exists_atomic_setter rfl h.setQueryStr _
  | setSurrogateKey sk => exact exists_atomic_setter rfl h.setSurrogateKey _
  | setBodyTextPlain body => exact exists_atomic_setter rfl h.setBodyTextPlain _
  | setBodyTextHtml body => exact exists_atomic_setter rfl h.setBodyTextHtml _

/-! ## A sequence of calls -/

/-- One call of a sequence, with slots of its own. -/
def step (req : F.Request) (c : Mutator × Slots FastlyError (List UInt8)) :
    Expected FastlyError (Option (List UInt8)) F.Request :=
  c.1.call c.2 req

theorem eq_of_step_error (h : SettersLeave view) {c : Mutator × Slots FastlyError (List UInt8)}
    {e : RawPtr FastlyError} {req' : F.Request} (hstep : step req c = .ok (.error e, req')) :
    req' = req := by
  obtain ⟨result, req₁, hcall, hatomic⟩ := exists_atomic_call h c.1 c.2 req
  obtain ⟨rfl, rfl⟩ := Prod.mk.inj (Except.ok.inj (hcall.symm.trans hstep))
  exact (hatomic.error e rfl).1

/-- No call of a sequence stops the process. -/
theorem exists_run_step (h : SettersLeave view) (req : F.Request)
    (cs : List (Mutator × Slots FastlyError (List UInt8))) :
    ∃ req', run (after step) req cs = .ok req' := by
  have next : ∀ (past : List (Mutator × Slots FastlyError (List UInt8))) (req : F.Request) c,
      True → ∃ req', after step req c = .ok req' ∧ True := by
    intro past req c _
    obtain ⟨result, req', hcall, -⟩ := exists_atomic_call h c.1 c.2 req
    exact ⟨req', after_of_ok hcall, trivial⟩
  obtain ⟨req', hrun, -⟩ := run_history (I := fun _ _ => True) trivial next cs
  exact ⟨req', hrun⟩

/-- Each call is atomic, and a sequence of calls leaves what its successful calls leave. -/
theorem calls_atomic (h : SettersLeave view) :
    (∀ (m : Mutator) (slots : Slots FastlyError (List UInt8)) (req : F.Request),
      ∃ result req', m.call slots req = .ok (result, req') ∧ Atomic view req m result req') ∧
    ∀ (req : F.Request) (cs : List (Mutator × Slots FastlyError (List UInt8))),
      ∃ req', run (after step) req cs = .ok req' ∧
        run (after step) req (accepted step req cs) = .ok req' := by
  refine ⟨exists_atomic_call h, fun req cs => ?_⟩
  obtain ⟨req', hrun⟩ := exists_run_step h req cs
  refine ⟨req', hrun, run_accepted (fun req c e req' hstep => ?_) hrun⟩
  exact eq_of_step_error h hstep

end Mutator

theorem Plain.settersLeave : Mutator.SettersLeave Plain.view where
  setHeader x y := (Plain.componentwise.setHeader x y).leaves
  appendHeader x y := (Plain.componentwise.appendHeader x y).leaves
  removeHeader := fun (x : List UInt8) => (Plain.only_headers (List.filter (·.1 ≠ x))).leaves
  setMethod x := (Plain.componentwise.setMethod x).leaves
  setPath x := (Plain.componentwise.setPath x).leaves
  setQueryStr x := (Plain.componentwise.setQueryStr x).leaves
  setSurrogateKey x := (Plain.componentwise.setSurrogateKey x).leaves
  setBodyTextPlain x := (Plain.componentwise.setBodyTextPlain x).leaves
  setBodyTextHtml x := (Plain.componentwise.setBodyTextHtml x).leaves

/-- A method with a space in it and a value with a line feed are as if they had not been set. -/
theorem Mutator.calls_atomic_plain :
    ∃ req' : Plain.crates.Request,
      run (after Mutator.step) Plain.message
        [(.setMethod (Plain.ascii "GE T"), ⟨.wild 1, []⟩),
          (.setPath (Plain.ascii "/a"), ⟨.null, []⟩),
          (.setHeader (Plain.ascii "x") [97, 10], ⟨.null, []⟩)] = .ok req' ∧
      run (after Mutator.step) Plain.message [(.setPath (Plain.ascii "/a"), ⟨.null, []⟩)] =
        .ok req' :=
  (Mutator.calls_atomic Plain.settersLeave).2 Plain.message
    [(.setMethod (Plain.ascii "GE T"), ⟨.wild 1, []⟩), (.setPath (Plain.ascii "/a"), ⟨.null, []⟩),
      (.setHeader (Plain.ascii "x") [97, 10], ⟨.null, []⟩)]

end ComputeSdk
