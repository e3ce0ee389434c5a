import ComputeSdk.Model.Body

/-! # The bodies of requests and responses -/

namespace ComputeSdk

/-- A request, as far as its body goes. Without a body it holds the empty one. -/
structure Request where
  body : HostBody

/-- A response, as far as its body goes. Without a body it holds the empty one. -/
structure Response where
  body : HostBody

/-- What a message keeps when its body is taken. -/
def HostBody.taken (b : HostBody) : HostBody := { b with content := [] }

namespace Request

def takeBody (r : Request) : Body × Request := (Body.ofBox r.body, ⟨r.body.taken⟩)

def intoBody (r : Request) : Body := Body.ofBox r.body

def takeBodyString (r : Request) : Except Abort (List UInt8 × Request) :=
  r.takeBody.1.takeBodyString.map fun p => (p.1, r.takeBody.2)

def intoBodyString (r : Request) : Except Abort (List UInt8) :=
  r.intoBody.takeBodyString.map Prod.fst

/-- `Request::set_body`, once its parameter has been constructed. -/
def setBody (body : Body) (r : Request) : Except Abort Request :=
  body.flush.map fun body => { r with body := body.bod }

/-- `Request::with_body` moves its parameter on to `set_body`. -/
def withBody (body : Body) (r : Request) : Except Abort Request :=
  match body.move with
  | .error e => .error e
  | .ok body => r.setBody body

end Request

namespace Response

def takeBody (r : Response) : Body × Response := (Body.ofBox r.body, ⟨r.body.taken⟩)

def intoBody (r : Response) : Body := Body.ofBox r.body

def takeBodyString (r : Response) : Except Abort (List UInt8 × Response) :=
  r.takeBody.1.takeBodyString.map fun p => (p.1, r.takeBody.2)

def intoBodyString (r : Response) : Except Abort (List UInt8) :=
  r.intoBody.takeBodyString.map Prod.fst

/-- `Response::from_body` does not flush. -/
def fromBody (body : Body) : Response := ⟨body.bod⟩

/-- `Response::set_body`, once its parameter has been constructed. -/
def setBody (body : Body) (r : Response) : Except Abort Response :=
  body.flush.map fun body => { r with body := body.bod }

/-- `Response::with_body` moves its parameter on to `set_body`. -/
def withBody (body : Body) (r : Response) : Except Abort Response :=
  match body.move with
  | .error e => .error e
  | .ok body => r.setBody body

/-- `Response::append_body`, once its parameter has been constructed. -/
def appendBody (other : Body) (r : Response) : Except Abort Response :=
  other.flush.map fun other => { r with body := r.body.append other.bod }

end Response

end ComputeSdk
