import ComputeSdk.Model.Cache.Core

/-! # Chains of builder calls

What a chain of calls on a builder does to the request handles of the host, with the
builders that are moved from on the way. -/

namespace ComputeSdk

open Shared Guest ComputeSdk.Core

/-! ## The host's table of request handles -/

/-- The values of each header name of a request. -/
abbrev HeaderTable := List (List UInt8 × List UInt8)

/-- Setting a header discards the values it had. -/
def HeaderTable.set (name values : List UInt8) (headers : HeaderTable) : HeaderTable :=
  (name, values) :: headers.filter fun entry => entry.1 ≠ name

/-- What the host sees of request handles. A cache call comes with the handle that its
options name, if any, and the headers that the host reads through it. -/
inductive RequestEvent where
  | opened (handle : ℕ)
  | closed (handle : ℕ)
  | valuesSet (handle : ℕ) (isOpen : Bool)
  | cacheCall (request : Option (ℕ × Bool)) (headers : HeaderTable)
  deriving DecidableEq

/-- The host, with its open request handles and its answers to all else. -/
structure RequestTable where
  next : ℕ := 0
  live : List ℕ := []
  headers : ℕ → HeaderTable := fun _ => []
  log : List RequestEvent := []
  clock : ℕ := 0
  answers : ℕ → (c : HostCall) → c.Answer

namespace RequestTable

def record (event : RequestEvent) (t : RequestTable) : RequestTable :=
  { t with log := t.log ++ [event] }

/-- A cache call whose options name the request `request`, or none. -/
def noteCacheCall (request : Option ℕ) (t : RequestTable) : RequestTable :=
  match request with
  | none => t.record (.cacheCall none [])
  | some h =>
    t.record (.cacheCall (some (h, h ∈ t.live)) (if h ∈ t.live then t.headers h else []))

def named (mask bit : UInt32) (handle : ℕ) : Option ℕ :=
  if mask &&& bit ≠ 0 then some handle else none

/-- What a call does to the table. -/
def effect (t : RequestTable) : HostCall → RequestTable
  | .httpReqClose h => { t with live := t.live.erase h }.record (.closed h)
  | .httpReqHeaderValuesSet h name values =>
    if h ∈ t.live then
      { t with headers := Function.update t.headers h ((t.headers h).set name values) }.record
        (.valuesSet h true)
    else t.record (.valuesSet h false)
  | .cacheLookup _ mask options =>
    t.noteCacheCall (named mask CacheLookupOptions.maskRequestHeaders options.requestHeaders)
  | .cacheTransactionLookup _ mask options =>
    t.noteCacheCall (named mask CacheLookupOptions.maskRequestHeaders options.requestHeaders)
  | .cacheTransactionLookupAsync _ mask options =>
    t.noteCacheCall (named mask CacheLookupOptions.maskRequestHeaders options.requestHeaders)
  | .cacheInsert _ mask options =>
    t.noteCacheCall (named mask CacheWriteOptions.maskRequestHeaders options.requestHeaders)
  | .cacheReplaceInsert _ mask options =>
    t.noteCacheCall (named mask CacheWriteOptions.maskRequestHeaders options.requestHeaders)
  | _ => t

/-- One call. A new request handle is one that was not used before. -/
def handle (t : RequestTable) (c : HostCall) : c.Answer × RequestTable :=
  let t' := { t with clock := t.clock + 1 }
  match c with
  | .httpReqNew =>
    match t.answers t.clock .httpReqNew with
    | .error status => (.error status, t')
    | .ok _ =>
      (.ok t.next, { t' with next := t.next + 1, live := t.next :: t.live }.record
        (.opened t.next))
  | c => (t.answers t.clock c, t'.effect c)

end RequestTable

/-! ## Chains of builder calls -/

/-- The builders that have `header_values`. -/
inductive Builder where
  | lookup (b : LookupBuilder)
  | transactionLookup (b : TransactionLookupBuilder)
  | insert (b : InsertBuilder)
  | replace (r : Replace)

/-- The calls that return the builder. -/
inductive BuilderCall where
  | headerValues (name : List UInt8) (values : List HeaderValue)
  | header (name : List UInt8) (value : HeaderValue)
  | onBehalfOf (service : List UInt8)
  | alwaysUseRequestedRange
  | varyBy (headers : List (List UInt8))
  | initialAge (age : Int64)
  | staleWhileRevalidate (duration : Int64)
  | surrogateKeys (keys : List (List UInt8))
  | knownLength (length : UInt64)
  | userMetadata (metadata : List UInt8)
  | sensitiveData (isSensitive : Bool)
  | deliverNodeMaxAge (duration : Int64)

def BuilderCall.isHeader : BuilderCall → Bool
  | headerValues _ _ => true
  | header _ _ => true
  | _ => false

namespace Builder

def requestHeaders : Builder → Option RequestHandle
  | lookup b => b.options.requestHeaders
  | transactionLookup b => b.options.requestHeaders
  | insert b => b.options.requestHeaders
  | replace r => r.options.requestHeaders

def callLookup (b : LookupBuilder) : BuilderCall → Guest LookupBuilder
  | .headerValues name values => b.headerValues name values
  | .header name value => b.header name value
  | .onBehalfOf service => pure (b.onBehalfOf service)
  | .alwaysUseRequestedRange => pure b.alwaysUseRequestedRange
  | _ => pure b

def callTransactionLookup (b : TransactionLookupBuilder) :
    BuilderCall → Guest TransactionLookupBuilder
  | .headerValues name values => b.headerValues name values
  | .header name value => b.header name value
  | .onBehalfOf service => pure (b.onBehalfOf service)
  | .alwaysUseRequestedRange => pure b.alwaysUseRequestedRange
  | _ => pure b

def callInsert (b : InsertBuilder) : BuilderCall → Guest InsertBuilder
  | .headerValues name values => b.headerValues name values
  | .header name value => b.header name value
  | .varyBy headers => pure (b.varyBy headers)
  | .initialAge age => pure (b.initialAge age)
  | .staleWhileRevalidate duration => pure (b.staleWhileRevalidate duration)
  | .surrogateKeys keys => pure (b.surrogateKeys keys)
  | .knownLength length => pure (b.knownLength length)
  | .userMetadata metadata => pure (b.userMetadata metadata)
  | .sensitiveData isSensitive => pure (b.sensitiveData isSensitive)
  | .deliverNodeMaxAge duration => pure (b.deliverNodeMaxAge duration)
  | .onBehalfOf service => pure (b.onBehalfOf service)
  | _ => pure b

def callReplace (r : Replace) : BuilderCall → Guest Replace
  | .headerValues name values => r.headerValues name values
  | .header name value => r.header name value
  | .varyBy headers => pure (r.varyBy headers)
  | .initialAge age => pure (r.initialAge age)
  | .staleWhileRevalidate duration => pure (r.staleWhileRevalidate duration)
  | .surrogateKeys keys => pure (r.surrogateKeys keys)
  | .knownLength length => pure (r.knownLength length)
  | .userMetadata metadata => pure (r.userMetadata metadata)
  | .sensitiveData isSensitive => pure (r.sensitiveData isSensitive)
  | .deliverNodeMaxAge duration => pure (r.deliverNodeMaxAge duration)
  | _ => pure r

/-- A call. One that the class does not have leaves the builder as it is. -/
def call (c : BuilderCall) : Builder → Guest Builder
  | lookup b => lookup <$> callLookup b c
  | transactionLookup b => transactionLookup <$> callTransactionLookup b c
  | insert b => insert <$> callInsert b c
  | replace r => replace <$> callReplace r c

/-- The destructor. -/
def destroy : Builder → Guest Unit
  | lookup b => destroyRequestHeaders b.options.requestHeaders
  | transactionLookup b => destroyRequestHeaders b.options.requestHeaders
  | insert b => destroyRequestHeaders b.options.requestHeaders
  | replace r => r.destroy

end Builder

/-- How a chain ends. Its result is not destroyed. -/
inductive Ending where
  | execute (maxAge : Int64)
  | executeAsync
  | drop
  deriving DecidableEq

/-- The last call of a chain, and what the builder is left with. -/
def Builder.finish (ending : Ending) : Builder → Guest Builder
  | lookup b =>
    match ending with
    | .execute _ => (fun _ => lookup b) <$> b.execute
    | _ => pure (lookup b)
  | transactionLookup b =>
    match ending with
    | .execute _ => (fun _ => transactionLookup b) <$> b.execute
    | .executeAsync => (fun _ => transactionLookup b) <$> b.executeAsync
    | .drop => pure (transactionLookup b)
  | insert b =>
    match ending with
    | .execute _ => (fun _ => insert b) <$> b.execute
    | _ => pure (insert b)
  | replace r =>
    match ending with
    | .execute maxAge => (fun p => replace p.2) <$> r.execute maxAge
    | _ => pure (replace r)

/-- A builder in the middle of a chain, with the request handles of the builders that it
was moved from and that still exist. -/
structure Chain where
  builder : Builder
  leftovers : List (Option RequestHandle) := []

/-- A step of a chain. A builder that was moved from may be destroyed at any time. -/
inductive ChainOp where
  | call (c : BuilderCall)
  | destroyLeftover (i : ℕ)

def ChainOp.isHeader : ChainOp → Bool
  | call c => c.isHeader
  | destroyLeftover _ => false

namespace Chain

/-- The builder that a call moves from keeps its copy of the request handle. -/
def exec (chain : Chain) : ChainOp → Guest Chain
  | .call c => do
    let b ← chain.builder.call c
    pure ⟨b, b.requestHeaders :: chain.leftovers⟩
  | .destroyLeftover i => do
    destroyRequestHeaders (chain.leftovers[i]?.join)
    pure { chain with leftovers := chain.leftovers.eraseIdx i }

/-- The end of the full expression: the builder and then those it was moved from. -/
def finish (ending : Ending) (chain : Chain) : Guest Unit := do
  let b ← chain.builder.finish ending
  b.destroy
  chain.leftovers.forM destroyRequestHeaders

end Chain

/-- Where a chain starts. A `Replace` comes from `begin`. -/
inductive Origin where
  | lookup (key : List UInt8)
  | transactionLookup (key : List UInt8)
  | insert (key : List UInt8) (maxAge : Int64)
  | replace (handle : SharedPtr) (existingObject : Option Found)

def Origin.builder : Origin → Builder
  | lookup key => .lookup (Core.lookup key)
  | transactionLookup key => .transactionLookup (Transaction.lookup key)
  | insert key maxAge => .insert (Core.insert key maxAge)
  | replace handle existingObject =>
    .replace { handle := handle, existingObject := existingObject }

def runChain (origin : Origin) (ops : List ChainOp) (ending : Ending) : Guest Unit := do
  let chain ← ops.foldlM Chain.exec { builder := origin.builder }
  chain.finish ending

/-- What the host has seen after a chain. -/
def chainLog (origin : Origin) (ops : List ChainOp) (ending : Ending)
    (H : RefHeap HandleObject) (answers : ℕ → (c : HostCall) → c.Answer) :
    List RequestEvent :=
  (((runChain origin ops ending).run H).run RequestTable.handle { answers := answers }).2.log

/-! ## The life of a handle -/

/-- The headers that the calls of a chain ask for. -/
def askedHeaders (ops : List ChainOp) : HeaderTable :=
  ops.foldl (fun headers op =>
    match op with
    | .call (.headerValues name values) => headers.set name (headerBytes values)
    | .call (.header name value) => headers.set name (headerBytes [value])
    | _ => headers) []

/-- Handles are open where they are used, the host reads the headers that were asked for,
and each handle that was opened is closed once. -/
structure Lifecycle (asked : HeaderTable) (log : List RequestEvent) : Prop where
  valuesSet_open : ∀ h isOpen, .valuesSet h isOpen ∈ log → isOpen = true
  cacheCall_open : ∀ h isOpen headers, .cacheCall (some (h, isOpen)) headers ∈ log →
    isOpen = true
  reads : ∀ request headers, .cacheCall request headers ∈ log →
    ∀ name, headers.lookup name = asked.lookup name
  closed_once : ∀ h, .opened h ∈ log → log.count (.closed h) = 1

end ComputeSdk
