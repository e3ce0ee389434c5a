import ComputeSdk.Model.Cache.Host

/-! # Options of cache operations

The public records, their encoding for the host, and the setters that the builders share.
A duration is a signed count of nanoseconds. -/

namespace ComputeSdk

/-- `http::HeaderValue`. -/
structure HeaderValue where
  value : List UInt8
  isSensitive : Bool := false
  deriving DecidableEq

namespace Core

open Guest

/-- `detail::RequestHandle`. It has a destructor and no move constructor, so a move of it
is a copy. -/
structure RequestHandle where
  handle : ℕ
  deriving DecidableEq

def RequestHandle.destroy (h : RequestHandle) : Guest Unit := do
  let _ ← host (.httpReqClose h.handle)
  pure ()

/-- The destructor of an `std::optional<RequestHandle>`. -/
def destroyRequestHeaders : Option RequestHandle → Guest Unit
  | some h => h.destroy
  | none => pure ()

structure LookupOptions where
  requestHeaders : Option RequestHandle := none
  service : Option (List UInt8) := none
  alwaysUseRequestedRange : Bool := false
  deriving DecidableEq

inductive ReplaceStrategy where
  | immediate
  | immediateForceMiss
  | wait
  deriving DecidableEq, Repr

def ReplaceStrategy.value : ReplaceStrategy → UInt32
  | immediate => 0
  | immediateForceMiss => 1
  | wait => 2

structure ReplaceOptions where
  requestHeaders : Option RequestHandle := none
  replaceStrategy : ReplaceStrategy := .immediate
  service : Option (List UInt8) := none
  alwaysUseRequestedRange : Bool := false
  deriving DecidableEq

structure WriteOptions where
  maxAge : Int64
  requestHeaders : Option RequestHandle := none
  varyRule : Option (List UInt8) := none
  initialAge : Option Int64 := none
  staleWhileRevalidate : Option Int64 := none
  surrogateKeys : Option (List UInt8) := none
  length : Option UInt64 := none
  userMetadata : Option (List UInt8) := none
  sensitiveData : Bool := false
  edgeMaxAge : Option Int64 := none
  service : Option (List UInt8) := none
  deriving DecidableEq

/-! ## `as_abi` -/

/-- The bit of an option in the mask. -/
def flag (isSet : Bool) (bit : UInt32) : UInt32 := if isSet then bit else 0

def LookupOptions.asAbi (options : LookupOptions) : CacheLookupOptions × UInt32 :=
  ({ requestHeaders := options.requestHeaders.elim 0 RequestHandle.handle
     service := options.service
     serviceLen := options.service.elim 0 List.length },
   flag options.requestHeaders.isSome CacheLookupOptions.maskRequestHeaders |||
   flag options.service.isSome CacheLookupOptions.maskService |||
   flag options.alwaysUseRequestedRange CacheLookupOptions.maskAlwaysUseRequestedRange)

def WriteOptions.asAbi (options : WriteOptions) : CacheWriteOptions × UInt32 :=
  ({ maxAgeNs := options.maxAge.toUInt64
     requestHeaders := options.requestHeaders.elim 0 RequestHandle.handle
     varyRulePtr := options.varyRule
     varyRuleLen := options.varyRule.elim 0 List.length
     initialAgeNs := options.initialAge.elim 0 Int64.toUInt64
     staleWhileRevalidateNs := options.staleWhileRevalidate.elim 0 Int64.toUInt64
     surrogateKeysPtr := options.surrogateKeys
     surrogateKeysLen := options.surrogateKeys.elim 0 List.length
     length := options.length.getD 0
     userMetadataPtr := options.userMetadata
     userMetadataLen := options.userMetadata.elim 0 List.length
     edgeMaxAgeNs := options.edgeMaxAge.elim 0 Int64.toUInt64
     service := options.service
     serviceLen := options.service.elim 0 List.length },
   flag options.requestHeaders.isSome CacheWriteOptions.maskRequestHeaders |||
   flag options.varyRule.isSome CacheWriteOptions.maskVaryRule |||
   flag options.initialAge.isSome CacheWriteOptions.maskInitialAgeNs |||
   flag options.staleWhileRevalidate.isSome CacheWriteOptions.maskStaleWhileRevalidateNs |||
   flag options.surrogateKeys.isSome CacheWriteOptions.maskSurrogateKeys |||
   flag options.length.isSome CacheWriteOptions.maskLength |||
   flag options.userMetadata.isSome CacheWriteOptions.maskUserMetadata |||
   flag options.sensitiveData CacheWriteOptions.maskSensitiveData |||
   flag options.edgeMaxAge.isSome CacheWriteOptions.maskEdgeMaxAgeNs |||
   flag options.service.isSome CacheWriteOptions.maskService)

def ReplaceOptions.asAbi (options : ReplaceOptions) : CacheReplaceOptions × UInt32 :=
  ({ requestHeaders := options.requestHeaders.elim 0 RequestHandle.handle
     replaceStrategy := options.replaceStrategy.value
     service := options.service
     serviceLen := options.service.elim 0 List.length },
   flag options.requestHeaders.isSome CacheReplaceOptions.maskRequestHeaders |||
   CacheReplaceOptions.maskReplaceStrategy |||
   flag options.service.isSome CacheReplaceOptions.maskService |||
   flag options.alwaysUseRequestedRange CacheReplaceOptions.maskAlwaysUseRequestedRange)

/-! ## Bits of the masks -/

theorem or_and (a b m : UInt32) : (a ||| b) &&& m = (a &&& m) ||| (b &&& m) :=
  UInt32.toBitVec_inj.mp BitVec.and_or_distrib_right

theorem flag_and_self (isSet : Bool) (m : UInt32) : flag isSet m &&& m = flag isSet m := by
  unfold flag
  split
  · exact UInt32.and_self
  · exact UInt32.zero_and

theorem flag_and_of_disjoint {isSet : Bool} {bit m : UInt32} (h : bit &&& m = 0) :
    flag isSet bit &&& m = 0 := by
  unfold flag
  split
  · exact h
  · exact UInt32.zero_and

theorem LookupOptions.mask_requestHeaders (options : LookupOptions) :
    options.asAbi.2 &&& CacheLookupOptions.maskRequestHeaders =
      flag options.requestHeaders.isSome CacheLookupOptions.maskRequestHeaders := by
  simp (disch := decide) [asAbi, or_and, flag_and_self, flag_and_of_disjoint]

theorem WriteOptions.mask_requestHeaders (options : WriteOptions) :
    options.asAbi.2 &&& CacheWriteOptions.maskRequestHeaders =
      flag options.requestHeaders.isSome CacheWriteOptions.maskRequestHeaders := by
  simp (disch := decide) [asAbi, or_and, flag_and_self, flag_and_of_disjoint]

theorem WriteOptions.mask_surrogateKeys (options : WriteOptions) :
    options.asAbi.2 &&& CacheWriteOptions.maskSurrogateKeys =
      flag options.surrogateKeys.isSome CacheWriteOptions.maskSurrogateKeys := by
  simp (disch := decide) [asAbi, or_and, flag_and_self, flag_and_of_disjoint]

/-! ## Setters -/

def joinStrings (items : List (List UInt8)) (delimiter : UInt8) : List UInt8 :=
  (items.foldl (fun (oss, first) item =>
    ((if first then oss else oss ++ [delimiter]) ++ item, false)) ([], true)).1

/-- The byte ' '. -/
def space : UInt8 := 32

namespace WriteOptions

def setVaryRule (headers : List (List UInt8)) (options : WriteOptions) : WriteOptions :=
  if headers = [] then options else { options with varyRule := some (joinStrings headers space) }

def setSurrogateKeys (keys : List (List UInt8)) (options : WriteOptions) : WriteOptions :=
  if keys = [] then options else { options with surrogateKeys := some (joinStrings keys space) }

@[simp] theorem requestHeaders_setVaryRule (headers : List (List UInt8))
    (options : WriteOptions) :
    (options.setVaryRule headers).requestHeaders = options.requestHeaders := by
  unfold setVaryRule
  split <;> rfl

@[simp] theorem requestHeaders_setSurrogateKeys (keys : List (List UInt8))
    (options : WriteOptions) :
    (options.setSurrogateKeys keys).requestHeaders = options.requestHeaders := by
  unfold setSurrogateKeys
  split <;> rfl

end WriteOptions

/-- The values as the host takes them, each followed by a NUL. -/
def headerBytes (values : List HeaderValue) : List UInt8 :=
  values.foldl (fun bytes value => bytes ++ value.value ++ [0]) []

/-- `set_request_header_values`. The result is the new content of `request_headers`. -/
def setRequestHeaderValues (requestHeaders : Option RequestHandle) (name : List UInt8)
    (values : List HeaderValue) : Guest RequestHandle := do
  let handle ←
    match requestHeaders with
    | some handle => pure handle
    | none => do
      match ← host .httpReqNew with
      | .error _ => abort "http_req_new failed\n"
      | .ok reqHandle =>
        let temporary : RequestHandle := ⟨reqHandle⟩
        let copied := temporary
        temporary.destroy
        pure copied
  let _ ← host (.httpReqHeaderValuesSet handle.handle name (headerBytes values))
  pure handle

end Core

end ComputeSdk
