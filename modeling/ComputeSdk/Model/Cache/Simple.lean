import ComputeSdk.Model.Cache.Core

/-! # The simple cache

Implemented in terms of the core cache. An overload for `std::string_view` keys passes the
bytes of the key on, and moves its other arguments. -/

namespace ComputeSdk

open Guest

/-- What the runtime provides to the bridge: the digests of `Sha256`, and the name of the
POP. -/
structure Platform where
  sha256 : List UInt8 → {digest : List UInt8 // digest.length = 32}
  pop : List UInt8

/-- The bridged `PurgeScope`, by its representation. -/
structure PurgeScope where
  repr : UInt8
  deriving DecidableEq

namespace PurgeScope

def pop : PurgeScope := ⟨0⟩
def global : PurgeScope := ⟨1⟩

end PurgeScope

/-- A hexadecimal digit in upper case. -/
def hexDigit (n : UInt8) : UInt8 := if n < 10 then 48 + n else 55 + n

/-- `{b:02X}`. -/
def formatByte (b : UInt8) : List UInt8 := [hexDigit (b / 16), hexDigit (b % 16)]

/-- `f_cache_surrogate_key_for_cache_key`. -/
def fCacheSurrogateKeyForCacheKey (platform : Platform) (key : List UInt8)
    (scope : PurgeScope) : List UInt8 :=
  let material := if scope = PurgeScope.pop then key ++ platform.pop else key
  (platform.sha256 material).1.foldl (fun skStr b => skStr ++ formatByte b) []

namespace Simple

/-- `simple::CacheError`. -/
inductive CacheError where
  | limitExceeded
  | invalidOperation
  | unsupported
  | io
  | purge
  | getOrSet
  | other
  deriving DecidableEq, Repr

def fromCoreError : Core.CacheError → CacheError
  | .limitExceeded => .limitExceeded
  | .invalidOperation => .invalidOperation
  | .unsupported => .unsupported
  | _ => .other

structure CacheEntry where
  value : Body
  ttl : Int64

namespace CacheEntry

/-- The constructor, once its parameter has been constructed. -/
def make (val : Body) (ttl : Int64) : Except Abort CacheEntry :=
  (val.moves 1).map fun value => ⟨value, ttl⟩

/-- The implicit move constructor. -/
def move (e : CacheEntry) : Except Abort CacheEntry :=
  (e.value.moves 1).map fun value => ⟨value, e.ttl⟩

end CacheEntry

inductive Scope where
  | pop
  | global
  deriving DecidableEq, Repr

def Scope.value : Scope → UInt8
  | pop => 0
  | global => 1

structure PurgeOptions where
  scope : Scope

namespace PurgeOptions

def popScope : PurgeOptions := ⟨.pop⟩
def globalScope : PurgeOptions := ⟨.global⟩

end PurgeOptions

/-- The scope is cast by its value. -/
def surrogateKeyForCacheKey (platform : Platform) (key : List UInt8) (scope : Scope) :
    List UInt8 :=
  fCacheSurrogateKeyForCacheKey platform key ⟨scope.value⟩

/-- The optional is copied out of the result of the lookup, so two shared pointers end here. -/
def get (key : List UInt8) : Guest (Except CacheError (Option Body)) := do
  match ← (Core.lookup key).execute with
  | .error err => pure (.error (fromCoreError err))
  | .ok none => pure (.ok none)
  | .ok (some found) => do
    found.copy
    let streamResult ← found.toStream
    let result ←
      match streamResult with
      | .error err => pure (.error (fromCoreError err))
      | .ok stream => do
        let body ← ofExcept (stream.moves 2)
        pure (.ok (some body))
    found.destroy
    found.destroy
    pure result

/-- The closure of the user, which makes no call that is modelled here. -/
abbrev Closure := Except Abort (Option CacheEntry)

def Closure.invoke (makeEntry : Closure) : Guest (Option CacheEntry) := do
  let _ ← host .closureBegin
  let entry ← ofExcept makeEntry
  let _ ← host .closureEnd
  pure entry

/-- The rest of `get_or_set_with` where there is nothing to insert. -/
def readFound (lookupTx : Core.Transaction) : Guest (Except CacheError (Option Body)) := do
  match ← lookupTx.found with
  | none => pure (.error .invalidOperation)
  | some found => do
    let streamResult ← found.toStream
    let result ←
      match streamResult with
      | .error err => pure (.error (fromCoreError err))
      | .ok stream => do
        let body ← ofExcept (stream.moves 2)
        pure (.ok (some body))
    found.destroy
    pure result

/-- The rest of `get_or_set_with` once the insert provides its two ends. -/
def fillAndReadBack (entry : CacheEntry) (insertBody : HostedStream) (found : Core.Found) :
    Guest (Except CacheError (Option Body)) := do
  let insertBody ← ofExcept (insertBody.moves 1)
  let value ← ofExcept (entry.value.moves 1)
  let insertBody := insertBody.append value
  let result ←
    match ← insertBody.finish with
    | .error _ => pure (.error .other)
    | .ok _ => do
      let streamResult ← found.toStream
      match streamResult with
      | .error err => pure (.error (fromCoreError err))
      | .ok stream => do
        let body ← ofExcept (stream.moves 2)
        pure (.ok (some body))
  found.destroy
  pure result

/-- The rest of `get_or_set_with` where the entry is to be inserted. -/
def insertEntry (platform : Platform) (key : List UInt8) (makeEntry : Closure)
    (lookupTx : Core.Transaction) : Guest (Except CacheError (Option Body)) := do
  match ← makeEntry.invoke with
  | none => pure (.error .getOrSet)
  | some entry => do
    let surrogateKeys := [surrogateKeyForCacheKey platform key .pop,
      surrogateKeyForCacheKey platform key .global]
    let builder ← lookupTx.insert entry.ttl
    let builder := builder.surrogateKeys surrogateKeys
    let insertResult ← builder.executeAndStreamBack
    builder.destroy
    match insertResult with
    | .error err => pure (.error (fromCoreError err))
    | .ok (insertBody, found) => fillAndReadBack entry insertBody found

def getOrSetWith (platform : Platform) (key : List UInt8) (makeEntry : Closure) :
    Guest (Except CacheError (Option Body)) := do
  match ← (Core.Transaction.lookup key).execute with
  | .error err => pure (.error (fromCoreError err))
  | .ok lookupTx => do
    let result ←
      if ← lookupTx.mustInsertOrUpdate then insertEntry platform key makeEntry lookupTx
      else readFound lookupTx
    lookupTx.destroy
    pure result

/-- The closure of `get_or_set`. The entry is moved into the optional. -/
def providing (val : Body) (ttl : Int64) : Closure := do
  let val ← val.moves 1
  let entry ← CacheEntry.make val ttl
  let entry ← entry.move
  pure (some entry)

/-- `get_or_set`, once its parameter has been constructed. -/
def getOrSet (platform : Platform) (key : List UInt8) (value : Body) (ttl : Int64) :
    Guest (Except CacheError Body) := do
  let val ← ofExcept (value.moves 1)
  match ← getOrSetWith platform key (providing val ttl) with
  | .error err => pure (.error err)
  | .ok (some body) => do
    let body ← ofExcept (body.moves 2)
    pure (.ok body)
  | .ok none => abort "get_or_set_with did not return a value\n"

def purgeWithOpts (platform : Platform) (key : List UInt8) (opts : PurgeOptions) :
    Guest (Except CacheError Unit) := do
  let surrogateKey := surrogateKeyForCacheKey platform key opts.scope
  match ← host (.purgeSurrogateKey surrogateKey) with
  | .error _ => pure (.error .purge)
  | .ok _ => pure (.ok ())

def purge (platform : Platform) (key : List UInt8) : Guest (Except CacheError Unit) :=
  purgeWithOpts platform key PurgeOptions.popScope

/-! ## Overloads for `std::string_view` -/

namespace StringView

def get (key : List UInt8) : Guest (Except CacheError (Option Body)) := Simple.get key

def getOrSetWith (platform : Platform) (key : List UInt8) (makeEntry : Closure) :
    Guest (Except CacheError (Option Body)) :=
  Simple.getOrSetWith platform key makeEntry

def getOrSet (platform : Platform) (key : List UInt8) (value : Body) (ttl : Int64) :
    Guest (Except CacheError Body) := do
  let value ← ofExcept (value.moves 1)
  Simple.getOrSet platform key value ttl

def purgeWithOpts (platform : Platform) (key : List UInt8) (opts : PurgeOptions) :
    Guest (Except CacheError Unit) :=
  Simple.purgeWithOpts platform key opts

def purge (platform : Platform) (key : List UInt8) : Guest (Except CacheError Unit) :=
  Simple.purge platform key

end StringView

end Simple

end ComputeSdk
