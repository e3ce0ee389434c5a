import ComputeSdk.Model.Body

/-! # Inserting into a KV store -/

namespace ComputeSdk

inductive KVStoreErrorCode where
  | invalidKey
  | invalidStoreHandle
  | invalidStoreOptions
  | itemBadRequest
  | itemNotFound
  | itemPreconditionFailed
  | itemPayloadTooLarge
  | storeNotFound
  | tooManyRequests
  | unexpected
  deriving DecidableEq, Repr

structure KVStoreError where
  errorCode : KVStoreErrorCode
  errorMsg : String
  deriving DecidableEq, Repr

/-- An insert as the host is asked for it. -/
structure KVInsert where
  key : String
  value : List UInt8
  deriving DecidableEq

/-- The inserts that the host was asked for, the latest first, and its answers to the next
ones: an error, or the handle of the pending insert. -/
structure KVStore where
  inserts : List KVInsert
  answers : ℕ → Except KVStoreError ℕ

namespace KVStore

/-- The bridged call behind every insert. It consumes the box of the body. A key that is not
UTF-8 ends the process before the call, so the key is a string here. -/
def submit (store : KVStore) (key : String) (box : HostBody) :
    Except KVStoreError ℕ × KVStore :=
  (store.answers 0,
    ⟨⟨key, box.content⟩ :: store.inserts, fun i => store.answers (i + 1)⟩)

/-- `KVStore::insert`, once its parameter has been constructed. -/
def insert (store : KVStore) (key : String) (value : Body) :
    Except KVStoreError Unit × KVStore :=
  ((store.submit key value.bod).1.map fun _ => (), (store.submit key value.bod).2)

end KVStore

namespace InsertBuilder

/-- `InsertBuilder::execute`, once its parameter has been constructed. -/
def execute (store : KVStore) (key : String) (body : Body) :
    Except KVStoreError Unit × KVStore :=
  ((store.submit key body.bod).1.map fun _ => (), (store.submit key body.bod).2)

/-- `InsertBuilder::execute_async`, once its parameter has been constructed. -/
def executeAsync (store : KVStore) (key : String) (body : Body) :
    Except KVStoreError ℕ × KVStore :=
  store.submit key body.bod

end InsertBuilder

end ComputeSdk
