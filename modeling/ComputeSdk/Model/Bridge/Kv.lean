import ComputeSdk.Model.Bridge.Http

/-! # The bridge of the KV store

A key that is passed as a `rust::Str` is checked before the call, one that is passed as a
string in it. -/

namespace ComputeSdk

open Shared SlotM Http

variable (F : Crates)

/-- The body of a bridged function with a slot for a `KVStoreError`. -/
abbrev KvM (τ σ ρ : Type) := SlotM Abort KVStoreError τ σ ρ

namespace Sys.Kv

variable {α : Type}

/-- `let a = try_kve!(err, x); out.set(Box::into_raw(Box::new(a)))`. -/
def boxed (x : Except KVStoreError α) : KvM (RawPtr α) Unit Unit Unit := do
  let a ← tryErr x
  setOut (.box a)

/-- `let handle = try_kve!(err, x); out.set(handle.as_u32())`. -/
def handle (x : Except KVStoreError UInt32) : KvM UInt32 Unit Unit Unit := do
  let handle ← tryErr x
  setOut handle

/-- `m_kv_store_insert_builder_execute`. -/
def insertBuilderExecute (builder : F.InsertBuilder) (key : List UInt8) (body : HostBody) :
    KvM Unit Unit Unit Unit := do
  let key ← orStop (expect "Invalid UTF-8" (F.toStr key))
  tryErr (F.insertExecute builder key body)

/-- `m_kv_store_insert_builder_execute_async`. -/
def insertBuilderExecuteAsync (builder : F.InsertBuilder) (key : List UInt8)
    (body : HostBody) : KvM UInt32 Unit Unit Unit := do
  let key ← orStop (expect "Invalid UTF-8" (F.toStr key))
  handle (F.insertExecuteAsync builder key body)

def LookupBuilder.execute (builder : F.LookupBuilder) (key : String) :
    KvM (RawPtr F.LookupResponse) Unit Unit Unit :=
  boxed (F.lookupExecute builder key)

def LookupBuilder.executeAsync (builder : F.LookupBuilder) (key : String) :
    KvM UInt32 Unit Unit Unit :=
  handle (F.lookupExecuteAsync builder key)

def EraseBuilder.execute (builder : F.EraseBuilder) (key : String) : KvM Unit Unit Unit Unit :=
  tryErr (F.eraseExecute builder key)

def EraseBuilder.executeAsync (builder : F.EraseBuilder) (key : String) :
    KvM UInt32 Unit Unit Unit :=
  handle (F.eraseExecuteAsync builder key)

def ListBuilder.executeAsync (builder : F.ListBuilder) : KvM UInt32 Unit Unit Unit :=
  handle (F.listExecuteAsync builder)

/-- `m_kv_store_list_builder_execute`. -/
def listBuilderExecute (builder : F.ListBuilder) : KvM (RawPtr F.ListPage) Unit Unit Unit :=
  boxed (F.listExecute builder)

/-- Written without the macro. -/
def ListResponse.next : KvM (RawPtr F.ListPage) F.ListResponse Bool Bool := do
  setErr .null
  match ← onObject F.listNext with
  | some (.ok page) => do
    setOut (.box page)
    pure true
  | some (.error e) => do
    setErr (.box e)
    pure true
  | none => pure false

namespace KVStore

def lookup (store : F.KVStore) (key : String) : KvM (RawPtr F.LookupResponse) Unit Unit Unit :=
  boxed (F.kvLookup store key)

def pendingLookupWait (store : F.KVStore) (pendingRequestHandle : UInt32) :
    KvM (RawPtr F.LookupResponse) Unit Unit Unit :=
  boxed (F.kvPendingLookupWait store pendingRequestHandle)

def insert (store : F.KVStore) (key : String) (value : HostBody) : KvM Unit Unit Unit Unit :=
  tryErr (F.kvInsert store key value)

def pendingInsertWait (store : F.KVStore) (pendingInsertHandle : UInt32) :
    KvM Unit Unit Unit Unit :=
  tryErr (F.kvPendingInsertWait store pendingInsertHandle)

def erase (store : F.KVStore) (key : String) : KvM Unit Unit Unit Unit :=
  tryErr (F.kvDelete store key)

def pendingEraseWait (store : F.KVStore) (pendingDeleteHandle : UInt32) :
    KvM Unit Unit Unit Unit :=
  tryErr (F.kvPendingDeleteWait store pendingDeleteHandle)

def list (store : F.KVStore) : KvM (RawPtr F.ListPage) Unit Unit Unit :=
  boxed (F.kvList store)

def pendingListWait (store : F.KVStore) (pendingRequestHandle : UInt32) :
    KvM (RawPtr F.ListPage) Unit Unit Unit :=
  boxed (F.kvPendingListWait store pendingRequestHandle)

end KVStore

/-- `m_static_kv_store_kv_store_open`, written without the macro. -/
def open_ (name : String) : KvM (RawPtr F.KVStore) Unit Bool Bool := do
  setErr .null
  match F.kvOpen name with
  | .ok store => setIfSome store fun s _ => .box s
  | .error e => do
    setErr (.box e)
    pure false

end Sys.Kv

namespace Kv

/-- A caller that takes the handle in the slot. -/
def checkedHandle {σ : Type} (f : KvM UInt32 σ Unit Unit) (slots : Slots KVStoreError UInt32)
    (obj : σ) : Expected KVStoreError UInt32 σ :=
  checked f (fun _ out => out) (initErr slots) obj

/-- The call of a caller that passes its key as a `rust::Str`. -/
def withStr {β σ : Type} (key : List UInt8) (call : String → Expected KVStoreError β σ) :
    Expected KVStoreError β σ :=
  (F.rustStr key).bind call

namespace InsertBuilder

def execute (builder : F.InsertBuilder) (key : List UInt8) (body : HostBody)
    (slots : Slots KVStoreError Unit) : Expected KVStoreError Unit Unit :=
  checkedVoid (Sys.Kv.insertBuilderExecute F builder key body) slots ()

def executeAsync (builder : F.InsertBuilder) (key : List UInt8) (body : HostBody)
    (slots : Slots KVStoreError UInt32) : Expected KVStoreError UInt32 Unit :=
  checkedHandle (Sys.Kv.insertBuilderExecuteAsync F builder key body) slots ()

end InsertBuilder

namespace LookupBuilder

def execute (builder : F.LookupBuilder) (key : List UInt8)
    (slots : Slots KVStoreError (RawPtr F.LookupResponse)) :
    Expected KVStoreError (RawPtr F.LookupResponse) Unit :=
  withStr F key fun key => checkedBox (Sys.Kv.LookupBuilder.execute F builder key) slots ()

def executeAsync (builder : F.LookupBuilder) (key : List UInt8)
    (slots : Slots KVStoreError UInt32) : Expected KVStoreError UInt32 Unit :=
  withStr F key fun key =>
    checkedHandle (Sys.Kv.LookupBuilder.executeAsync F builder key) slots ()

end LookupBuilder

namespace EraseBuilder

def execute (builder : F.EraseBuilder) (key : List UInt8) (slots : Slots KVStoreError Unit) :
    Expected KVStoreError Unit Unit :=
  withStr F key fun key => checkedVoid (Sys.Kv.EraseBuilder.execute F builder key) slots ()

def executeAsync (builder : F.EraseBuilder) (key : List UInt8)
    (slots : Slots KVStoreError UInt32) : Expected KVStoreError UInt32 Unit :=
  withStr F key fun key =>
    checkedHandle (Sys.Kv.EraseBuilder.executeAsync F builder key) slots ()

end EraseBuilder

namespace ListBuilder

def execute (builder : F.ListBuilder) (slots : Slots KVStoreError (RawPtr F.ListPage)) :
    Expected KVStoreError (RawPtr F.ListPage) Unit :=
  checkedBox (Sys.Kv.listBuilderExecute F builder) slots ()

def executeAsync (builder : F.ListBuilder) (slots : Slots KVStoreError UInt32) :
    Expected KVStoreError UInt32 Unit :=
  checkedHandle (Sys.Kv.ListBuilder.executeAsync F builder) slots ()

end ListBuilder

/-- The optional of an `expected` that `ListResponse::next` returns. -/
def ListResponse.next (slots : Slots KVStoreError (RawPtr F.ListPage))
    (iter : F.ListResponse) :
    Except Abort (Option (Except (RawPtr KVStoreError) (RawPtr F.ListPage)) × F.ListResponse) :=
  ((Sys.Kv.ListResponse.next F).call (initErr slots) iter).map fun p =>
    (if p.1 then
      if p.2.2.err.isNull then some (.ok p.2.2.out) else some (.error p.2.2.err)
    else none, p.2.1)

namespace KVStore

def open_ (name : List UInt8) (slots : Slots KVStoreError (RawPtr F.KVStore)) :
    Expected KVStoreError (Option (RawPtr F.KVStore)) Unit :=
  withStr F name fun name =>
    ((Sys.Kv.open_ F name).call (initErr slots) ()).map fun p =>
      (if p.1 then .ok (some p.2.2.out)
      else if p.2.2.err.isNull then .ok none
      else .error p.2.2.err, p.2.1)

def lookup (store : F.KVStore) (key : List UInt8)
    (slots : Slots KVStoreError (RawPtr F.LookupResponse)) :
    Expected KVStoreError (RawPtr F.LookupResponse) Unit :=
  withStr F key fun key => checkedBox (Sys.Kv.KVStore.lookup F store key) slots ()

def pendingLookupWait (store : F.KVStore) (pendingRequestHandle : UInt32)
    (slots : Slots KVStoreError (RawPtr F.LookupResponse)) :
    Expected KVStoreError (RawPtr F.LookupResponse) Unit :=
  checkedBox (Sys.Kv.KVStore.pendingLookupWait F store pendingRequestHandle) slots ()

def insert (store : F.KVStore) (key : List UInt8) (value : HostBody)
    (slots : Slots KVStoreError Unit) : Expected KVStoreError Unit Unit :=
  withStr F key fun key => checkedVoid (Sys.Kv.KVStore.insert F store key value) slots ()

def pendingInsertWait (store : F.KVStore) (pendingInsertHandle : UInt32)
    (slots : Slots KVStoreError Unit) : Expected KVStoreError Unit Unit :=
  checkedVoid (Sys.Kv.KVStore.pendingInsertWait F store pendingInsertHandle) slots ()

def erase (store : F.KVStore) (key : List UInt8) (slots : Slots KVStoreError Unit) :
    Expected KVStoreError Unit Unit :=
  withStr F key fun key => checkedVoid (Sys.Kv.KVStore.erase F store key) slots ()

def pendingEraseWait (store : F.KVStore) (pendingEraseHandle : UInt32)
    (slots : Slots KVStoreError Unit) : Expected KVStoreError Unit Unit :=
  checkedVoid (Sys.Kv.KVStore.pendingEraseWait F store pendingEraseHandle) slots ()

def list (store : F.KVStore) (slots : Slots KVStoreError (RawPtr F.ListPage)) :
    Expected KVStoreError (RawPtr F.ListPage) Unit :=
  checkedBox (Sys.Kv.KVStore.list F store) slots ()

def pendingListWait (store : F.KVStore) (pendingRequestHandle : UInt32)
    (slots : Slots KVStoreError (RawPtr F.ListPage)) :
    Expected KVStoreError (RawPtr F.ListPage) Unit :=
  checkedBox (Sys.Kv.KVStore.pendingListWait F store pendingRequestHandle) slots ()

end KVStore

end Kv

end ComputeSdk
