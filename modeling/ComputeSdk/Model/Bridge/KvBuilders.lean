import ComputeSdk.Model.Bridge.Kv
import ComputeSdk.Shared.Narrow

/-! # Builders of the KV store

What the builders of inserts and of lists are told before they are executed. -/

namespace ComputeSdk

open Shared

/-- The setters of the builders of the crate that take a string or a duration. -/
structure KvSetters (F : Crates) where
  metadata : String → F.InsertBuilder → F.InsertBuilder
  timeToLive : Duration → F.InsertBuilder → F.InsertBuilder
  cursor : String → F.ListBuilder → F.ListBuilder
  keyPrefix : String → F.ListBuilder → F.ListBuilder

variable (F : Crates) (S : KvSetters F)

namespace Sys.Kv

/-- `m_kv_store_insert_builder_metadata`. -/
def insertBuilderMetadata (data : List UInt8) (builder : F.InsertBuilder) :
    Except Abort F.InsertBuilder :=
  (expect "Invalid UTF-8" (F.toStr data)).map fun data => S.metadata data builder

/-- `m_kv_store_insert_builder_time_to_live`. -/
def insertBuilderTimeToLive (ttl : UInt32) (builder : F.InsertBuilder) : F.InsertBuilder :=
  S.timeToLive (.fromMillis ttl.toUInt64) builder

/-- `m_kv_store_list_builder_cursor`. -/
def listBuilderCursor (cursor : String) (builder : F.ListBuilder) : F.ListBuilder :=
  S.cursor cursor builder

/-- `m_kv_store_list_builder_prefix`. -/
def listBuilderPrefix (keyPrefix : String) (builder : F.ListBuilder) : F.ListBuilder :=
  S.keyPrefix keyPrefix builder

end Sys.Kv

namespace Kv

namespace InsertBuilder

def metadata (data : List UInt8) (builder : F.InsertBuilder) : Except Abort F.InsertBuilder :=
  Sys.Kv.insertBuilderMetadata F S data builder

/-- The count of milliseconds is narrowed to the parameter of the bridge. -/
def timeToLive (ttl : Int64) (builder : F.InsertBuilder) : F.InsertBuilder :=
  Sys.Kv.insertBuilderTimeToLive F S (narrow ttl) builder

end InsertBuilder

namespace ListBuilder

def cursor (cursor : List UInt8) (builder : F.ListBuilder) : Except Abort F.ListBuilder :=
  (F.rustStr cursor).map fun cursor => Sys.Kv.listBuilderCursor F S cursor builder

def keyPrefix (keyPrefix : List UInt8) (builder : F.ListBuilder) :
    Except Abort F.ListBuilder :=
  (F.rustStr keyPrefix).map fun keyPrefix => Sys.Kv.listBuilderPrefix F S keyPrefix builder

end ListBuilder

end Kv

end ComputeSdk
