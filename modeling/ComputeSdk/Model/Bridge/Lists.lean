import ComputeSdk.Model.Bridge.Crates
import ComputeSdk.Shared.Vectors

/-! # Lists across the bridge

Accessors that return a list of strings. A string of Rust is made of characters, and one of
C++ of bytes. -/

namespace ComputeSdk

open Shared

/-- The accessors of the crates. -/
structure ListOps (F : Crates) where
  tags : F.InspectResponse → List String
  keys : F.ListPage → List String
  intoKeys : F.ListPage → List String

variable {F : Crates} (L : ListOps F)

/-- `std::string(str)`, from a string of Rust. -/
def cxxString (str : String) : List UInt8 := str.toUTF8.data.toList

/-! ## Bridged functions -/

namespace Sys

/-- Every tag is copied by `x.into()`. -/
def InspectResponse.tags (ir : F.InspectResponse) : List String := (L.tags ir).map id

def ListPage.keys (page : F.ListPage) : List String := L.keys page

def mKvStoreListPageIntoKeys (page : F.ListPage) : List String := L.intoKeys page

end Sys

/-! ## Callers -/

/-- `std::transform` with a `std::back_inserter` goes on at the end of `ret`. -/
def InspectResponse.tags (ir : F.InspectResponse) : List (List UInt8) :=
  let tags := Sys.InspectResponse.tags L ir
  let ret := Vec.resize tags.length [] []
  Vec.appendEach cxxString tags ret

def Kv.ListPage.keys (page : F.ListPage) : List (List UInt8) :=
  let keys := Sys.ListPage.keys L page
  let result := Vec.reserve keys.length []
  Vec.appendEach cxxString keys result

def Kv.ListPage.intoKeys (page : F.ListPage) : List (List UInt8) :=
  let keys := Sys.mKvStoreListPageIntoKeys L page
  let result := Vec.reserve keys.length []
  Vec.appendEach cxxString keys result

end ComputeSdk
