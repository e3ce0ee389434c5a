import ComputeSdk.Model.Bridge.Lists
import ComputeSdk.Model.Bridge.Plain

/-! # Lists that cross the bridge

Each accessor makes its vector in its own way: one of them resizes it before it appends. -/

namespace ComputeSdk

open Shared

/-- A call of an accessor. -/
inductive ListAccessor (F : Crates) where
  | tags (ir : F.InspectResponse)
  | keys (page : F.ListPage)
  | intoKeys (page : F.ListPage)

namespace ListAccessor

variable {F : Crates} (L : ListOps F)

/-- The list on the side of Rust. -/
def list : ListAccessor F → List String
  | tags ir => L.tags ir
  | keys page => L.keys page
  | intoKeys page => L.intoKeys page

def returned : ListAccessor F → List (List UInt8)
  | tags ir => InspectResponse.tags L ir
  | keys page => Kv.ListPage.keys L page
  | intoKeys page => Kv.ListPage.intoKeys L page

/-- The vector has the strings of the list, and no others. -/
def ReturnsList (a : ListAccessor F) : Prop := a.returned L = (a.list L).map cxxString

/-- The elements that the vector has before a string is appended. -/
def padding : ListAccessor F → List (List UInt8)
  | tags ir => List.replicate (L.tags ir).length []
  | keys _ => []
  | intoKeys _ => []

theorem returned_eq (a : ListAccessor F) :
    a.returned L = a.padding L ++ (a.list L).map cxxString := by
  cases a with
  | tags ir =>
      rw [returned, InspectResponse.tags, Vec.appendEach_eq, Vec.resize_nil,
        Sys.InspectResponse.tags, List.map_id]
      rfl
  | keys page => exact Vec.appendEach_eq cxxString (L.keys page) []
  | intoKeys page => exact Vec.appendEach_eq cxxString (L.intoKeys page) []

/-- The keys are returned as they are. Tags are, if and only if there are none. -/
theorem returnsList_iff (a : ListAccessor F) :
    a.ReturnsList L ↔ ∀ ir, a = .tags ir → L.tags ir = [] := by
  rw [ReturnsList, returned_eq, List.append_left_eq_self]
  cases a with
  | tags ir => simp [padding]
  | keys page => exact iff_of_true rfl nofun
  | intoKeys page => exact iff_of_true rfl nofun

/-- A response with one tag, which is returned after an empty one. -/
theorem not_returnsList :
    ¬ ∀ (F : Crates) (L : ListOps F) (a : ListAccessor F), a.ReturnsList L := by
  intro h
  have hreturns := h Plain.crates ⟨fun _ => ["SQLI"], fun _ => [], fun _ => []⟩ (.tags ())
  exact absurd (congrArg List.length hreturns) (by decide)

end ListAccessor

end ComputeSdk
