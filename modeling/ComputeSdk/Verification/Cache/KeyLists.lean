import ComputeSdk.Shared.Split
import ComputeSdk.Verification.Cache.Settings
import ComputeSdk.Verification.Cache.Storage
import ComputeSdk.Verification.Cache.SurrogateKeys

/-! # Lists of surrogate keys

The keys are joined with spaces, and the host splits them again and ignores what is not a
key. -/

namespace ComputeSdk

open Shared Guest ComputeSdk.Core

/-- Printable ASCII, at least one character of it. -/
def validKey (key : List UInt8) : Bool := key ≠ [] && key.all fun c => 0x21 ≤ c && c ≤ 0x7E

/-- The keys that the host keeps, if it can read them. -/
def keptKeys (p : CacheWriteOptions × UInt32) : Option (List (List UInt8)) :=
  (Storage.tagsOf p.2 p.1).map (List.filter validKey)

/-- After the call on a builder the host is passed exactly the valid keys. -/
def KeysSurvive (b : WriteBuilder) (keys : List (List UInt8)) : Prop :=
  ∃ b', b.set (.surrogateKeys keys) = .ok b' ∧
    (∀ x ∈ b'.executions, Asks b'.used.asAbi x ∧ Passes b'.used.asAbi x) ∧
    keptKeys b'.used.asAbi = some (keys.filter validKey)

theorem space_notMem_of_validKey {key : List UInt8} (h : validKey key) : space ∉ key := by
  intro hmem
  rw [validKey, Bool.and_eq_true, List.all_eq_true] at h
  exact absurd (h.2 space hmem) (by decide)

/-- Of a key without a space the host sees one piece, and of others several. -/
theorem filter_pieces_eq_singleton {key : List UInt8} (h : validKey key) :
    (key.splitOn space).filter validKey = [key] := by
  rw [List.splitOn_eq_singleton (space_notMem_of_validKey h), List.filter_singleton, h]
  rfl

theorem keptKeys_joined_iff {keys : List (List UInt8)} (hne : keys ≠ []) :
    ((joinStrings keys space).splitOn space).filter validKey = keys.filter validKey ↔
      ∀ key ∈ keys, space ∈ key → ∀ piece ∈ key.splitOn space, ¬ validKey piece := by
  rw [joinStrings_eq, splitOn_intercalate_eq_flatMap hne, List.filter_flatMap,
    flatMap_eq_filter_iff fun _ => filter_pieces_eq_singleton]
  refine forall₂_congr fun key _ => ?_
  rw [List.filter_eq_nil_iff]
  constructor
  · intro h hspace
    exact h (Bool.eq_false_iff.mpr fun hvalid => space_notMem_of_validKey hvalid hspace)
  · intro h hinvalid
    by_cases hspace : space ∈ key
    · exact h hspace
    · rw [List.splitOn_eq_singleton hspace, List.forall_mem_singleton, hinvalid]
      exact Bool.false_ne_true

theorem keptKeys_setSurrogateKeys {keys : List (List UInt8)} (hne : keys ≠ [])
    (o : WriteOptions) :
    keptKeys (o.setSurrogateKeys keys).asAbi =
      some (((joinStrings keys space).splitOn space).filter validKey) := by
  rw [keptKeys, Storage.tagsOf_asAbi, WriteOptions.setSurrogateKeys, if_neg hne]
  rfl

/-- The keys survive exactly if no key with a space in it has a valid piece, and if a call
without keys comes when there are none. -/
theorem keysSurvive_iff (b : WriteBuilder) (keys : List (List UInt8)) :
    KeysSurvive b keys ↔ (keys = [] → keptKeys b.used.asAbi = some []) ∧
      ∀ key ∈ keys, space ∈ key → ∀ piece ∈ key.splitOn space, ¬ validKey piece := by
  have hhas : b.kind.Has (.surrogateKeys keys) := by cases b <;> trivial
  obtain ⟨b', hset, -⟩ := WriteBuilder.exists_set hhas
  have hused : b'.used = b.used.setSurrogateKeys keys := WriteBuilder.used_set hset
  have hiff : KeysSurvive b keys ↔
      keptKeys (b.used.setSurrogateKeys keys).asAbi = some (keys.filter validKey) := by
    rw [← hused]
    constructor
    · rintro ⟨b₁, hset₁, -, hkept⟩
      obtain rfl := Except.ok.inj (hset.symm.trans hset₁)
      exact hkept
    · exact fun hkept =>
        ⟨b', hset, fun x hx => ⟨b'.asks_executions x hx, b'.passes_executions x hx⟩, hkept⟩
  rw [hiff]
  by_cases hne : keys = []
  · subst hne
    simp [WriteOptions.setSurrogateKeys]
  · rw [keptKeys_setSurrogateKeys hne, Option.some_inj, keptKeys_joined_iff hne]
    simp [hne]

/-- The keys survive on every builder. -/
def AllKeysSurvive : Prop := ∀ b keys, KeysSurvive b keys

/-- The key "a b" is listed, and the keys "a" and "b" are created. -/
theorem not_allKeysSurvive : ¬ AllKeysSurvive := by
  intro h
  obtain ⟨b', hset, -, hkept⟩ := h (.insert (Core.insert [] 0)) [[97, 32, 98]]
  obtain rfl := Except.ok.inj hset
  change keptKeys (WriteOptions.setSurrogateKeys [[97, 32, 98]] _).asAbi = _ at hkept
  rw [keptKeys_setSurrogateKeys (List.cons_ne_nil _ _)] at hkept
  exact absurd hkept (by decide)

end ComputeSdk
