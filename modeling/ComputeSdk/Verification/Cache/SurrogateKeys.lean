import Mathlib.Data.Set.Function
import ComputeSdk.Model.Cache.Simple

/-! # Surrogate keys of the simple cache

The digests in hexadecimal, the option that carries two of them, and which keys share
one. -/

namespace ComputeSdk

/-! ## Hexadecimal digits -/

/-- The digits 0 to 9 and the letters A to F. -/
def IsHexDigit (c : UInt8) : Prop := (48 ≤ c ∧ c ≤ 57) ∨ (65 ≤ c ∧ c ≤ 70)

instance (c : UInt8) : Decidable (IsHexDigit c) := inferInstanceAs (Decidable (_ ∨ _))

def hexValue (c : UInt8) : UInt8 := if c < 65 then c - 48 else c - 55

theorem not_isHexDigit_space : ¬ IsHexDigit Core.space := by decide

/-- What holds of the numbers below 16 one by one holds of every half of a byte. -/
theorem forall_lt_sixteen {p : UInt8 → Prop} (h : ∀ n < 16, p (UInt8.ofNat n)) (n : UInt8)
    (hn : n < 16) : p n := by
  rw [← UInt8.ofNat_toNat (x := n)]
  exact h n.toNat (UInt8.lt_iff_toNat_lt.mp hn)

theorem isHexDigit_hexDigit {n : UInt8} (h : n < 16) : IsHexDigit (hexDigit n) :=
  forall_lt_sixteen (p := fun n => IsHexDigit (hexDigit n)) (by decide) n h

theorem hexValue_hexDigit {n : UInt8} (h : n < 16) : hexValue (hexDigit n) = n :=
  forall_lt_sixteen (p := fun n => hexValue (hexDigit n) = n) (by decide) n h

theorem high_lt_sixteen (b : UInt8) : b / 16 < 16 := by
  have hb := b.toNat_lt
  rw [UInt8.lt_iff_toNat_lt, UInt8.toNat_div]
  change b.toNat / 16 < 16
  omega

theorem low_lt_sixteen (b : UInt8) : b % 16 < 16 := by
  rw [UInt8.lt_iff_toNat_lt, UInt8.toNat_mod]
  exact Nat.mod_lt _ (by decide)

theorem isHexDigit_formatByte {b c : UInt8} (h : c ∈ formatByte b) : IsHexDigit c := by
  simp only [formatByte, List.mem_cons, List.not_mem_nil, or_false] at h
  rcases h with rfl | rfl
  · exact isHexDigit_hexDigit (high_lt_sixteen b)
  · exact isHexDigit_hexDigit (low_lt_sixteen b)

theorem formatByte_injective {b c : UInt8} (h : formatByte b = formatByte c) : b = c := by
  simp only [formatByte, List.cons.injEq, and_true] at h
  obtain ⟨hhigh, hlow⟩ := h
  have hdiv : b / 16 = c / 16 := by
    rw [← hexValue_hexDigit (high_lt_sixteen b), hhigh, hexValue_hexDigit (high_lt_sixteen c)]
  have hmod : b % 16 = c % 16 := by
    rw [← hexValue_hexDigit (low_lt_sixteen b), hlow, hexValue_hexDigit (low_lt_sixteen c)]
  have hdiv' := congrArg UInt8.toNat hdiv
  have hmod' := congrArg UInt8.toNat hmod
  rw [UInt8.toNat_div, UInt8.toNat_div] at hdiv'
  rw [UInt8.toNat_mod, UInt8.toNat_mod] at hmod'
  apply UInt8.toNat_inj.mp
  calc
    b.toNat = 16 * (b.toNat / 16) + b.toNat % 16 := (Nat.div_add_mod _ _).symm
    _ = 16 * (c.toNat / 16) + c.toNat % 16 := congrArg₂ (fun x y => 16 * x + y) hdiv' hmod'
    _ = c.toNat := Nat.div_add_mod _ _

/-- A digest as it is written. -/
def hexString (digest : List UInt8) : List UInt8 := digest.flatMap formatByte

theorem length_hexString (digest : List UInt8) :
    (hexString digest).length = 2 * digest.length := by
  induction digest with
  | nil => rfl
  | cons b bs ih =>
      simp only [hexString, List.flatMap_cons, List.length_append, List.length_cons] at ih ⊢
      rw [ih]
      simp only [formatByte, List.length_cons, List.length_nil]
      omega

theorem hexString_injective {xs ys : List UInt8} (h : hexString xs = hexString ys) : xs = ys := by
  induction xs generalizing ys with
  | nil =>
      cases ys with
      | nil => rfl
      | cons c cs => cases h
  | cons b bs ih =>
      cases ys with
      | nil => cases h
      | cons c cs =>
          have happend : formatByte b ++ hexString bs = formatByte c ++ hexString cs := h
          obtain ⟨hhead, htail⟩ := List.append_inj happend rfl
          rw [formatByte_injective hhead, ih htail]

/-! ## Keys -/

section

variable (platform : Platform)

/-- What is hashed. -/
def material (key : List UInt8) : Simple.Scope → List UInt8
  | .pop => key ++ platform.pop
  | .global => key

/-- The scope survives the cast by its value. -/
theorem scope_cast (scope : Simple.Scope) :
    (⟨scope.value⟩ : PurgeScope) =
      match scope with
      | .pop => PurgeScope.pop
      | .global => PurgeScope.global := by
  cases scope <;> rfl

theorem surrogateKey_eq (key : List UInt8) (scope : Simple.Scope) :
    Simple.surrogateKeyForCacheKey platform key scope =
      hexString (platform.sha256 (material platform key scope)).1 := by
  have hfold : ∀ (digest skStr : List UInt8),
      digest.foldl (fun skStr b => skStr ++ formatByte b) skStr = skStr ++ hexString digest := by
    intro digest
    induction digest with
    | nil => exact fun skStr => (List.append_nil skStr).symm
    | cons b bs ih =>
        intro skStr
        rw [List.foldl_cons, ih, List.append_assoc]
        rfl
  rw [Simple.surrogateKeyForCacheKey, fCacheSurrogateKeyForCacheKey, scope_cast]
  cases scope with
  | pop =>
      rw [if_pos rfl]
      exact hfold _ []
  | global =>
      rw [if_neg (by decide)]
      exact hfold _ []

theorem length_surrogateKey (key : List UInt8) (scope : Simple.Scope) :
    (Simple.surrogateKeyForCacheKey platform key scope).length = 64 := by
  rw [surrogateKey_eq, length_hexString, (platform.sha256 _).2]

theorem isHexDigit_surrogateKey {key : List UInt8} {scope : Simple.Scope} {c : UInt8}
    (h : c ∈ Simple.surrogateKeyForCacheKey platform key scope) : IsHexDigit c := by
  rw [surrogateKey_eq] at h
  obtain ⟨b, -, hc⟩ := List.mem_flatMap.mp h
  exact isHexDigit_formatByte hc

theorem space_notMem_surrogateKey (key : List UInt8) (scope : Simple.Scope) :
    Core.space ∉ Simple.surrogateKeyForCacheKey platform key scope :=
  fun h => not_isHexDigit_space (isHexDigit_surrogateKey platform h)

/-- Two keys share a surrogate key if what is hashed is the same. -/
theorem surrogateKey_eq_iff {key key' : List UInt8} {scope scope' : Simple.Scope}
    {involved : Set (List UInt8)}
    (hsha : Set.InjOn (fun bytes => (platform.sha256 bytes).1) involved)
    (hmem : material platform key scope ∈ involved)
    (hmem' : material platform key' scope' ∈ involved) :
    Simple.surrogateKeyForCacheKey platform key scope =
        Simple.surrogateKeyForCacheKey platform key' scope' ↔
      material platform key scope = material platform key' scope' := by
  rw [surrogateKey_eq, surrogateKey_eq]
  constructor
  · exact fun h => hsha hmem hmem' (hexString_injective h)
  · exact fun h => by rw [h]

end

/-! ## The option -/

namespace Core

theorem intercalate_cons (delimiter : UInt8) (item : List UInt8) (items : List (List UInt8)) :
    [delimiter].intercalate (item :: items) =
      item ++ items.flatMap fun item => delimiter :: item := by
  induction items generalizing item with
  | nil => simp
  | cons next items ih => rw [List.intercalate_cons_cons, ih]; simp

theorem joinStrings_eq (items : List (List UInt8)) (delimiter : UInt8) :
    joinStrings items delimiter = [delimiter].intercalate items := by
  have hrest : ∀ (items : List (List UInt8)) (oss : List UInt8),
      (items.foldl (fun (p : List UInt8 × Bool) item =>
        ((if p.2 then p.1 else p.1 ++ [delimiter]) ++ item, false)) (oss, false)).1 =
        oss ++ items.flatMap fun item => delimiter :: item := by
    intro items
    induction items with
    | nil => exact fun oss => (List.append_nil oss).symm
    | cons item items ih =>
        intro oss
        rw [List.foldl_cons, ih]
        simp
  cases items with
  | nil => rfl
  | cons item items =>
      rw [intercalate_cons]
      exact hrest items item

/-- Splitting undoes joining if the delimiter is in none of the strings. -/
theorem splitOn_joinStrings {items : List (List UInt8)} {delimiter : UInt8}
    (h : ∀ item ∈ items, delimiter ∉ item) (hne : items ≠ []) :
    (joinStrings items delimiter).splitOn delimiter = items := by
  rw [joinStrings_eq]
  exact List.splitOn_intercalate delimiter h hne

end Core

/-! ## A platform -/

/-- A POP named "POP", with the digests of what is hashed there for the keys "a", "aPOP" and
"b". -/
def localPlatform : Platform where
  sha256 bytes :=
    if bytes = [97] then
      ⟨[202, 151, 129, 18, 202, 27, 189, 202, 250, 194, 49, 179, 154, 35, 220, 77, 167,
        134, 239, 248, 20, 124, 78, 114, 185, 128, 119, 133, 175, 238, 72, 187], rfl⟩
    else if bytes = [97, 80, 79, 80] then
      ⟨[202, 199, 220, 254, 231, 91, 249, 227, 101, 159, 244, 46, 123, 186, 129, 90, 159,
        199, 50, 163, 187, 187, 221, 127, 5, 33, 163, 249, 143, 19, 36, 196], rfl⟩
    else if bytes = [97, 80, 79, 80, 80, 79, 80] then
      ⟨[110, 226, 245, 232, 173, 236, 210, 78, 201, 119, 55, 76, 22, 174, 52, 45, 166, 247,
        101, 68, 216, 211, 248, 92, 76, 75, 218, 255, 255, 127, 169, 137], rfl⟩
    else if bytes = [98] then
      ⟨[62, 35, 232, 22, 0, 57, 89, 74, 51, 137, 79, 101, 100, 225, 177, 52, 139, 189, 122,
        0, 136, 212, 44, 74, 203, 115, 238, 174, 213, 156, 0, 157], rfl⟩
    else if bytes = [98, 80, 79, 80] then
      ⟨[100, 160, 145, 114, 162, 79, 11, 210, 130, 216, 89, 98, 223, 48, 139, 110, 140, 35,
        100, 12, 125, 148, 158, 170, 181, 77, 231, 6, 186, 31, 210, 89], rfl⟩
    else ⟨List.replicate 32 0, rfl⟩
  pop := [80, 79, 80]

end ComputeSdk
