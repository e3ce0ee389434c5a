import ComputeSdk.Model.Cache.Core

/-! # The encoding of cache options

The host reads a field of an option struct only if the bit of its option is set in the
mask. Read in this way, the structs give back the records that they encode. -/

namespace ComputeSdk

open Shared Guest ComputeSdk.Core

/-! ## Reading a struct -/

/-- What the host reads of a field, which is there if the bit `m` is set. -/
def field {α : Type} (mask m : UInt32) (a : α) : Option α :=
  if mask &&& m = 0 then none else some a

/-- The bytes behind a pointer with their number. Past the end there is nothing to read. -/
def pointee (ptr : Option (List UInt8)) (len : ℕ) : Option (List UInt8) :=
  if len ≤ (ptr.getD []).length then some ((ptr.getD []).take len) else none

/-- What the host reads of a field of bytes, if it can be read. -/
def bytesField (mask m : UInt32) (ptr : Option (List UInt8)) (len : ℕ) :
    Option (Option (List UInt8)) :=
  if mask &&& m = 0 then some none else (pointee ptr len).map some

namespace Core

def ReplaceStrategy.ofValue (value : UInt32) : Option ReplaceStrategy :=
  if value = 0 then some .immediate
  else if value = 1 then some .immediateForceMiss
  else if value = 2 then some .wait
  else none

def LookupOptions.decode (p : CacheLookupOptions × UInt32) : Option LookupOptions := do
  let service ← bytesField p.2 CacheLookupOptions.maskService p.1.service p.1.serviceLen
  pure {
    requestHeaders :=
      field p.2 CacheLookupOptions.maskRequestHeaders ⟨p.1.requestHeaders⟩
    service
    alwaysUseRequestedRange :=
      (field p.2 CacheLookupOptions.maskAlwaysUseRequestedRange ()).isSome }

def ReplaceOptions.decode (p : CacheReplaceOptions × UInt32) : Option ReplaceOptions := do
  let replaceStrategy ← (field p.2 CacheReplaceOptions.maskReplaceStrategy
    p.1.replaceStrategy).elim (some .immediate) ReplaceStrategy.ofValue
  let service ← bytesField p.2 CacheReplaceOptions.maskService p.1.service p.1.serviceLen
  pure {
    requestHeaders :=
      field p.2 CacheReplaceOptions.maskRequestHeaders ⟨p.1.requestHeaders⟩
    replaceStrategy
    service
    alwaysUseRequestedRange :=
      (field p.2 CacheReplaceOptions.maskAlwaysUseRequestedRange ()).isSome }

def WriteOptions.decode (p : CacheWriteOptions × UInt32) : Option WriteOptions := do
  let varyRule ←
    bytesField p.2 CacheWriteOptions.maskVaryRule p.1.varyRulePtr p.1.varyRuleLen
  let surrogateKeys ← bytesField p.2 CacheWriteOptions.maskSurrogateKeys
    p.1.surrogateKeysPtr p.1.surrogateKeysLen
  let userMetadata ← bytesField p.2 CacheWriteOptions.maskUserMetadata
    p.1.userMetadataPtr p.1.userMetadataLen
  let service ← bytesField p.2 CacheWriteOptions.maskService p.1.service p.1.serviceLen
  pure {
    maxAge := p.1.maxAgeNs.toInt64
    requestHeaders := field p.2 CacheWriteOptions.maskRequestHeaders ⟨p.1.requestHeaders⟩
    varyRule
    initialAge := field p.2 CacheWriteOptions.maskInitialAgeNs p.1.initialAgeNs.toInt64
    staleWhileRevalidate := field p.2 CacheWriteOptions.maskStaleWhileRevalidateNs
      p.1.staleWhileRevalidateNs.toInt64
    surrogateKeys
    length := field p.2 CacheWriteOptions.maskLength p.1.length
    userMetadata
    sensitiveData := (field p.2 CacheWriteOptions.maskSensitiveData ()).isSome
    edgeMaxAge := field p.2 CacheWriteOptions.maskEdgeMaxAgeNs p.1.edgeMaxAgeNs.toInt64
    service }

/-- The bounds of a range. -/
def decodeRange (p : CacheGetBodyOptions × UInt32) : Option UInt64 × Option UInt64 :=
  (field p.2 CacheGetBodyOptions.maskFrom p.1.fromByte,
    field p.2 CacheGetBodyOptions.maskTo p.1.toByte)

end Core

/-! ## The bits of the options -/

def CacheLookupOptions.masks : List UInt32 :=
  [maskRequestHeaders, maskService, maskAlwaysUseRequestedRange]

def CacheReplaceOptions.masks : List UInt32 :=
  [maskRequestHeaders, maskReplaceStrategy, maskService, maskAlwaysUseRequestedRange]

def CacheWriteOptions.masks : List UInt32 :=
  [maskRequestHeaders, maskVaryRule, maskInitialAgeNs, maskStaleWhileRevalidateNs,
    maskSurrogateKeys, maskLength, maskUserMetadata, maskSensitiveData, maskEdgeMaxAgeNs,
    maskService]

def CacheGetBodyOptions.masks : List UInt32 := [maskFrom, maskTo]

/-- The bit 0 of each mask. -/
def maskReserved : UInt32 := (1 : UInt32) <<< 0

/-- The bits of a layout are apart from each other and from the reserved one. -/
structure Layout (masks : List UInt32) : Prop where
  nonzero : ∀ m ∈ masks, m ≠ 0
  apart : masks.Pairwise fun a b => a &&& b = 0
  reserved : ∀ m ∈ masks, m &&& maskReserved = 0

/-- No bit is set that is not one of the layout. -/
def OnlyBits (masks : List UInt32) (mask : UInt32) : Prop :=
  mask &&& ~~~ masks.foldr (· ||| ·) 0 = 0 ∧ mask &&& maskReserved = 0

theorem Layout.of_all {masks : List UInt32} (hnonzero : masks.all (· ≠ 0))
    (hapart : masks.Pairwise fun a b => a &&& b = 0)
    (hreserved : masks.all (· &&& maskReserved = 0)) : Layout masks where
  nonzero m hm := of_decide_eq_true (List.all_eq_true.mp hnonzero m hm)
  apart := hapart
  reserved m hm := of_decide_eq_true (List.all_eq_true.mp hreserved m hm)

theorem layout_lookup : Layout CacheLookupOptions.masks :=
  .of_all rfl (by decide) rfl

theorem layout_replace : Layout CacheReplaceOptions.masks :=
  .of_all rfl (by decide) rfl

theorem layout_write : Layout CacheWriteOptions.masks :=
  .of_all rfl (by decide) rfl

theorem layout_getBody : Layout CacheGetBodyOptions.masks :=
  .of_all rfl (by decide) rfl

theorem flag_eq_zero_iff {isSet : Bool} {m : UInt32} (hm : m ≠ 0) :
    flag isSet m = 0 ↔ isSet = false := by
  cases isSet with
  | false => exact iff_of_true rfl rfl
  | true => exact iff_of_false hm Bool.noConfusion

/-- A field is read as the option that it encodes. -/
theorem field_of_flag {α : Type} {mask m : UInt32} {x : Option α} {a : α}
    (hbit : mask &&& m = flag x.isSome m) (hm : m ≠ 0) (ha : ∀ b, x = some b → a = b) :
    field mask m a = x := by
  cases x with
  | none =>
      rw [field, hbit]
      exact if_pos ((flag_eq_zero_iff hm).mpr rfl)
  | some b =>
      rw [field, hbit, ha b rfl]
      exact if_neg (mt (flag_eq_zero_iff hm).mp Bool.noConfusion)

theorem isSome_field {mask m : UInt32} {isSet : Bool} (hbit : mask &&& m = flag isSet m)
    (hm : m ≠ 0) : (field mask m ()).isSome = isSet := by
  cases isSet with
  | false => rw [field, hbit, if_pos ((flag_eq_zero_iff hm).mpr rfl), Option.isSome_none]
  | true =>
      rw [field, hbit, if_neg (mt (flag_eq_zero_iff hm).mp Bool.noConfusion), Option.isSome_some]

theorem pointee_length (bytes : List UInt8) :
    pointee (some bytes) bytes.length = some bytes := by
  rw [pointee, Option.getD_some, if_pos (Nat.le_refl _), List.take_length]

/-- A field of bytes is read as the option that it encodes. -/
theorem bytesField_of_flag {mask m : UInt32} {x : Option (List UInt8)}
    (hbit : mask &&& m = flag x.isSome m) (hm : m ≠ 0) :
    bytesField mask m x (x.elim 0 List.length) = some x := by
  cases x with
  | none =>
      rw [bytesField, hbit]
      exact if_pos ((flag_eq_zero_iff hm).mpr rfl)
  | some bytes =>
      rw [bytesField, hbit, if_neg (mt (flag_eq_zero_iff hm).mp Bool.noConfusion)]
      exact congrArg (Option.map some) (pointee_length bytes)

theorem toInt64_elim {x : Option Int64} {d : Int64} (h : x = some d) :
    (x.elim 0 Int64.toUInt64).toInt64 = d := by
  rw [h]
  rfl

theorem handle_elim {x : Option RequestHandle} {handle : RequestHandle}
    (h : x = some handle) : (⟨x.elim 0 RequestHandle.handle⟩ : RequestHandle) = handle := by
  rw [h]
  rfl

theorem length_elim {x : Option UInt64} {n : UInt64} (h : x = some n) : x.getD 0 = n := by
  rw [h, Option.getD_some]

theorem Core.ReplaceStrategy.ofValue_value (strategy : ReplaceStrategy) :
    ofValue strategy.value = some strategy := by
  cases strategy <;> rfl

/-! ## Decoding what was encoded -/

namespace Core

attribute [ext] LookupOptions ReplaceOptions WriteOptions

theorem LookupOptions.decode_asAbi (options : LookupOptions) :
    decode options.asAbi = some options := by
  have hservice : bytesField options.asAbi.2 CacheLookupOptions.maskService
      options.asAbi.1.service options.asAbi.1.serviceLen = some options.service := by
    refine bytesField_of_flag ?_ (by decide)
    simp (disch := decide) [asAbi, or_and, flag_and_self, flag_and_of_disjoint]
  rw [decode, hservice]
  refine congrArg some ?_
  ext1
  · exact field_of_flag options.mask_requestHeaders (by decide) fun _ => handle_elim
  · rfl
  · refine isSome_field ?_ (by decide)
    simp (disch := decide) [asAbi, or_and, flag_and_self, flag_and_of_disjoint]

/-- The replace strategy is always given. -/
theorem ReplaceOptions.mask_eq (options : ReplaceOptions) :
    options.asAbi.2 = flag options.requestHeaders.isSome CacheReplaceOptions.maskRequestHeaders |||
      flag true CacheReplaceOptions.maskReplaceStrategy |||
      flag options.service.isSome CacheReplaceOptions.maskService |||
      flag options.alwaysUseRequestedRange CacheReplaceOptions.maskAlwaysUseRequestedRange :=
  rfl

theorem ReplaceOptions.decode_asAbi (options : ReplaceOptions) :
    decode options.asAbi = some options := by
  have hstrategy : field options.asAbi.2 CacheReplaceOptions.maskReplaceStrategy
      options.asAbi.1.replaceStrategy = some options.replaceStrategy.value := by
    refine field_of_flag ?_ (by decide) fun _ h => Option.some.inj h
    simp (disch := decide) [mask_eq, or_and, flag_and_self, flag_and_of_disjoint]
  have hservice : bytesField options.asAbi.2 CacheReplaceOptions.maskService
      options.asAbi.1.service options.asAbi.1.serviceLen = some options.service := by
    refine bytesField_of_flag (x := options.service) ?_ (by decide)
    simp (disch := decide) [mask_eq, or_and, flag_and_self, flag_and_of_disjoint]
  rw [decode, hstrategy, Option.elim_some, ReplaceStrategy.ofValue_value, hservice]
  refine congrArg some ?_
  ext1
  · refine field_of_flag ?_ (by decide) fun _ => handle_elim
    simp (disch := decide) [mask_eq, or_and, flag_and_self, flag_and_of_disjoint]
  · rfl
  · rfl
  · refine isSome_field ?_ (by decide)
    simp (disch := decide) [mask_eq, or_and, flag_and_self, flag_and_of_disjoint]

/-- The host can read all bytes of the options. -/
theorem WriteOptions.bytesField_asAbi (options : WriteOptions) :
    bytesField options.asAbi.2 CacheWriteOptions.maskVaryRule options.asAbi.1.varyRulePtr
        options.asAbi.1.varyRuleLen = some options.varyRule ∧
      bytesField options.asAbi.2 CacheWriteOptions.maskSurrogateKeys
        options.asAbi.1.surrogateKeysPtr options.asAbi.1.surrogateKeysLen =
          some options.surrogateKeys ∧
      bytesField options.asAbi.2 CacheWriteOptions.maskUserMetadata
        options.asAbi.1.userMetadataPtr options.asAbi.1.userMetadataLen =
          some options.userMetadata ∧
      bytesField options.asAbi.2 CacheWriteOptions.maskService options.asAbi.1.service
        options.asAbi.1.serviceLen = some options.service := by
  refine ⟨?_, bytesField_of_flag options.mask_surrogateKeys (by decide), ?_, ?_⟩
  · refine bytesField_of_flag ?_ (by decide)
    simp (disch := decide) [asAbi, or_and, flag_and_self, flag_and_of_disjoint]
  · refine bytesField_of_flag ?_ (by decide)
    simp (disch := decide) [asAbi, or_and, flag_and_self, flag_and_of_disjoint]
  · refine bytesField_of_flag ?_ (by decide)
    simp (disch := decide) [asAbi, or_and, flag_and_self, flag_and_of_disjoint]

theorem WriteOptions.decode_asAbi (options : WriteOptions) :
    decode options.asAbi = some options := by
  obtain ⟨hvary, hkeys, hmetadata, hservice⟩ := options.bytesField_asAbi
  rw [decode, hvary, hkeys, hmetadata, hservice]
  refine congrArg some ?_
  ext1
  · rfl
  · exact field_of_flag options.mask_requestHeaders (by decide) fun _ => handle_elim
  · rfl
  · refine field_of_flag ?_ (by decide) fun _ => toInt64_elim
    simp (disch := decide) [asAbi, or_and, flag_and_self, flag_and_of_disjoint]
  · refine field_of_flag ?_ (by decide) fun _ => toInt64_elim
    simp (disch := decide) [asAbi, or_and, flag_and_self, flag_and_of_disjoint]
  · rfl
  · refine field_of_flag ?_ (by decide) fun _ => length_elim
    simp (disch := decide) [asAbi, or_and, flag_and_self, flag_and_of_disjoint]
  · rfl
  · refine isSome_field ?_ (by decide)
    simp (disch := decide) [asAbi, or_and, flag_and_self, flag_and_of_disjoint]
  · refine field_of_flag ?_ (by decide) fun _ => toInt64_elim
    simp (disch := decide) [asAbi, or_and, flag_and_self, flag_and_of_disjoint]
  · rfl

theorem decodeRange_getBodyOptions (first last : Option UInt64) :
    decodeRange (Found.getBodyOptions first last) = (first, last) := by
  refine Prod.ext ?_ ?_
  · refine field_of_flag ?_ (by decide) fun _ => length_elim
    simp (disch := decide) [Found.getBodyOptions, or_and, flag_and_self, flag_and_of_disjoint]
  · refine field_of_flag ?_ (by decide) fun _ => length_elim
    simp (disch := decide) [Found.getBodyOptions, or_and, flag_and_self, flag_and_of_disjoint]

/-! ## Nothing else is encoded -/

theorem LookupOptions.onlyBits (options : LookupOptions) :
    OnlyBits CacheLookupOptions.masks options.asAbi.2 := by
  constructor
  · simp (disch := decide) only [asAbi, or_and, flag_and_of_disjoint, UInt32.or_self]
  · simp (disch := decide) only [asAbi, or_and, flag_and_of_disjoint, UInt32.or_self]

theorem ReplaceOptions.onlyBits (options : ReplaceOptions) :
    OnlyBits CacheReplaceOptions.masks options.asAbi.2 := by
  constructor
  · simp (disch := decide) only [mask_eq, or_and, flag_and_of_disjoint, UInt32.or_self]
  · simp (disch := decide) only [mask_eq, or_and, flag_and_of_disjoint, UInt32.or_self]

theorem WriteOptions.onlyBits (options : WriteOptions) :
    OnlyBits CacheWriteOptions.masks options.asAbi.2 := by
  constructor
  · simp (disch := decide) only [asAbi, or_and, flag_and_of_disjoint, UInt32.or_self]
  · simp (disch := decide) only [asAbi, or_and, flag_and_of_disjoint, UInt32.or_self]

theorem getBodyOptions_onlyBits (first last : Option UInt64) :
    OnlyBits CacheGetBodyOptions.masks (Found.getBodyOptions first last).2 := by
  constructor
  · simp (disch := decide) only [Found.getBodyOptions, or_and, flag_and_of_disjoint,
      UInt32.or_self]
  · simp (disch := decide) only [Found.getBodyOptions, or_and, flag_and_of_disjoint,
      UInt32.or_self]

/-! ## Faithful encodings -/

/-- The struct and the mask stand for the record and for nothing else: decoded they are the
record, only bits of the layout are set, and the fields of absent options are zero. -/
structure LookupOptions.Encoded (options : LookupOptions) (p : CacheLookupOptions × UInt32) :
    Prop where
  decodes : decode p = some options
  onlyBits : OnlyBits CacheLookupOptions.masks p.2
  requestHeaders : options.requestHeaders = none → p.1.requestHeaders = 0
  service : options.service = none → p.1.service = none ∧ p.1.serviceLen = 0

structure ReplaceOptions.Encoded (options : ReplaceOptions)
    (p : CacheReplaceOptions × UInt32) : Prop where
  decodes : decode p = some options
  onlyBits : OnlyBits CacheReplaceOptions.masks p.2
  requestHeaders : options.requestHeaders = none → p.1.requestHeaders = 0
  service : options.service = none → p.1.service = none ∧ p.1.serviceLen = 0

structure WriteOptions.Encoded (options : WriteOptions) (p : CacheWriteOptions × UInt32) :
    Prop where
  decodes : decode p = some options
  onlyBits : OnlyBits CacheWriteOptions.masks p.2
  requestHeaders : options.requestHeaders = none → p.1.requestHeaders = 0
  varyRule : options.varyRule = none → p.1.varyRulePtr = none ∧ p.1.varyRuleLen = 0
  initialAge : options.initialAge = none → p.1.initialAgeNs = 0
  staleWhileRevalidate :
    options.staleWhileRevalidate = none → p.1.staleWhileRevalidateNs = 0
  surrogateKeys :
    options.surrogateKeys = none → p.1.surrogateKeysPtr = none ∧ p.1.surrogateKeysLen = 0
  length : options.length = none → p.1.length = 0
  userMetadata :
    options.userMetadata = none → p.1.userMetadataPtr = none ∧ p.1.userMetadataLen = 0
  edgeMaxAge : options.edgeMaxAge = none → p.1.edgeMaxAgeNs = 0
  service : options.service = none → p.1.service = none ∧ p.1.serviceLen = 0

theorem LookupOptions.encoded (options : LookupOptions) : options.Encoded options.asAbi where
  decodes := options.decode_asAbi
  onlyBits := options.onlyBits
  requestHeaders := fun h => by simp only [asAbi, h, Option.elim_none]
  service := fun h => by simp only [asAbi, h, Option.elim_none, and_self]

theorem ReplaceOptions.encoded (options : ReplaceOptions) : options.Encoded options.asAbi where
  decodes := options.decode_asAbi
  onlyBits := options.onlyBits
  requestHeaders := fun h => by simp only [asAbi, h, Option.elim_none]
  service := fun h => by simp only [asAbi, h, Option.elim_none, and_self]

theorem WriteOptions.encoded (options : WriteOptions) : options.Encoded options.asAbi where
  decodes := options.decode_asAbi
  onlyBits := options.onlyBits
  requestHeaders := fun h => by simp only [asAbi, h, Option.elim_none]
  varyRule := fun h => by simp only [asAbi, h, Option.elim_none, and_self]
  initialAge := fun h => by simp only [asAbi, h, Option.elim_none]
  staleWhileRevalidate := fun h => by simp only [asAbi, h, Option.elim_none]
  surrogateKeys := fun h => by simp only [asAbi, h, Option.elim_none, and_self]
  length := fun h => by simp only [asAbi, h, Option.getD_none]
  userMetadata := fun h => by simp only [asAbi, h, Option.elim_none, and_self]
  edgeMaxAge := fun h => by simp only [asAbi, h, Option.elim_none]
  service := fun h => by simp only [asAbi, h, Option.elim_none, and_self]

/-- The call that `to_stream_from_range` makes for the body. -/
def Found.getBody (found : Found) (mask : UInt32) (options : CacheGetBodyOptions) : HostCall :=
  match found with
  | .cache handle => .cacheGetBody handle.val.handle mask options
  | .replace handle => .cacheReplaceGetBody handle.val.handle mask options

/-- Both bounds are given, and the second is less than the first. -/
def Inverted (first last : Option UInt64) : Prop :=
  ∃ f l, first = some f ∧ last = some l ∧ l < f

/-- `to_stream_from_range` fails without a call where the bounds are inverted, and otherwise
starts with a call that passes exactly these bounds. -/
structure Found.EncodesRange (found : Found) (first last : Option UInt64)
    (H : RefHeap HandleObject) : Prop where
  refuses_iff : (found.toStreamFromRange first last).run H = .ret (.error .invalidOperation, H) ↔
    Inverted first last
  passes : ¬ Inverted first last → ∃ mask options next,
    (found.toStreamFromRange first last).run H = .call (found.getBody mask options) next ∧
    decodeRange (options, mask) = (first, last) ∧ OnlyBits CacheGetBodyOptions.masks mask ∧
    (first = none → options.fromByte = 0) ∧ (last = none → options.toByte = 0)

theorem emptyRange_iff (first last : Option UInt64) :
    Found.emptyRange first last = true ↔ Inverted first last := by
  cases first with
  | none => simp [Found.emptyRange, Inverted]
  | some f => cases last <;> simp [Found.emptyRange, Inverted]

theorem Found.encodesRange (found : Found) (first last : Option UInt64)
    (H : RefHeap HandleObject) : found.EncodesRange first last H := by
  have hcall : ¬ Inverted first last → ∃ next,
      (found.toStreamFromRange first last).run H =
        .call (found.getBody (getBodyOptions first last).2 (getBodyOptions first last).1) next := by
    intro hinv
    rw [toStreamFromRange, if_neg (mt (emptyRange_iff first last).mp hinv)]
    cases found <;> exact ⟨_, rfl⟩
  refine ⟨⟨fun hret => ?_, fun hinv => ?_⟩, fun hinv => ?_⟩
  · by_contra hinv
    obtain ⟨next, hnext⟩ := hcall hinv
    cases hret.symm.trans hnext
  · rw [toStreamFromRange, if_pos ((emptyRange_iff first last).mpr hinv)]
    rfl
  · obtain ⟨next, hnext⟩ := hcall hinv
    refine ⟨_, _, next, hnext, decodeRange_getBodyOptions first last,
      getBodyOptions_onlyBits first last, ?_, ?_⟩
    · rintro rfl
      rfl
    · rintro rfl
      rfl

end Core

/-- The option encoding loses nothing and adds nothing, in each of the three layouts and for
the bounds of a range. -/
structure OptionsFaithful : Prop where
  lookup : Layout CacheLookupOptions.masks ∧ ∀ options : LookupOptions,
    options.Encoded options.asAbi
  replace : Layout CacheReplaceOptions.masks ∧ ∀ options : ReplaceOptions,
    options.Encoded options.asAbi
  write : Layout CacheWriteOptions.masks ∧ ∀ options : WriteOptions,
    options.Encoded options.asAbi
  range : Layout CacheGetBodyOptions.masks ∧ ∀ (found : Found) first last H,
    found.EncodesRange first last H

theorem optionsFaithful : OptionsFaithful where
  lookup := ⟨layout_lookup, LookupOptions.encoded⟩
  replace := ⟨layout_replace, ReplaceOptions.encoded⟩
  write := ⟨layout_write, WriteOptions.encoded⟩
  range := ⟨layout_getBody, Found.encodesRange⟩

/-- A present but empty string is told from an absent one. -/
example : (WriteOptions.decode { maxAge := -1, varyRule := some [], service := none :
    WriteOptions }.asAbi).map WriteOptions.varyRule = some (some []) := by
  decide

end ComputeSdk
