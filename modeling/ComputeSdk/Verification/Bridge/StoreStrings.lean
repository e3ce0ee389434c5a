import ComputeSdk.Model.Bridge.KvBuilders
import ComputeSdk.Verification.Bridge.Errors

/-! # Strings that are not UTF-8

The config and the secret store report such a string. The KV store has no error for it, and
stops the process. -/

namespace ComputeSdk

open Shared Operation

/-- The bytes are well-formed UTF-8. -/
def IsUtf8 (text : List UInt8) : Prop := (ByteArray.mk text.toArray).IsValidUTF8

instance (text : List UInt8) : Decidable (IsUtf8 text) :=
  inferInstanceAs (Decidable (ByteArray.mk text.toArray).IsValidUTF8)

/-- Both conversions accept well-formed UTF-8 only. -/
structure ChecksUtf8 (F : Crates) : Prop where
  toStr (text : List UInt8) : (∃ s, F.toStr text = .ok s) ↔ IsUtf8 text
  rustStr (text : List UInt8) : (∃ s, F.rustStr text = .ok s) ↔ IsUtf8 text

/-! ## How a call ends -/

/-- A call that is not stopped ends with a value, or with an error of its own type. -/
inductive StoreEnding where
  | value
  | error
  deriving DecidableEq

section

variable {F : Crates} {ε σ α β : Type}

def ended (x : Expected ε β σ) : Except Abort StoreEnding :=
  x.map fun p => if p.1.isOk then .value else .error

/-- A builder has no error to return. -/
def built (x : Except Abort β) : Except Abort StoreEnding := x.map fun _ => .value

/-- The operation is never stopped. -/
def Contained (op : Operation Abort ε σ β) : Prop := ∀ obj, ∃ r, op.outcome obj = .ok r

theorem contained_pure {b : β} : Contained (ε := ε) (σ := σ) (pure b) := fun _ => ⟨_, rfl⟩

theorem contained_fromExcept {x : Except ε β} : Contained (σ := σ) (fromExcept x) :=
  fun _ => ⟨_, rfl⟩

theorem contained_fromExcept_bind {x : Except ε α} {next : α → Operation Abort ε σ β}
    (h : ∀ a, Contained (next a)) : Contained (fromExcept x >>= next) := by
  intro obj
  cases x with
  | ok a => exact h a obj
  | error e => exact ⟨_, rfl⟩

theorem contained_inBox {x : Except ε α} : Contained (σ := σ) (inBox x) :=
  contained_fromExcept_bind fun _ => contained_pure

theorem Contained.ended {op : Operation Abort ε σ β} (h : Contained op) (obj : σ) :
    ∃ e, ended (op.outcome obj) = .ok e := by
  obtain ⟨r, hr⟩ := h obj
  exact ⟨_, by rw [hr]; rfl⟩

/-! ## What becomes of the string -/

/-- The call is never stopped, and reports a string that is not UTF-8. -/
structure Reporting (x : List UInt8 → Except Abort StoreEnding) : Prop where
  ends (text : List UInt8) : ∃ e, x text = .ok e
  reports {text : List UInt8} : ¬ IsUtf8 text → x text = .ok .error

/-- The call is stopped by a string that is not UTF-8, and by no other. -/
structure Stopping (x : List UInt8 → Except Abort StoreEnding) : Prop where
  ends {text : List UInt8} : IsUtf8 text → ∃ e, x text = .ok e
  stops {text : List UInt8} : ¬ IsUtf8 text → ∃ a, x text = .error a

theorem reporting_withUtf8 (hF : ChecksUtf8 F) {next : String → Operation Abort FastlyError σ β}
    {obj : σ} {call : List UInt8 → Expected FastlyError β σ}
    (hcall : ∀ text, call text = (withUtf8 F text next).outcome obj)
    (h : ∀ s, Contained (next s)) : Reporting fun text => ended (call text) where
  ends text := by
    rw [hcall]
    exact Contained.ended (contained_fromExcept_bind h) obj
  reports {text} htext := by
    rw [hcall]
    cases hs : F.toStr text with
    | ok s => exact absurd ((hF.toStr text).mp ⟨s, hs⟩) htext
    | error e =>
        simp only [withUtf8, hs]
        rfl

/-- A conversion that stops the process, and what the call does with its result. -/
theorem stopping_of {convert : List UInt8 → Except Abort α}
    {x : List UInt8 → Except Abort StoreEnding} (finish : α → Except Abort StoreEnding)
    (hconvert : ∀ text, (∃ s, convert text = .ok s) ↔ IsUtf8 text)
    (hx : ∀ text, x text = convert text >>= finish) (h : ∀ s, ∃ e, finish s = .ok e) :
    Stopping x where
  ends {text} htext := by
    obtain ⟨s, hs⟩ := (hconvert text).mpr htext
    rw [hx, hs]
    exact h s
  stops {text} htext := by
    rw [hx]
    cases hs : convert text with
    | ok s => exact absurd ((hconvert text).mp ⟨s, hs⟩) htext
    | error a => exact ⟨a, rfl⟩

theorem stopping_orStop {convert : List UInt8 → Except Abort α}
    {next : α → Operation Abort ε σ β} {obj : σ} {call : List UInt8 → Expected ε β σ}
    (hconvert : ∀ text, (∃ s, convert text = .ok s) ↔ IsUtf8 text)
    (hcall : ∀ text, call text = (orStop (convert text) >>= next).outcome obj)
    (h : ∀ s, Contained (next s)) : Stopping fun text => ended (call text) := by
  refine stopping_of (fun s => ended ((next s).outcome obj)) hconvert (fun text => ?_)
    fun s => (h s).ended obj
  rw [hcall]
  cases convert text <;> rfl

theorem stopping_built {convert : List UInt8 → Except Abort α} {set : α → β}
    (hconvert : ∀ text, (∃ s, convert text = .ok s) ↔ IsUtf8 text) :
    Stopping fun text => built ((convert text).map set) := by
  refine stopping_of (fun _ => .ok .value) hconvert (fun text => ?_) fun _ => ⟨_, rfl⟩
  cases convert text <;> rfl

/-- `expect` stops the process where the conversion fails. -/
theorem ChecksUtf8.expect (hF : ChecksUtf8 F) (text : List UInt8) :
    (∃ s, expect "Invalid UTF-8" (F.toStr text) = .ok s) ↔ IsUtf8 text := by
  rw [← hF.toStr text]
  cases F.toStr text <;> simp [ComputeSdk.expect, Except.mapError]

end

/-! ## The operations of the stores -/

/-- What a string of a store stands for. -/
inductive StringKind where
  | storeName
  | key
  | cursor
  | keyPrefix
  | metadata
  deriving DecidableEq

/-- The operations of the stores that take a string, with their other arguments and with what
their slots happen to hold. -/
inductive StoreCall (F : Crates) where
  | configStoreOpen (slots : Slots FastlyError (RawPtr F.ConfigStore))
  | configStoreGet (cs : F.ConfigStore) (slots : Slots FastlyError (List UInt8))
  | configStoreContains (cs : F.ConfigStore) (slots : Slots FastlyError Unit)
  | secretStoreOpen (slots : Slots FastlyError (RawPtr F.SecretStore))
  | secretStoreGet (ss : F.SecretStore) (slots : Slots FastlyError (RawPtr F.Secret))
  | secretStoreContains (ss : F.SecretStore) (slots : Slots FastlyError Unit)
  | kvStoreOpen (slots : Slots KVStoreError (RawPtr F.KVStore))
  | kvStoreLookup (store : F.KVStore) (slots : Slots KVStoreError (RawPtr F.LookupResponse))
  | kvStoreInsert (store : F.KVStore) (value : HostBody) (slots : Slots KVStoreError Unit)
  | kvStoreErase (store : F.KVStore) (slots : Slots KVStoreError Unit)
  | lookupBuilderExecute (builder : F.LookupBuilder)
      (slots : Slots KVStoreError (RawPtr F.LookupResponse))
  | lookupBuilderExecuteAsync (builder : F.LookupBuilder) (slots : Slots KVStoreError UInt32)
  | eraseBuilderExecute (builder : F.EraseBuilder) (slots : Slots KVStoreError Unit)
  | eraseBuilderExecuteAsync (builder : F.EraseBuilder) (slots : Slots KVStoreError UInt32)
  | insertBuilderMetadata (builder : F.InsertBuilder)
  | insertBuilderExecute (builder : F.InsertBuilder) (body : HostBody)
      (slots : Slots KVStoreError Unit)
  | insertBuilderExecuteAsync (builder : F.InsertBuilder) (body : HostBody)
      (slots : Slots KVStoreError UInt32)
  | listBuilderCursor (builder : F.ListBuilder)
  | listBuilderPrefix (builder : F.ListBuilder)

namespace StoreCall

variable {F : Crates} (S : KvSetters F)

/-- How the operation ends on a string. -/
def ending (text : List UInt8) : StoreCall F → Except Abort StoreEnding
  | configStoreOpen slots => ended (ConfigStore.open_ F text slots)
  | configStoreGet cs slots => ended (ConfigStore.get F cs text slots)
  | configStoreContains cs slots => ended (ConfigStore.contains F cs text slots)
  | secretStoreOpen slots => ended (SecretStore.open_ F text slots)
  | secretStoreGet ss slots => ended (SecretStore.get F ss text slots)
  | secretStoreContains ss slots => ended (SecretStore.contains F ss text slots)
  | kvStoreOpen slots => ended (Kv.KVStore.open_ F text slots)
  | kvStoreLookup store slots => ended (Kv.KVStore.lookup F store text slots)
  | kvStoreInsert store value slots => ended (Kv.KVStore.insert F store text value slots)
  | kvStoreErase store slots => ended (Kv.KVStore.erase F store text slots)
  | lookupBuilderExecute builder slots => ended (Kv.LookupBuilder.execute F builder text slots)
  | lookupBuilderExecuteAsync builder slots =>
    ended (Kv.LookupBuilder.executeAsync F builder text slots)
  | eraseBuilderExecute builder slots => ended (Kv.EraseBuilder.execute F builder text slots)
  | eraseBuilderExecuteAsync builder slots =>
    ended (Kv.EraseBuilder.executeAsync F builder text slots)
  | insertBuilderMetadata builder => built (Kv.InsertBuilder.metadata F S text builder)
  | insertBuilderExecute builder body slots =>
    ended (Kv.InsertBuilder.execute F builder text body slots)
  | insertBuilderExecuteAsync builder body slots =>
    ended (Kv.InsertBuilder.executeAsync F builder text body slots)
  | listBuilderCursor builder => built (Kv.ListBuilder.cursor F S text builder)
  | listBuilderPrefix builder => built (Kv.ListBuilder.keyPrefix F S text builder)

def kind : StoreCall F → StringKind
  | configStoreOpen _ => .storeName
  | secretStoreOpen _ => .storeName
  | kvStoreOpen _ => .storeName
  | insertBuilderMetadata _ => .metadata
  | listBuilderCursor _ => .cursor
  | listBuilderPrefix _ => .keyPrefix
  | _ => .key

/-- The operations of the stores that report a string that is not UTF-8. -/
def Checked : StoreCall F → Prop
  | configStoreOpen _ => True
  | configStoreGet _ _ => True
  | configStoreContains _ _ => True
  | secretStoreOpen _ => True
  | secretStoreGet _ _ => True
  | secretStoreContains _ _ => True
  | _ => False

/-- The operation ends with a value or an error of its own. -/
def Ends (text : List UInt8) (c : StoreCall F) : Prop := ∃ e, c.ending S text = .ok e

/-- Two operations on the same kind of string either both report one that is not UTF-8, or
neither does. -/
def Agree (text : List UInt8) (c c' : StoreCall F) : Prop :=
  c.kind = c'.kind → ¬ IsUtf8 text →
    (c.ending S text = .ok .error ↔ c'.ending S text = .ok .error)

variable {S}

theorem reporting_of_checked (hF : ChecksUtf8 F) (c : StoreCall F) (h : c.Checked) :
    Reporting fun text => c.ending S text := by
  cases c with
  | configStoreOpen slots =>
      apply reporting_withUtf8 hF
      · exact fun text => Wrapper.agreesAt_of_not_inverted (.configStoreOpen text) id slots
      · exact fun _ => contained_inBox
  | configStoreGet cs slots =>
      apply reporting_withUtf8 hF
      · exact fun text => Wrapper.agreesAt_of_not_inverted (.configStoreGet cs text) id slots
      · exact fun _ => contained_fromExcept
  | configStoreContains cs slots =>
      apply reporting_withUtf8 hF
      · exact fun text => Wrapper.agreesAt_of_not_inverted (.configStoreContains cs text) id slots
      · exact fun _ => contained_pure
  | secretStoreOpen slots =>
      apply reporting_withUtf8 hF
      · exact fun text => Wrapper.agreesAt_of_not_inverted (.secretStoreOpen text) id slots
      · exact fun _ => contained_inBox
  | secretStoreGet ss slots =>
      apply reporting_withUtf8 hF
      · exact fun text => Wrapper.agreesAt_of_not_inverted (.secretStoreGet ss text) id slots
      · exact fun _ => contained_pure
  | secretStoreContains ss slots =>
      apply reporting_withUtf8 hF
      · exact fun text => Wrapper.agreesAt_of_not_inverted (.secretStoreContains ss text) id slots
      · exact fun _ => contained_fromExcept
  | _ => exact h.elim

theorem stopping_of_not_checked (hF : ChecksUtf8 F) (c : StoreCall F) (h : ¬ c.Checked) :
    Stopping fun text => c.ending S text := by
  cases c with
  | kvStoreOpen slots =>
      apply stopping_orStop hF.rustStr
      · exact fun text => Wrapper.agreesAt_of_not_inverted (.kvStoreOpen text) id slots
      · exact fun _ => contained_fromExcept_bind fun _ => contained_pure
  | kvStoreLookup store slots =>
      apply stopping_orStop hF.rustStr
      · exact fun text => Wrapper.agreesAt_of_not_inverted (.kvStoreLookup store text) id slots
      · exact fun _ => contained_inBox
  | kvStoreInsert store value slots =>
      apply stopping_orStop hF.rustStr
      · exact fun text =>
          Wrapper.agreesAt_of_not_inverted (.kvStoreInsert store text value) id slots
      · exact fun _ => contained_fromExcept
  | kvStoreErase store slots =>
      apply stopping_orStop hF.rustStr
      · exact fun text => Wrapper.agreesAt_of_not_inverted (.kvStoreErase store text) id slots
      · exact fun _ => contained_fromExcept
  | lookupBuilderExecute builder slots =>
      apply stopping_orStop hF.rustStr
      · exact fun text =>
          Wrapper.agreesAt_of_not_inverted (.lookupBuilderExecute builder text) id slots
      · exact fun _ => contained_inBox
  | lookupBuilderExecuteAsync builder slots =>
      apply stopping_orStop hF.rustStr
      · exact fun text =>
          Wrapper.agreesAt_of_not_inverted (.lookupBuilderExecuteAsync builder text) id slots
      · exact fun _ => contained_fromExcept
  | eraseBuilderExecute builder slots =>
      apply stopping_orStop hF.rustStr
      · exact fun text =>
          Wrapper.agreesAt_of_not_inverted (.eraseBuilderExecute builder text) id slots
      · exact fun _ => contained_fromExcept
  | eraseBuilderExecuteAsync builder slots =>
      apply stopping_orStop hF.rustStr
      · exact fun text =>
          Wrapper.agreesAt_of_not_inverted (.eraseBuilderExecuteAsync builder text) id slots
      · exact fun _ => contained_fromExcept
  | insertBuilderMetadata builder => exact stopping_built hF.expect
  | insertBuilderExecute builder body slots =>
      apply stopping_orStop hF.expect
      · exact fun text =>
          Wrapper.agreesAt_of_not_inverted (.insertBuilderExecute builder text body) id slots
      · exact fun _ => contained_fromExcept
  | insertBuilderExecuteAsync builder body slots =>
      apply stopping_orStop hF.expect
      · exact fun text =>
          Wrapper.agreesAt_of_not_inverted (.insertBuilderExecuteAsync builder text body) id slots
      · exact fun _ => contained_fromExcept
  | listBuilderCursor builder => exact stopping_built hF.rustStr
  | listBuilderPrefix builder => exact stopping_built hF.rustStr
  | _ => exact absurd trivial h

theorem ends_iff (hF : ChecksUtf8 F) (c : StoreCall F) (text : List UInt8) :
    c.Ends S text ↔ IsUtf8 text ∨ c.Checked := by
  constructor
  · rintro ⟨e, he⟩
    by_contra hnot
    obtain ⟨htext, hc⟩ := not_or.mp hnot
    obtain ⟨a, ha⟩ := (stopping_of_not_checked (S := S) hF c hc).stops htext
    exact nomatch he.symm.trans ha
  · intro h
    by_cases hc : c.Checked
    · exact (reporting_of_checked hF c hc).ends text
    · exact (stopping_of_not_checked hF c hc).ends (h.resolve_right hc)

/-- The checked operations, and no others, report a string that is not UTF-8. -/
theorem ending_eq_error_iff (hF : ChecksUtf8 F) (c : StoreCall F) {text : List UInt8}
    (htext : ¬ IsUtf8 text) : c.ending S text = .ok .error ↔ c.Checked := by
  refine ⟨fun hreport => ?_, fun hc => (reporting_of_checked hF c hc).reports htext⟩
  exact ((ends_iff hF c text).mp ⟨_, hreport⟩).resolve_left htext

theorem agree_iff (hF : ChecksUtf8 F) (c c' : StoreCall F) (text : List UInt8) :
    Agree S text c c' ↔ IsUtf8 text ∨ c.kind ≠ c'.kind ∨ (c.Checked ↔ c'.Checked) := by
  by_cases htext : IsUtf8 text
  · exact iff_of_true (fun _ h => absurd htext h) (.inl htext)
  · rw [Agree, ending_eq_error_iff hF c htext, ending_eq_error_iff hF c' htext]
    tauto

end StoreCall

/-! ## A conversion that checks -/

def decode (text : List UInt8) : Except String String :=
  if h : IsUtf8 text then .ok (.fromUTF8 _ h) else .error "invalid utf-8 sequence"

/-- Plain crates that accept all of UTF-8. -/
def utf8Crates : Crates :=
  { Plain.crates with
    toStr := decode
    rustStr := fun text => (decode text).mapError fun message => ⟨message⟩ }

def utf8Setters : KvSetters utf8Crates where
  metadata _ builder := builder
  timeToLive _ builder := builder
  cursor _ builder := builder
  keyPrefix _ builder := builder

theorem utf8Crates_checks : ChecksUtf8 utf8Crates where
  toStr text := by
    by_cases h : IsUtf8 text <;> simp [utf8Crates, decode, h]
  rustStr text := by
    by_cases h : IsUtf8 text <;> simp [utf8Crates, decode, h, Except.mapError]

/-! ## Every store -/

/-- No operation of a store is stopped by its string, and operations on the same kind of string
agree on the errors that they report. -/
def StringsContained : Prop :=
  ∀ (F : Crates), ChecksUtf8 F → ∀ (S : KvSetters F) (text : List UInt8) (c : StoreCall F),
    c.Ends S text ∧ ∀ c', StoreCall.Agree S text c c'

theorem storeString_iff {F : Crates} (hF : ChecksUtf8 F) (S : KvSetters F) (text : List UInt8)
    (c : StoreCall F) :
    (c.Ends S text ↔ IsUtf8 text ∨ c.Checked) ∧
      ∀ c', StoreCall.Agree S text c c' ↔
        IsUtf8 text ∨ c.kind ≠ c'.kind ∨ (c.Checked ↔ c'.Checked) :=
  ⟨c.ends_iff hF text, fun c' => c.agree_iff hF c' text⟩

theorem storeString_iff_lookup :
    ChecksUtf8 utf8Crates ∧ ∃ c : StoreCall utf8Crates, ¬ c.Checked ∧ ¬ IsUtf8 [0xFF] ∧
      (c.Ends utf8Setters [0xFF] ↔ IsUtf8 [0xFF] ∨ c.Checked) :=
  ⟨utf8Crates_checks, .kvStoreLookup () ⟨.null, .null⟩, id, by decide,
    (storeString_iff utf8Crates_checks utf8Setters [0xFF] (.kvStoreLookup () ⟨.null, .null⟩)).1⟩

/-- A lookup of a key of one byte that is not UTF-8 stops the process. -/
theorem not_stringsContained : ¬ StringsContained := by
  intro h
  have hends := (h utf8Crates utf8Crates_checks utf8Setters [0xFF]
    (.kvStoreLookup () ⟨.null, .null⟩)).1
  rcases (StoreCall.ends_iff utf8Crates_checks _ _).mp hends with htext | hchecked
  · exact absurd htext (by decide)
  · exact hchecked

end ComputeSdk
