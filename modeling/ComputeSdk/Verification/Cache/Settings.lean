import ComputeSdk.Shared.Frame
import ComputeSdk.Verification.Cache.Lifetimes

/-! # Settings of the write builders

Four builders repeat the same setters. Each is held against one function on the options, and
a chain of setters against the last value that it gives to each field. -/

namespace ComputeSdk

open Shared Guest ComputeSdk.Core

/-- A setter of a write builder, with its argument. The update builder calls the initial age
`age`. -/
inductive WriteSetting where
  | varyBy (headers : List (List UInt8))
  | initialAge (age : Int64)
  | staleWhileRevalidate (duration : Int64)
  | surrogateKeys (keys : List (List UInt8))
  | knownLength (length : UInt64)
  | userMetadata (metadata : List UInt8)
  | sensitiveData (isSensitive : Bool)
  | deliverNodeMaxAge (duration : Int64)
  | onBehalfOf (service : List UInt8)

/-! ## The builders -/

inductive WriteKind where
  | transactionInsert
  | transactionUpdate
  | insert
  | replace

/-- The setters that a builder has. -/
def WriteKind.Has : WriteKind → WriteSetting → Prop
  | transactionUpdate, .knownLength _ => False
  | transactionUpdate, .sensitiveData _ => False
  | replace, .onBehalfOf _ => False
  | _, _ => True

/-- A write builder. A replacement learns its maximum age when it is executed. -/
inductive WriteBuilder where
  | transactionInsert (b : TransactionInsertBuilder)
  | transactionUpdate (b : TransactionUpdateBuilder)
  | insert (b : InsertBuilder)
  | replace (r : Replace) (maxAge : Int64)

def setTransactionInsert (b : TransactionInsertBuilder) : WriteSetting → TransactionInsertBuilder
  | .varyBy headers => b.varyBy headers
  | .initialAge age => b.initialAge age
  | .staleWhileRevalidate duration => b.staleWhileRevalidate duration
  | .surrogateKeys keys => b.surrogateKeys keys
  | .knownLength length => b.knownLength length
  | .userMetadata metadata => b.userMetadata metadata
  | .sensitiveData isSensitive => b.sensitiveData isSensitive
  | .deliverNodeMaxAge duration => b.deliverNodeMaxAge duration
  | .onBehalfOf service => b.onBehalfOf service

/-- The error is the setter that the builder does not have. -/
def setTransactionUpdate (b : TransactionUpdateBuilder) :
    WriteSetting → Except WriteSetting TransactionUpdateBuilder
  | .varyBy headers => .ok (b.varyBy headers)
  | .initialAge age => .ok (b.age age)
  | .staleWhileRevalidate duration => .ok (b.staleWhileRevalidate duration)
  | .surrogateKeys keys => .ok (b.surrogateKeys keys)
  | .knownLength length => .error (.knownLength length)
  | .userMetadata metadata => .ok (b.userMetadata metadata)
  | .sensitiveData isSensitive => .error (.sensitiveData isSensitive)
  | .deliverNodeMaxAge duration => .ok (b.deliverNodeMaxAge duration)
  | .onBehalfOf service => .ok (b.onBehalfOf service)

def setInsert (b : InsertBuilder) : WriteSetting → InsertBuilder
  | .varyBy headers => b.varyBy headers
  | .initialAge age => b.initialAge age
  | .staleWhileRevalidate duration => b.staleWhileRevalidate duration
  | .surrogateKeys keys => b.surrogateKeys keys
  | .knownLength length => b.knownLength length
  | .userMetadata metadata => b.userMetadata metadata
  | .sensitiveData isSensitive => b.sensitiveData isSensitive
  | .deliverNodeMaxAge duration => b.deliverNodeMaxAge duration
  | .onBehalfOf service => b.onBehalfOf service

def setReplace (r : Replace) : WriteSetting → Except WriteSetting Replace
  | .varyBy headers => .ok (r.varyBy headers)
  | .initialAge age => .ok (r.initialAge age)
  | .staleWhileRevalidate duration => .ok (r.staleWhileRevalidate duration)
  | .surrogateKeys keys => .ok (r.surrogateKeys keys)
  | .knownLength length => .ok (r.knownLength length)
  | .userMetadata metadata => .ok (r.userMetadata metadata)
  | .sensitiveData isSensitive => .ok (r.sensitiveData isSensitive)
  | .deliverNodeMaxAge duration => .ok (r.deliverNodeMaxAge duration)
  | .onBehalfOf service => .error (.onBehalfOf service)

namespace WriteBuilder

def set : WriteBuilder → WriteSetting → Except WriteSetting WriteBuilder
  | transactionInsert b, c => .ok (.transactionInsert (setTransactionInsert b c))
  | transactionUpdate b, c => (setTransactionUpdate b c).map .transactionUpdate
  | insert b, c => .ok (.insert (setInsert b c))
  | replace r maxAge, c => (setReplace r c).map (.replace · maxAge)

def kind : WriteBuilder → WriteKind
  | transactionInsert _ => .transactionInsert
  | transactionUpdate _ => .transactionUpdate
  | insert _ => .insert
  | replace _ _ => .replace

/-- The options that `execute` uses. -/
def used : WriteBuilder → WriteOptions
  | transactionInsert b => b.options
  | transactionUpdate b => b.options
  | insert b => b.options
  | replace r maxAge => { r.options with maxAge := maxAge }

/-- The ways to execute a builder. -/
def executions : WriteBuilder → List (Guest Unit)
  | transactionInsert b => [discard b.execute, discard b.executeAndStreamBack]
  | transactionUpdate b => [discard b.execute]
  | insert b => [discard b.execute]
  | replace r maxAge => [discard (r.execute maxAge)]

theorem passes_executions (b : WriteBuilder) :
    ∀ x ∈ b.executions, Passes b.used.asAbi x := by
  cases b with
  | transactionInsert b =>
      simp only [executions, List.forall_mem_cons]
      exact ⟨calls_discard.mpr b.passes_execute, calls_discard.mpr b.passes_executeAndStreamBack,
        fun x hx => nomatch hx⟩
  | transactionUpdate b => exact List.forall_mem_singleton.mpr (calls_discard.mpr b.passes_execute)
  | insert b => exact List.forall_mem_singleton.mpr (calls_discard.mpr b.passes_execute)
  | replace r maxAge =>
      exact List.forall_mem_singleton.mpr (calls_discard.mpr (r.passes_execute maxAge))

theorem asks_executions (b : WriteBuilder) :
    ∀ x ∈ b.executions, Asks b.used.asAbi x := by
  cases b with
  | transactionInsert b =>
      simp only [executions, List.forall_mem_cons]
      exact ⟨b.asks_execute.discarded, b.asks_executeAndStreamBack.discarded,
        List.forall_mem_nil _⟩
  | transactionUpdate b => exact List.forall_mem_singleton.mpr b.asks_execute.discarded
  | insert b => exact List.forall_mem_singleton.mpr b.asks_execute.discarded
  | replace r maxAge => exact List.forall_mem_singleton.mpr (r.asks_execute maxAge).discarded

end WriteBuilder

/-- How a builder comes about. -/
inductive WriteStart where
  | transactionInsert (handle : SharedPtr) (maxAge : Int64)
  | transactionUpdate (handle : SharedPtr) (maxAge : Int64)
  | insert (key : List UInt8) (maxAge : Int64)
  | replace (handle : SharedPtr) (existingObject : Option Found) (maxAge : Int64)

namespace WriteStart

def builder : WriteStart → WriteBuilder
  | transactionInsert handle maxAge => .transactionInsert ⟨handle, { maxAge := maxAge }⟩
  | transactionUpdate handle maxAge => .transactionUpdate ⟨handle, { maxAge := maxAge }⟩
  | insert key maxAge => .insert (Core.insert key maxAge)
  | replace handle existingObject maxAge =>
    .replace { handle := handle, existingObject := existingObject } maxAge

def maxAge : WriteStart → Int64
  | transactionInsert _ maxAge => maxAge
  | transactionUpdate _ maxAge => maxAge
  | insert _ maxAge => maxAge
  | replace _ _ maxAge => maxAge

theorem used_builder (st : WriteStart) : st.builder.used = { maxAge := st.maxAge } := by
  cases st <;> rfl

end WriteStart

/-! ## Fields -/

/-- The fields of the options. -/
inductive WriteField where
  | maxAge
  | requestHeaders
  | varyRule
  | initialAge
  | staleWhileRevalidate
  | surrogateKeys
  | length
  | userMetadata
  | sensitiveData
  | edgeMaxAge
  | service
  deriving DecidableEq

namespace WriteField

def Value : WriteField → Type
  | maxAge => Int64
  | requestHeaders => Option RequestHandle
  | varyRule => Option (List UInt8)
  | initialAge => Option Int64
  | staleWhileRevalidate => Option Int64
  | surrogateKeys => Option (List UInt8)
  | length => Option UInt64
  | userMetadata => Option (List UInt8)
  | sensitiveData => Bool
  | edgeMaxAge => Option Int64
  | service => Option (List UInt8)

def get : (f : WriteField) → WriteOptions → f.Value
  | maxAge, o => o.maxAge
  | requestHeaders, o => o.requestHeaders
  | varyRule, o => o.varyRule
  | initialAge, o => o.initialAge
  | staleWhileRevalidate, o => o.staleWhileRevalidate
  | surrogateKeys, o => o.surrogateKeys
  | length, o => o.length
  | userMetadata, o => o.userMetadata
  | sensitiveData, o => o.sensitiveData
  | edgeMaxAge, o => o.edgeMaxAge
  | service, o => o.service

/-- Options with the same fields are the same. -/
theorem ext {o o' : WriteOptions} (h : ∀ f : WriteField, f.get o = f.get o') : o = o' := by
  cases o
  cases o'
  rw [WriteOptions.mk.injEq]
  exact ⟨h .maxAge, h .requestHeaders, h .varyRule, h .initialAge, h .staleWhileRevalidate,
    h .surrogateKeys, h .length, h .userMetadata, h .sensitiveData, h .edgeMaxAge, h .service⟩

end WriteField

/-- A list of names as it is kept in the options, where no names are no option. -/
def joined (names : List (List UInt8)) : Option (List UInt8) :=
  if names = [] then none else some (joinStrings names space)

namespace WriteSetting

def field : WriteSetting → WriteField
  | varyBy _ => .varyRule
  | initialAge _ => .initialAge
  | staleWhileRevalidate _ => .staleWhileRevalidate
  | surrogateKeys _ => .surrogateKeys
  | knownLength _ => .length
  | userMetadata _ => .userMetadata
  | sensitiveData _ => .sensitiveData
  | deliverNodeMaxAge _ => .edgeMaxAge
  | onBehalfOf _ => .service

/-- The value that a call gives to its field. -/
def value : (c : WriteSetting) → c.field.Value
  | varyBy headers => joined headers
  | initialAge age => some age
  | staleWhileRevalidate duration => some duration
  | surrogateKeys keys => joined keys
  | knownLength length => some length
  | userMetadata metadata => some metadata
  | sensitiveData isSensitive => isSensitive
  | deliverNodeMaxAge duration => some duration
  | onBehalfOf service => some service

/-- The value that a call gives to a field, if it is about this field. -/
def gives (f : WriteField) (c : WriteSetting) : Option f.Value :=
  if h : c.field = f then some (h ▸ c.value) else none

/-- What the setters of all builders do to the options. -/
def write (o : WriteOptions) : WriteSetting → WriteOptions
  | varyBy headers => o.setVaryRule headers
  | initialAge age => { o with initialAge := some age }
  | staleWhileRevalidate duration => { o with staleWhileRevalidate := some duration }
  | surrogateKeys keys => o.setSurrogateKeys keys
  | knownLength length => { o with length := some length }
  | userMetadata metadata => { o with userMetadata := some metadata }
  | sensitiveData isSensitive => { o with sensitiveData := isSensitive }
  | deliverNodeMaxAge duration => { o with edgeMaxAge := some duration }
  | onBehalfOf service => { o with service := some service }

/-- What a call writes to a field. An empty list of names is not written. -/
def writes : (f : WriteField) → WriteSetting → Option f.Value
  | .varyRule => present (gives .varyRule)
  | .surrogateKeys => present (gives .surrogateKeys)
  | f => gives f

theorem gives_of_ne {f : WriteField} {c : WriteSetting} (h : c.field ≠ f) : c.gives f = none :=
  dif_neg h

theorem writes_of_ne {f : WriteField} {c : WriteSetting} (h : c.field ≠ f) : c.writes f = none := by
  have hgives := gives_of_ne h
  cases f with
  | varyRule => exact present_of_none hgives
  | surrogateKeys => exact present_of_none hgives
  | _ => exact hgives

theorem get_setVaryRule {f : WriteField} (hf : f ≠ .varyRule) (headers : List (List UInt8))
    (o : WriteOptions) : f.get (o.setVaryRule headers) = f.get o := by
  unfold WriteOptions.setVaryRule
  split
  · rfl
  · cases f <;> first | rfl | exact absurd rfl hf

theorem get_setSurrogateKeys {f : WriteField} (hf : f ≠ .surrogateKeys)
    (keys : List (List UInt8)) (o : WriteOptions) :
    f.get (o.setSurrogateKeys keys) = f.get o := by
  unfold WriteOptions.setSurrogateKeys
  split
  · rfl
  · cases f <;> first | rfl | exact absurd rfl hf

theorem get_write_of_ne {f : WriteField} {c : WriteSetting} (h : c.field ≠ f) (o : WriteOptions) :
    f.get (c.write o) = f.get o := by
  cases c with
  | varyBy headers => exact get_setVaryRule (Ne.symm h) headers o
  | surrogateKeys keys => exact get_setSurrogateKeys (Ne.symm h) keys o
  | _ => cases f <;> first | rfl | exact absurd rfl h

theorem get_write_self (c : WriteSetting) (o : WriteOptions) :
    c.field.get (c.write o) = (c.writes c.field).getD (c.field.get o) := by
  cases c with
  | varyBy headers =>
      change (o.setVaryRule headers).varyRule =
        (Option.map some (joined headers)).getD o.varyRule
      unfold WriteOptions.setVaryRule joined
      split <;> rfl
  | surrogateKeys keys =>
      change (o.setSurrogateKeys keys).surrogateKeys =
        (Option.map some (joined keys)).getD o.surrogateKeys
      unfold WriteOptions.setSurrogateKeys joined
      split <;> rfl
  | _ => rfl

theorem get_write (f : WriteField) (c : WriteSetting) (o : WriteOptions) :
    f.get (c.write o) = (c.writes f).getD (f.get o) := by
  by_cases hf : c.field = f
  · subst hf
    exact get_write_self c o
  · rw [get_write_of_ne hf, writes_of_ne hf]
    rfl

/-- Calls on different fields commute. -/
theorem write_comm {c d : WriteSetting} (h : c.field ≠ d.field) (o : WriteOptions) :
    d.write (c.write o) = c.write (d.write o) := by
  refine WriteField.ext fun f => ?_
  rw [get_write, get_write, get_write, get_write]
  by_cases hc : c.field = f
  · rw [writes_of_ne (c := d) fun hd => h (hc.trans hd.symm)]
    rfl
  · rw [writes_of_ne hc]
    rfl

end WriteSetting

namespace WriteBuilder

theorem setVaryRule_maxAge (headers : List (List UInt8)) (maxAge : Int64) (o : WriteOptions) :
    { o.setVaryRule headers with maxAge := maxAge } =
      { o with maxAge := maxAge }.setVaryRule headers := by
  unfold WriteOptions.setVaryRule
  split <;> rfl

theorem setSurrogateKeys_maxAge (keys : List (List UInt8)) (maxAge : Int64) (o : WriteOptions) :
    { o.setSurrogateKeys keys with maxAge := maxAge } =
      { o with maxAge := maxAge }.setSurrogateKeys keys := by
  unfold WriteOptions.setSurrogateKeys
  split <;> rfl

/-- All builders do the same to their options. -/
theorem used_set {b b' : WriteBuilder} {c : WriteSetting} (h : b.set c = .ok b') :
    b'.used = c.write b.used := by
  cases b with
  | transactionInsert b =>
      obtain rfl := Except.ok.inj h
      cases c <;> rfl
  | transactionUpdate b => cases c <;> first | cases h; rfl | cases h
  | insert b =>
      obtain rfl := Except.ok.inj h
      cases c <;> rfl
  | replace r maxAge =>
      cases c with
      | varyBy headers =>
          obtain rfl := Except.ok.inj h
          exact setVaryRule_maxAge headers maxAge r.options
      | surrogateKeys keys =>
          obtain rfl := Except.ok.inj h
          exact setSurrogateKeys_maxAge keys maxAge r.options
      | onBehalfOf service => cases h
      | _ =>
          obtain rfl := Except.ok.inj h
          rfl

theorem used_run {b b' : WriteBuilder} {cs : List WriteSetting} (h : run set b cs = .ok b') :
    b'.used = cs.foldl WriteSetting.write b.used := by
  induction cs generalizing b with
  | nil =>
      obtain rfl := Except.ok.inj h
      rfl
  | cons c cs ih =>
      obtain ⟨b₁, hset, hrest⟩ := run_cons_eq_ok_iff.mp h
      rw [ih hrest, used_set hset, List.foldl_cons]

theorem exists_set {b : WriteBuilder} {c : WriteSetting} (h : b.kind.Has c) :
    ∃ b', b.set c = .ok b' ∧ b'.kind = b.kind := by
  cases b with
  | transactionInsert b => exact ⟨_, rfl, rfl⟩
  | transactionUpdate b => cases c <;> first | exact h.elim | exact ⟨_, rfl, rfl⟩
  | insert b => exact ⟨_, rfl, rfl⟩
  | replace r maxAge => cases c <;> first | exact h.elim | exact ⟨_, rfl, rfl⟩

theorem has_of_set {b b' : WriteBuilder} {c : WriteSetting} (h : b.set c = .ok b') :
    b.kind.Has c := by
  cases b with
  | transactionInsert b => trivial
  | transactionUpdate b => cases c <;> trivial
  | insert b => trivial
  | replace r maxAge => cases c <;> trivial

/-- The chains that a builder can run are those of its own setters. -/
theorem exists_run_iff {b : WriteBuilder} {cs : List WriteSetting} :
    (∃ b', run set b cs = .ok b') ↔ ∀ c ∈ cs, b.kind.Has c := by
  induction cs generalizing b with
  | nil => exact iff_of_true ⟨b, rfl⟩ fun c hc => nomatch hc
  | cons c cs ih =>
      rw [List.forall_mem_cons]
      constructor
      · rintro ⟨b', hrun⟩
        obtain ⟨b₁, hset, hrest⟩ := run_cons_eq_ok_iff.mp hrun
        obtain ⟨b₂, hset', hkind⟩ := exists_set (has_of_set hset)
        obtain rfl := Except.ok.inj (hset.symm.trans hset')
        rw [← hkind]
        exact ⟨hkind ▸ has_of_set hset, ih.mp ⟨b', hrest⟩⟩
      · rintro ⟨hc, hcs⟩
        obtain ⟨b₁, hset, hkind⟩ := exists_set hc
        obtain ⟨b', hrun⟩ := ih.mpr (hkind ▸ hcs)
        exact ⟨b', (run_cons_of_ok cs hset).trans hrun⟩

end WriteBuilder

/-! ## Chains -/

/-- The lists of names that the calls give to the vary rule. -/
def varyLists : WriteSetting → Option (List (List UInt8))
  | .varyBy headers => some headers
  | _ => none

/-- The lists of names that the calls give to the surrogate keys. -/
def keyLists : WriteSetting → Option (List (List UInt8))
  | .surrogateKeys keys => some keys
  | _ => none

/-- If the last list is empty then there is no name in the others. -/
def NeverEmptied (lists : WriteSetting → Option (List (List UInt8)))
    (cs : List WriteSetting) : Prop :=
  (cs.filterMap lists).getLast? = some [] → ∀ names ∈ cs.filterMap lists, names = []

/-- What a chain on a new builder should leave. -/
structure SettingsHold (st : WriteStart) (cs : List WriteSetting) : Prop where
  executed : ∀ b, run WriteBuilder.set st.builder cs = .ok b →
    ∀ x ∈ b.executions, Asks b.used.asAbi x ∧ Passes b.used.asAbi x
  lastWins : ∀ b, run WriteBuilder.set st.builder cs = .ok b → ∀ f : WriteField,
    f.get b.used = lastWrite (WriteSetting.gives f) (f.get { maxAge := st.maxAge }) cs
  commute : ∀ past c d rest b, cs = past ++ c :: d :: rest → c.field ≠ d.field →
    run WriteBuilder.set st.builder cs = .ok b →
    ∃ b', run WriteBuilder.set st.builder (past ++ d :: c :: rest) = .ok b' ∧ b'.used = b.used
  agree : ∀ (st' : WriteStart) b b', st'.maxAge = st.maxAge →
    run WriteBuilder.set st.builder cs = .ok b → run WriteBuilder.set st'.builder cs = .ok b' →
    b'.used = b.used

section

variable {st : WriteStart} {cs : List WriteSetting} {b : WriteBuilder}

/-- What a chain leaves in a field is the last value that is written to it. -/
theorem get_used (hrun : run WriteBuilder.set st.builder cs = .ok b) (f : WriteField) :
    f.get b.used = lastWrite (WriteSetting.writes f) (f.get { maxAge := st.maxAge }) cs := by
  have next : ∀ c ∈ cs, ∀ b b', WriteBuilder.set b c = .ok b' →
      f.get b'.used = (c.writes f).getD (f.get b.used) := by
    intro c _ b b' hset
    rw [WriteBuilder.used_set hset, WriteSetting.get_write]
  rw [← st.used_builder]
  exact run_lastWrite next hrun

theorem joined_eq_none_iff {names : List (List UInt8)} : joined names = none ↔ names = [] := by
  unfold joined
  split <;> simp_all

/-- A chain leaves the last list exactly if it never empties one. -/
theorem lastWrite_lists_iff {lists : WriteSetting → Option (List (List UInt8))}
    {gives : WriteSetting → Option (Option (List UInt8))}
    (h : ∀ c, gives c = (lists c).map joined) :
    lastWrite (present gives) none cs = lastWrite gives none cs ↔ NeverEmptied lists cs := by
  have hmap : cs.filterMap gives = (cs.filterMap lists).map joined := by
    rw [List.map_filterMap]
    exact congrArg (List.filterMap · cs) (funext h)
  have hlast : ((cs.filterMap lists).map joined).getLast? = some none ↔
      (cs.filterMap lists).getLast? = some [] := by
    rw [List.getLast?_map, Option.map_eq_some_iff]
    simp only [joined_eq_none_iff, exists_eq_right]
  rw [lastWrite_present_iff, NeverEmptied, hmap, hlast]
  simp only [true_and, List.forall_mem_map, joined_eq_none_iff]

theorem gives_varyRule (c : WriteSetting) : c.gives .varyRule = (varyLists c).map joined := by
  cases c <;> rfl

theorem gives_surrogateKeys (c : WriteSetting) :
    c.gives .surrogateKeys = (keyLists c).map joined := by
  cases c <;> rfl

theorem lastWins_iff (hrun : run WriteBuilder.set st.builder cs = .ok b) :
    (∀ f : WriteField,
      f.get b.used = lastWrite (WriteSetting.gives f) (f.get { maxAge := st.maxAge }) cs) ↔
      NeverEmptied varyLists cs ∧ NeverEmptied keyLists cs := by
  rw [← lastWrite_lists_iff gives_varyRule, ← lastWrite_lists_iff gives_surrogateKeys]
  constructor
  · intro hall
    exact ⟨(get_used hrun .varyRule).symm.trans (hall .varyRule),
      (get_used hrun .surrogateKeys).symm.trans (hall .surrogateKeys)⟩
  · rintro ⟨hvary, hkeys⟩ f
    rw [get_used hrun]
    cases f with
    | varyRule => exact hvary
    | surrogateKeys => exact hkeys
    | _ => rfl

theorem exists_run_swap {past rest : List WriteSetting} {c d : WriteSetting}
    (h : c.field ≠ d.field)
    (hrun : run WriteBuilder.set st.builder (past ++ c :: d :: rest) = .ok b) :
    ∃ b', run WriteBuilder.set st.builder (past ++ d :: c :: rest) = .ok b' ∧
      b'.used = b.used := by
  have hperm : (past ++ d :: c :: rest).Perm (past ++ c :: d :: rest) :=
    (List.Perm.swap c d rest).append_left past
  obtain ⟨b', hrun'⟩ := WriteBuilder.exists_run_iff.mpr fun c hc =>
    WriteBuilder.exists_run_iff.mp ⟨b, hrun⟩ c (hperm.mem_iff.mp hc)
  refine ⟨b', hrun', ?_⟩
  rw [WriteBuilder.used_run hrun', WriteBuilder.used_run hrun, List.foldl_append,
    List.foldl_append, List.foldl_cons, List.foldl_cons, List.foldl_cons, List.foldl_cons,
    WriteSetting.write_comm h.symm]

/-- Chains that the builder can run leave the last value of every field exactly if they never
empty a list of names. The rest always holds. -/
theorem settingsHold_iff (st : WriteStart) (cs : List WriteSetting) :
    SettingsHold st cs ↔ ((∀ c ∈ cs, st.builder.kind.Has c) →
      NeverEmptied varyLists cs ∧ NeverEmptied keyLists cs) := by
  rw [← WriteBuilder.exists_run_iff]
  constructor
  · rintro hholds ⟨b, hrun⟩
    exact (lastWins_iff hrun).mp (hholds.lastWins b hrun)
  · refine fun hnever => ⟨fun b _ x hx => ⟨b.asks_executions x hx, b.passes_executions x hx⟩,
      fun b hrun => (lastWins_iff hrun).mpr (hnever ⟨b, hrun⟩), ?_, ?_⟩
    · rintro past c d rest b rfl hfield hrun
      exact exists_run_swap hfield hrun
    · intro st' b b' hmax hrun hrun'
      rw [WriteBuilder.used_run hrun', WriteBuilder.used_run hrun, st'.used_builder,
        st.used_builder, hmax]

end

/-- Every chain leaves the last value of every field. -/
def SettingsIndependent : Prop := ∀ st cs, SettingsHold st cs

/-- A key that was taken back by an empty list. -/
theorem not_settingsIndependent : ¬ SettingsIndependent := by
  intro h
  have hlast := (h (.insert [] 0) [.surrogateKeys [[97]], .surrogateKeys []]).lastWins _ rfl
    .surrogateKeys
  cases hlast

end ComputeSdk
