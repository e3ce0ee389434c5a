import Mathlib.Logic.Function.Basic
import ComputeSdk.Model.Bridge.Backends
import ComputeSdk.Model.Bridge.Plain
import ComputeSdk.Shared.Frame

/-! # Settings of backends

What the getters of a backend return after a chain of calls on its builder. The setters of
durations drop the bits that the getters saturate at, and the getter of the time between bytes
asks for the time to the first. -/

namespace ComputeSdk

open Shared

/-! ## Settings -/

inductive Setting where
  | connectTimeout
  | firstByteTimeout
  | betweenBytesTimeout
  | httpKeepaliveTime
  | tcpKeepaliveEnable
  | tcpKeepaliveInterval
  | tcpKeepaliveProbes
  | tcpKeepaliveTime
  deriving DecidableEq, Repr

/-- What the crate holds for a setting. -/
@[reducible] def Setting.Stored : Setting → Type
  | tcpKeepaliveEnable => Bool
  | tcpKeepaliveProbes => UInt32
  | _ => Duration

/-- What a getter returns, where a duration is a count of milliseconds. -/
@[reducible] def Setting.Value : Setting → Type
  | tcpKeepaliveEnable => Bool
  | tcpKeepaliveProbes => UInt32
  | _ => ℕ

/-- A call on the builder. -/
inductive BackendCall where
  | connectTimeout (timeout : Int64)
  | firstByteTimeout (timeout : Int64)
  | betweenBytesTimeout (timeout : Int64)
  | httpKeepaliveTime (time : Int64)
  | tcpKeepaliveEnable (enable : Bool)
  | tcpKeepaliveIntervalSecs (secs : UInt32)
  | tcpKeepaliveProbes (probes : UInt32)
  | tcpKeepaliveTimeSecs (secs : UInt32)
  deriving DecidableEq

/-- The largest count of milliseconds that a getter returns. -/
def largestMillis : ℕ := 2 ^ 32 - 1

namespace BackendCall

/-- The durations are not negative, and the counts not zero. -/
def Valid : BackendCall → Prop
  | connectTimeout timeout => 0 ≤ timeout.toInt
  | firstByteTimeout timeout => 0 ≤ timeout.toInt
  | betweenBytesTimeout timeout => 0 ≤ timeout.toInt
  | httpKeepaliveTime time => 0 ≤ time.toInt
  | tcpKeepaliveEnable _ => True
  | tcpKeepaliveIntervalSecs secs => secs ≠ 0
  | tcpKeepaliveProbes probes => probes ≠ 0
  | tcpKeepaliveTimeSecs secs => secs ≠ 0

instance : (c : BackendCall) → Decidable c.Valid
  | connectTimeout timeout => inferInstanceAs (Decidable (0 ≤ timeout.toInt))
  | firstByteTimeout timeout => inferInstanceAs (Decidable (0 ≤ timeout.toInt))
  | betweenBytesTimeout timeout => inferInstanceAs (Decidable (0 ≤ timeout.toInt))
  | httpKeepaliveTime time => inferInstanceAs (Decidable (0 ≤ time.toInt))
  | tcpKeepaliveEnable _ => inferInstanceAs (Decidable True)
  | tcpKeepaliveIntervalSecs secs => inferInstanceAs (Decidable (secs ≠ 0))
  | tcpKeepaliveProbes probes => inferInstanceAs (Decidable (probes ≠ 0))
  | tcpKeepaliveTimeSecs secs => inferInstanceAs (Decidable (secs ≠ 0))

/-- What a call sets a setting to, saturated. -/
def wanted : BackendCall → (s : Setting) → Option s.Value
  | connectTimeout timeout, .connectTimeout => some (min timeout.toInt.toNat largestMillis)
  | firstByteTimeout timeout, .firstByteTimeout => some (min timeout.toInt.toNat largestMillis)
  | betweenBytesTimeout timeout, .betweenBytesTimeout =>
    some (min timeout.toInt.toNat largestMillis)
  | httpKeepaliveTime time, .httpKeepaliveTime => some (min time.toInt.toNat largestMillis)
  | tcpKeepaliveEnable enable, .tcpKeepaliveEnable => some enable
  | tcpKeepaliveIntervalSecs secs, .tcpKeepaliveInterval =>
    some (min (secs.toNat * 1000) largestMillis)
  | tcpKeepaliveProbes probes, .tcpKeepaliveProbes => some probes
  | tcpKeepaliveTimeSecs secs, .tcpKeepaliveTime => some (min (secs.toNat * 1000) largestMillis)
  | _, _ => none

/-- The call sets this setting. -/
def sets (s : Setting) (c : BackendCall) : Bool := (c.wanted s).isSome

/-- The value that the last call of the chain sets a setting to. -/
def lastSet (s : Setting) (cs : List BackendCall) : Option s.Value :=
  (lastWriter (sets s) cs).bind fun c => c.wanted s

end BackendCall

section

variable {F : Crates}

/-- The call on the builder. -/
def BackendCall.apply (B : BackendOps F) (builder : F.BackendBuilder) :
    BackendCall → Except Abort F.BackendBuilder
  | connectTimeout timeout => .ok (BackendBuilder.connectTimeout F B timeout builder)
  | firstByteTimeout timeout => .ok (BackendBuilder.firstByteTimeout F B timeout builder)
  | betweenBytesTimeout timeout => .ok (BackendBuilder.betweenBytesTimeout F B timeout builder)
  | httpKeepaliveTime time => .ok (BackendBuilder.httpKeepaliveTime F B time builder)
  | tcpKeepaliveEnable enable => .ok (BackendBuilder.tcpKeepaliveEnable F B enable builder)
  | tcpKeepaliveIntervalSecs secs => BackendBuilder.tcpKeepaliveIntervalSecs F B secs builder
  | tcpKeepaliveProbes probes => BackendBuilder.tcpKeepaliveProbes F B probes builder
  | tcpKeepaliveTimeSecs secs => BackendBuilder.tcpKeepaliveTimeSecs F B secs builder

namespace Setting

/-- The getter of the interface. -/
def read (B : BackendOps F) (backend : F.Backend) : (s : Setting) → s.Value
  | connectTimeout => Backend.getConnectTimeout F B backend
  | firstByteTimeout => Backend.getFirstByteTimeout F B backend
  | betweenBytesTimeout => Backend.getBetweenByteTimeout F B backend
  | httpKeepaliveTime => Backend.getHttpKeepaliveTime F B backend
  | tcpKeepaliveEnable => Backend.getTcpKeepaliveEnable F B backend
  | tcpKeepaliveInterval => Backend.getTcpKeepaliveInterval F B backend
  | tcpKeepaliveProbes => Backend.getTcpKeepaliveProbes F B backend
  | tcpKeepaliveTime => Backend.getTcpKeepaliveTime F B backend

/-- The getter of the crate. -/
def stored (B : BackendOps F) (backend : F.Backend) : (s : Setting) → s.Stored
  | connectTimeout => B.getConnectTimeout backend
  | firstByteTimeout => B.getFirstByteTimeout backend
  | betweenBytesTimeout => B.getBetweenBytesTimeout backend
  | httpKeepaliveTime => B.getHttpKeepaliveTime backend
  | tcpKeepaliveEnable => B.getTcpKeepaliveEnable backend
  | tcpKeepaliveInterval => B.getTcpKeepaliveInterval backend
  | tcpKeepaliveProbes => B.getTcpKeepaliveProbes backend
  | tcpKeepaliveTime => B.getTcpKeepaliveTime backend

/-- What a getter makes of what the crate holds. -/
def shown : (s : Setting) → s.Stored → s.Value
  | tcpKeepaliveEnable, enable => enable
  | tcpKeepaliveProbes, probes => probes
  | connectTimeout, d => (Sys.ensureU32 d.asMillis).toNat
  | firstByteTimeout, d => (Sys.ensureU32 d.asMillis).toNat
  | betweenBytesTimeout, d => (Sys.ensureU32 d.asMillis).toNat
  | httpKeepaliveTime, d => (Sys.ensureU32 d.asMillis).toNat
  | tcpKeepaliveInterval, d => (Sys.ensureU32 d.asMillis).toNat
  | tcpKeepaliveTime, d => (Sys.ensureU32 d.asMillis).toNat

end Setting

/-- The builder of the crate holds each setting by itself, and the backend returns it
unchanged. -/
structure Stores (B : BackendOps F) (view : F.BackendBuilder → (s : Setting) → s.Stored) :
    Prop where
  connectTimeout : ∀ d b,
    view (B.connectTimeout d b) = Function.update (view b) .connectTimeout d
  firstByteTimeout : ∀ d b,
    view (B.firstByteTimeout d b) = Function.update (view b) .firstByteTimeout d
  betweenBytesTimeout : ∀ d b,
    view (B.betweenBytesTimeout d b) = Function.update (view b) .betweenBytesTimeout d
  httpKeepaliveTime : ∀ d b,
    view (B.httpKeepaliveTime d b) = Function.update (view b) .httpKeepaliveTime d
  tcpKeepaliveEnable : ∀ e b,
    view (B.tcpKeepaliveEnable e b) = Function.update (view b) .tcpKeepaliveEnable e
  tcpKeepaliveIntervalSecs : ∀ n b, view (B.tcpKeepaliveIntervalSecs n b) =
    Function.update (view b) .tcpKeepaliveInterval (.fromSecs n.value.toUInt64)
  tcpKeepaliveProbes : ∀ n b,
    view (B.tcpKeepaliveProbes n b) = Function.update (view b) .tcpKeepaliveProbes n.value
  tcpKeepaliveTimeSecs : ∀ n b, view (B.tcpKeepaliveTimeSecs n b) =
    Function.update (view b) .tcpKeepaliveTime (.fromSecs n.value.toUInt64)
  finish : ∀ b backend, F.backendFinish b = .ok backend → Setting.stored B backend = view b

/-! ## What a chain stores -/

namespace BackendCall

/-- What the crate is given for a setting. -/
def given : BackendCall → (s : Setting) → Option s.Stored
  | connectTimeout timeout, .connectTimeout => some (.fromMillis (narrow timeout).toUInt64)
  | firstByteTimeout timeout, .firstByteTimeout => some (.fromMillis (narrow timeout).toUInt64)
  | betweenBytesTimeout timeout, .betweenBytesTimeout =>
    some (.fromMillis (narrow timeout).toUInt64)
  | httpKeepaliveTime time, .httpKeepaliveTime => some (.fromMillis (narrow time).toUInt64)
  | tcpKeepaliveEnable enable, .tcpKeepaliveEnable => some enable
  | tcpKeepaliveIntervalSecs secs, .tcpKeepaliveInterval => some (.fromSecs secs.toUInt64)
  | tcpKeepaliveProbes probes, .tcpKeepaliveProbes => some probes
  | tcpKeepaliveTimeSecs secs, .tcpKeepaliveTime => some (.fromSecs secs.toUInt64)
  | _, _ => none

/-- What the getter of a setting makes of what the crate is given for it. -/
def shownGiven (s : Setting) (c : BackendCall) : Option s.Value := (c.given s).map s.shown

variable {B : BackendOps F} {view : F.BackendBuilder → (s : Setting) → s.Stored}

theorem newUnwrap_of_ne_zero {value : UInt32} (h : value ≠ 0) :
    NonZero.newUnwrap value = .ok ⟨value, h⟩ := dif_pos h

/-- A valid call succeeds and changes its own setting. -/
theorem apply_spec (h : Stores B view) {c : BackendCall} (hvalid : c.Valid)
    (b : F.BackendBuilder) :
    ∃ b', c.apply B b = .ok b' ∧ ∀ s, view b' s = (c.given s).getD (view b s) := by
  cases c with
  | connectTimeout timeout =>
      refine ⟨_, rfl, fun s => (congrFun (h.connectTimeout _ b) s).trans ?_⟩
      cases s <;> rfl
  | firstByteTimeout timeout =>
      refine ⟨_, rfl, fun s => (congrFun (h.firstByteTimeout _ b) s).trans ?_⟩
      cases s <;> rfl
  | betweenBytesTimeout timeout =>
      refine ⟨_, rfl, fun s => (congrFun (h.betweenBytesTimeout _ b) s).trans ?_⟩
      cases s <;> rfl
  | httpKeepaliveTime time =>
      refine ⟨_, rfl, fun s => (congrFun (h.httpKeepaliveTime _ b) s).trans ?_⟩
      cases s <;> rfl
  | tcpKeepaliveEnable enable =>
      refine ⟨_, rfl, fun s => (congrFun (h.tcpKeepaliveEnable _ b) s).trans ?_⟩
      cases s <;> rfl
  | tcpKeepaliveIntervalSecs secs =>
      refine ⟨_, congrArg (Except.map _) (newUnwrap_of_ne_zero hvalid), fun s =>
        (congrFun (h.tcpKeepaliveIntervalSecs _ b) s).trans ?_⟩
      cases s <;> rfl
  | tcpKeepaliveProbes probes =>
      refine ⟨_, congrArg (Except.map _) (newUnwrap_of_ne_zero hvalid), fun s =>
        (congrFun (h.tcpKeepaliveProbes _ b) s).trans ?_⟩
      cases s <;> rfl
  | tcpKeepaliveTimeSecs secs =>
      refine ⟨_, congrArg (Except.map _) (newUnwrap_of_ne_zero hvalid), fun s =>
        (congrFun (h.tcpKeepaliveTimeSecs _ b) s).trans ?_⟩
      cases s <;> rfl

theorem shown_millis (timeout : Int64) :
    (Sys.ensureU32 (Duration.fromMillis (narrow timeout).toUInt64).asMillis).toNat =
      (narrow timeout).toNat := by
  have hlt := (narrow timeout).toNat_lt
  rw [Sys.toNat_ensureU32, Duration.asMillis_fromMillis, UInt32.toNat_toUInt64]
  exact Nat.min_eq_right (by omega)

theorem shown_secs (secs : UInt32) :
    (Sys.ensureU32 (Duration.fromSecs secs.toUInt64).asMillis).toNat =
      min (secs.toNat * 1000) largestMillis := by
  rw [Sys.toNat_ensureU32, Duration.asMillis_fromSecs, UInt32.toNat_toUInt64, Nat.min_comm]
  rfl

theorem some_millis_iff {timeout : Int64} (h : 0 ≤ timeout.toInt) :
    some (Sys.ensureU32 (Duration.fromMillis (narrow timeout).toUInt64).asMillis).toNat =
        some (min timeout.toInt.toNat largestMillis) ↔
      Narrows timeout.toInt := by
  rw [Option.some.injEq, shown_millis]
  exact narrow_eq_min_iff h

/-- The duration is passed on as it is saturated. -/
def Fits : BackendCall → Prop
  | connectTimeout timeout => Narrows timeout.toInt
  | firstByteTimeout timeout => Narrows timeout.toInt
  | betweenBytesTimeout timeout => Narrows timeout.toInt
  | httpKeepaliveTime time => Narrows time.toInt
  | _ => True

instance : (c : BackendCall) → Decidable c.Fits
  | connectTimeout timeout => inferInstanceAs (Decidable (Narrows timeout.toInt))
  | firstByteTimeout timeout => inferInstanceAs (Decidable (Narrows timeout.toInt))
  | betweenBytesTimeout timeout => inferInstanceAs (Decidable (Narrows timeout.toInt))
  | httpKeepaliveTime time => inferInstanceAs (Decidable (Narrows time.toInt))
  | tcpKeepaliveEnable _ => inferInstanceAs (Decidable True)
  | tcpKeepaliveIntervalSecs _ => inferInstanceAs (Decidable True)
  | tcpKeepaliveProbes _ => inferInstanceAs (Decidable True)
  | tcpKeepaliveTimeSecs _ => inferInstanceAs (Decidable True)

/-- A getter that asks for its own setting shows what was set exactly if it was passed on as
it is saturated. -/
theorem shownGiven_eq_wanted_iff {c : BackendCall} (hvalid : c.Valid) {s : Setting}
    (hsets : c.sets s) : c.shownGiven s = c.wanted s ↔ c.Fits := by
  cases c with
  | connectTimeout timeout =>
      cases s <;> first | exact some_millis_iff hvalid | cases hsets
  | firstByteTimeout timeout =>
      cases s <;> first | exact some_millis_iff hvalid | cases hsets
  | betweenBytesTimeout timeout =>
      cases s <;> first | exact some_millis_iff hvalid | cases hsets
  | httpKeepaliveTime time =>
      cases s <;> first | exact some_millis_iff hvalid | cases hsets
  | tcpKeepaliveEnable enable => cases s <;> exact iff_of_true rfl trivial
  | tcpKeepaliveIntervalSecs secs =>
      cases s <;> first
        | exact iff_of_true (congrArg some (shown_secs secs)) trivial | cases hsets
  | tcpKeepaliveProbes probes => cases s <;> exact iff_of_true rfl trivial
  | tcpKeepaliveTimeSecs secs =>
      cases s <;> first
        | exact iff_of_true (congrArg some (shown_secs secs)) trivial | cases hsets

end BackendCall

section

variable (B : BackendOps F) (view : F.BackendBuilder → (s : Setting) → s.Stored)

/-- The chain of calls ends with a successful `finish`. -/
def Finishes (b : F.BackendBuilder) (cs : List BackendCall) (backend : F.Backend) : Prop :=
  ∃ b', run (BackendCall.apply B) b cs = .ok b' ∧
    ∀ slots, BackendBuilder.finish F b' slots = .ok (.ok (.box backend), ())

/-- Each getter returns the value of the last call for its own setting. If there was none, the
chain leaves what it returns. -/
structure ReadsBack (b : F.BackendBuilder) (cs : List BackendCall) : Prop where
  set : ∀ backend, Finishes B b cs backend → ∀ s v, BackendCall.lastSet s cs = some v →
    s.read B backend = v
  unset : ∀ backend backend', Finishes B b cs backend → Finishes B b [] backend' →
    ∀ s, BackendCall.lastSet s cs = none → s.read B backend = s.read B backend'

/-- The milliseconds that the bridge is given for the time to the first byte. -/
def BackendCall.firstByteMillis : BackendCall → Option ℕ
  | firstByteTimeout timeout => some (narrow timeout).toNat
  | _ => none

/-- The time to the first byte that a chain leaves, as the bridge was given it. -/
def firstByte (b : F.BackendBuilder) (cs : List BackendCall) : ℕ :=
  lastWrite BackendCall.firstByteMillis
    (Setting.shown .firstByteTimeout (view b .firstByteTimeout)) cs

/-- What a chain must do for the getters to return what was set: the last duration for each
setting fits, and the time between bytes is that to the first byte, or both are left alone. -/
structure SetsAlike (b : F.BackendBuilder) (cs : List BackendCall) : Prop where
  fits : ∀ s, s ≠ .betweenBytesTimeout → ∀ c, lastWriter (BackendCall.sets s) cs = some c →
    c.Fits
  set : ∀ timeout, BackendCall.lastSet .betweenBytesTimeout cs = some timeout →
    firstByte view b cs = timeout
  unset : BackendCall.lastSet .betweenBytesTimeout cs = none →
    (∃ backend, Finishes B b [] backend) → firstByte view b cs = firstByte view b []

end

section

variable {B : BackendOps F} {view : F.BackendBuilder → (s : Setting) → s.Stored}

open BackendCall

theorem finish_iff (b : F.BackendBuilder) (backend : F.Backend) :
    (∀ slots, BackendBuilder.finish F b slots = .ok (.ok (.box backend), ())) ↔
      F.backendFinish b = .ok backend := by
  constructor
  · intro h
    have hnull := h ⟨.null, .null⟩
    unfold BackendBuilder.finish Sys.mBackendBackendBuilderFinish at hnull
    cases hfinish : F.backendFinish b with
    | error e =>
        rw [hfinish] at hnull
        cases hnull
    | ok made =>
        rw [hfinish] at hnull
        cases hnull
        rfl
  · intro h slots
    unfold BackendBuilder.finish Sys.mBackendBackendBuilderFinish
    rw [h]
    rfl

theorem run_apply_spec (h : Stores B view) {cs : List BackendCall} (hvalid : ∀ c ∈ cs, c.Valid)
    (b : F.BackendBuilder) :
    ∃ b', run (BackendCall.apply B) b cs = .ok b' ∧
      ∀ s, view b' s = lastWrite (fun c => c.given s) (view b s) cs := by
  induction cs generalizing b with
  | nil => exact ⟨b, rfl, fun _ => rfl⟩
  | cons c cs ih =>
      obtain ⟨b₁, happly, hview⟩ := apply_spec h (hvalid c List.mem_cons_self) b
      obtain ⟨b', hrun, hlast⟩ := ih (fun c hc => hvalid c (List.mem_cons_of_mem _ hc)) b₁
      refine ⟨b', (run_cons_of_ok cs happly).trans hrun, fun s => ?_⟩
      rw [hlast s, hview s]
      rfl

/-- The getters after a chain, by what the crate was given. -/
theorem read_of_finishes (h : Stores B view) {cs : List BackendCall}
    (hvalid : ∀ c ∈ cs, c.Valid) {b : F.BackendBuilder} {backend : F.Backend}
    (hfinish : Finishes B b cs backend) :
    Setting.read B backend .betweenBytesTimeout = firstByte view b cs ∧
      ∀ s, s ≠ .betweenBytesTimeout →
        s.read B backend = lastWrite (shownGiven s) (s.shown (view b s)) cs := by
  obtain ⟨b', hrun, hslots⟩ := hfinish
  obtain ⟨b'', hrun', hlast⟩ := run_apply_spec h hvalid b
  obtain rfl := Except.ok.inj (hrun.symm.trans hrun')
  have hstored := h.finish b' backend ((finish_iff b' backend).mp hslots)
  have hshown : ∀ s : Setting, s.shown (Setting.stored B backend s) =
      lastWrite (shownGiven s) (s.shown (view b s)) cs := fun s => by
    rw [hstored, hlast s]
    exact lastWrite_map s.shown _ _ cs
  constructor
  · have hfirst : shownGiven .firstByteTimeout = firstByteMillis := by
      funext c
      cases c with
      | firstByteTimeout timeout => exact congrArg some (shown_millis timeout)
      | _ => rfl
    rw [firstByte, ← hfirst]
    exact hshown .firstByteTimeout
  · intro s hs
    rw [← hshown s]
    cases s <;> first | rfl | exact absurd rfl hs

theorem isSome_shownGiven (s : Setting) (c : BackendCall) :
    (c.shownGiven s).isSome = c.sets s := by
  rw [shownGiven, Option.isSome_map]
  cases c <;> cases s <;> rfl

theorem sets_of_lastWriter {s : Setting} {cs : List BackendCall} {c : BackendCall}
    (hlast : lastWriter (sets s) cs = some c) : c.sets s :=
  (List.mem_filter.mp (List.mem_of_getLast? hlast)).2

/-- Where the last call for a setting is known, so is what its getter shows. -/
theorem lastWrite_shownGiven {s : Setting} {cs : List BackendCall} {c : BackendCall}
    (hlast : lastWriter (sets s) cs = some c) (a : s.Value) :
    some (lastWrite (shownGiven s) a cs) = c.shownGiven s := by
  have hsome : (c.shownGiven s).isSome :=
    (isSome_shownGiven s c).trans (sets_of_lastWriter hlast)
  obtain ⟨v, hv⟩ := Option.isSome_iff_exists.mp hsome
  rw [lastWrite_eq (isSome_shownGiven s), hlast, Option.bind_some, hv]
  rfl

/-- A chain without calls for a setting leaves what its getter shows. -/
theorem lastWrite_of_lastSet_none {s : Setting} {cs : List BackendCall}
    (hnone : lastSet s cs = none) (a : s.Value) : lastWrite (shownGiven s) a cs = a := by
  rw [lastWrite_eq (isSome_shownGiven s)]
  cases hlast : lastWriter (sets s) cs with
  | none => rfl
  | some c =>
      have hsome : (c.wanted s).isSome := sets_of_lastWriter hlast
      rw [lastSet, hlast, Option.bind_some] at hnone
      rw [hnone] at hsome
      cases hsome

theorem readsBack_iff (h : Stores B view) (b : F.BackendBuilder) {cs : List BackendCall}
    (hvalid : ∀ c ∈ cs, c.Valid) :
    ReadsBack B b cs ↔ ((∃ backend, Finishes B b cs backend) → SetsAlike B view b cs) := by
  have hnil : ∀ c ∈ ([] : List BackendCall), c.Valid := fun c hc => by cases hc
  constructor
  · rintro ⟨hset, hunset⟩ ⟨backend, hfinish⟩
    obtain ⟨hbetween, hothers⟩ := read_of_finishes h hvalid hfinish
    refine ⟨fun s hs c hlast => ?_, fun timeout htimeout => ?_, fun hnone ⟨backend', hbare⟩ => ?_⟩
    · have hsets := sets_of_lastWriter hlast
      obtain ⟨v, hv⟩ := Option.isSome_iff_exists.mp hsets
      have hread := hset backend hfinish s v (by rw [lastSet, hlast, Option.bind_some, hv])
      rw [hothers s hs] at hread
      refine (shownGiven_eq_wanted_iff (hvalid c (lastWriter_mem hlast)) hsets).mp ?_
      rw [← lastWrite_shownGiven hlast, hread, hv]
    · rw [← hbetween]
      exact hset backend hfinish _ timeout htimeout
    · rw [← hbetween, ← (read_of_finishes h hnil hbare).1]
      exact hunset backend backend' hfinish hbare _ hnone
  · intro halike
    constructor
    · intro backend hfinish s v hv
      obtain ⟨hbetween, hothers⟩ := read_of_finishes h hvalid hfinish
      by_cases hs : s = .betweenBytesTimeout
      · subst hs
        rw [hbetween]
        exact (halike ⟨backend, hfinish⟩).set v hv
      · obtain ⟨c, hlast, hc⟩ := Option.bind_eq_some_iff.mp hv
        have hfits := (halike ⟨backend, hfinish⟩).fits s hs c hlast
        apply Option.some.inj
        rw [hothers s hs, lastWrite_shownGiven hlast, ← hc]
        exact (shownGiven_eq_wanted_iff (hvalid c (lastWriter_mem hlast))
          (sets_of_lastWriter hlast)).mpr hfits
    · intro backend backend' hfinish hbare s hnone
      obtain ⟨hbetween, hothers⟩ := read_of_finishes h hvalid hfinish
      obtain ⟨hbetween', hothers'⟩ := read_of_finishes h hnil hbare
      by_cases hs : s = .betweenBytesTimeout
      · subst hs
        rw [hbetween, hbetween']
        exact (halike ⟨backend, hfinish⟩).unset hnone ⟨backend', hbare⟩
      · rw [hothers s hs, hothers' s hs, lastWrite_of_lastSet_none hnone]
        rfl

end

end

/-! ## Crates whose builders are their settings -/

namespace Plain

def backendCrates : Crates :=
  { crates with
    Backend := (s : Setting) → s.Stored
    BackendBuilder := (s : Setting) → s.Stored
    send := fun _ _ => .ok message
    sendAsync := fun req _ => .ok req
    sendAsyncStreaming := fun req _ => .ok (bodyOf [], req)
    backendFromName := fun _ => .error "no such backend"
    backendFinish := .ok }

def backendOps : BackendOps backendCrates where
  connectTimeout d (b : (s : Setting) → s.Stored) := Function.update b .connectTimeout d
  firstByteTimeout d (b : (s : Setting) → s.Stored) := Function.update b .firstByteTimeout d
  betweenBytesTimeout d (b : (s : Setting) → s.Stored) :=
    Function.update b .betweenBytesTimeout d
  httpKeepaliveTime d (b : (s : Setting) → s.Stored) := Function.update b .httpKeepaliveTime d
  tcpKeepaliveEnable e (b : (s : Setting) → s.Stored) := Function.update b .tcpKeepaliveEnable e
  tcpKeepaliveIntervalSecs n (b : (s : Setting) → s.Stored) :=
    Function.update b .tcpKeepaliveInterval (.fromSecs n.value.toUInt64)
  tcpKeepaliveProbes n (b : (s : Setting) → s.Stored) :=
    Function.update b .tcpKeepaliveProbes n.value
  tcpKeepaliveTimeSecs n (b : (s : Setting) → s.Stored) :=
    Function.update b .tcpKeepaliveTime (.fromSecs n.value.toUInt64)
  getConnectTimeout (b : (s : Setting) → s.Stored) := b .connectTimeout
  getFirstByteTimeout (b : (s : Setting) → s.Stored) := b .firstByteTimeout
  getBetweenBytesTimeout (b : (s : Setting) → s.Stored) := b .betweenBytesTimeout
  getHttpKeepaliveTime (b : (s : Setting) → s.Stored) := b .httpKeepaliveTime
  getTcpKeepaliveEnable (b : (s : Setting) → s.Stored) := b .tcpKeepaliveEnable
  getTcpKeepaliveInterval (b : (s : Setting) → s.Stored) := b .tcpKeepaliveInterval
  getTcpKeepaliveProbes (b : (s : Setting) → s.Stored) := b .tcpKeepaliveProbes
  getTcpKeepaliveTime (b : (s : Setting) → s.Stored) := b .tcpKeepaliveTime

/-- A builder before any call. -/
def backendBuilder : (s : Setting) → s.Stored
  | .connectTimeout => .fromSecs 1
  | .firstByteTimeout => .fromSecs 15
  | .betweenBytesTimeout => .fromSecs 10
  | .httpKeepaliveTime => .fromSecs 60
  | .tcpKeepaliveEnable => false
  | .tcpKeepaliveInterval => .fromSecs 10
  | .tcpKeepaliveProbes => 3
  | .tcpKeepaliveTime => .fromSecs 300

theorem stores : Stores backendOps fun (b : (s : Setting) → s.Stored) => b where
  connectTimeout _ _ := rfl
  firstByteTimeout _ _ := rfl
  betweenBytesTimeout _ _ := rfl
  httpKeepaliveTime _ _ := rfl
  tcpKeepaliveEnable _ _ := rfl
  tcpKeepaliveIntervalSecs _ _ := rfl
  tcpKeepaliveProbes _ _ := rfl
  tcpKeepaliveTimeSecs _ _ := rfl
  finish b backend h := by
    obtain rfl := Except.ok.inj h
    funext s
    cases s <;> rfl

end Plain

/-- Two settings that read back, and one that does not. -/
theorem readsBack_iff_plain :
    ReadsBack Plain.backendOps Plain.backendBuilder [.connectTimeout 5000, .tcpKeepaliveProbes 9] ∧
      ¬ ReadsBack Plain.backendOps Plain.backendBuilder [.connectTimeout 4294967296] := by
  constructor
  · have hfits : ∀ c ∈ ([.connectTimeout 5000, .tcpKeepaliveProbes 9] : List BackendCall),
        c.Fits := by decide
    exact (readsBack_iff Plain.stores _ (by decide)).mpr fun _ =>
      ⟨fun _ _ c hlast => hfits c (lastWriter_mem hlast), fun _ hset => (nomatch hset),
        fun _ _ => rfl⟩
  · intro hreads
    have halike := (readsBack_iff Plain.stores Plain.backendBuilder (by decide)).mp hreads
      ⟨_, _, rfl, fun _ => rfl⟩
    exact absurd (halike.fits .connectTimeout (by decide) _ rfl) (by decide)

/-- Every chain of calls reads back as it was set. -/
def SettingsReadBack : Prop :=
  ∀ (F : Crates) (B : BackendOps F) (view : F.BackendBuilder → (s : Setting) → s.Stored),
    Stores B view → ∀ b cs, (∀ c ∈ cs, BackendCall.Valid c) → ReadsBack B b cs

/-- A quarter of a second between bytes reads back as the time to the first byte. -/
theorem not_settingsReadBack : ¬ SettingsReadBack := by
  intro h
  have hreads := h _ _ _ Plain.stores Plain.backendBuilder [.betweenBytesTimeout 250] (by decide)
  have hread := hreads.set _ ⟨_, rfl, fun _ => rfl⟩ .betweenBytesTimeout 250 rfl
  exact absurd hread (by decide)

end ComputeSdk
