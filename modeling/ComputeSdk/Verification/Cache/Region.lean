import Mathlib.Logic.Function.Basic
import ComputeSdk.Model.Cache.Simple

/-! # One key of the cache

Several clients look up the same key. The host lets one handle at a time insert the item,
and has the other lookups wait. -/

namespace ComputeSdk

open Shared

/-- What the cache has under the key. -/
inductive Stored where
  | absent
  | stale
  | fresh
  deriving DecidableEq, Repr

/-- The host's side of one key: what is stored, and the client and handle with the
obligation to insert, if the insert of that handle was accepted. The last three fields
record what the clients did. A client makes one call; to call again is to be another one. -/
structure Region (ι : Type) where
  stored : Stored
  holder : Option (ι × ℕ) := none
  inserting : Bool := false
  next : ℕ := 0
  state : ℕ → UInt32 := fun _ => 0
  running : ι → Bool := fun _ => false
  runs : ι → ℕ := fun _ => 0
  failed : ι → List Status := fun _ => []

namespace Region

/-- The state of a handle that found an item and need not insert one. -/
def Hit (state : UInt32) : Prop :=
  state &&& CacheLookupState.found ≠ 0 ∧ state &&& CacheLookupState.mustInsertOrUpdate = 0

/-- The state of a handle with the obligation. -/
def Obliges (state : UInt32) : Prop := state &&& CacheLookupState.mustInsertOrUpdate ≠ 0

instance (state : UInt32) : Decidable (Hit state) := inferInstanceAs (Decidable (_ ∧ _))

instance (state : UInt32) : Decidable (Obliges state) := inferInstanceAs (Decidable (_ ≠ _))

variable {ι : Type} [DecidableEq ι]

/-- A new handle, whose state stays as it is. -/
def give (e : Region ι) (state : UInt32) : Region ι :=
  { e with next := e.next + 1, state := Function.update e.state e.next state }

/-- A new handle of client `i`, with the obligation. -/
def oblige (e : Region ι) (i : ι) (state : UInt32) : Region ι :=
  { e with
    next := e.next + 1
    state := Function.update e.state e.next state
    holder := some (i, e.next)
    inserting := false }

/-- A new handle to read back what the holder inserts. -/
def acceptInsert (e : Region ι) (state : UInt32) : Region ι :=
  { e with
    next := e.next + 1
    state := Function.update e.state e.next state
    inserting := true }

def fail (e : Region ι) (i : ι) (status : Status) : Region ι :=
  { e with failed := Function.update e.failed i (status :: e.failed i) }

def beginClosure (e : Region ι) (i : ι) : Region ι :=
  { e with
    running := Function.update e.running i true
    runs := Function.update e.runs i (e.runs i + 1) }

def endClosure (e : Region ι) (i : ι) : Region ι :=
  { e with running := Function.update e.running i false }

/-- The end of the obligation, if `h` is the handle that has it. -/
def release (e : Region ι) (h : ℕ) : Region ι :=
  if e.holder.map Prod.snd = some h then { e with holder := none, inserting := false } else e

/-- The answers that client `i` may get, and what the region of `key` becomes with them. -/
def Answers (key : List UInt8) (e : Region ι) (i : ι) (c : HostCall) (a : c.Answer)
    (e' : Region ι) : Prop :=
  match c, a with
  | .cacheTransactionLookup key' _ _, .error status => key' = key ∧ e' = e.fail i status
  | .cacheTransactionLookup key' _ _, .ok h =>
    -- no answer while another handle has the obligation: the lookup blocks
    key' = key ∧ e.holder = none ∧ h = e.next ∧ ∃ state,
      (e.stored ≠ .absent ∧ Hit state ∧ e' = e.give state) ∨
      (e.stored ≠ .fresh ∧ Obliges state ∧ e' = e.oblige i state)
  | .cacheGetState h, a => a = .ok (e.state h) ∧ e' = e
  | .cacheTransactionInsertAndStreamBack _ _ _, .error status => e' = e.fail i status
  | .cacheTransactionInsertAndStreamBack h _ _, .ok (_, h') =>
    e.holder.map Prod.snd = some h ∧ h' = e.next ∧ ∃ state, e' = e.acceptInsert state
  | .cacheTransactionCancel _, .error status => e' = e.fail i status
  | .cacheTransactionCancel h, .ok _ => e' = e.release h
  | .cacheGetBody _ _ _, .error status => e' = e.fail i status
  | .cacheClose h, _ => e' = e.release h
  | .closureBegin, _ => e' = e.beginClosure i
  | .closureEnd, _ => e' = e.endClosure i
  | _, _ => e' = e

/-- What happens without a call: an accepted insert starts to provide the item, which ends
the obligation; an item gets old or is removed. -/
inductive Drift : Region ι → Region ι → Prop where
  | provide {e : Region ι} (h : e.inserting = true) :
      Drift e { e with stored := .fresh, holder := none, inserting := false }
  | age {e : Region ι} {stored : Stored} (h : stored ≠ .fresh) :
      Drift e { e with stored := stored }

end Region

/-! ## A client's own view -/

/-- How far a call of `get_or_set_with` is. -/
inductive Stage where
  | new
  | opened
  | running
  | ran
  | inserted
  | closed
  deriving DecidableEq, Repr

/-- What a client knows: the handle and state of its lookup, the handle to read back from,
and the statuses of its calls that failed. -/
structure Session where
  stage : Stage := .new
  handle : ℕ := 0
  state : UInt32 := 0
  back : ℕ := 0
  failed : List Status := []

namespace Session

def fail (s : Session) (status : Status) : Session := { s with failed := status :: s.failed }

/-- The calls that `get_or_set_with` makes for `key` at each stage. -/
def Permits (key : List UInt8) (s : Session) : HostCall → Prop
  | .cacheTransactionLookup key' _ _ => s.stage = .new ∧ key' = key
  | .cacheGetState h => s.stage = .opened ∧ h = s.handle
  | .closureBegin => s.stage = .opened ∧ Region.Obliges s.state
  | .closureEnd => s.stage = .running
  | .cacheTransactionInsertAndStreamBack h _ _ => s.stage = .ran ∧ h = s.handle
  | .cacheClose h =>
    (s.stage = .opened ∨ s.stage = .ran ∨ s.stage = .inserted) ∧ h = s.handle ∨
      s.stage = .inserted ∧ h = s.back
  | .cacheGetBody _ _ _ => True
  | .bodyFromHandle _ => True
  | .streamingBodyFromBodyHandle _ => True
  | .streamingBodyFinish _ _ => True
  | _ => False

/-- What an answer tells the client. -/
def Moves (s : Session) (c : HostCall) (a : c.Answer) (t : Session) : Prop :=
  match c, a with
  | .cacheTransactionLookup _ _ _, .error status => t = s.fail status
  | .cacheTransactionLookup _ _ _, .ok h =>
    ∃ state, (Region.Hit state ∨ Region.Obliges state) ∧
      t = { s with stage := .opened, handle := h, state := state }
  | .cacheGetState _, a => a = .ok s.state ∧ t = s
  | .cacheTransactionInsertAndStreamBack _ _ _, .error status => t = s.fail status
  | .cacheTransactionInsertAndStreamBack _ _ _, .ok (_, h') =>
    h' ≠ s.handle ∧ t = { s with stage := .inserted, back := h' }
  | .cacheGetBody _ _ _, .error status => t = s.fail status
  | .cacheClose h, _ => t = if h = s.handle then { s with stage := .closed } else s
  | .closureBegin, _ => t = { s with stage := .running }
  | .closureEnd, _ => t = { s with stage := .ran }
  | _, _ => t = s

def protocol (key : List UInt8) : Protocol HostCall.Answer Session := ⟨Permits key, Moves⟩

end Session

namespace Region

variable {ι : Type}

/-- Client `i` has the obligation through `h`, and no insert of it was accepted. -/
structure Obliged (e : Region ι) (i : ι) (h : ℕ) : Prop where
  holder : e.holder = some (i, h)
  stored : e.stored ≠ .fresh
  inserting : e.inserting = false

/-- If anybody has the obligation through `h` it is client `i`, who has it through no other
handle. -/
structure Keeps (e : Region ι) (i : ι) (h : ℕ) : Prop where
  given : h < e.next
  client : ∀ j, e.holder = some (j, h) → j = i
  handle : ∀ h', e.holder = some (i, h') → h' = h

/-- The view that client `i` has is right. -/
structure Agrees (e : Region ι) (i : ι) (s : Session) : Prop where
  failed : e.failed i = s.failed
  running : e.running i = true ↔ s.stage = .running
  runs : e.runs i ≤ 1
  unrun : s.stage = .new ∨ s.stage = .opened → e.runs i = 0
  free : s.stage = .new ∨ s.stage = .closed → ∀ h, e.holder ≠ some (i, h)
  keeps : s.stage ≠ .new → s.stage ≠ .closed → e.Keeps i s.handle
  state : s.stage = .opened → e.state s.handle = s.state
  obliged : (s.stage = .opened ∧ Obliges s.state) ∨ s.stage = .running ∨ s.stage = .ran →
    e.Obliged i s.handle
  back : s.stage = .inserted → s.back < e.next ∧ ∀ j, e.holder ≠ some (j, s.back)

theorem agrees_start (stored : Stored) (i : ι) : Agrees { stored := stored } i {} :=
  ⟨rfl, by simp, Nat.zero_le 1, fun _ => rfl, fun _ _ => (by simp), fun hnew => absurd rfl hnew,
    by simp, by simp, by simp⟩

/-- What others may do while client `j` is not looking. -/
structure Frame (e e' : Region ι) (j : ι) : Prop where
  failed : e'.failed j = e.failed j
  running : e'.running j = e.running j
  runs : e'.runs j = e.runs j
  next : e.next ≤ e'.next
  state : ∀ h < e.next, e'.state h = e.state h
  holder : ∀ k h, e'.holder = some (k, h) → e.holder = some (k, h) ∨ k ≠ j ∧ e.next ≤ h
  obliged : ∀ h, e.Obliged j h → e'.Obliged j h

theorem Keeps.frame {e e' : Region ι} {j : ι} {h : ℕ} (hk : e.Keeps j h) (hf : Frame e e' j) :
    e'.Keeps j h := by
  refine ⟨Nat.lt_of_lt_of_le hk.given hf.next, fun k hholder => ?_, fun h' hholder => ?_⟩
  · rcases hf.holder k h hholder with hold | ⟨-, hnew⟩
    · exact hk.client k hold
    · exact absurd hk.given (Nat.not_lt.mpr hnew)
  · rcases hf.holder j h' hholder with hold | ⟨hne, -⟩
    · exact hk.handle h' hold
    · exact absurd rfl hne

theorem Agrees.frame {e e' : Region ι} {j : ι} {s : Session} (ha : e.Agrees j s)
    (hf : Frame e e' j) : e'.Agrees j s where
  failed := hf.failed.trans ha.failed
  running := by rw [hf.running, ha.running]
  runs := by rw [hf.runs]; exact ha.runs
  unrun hs := hf.runs.trans (ha.unrun hs)
  free hs h hholder := by
    rcases hf.holder j h hholder with hold | ⟨hne, -⟩
    · exact ha.free hs h hold
    · exact hne rfl
  keeps hnew hclosed := (ha.keeps hnew hclosed).frame hf
  state hs := by
    rw [hf.state s.handle (ha.keeps (by simp [hs]) (by simp [hs])).given, ha.state hs]
  obliged hs := hf.obliged s.handle (ha.obliged hs)
  back hs := by
    obtain ⟨hlt, hne⟩ := ha.back hs
    refine ⟨Nat.lt_of_lt_of_le hlt hf.next, fun k hholder => ?_⟩
    rcases hf.holder k s.back hholder with hold | ⟨-, hnew⟩
    · exact hne k hold
    · omega

/-! ## Steps -/

theorem Frame.refl (e : Region ι) (j : ι) : Frame e e j :=
  ⟨rfl, rfl, rfl, Nat.le_refl _, fun _ _ => rfl, fun _ _ => .inl, fun _ => id⟩

theorem Frame.drift {e e' : Region ι} (h : Drift e e') (j : ι) : Frame e e' j := by
  cases h with
  | provide hinserting =>
      refine ⟨rfl, rfl, rfl, Nat.le_refl _, fun _ _ => rfl, fun _ _ h => (by cases h),
        fun h ho => ?_⟩
      rw [ho.inserting] at hinserting
      cases hinserting
  | age hstored =>
      exact ⟨rfl, rfl, rfl, Nat.le_refl _, fun _ _ => rfl, fun _ _ => .inl,
        fun h ho => ⟨ho.holder, hstored, ho.inserting⟩⟩

variable {key : List UInt8} {e : Region ι} {i j : ι}

theorem give_state {h : ℕ} (hlt : h < e.next) (state : UInt32) :
    (e.give state).state h = e.state h :=
  Function.update_of_ne (Nat.ne_of_lt hlt) _ _

theorem Frame.give (e : Region ι) (state : UInt32) (j : ι) : Frame e (e.give state) j :=
  ⟨rfl, rfl, rfl, Nat.le_succ _, fun _ hlt => give_state hlt state, fun _ _ => .inl,
    fun _ ho => ⟨ho.holder, ho.stored, ho.inserting⟩⟩

/-- The obligation goes to a new handle of another client. -/
theorem Frame.oblige (hfree : e.holder = none) (state : UInt32) (hne : j ≠ i) :
    Frame e (e.oblige i state) j := by
  refine ⟨rfl, rfl, rfl, Nat.le_succ _, fun _ hlt => give_state hlt state, fun k h hholder => ?_,
    fun h ho => ?_⟩
  · cases hholder
    exact .inr ⟨Ne.symm hne, Nat.le_refl _⟩
  · rw [ho.holder] at hfree
    cases hfree

/-- The insert of another client is accepted. -/
theorem Frame.insert {h : ℕ} (hholder : e.holder = some (i, h)) (state : UInt32) (hne : j ≠ i) :
    Frame e (e.acceptInsert state) j := by
  refine ⟨rfl, rfl, rfl, Nat.le_succ _, fun _ hlt => give_state hlt state, fun _ _ => .inl,
    fun h' ho => ?_⟩
  rw [ho.holder] at hholder
  cases hholder
  exact absurd rfl hne

theorem release_of_holder {h : ℕ} (hholder : e.holder = some (i, h)) :
    e.release h = { e with holder := none, inserting := false } := by
  rw [release, hholder]
  exact if_pos rfl

theorem release_of_not_holder {h : ℕ} (hholder : ∀ k, e.holder ≠ some (k, h)) :
    e.release h = e := by
  refine if_neg fun hsame => ?_
  obtain ⟨⟨k, h'⟩, hk, rfl⟩ := Option.map_eq_some_iff.mp hsame
  exact hholder k hk

/-- A client closes a handle through which no other client has the obligation. -/
theorem Frame.release {h : ℕ} (hclient : ∀ k, e.holder = some (k, h) → k = i) (hne : j ≠ i) :
    Frame e (e.release h) j := by
  by_cases hholder : e.holder = some (i, h)
  · rw [release_of_holder hholder]
    refine ⟨rfl, rfl, rfl, Nat.le_refl _, fun _ _ => rfl, fun _ _ h => (by cases h),
      fun h' ho => ?_⟩
    rw [ho.holder] at hholder
    cases hholder
    exact absurd rfl hne
  · rw [release_of_not_holder]
    · exact .refl e j
    · intro k hk
      obtain rfl := hclient k hk
      exact hholder hk

/-- The handle that a client may close is its own. -/
theorem Agrees.client_of_close {s : Session} {h : ℕ} (ha : e.Agrees i s)
    (hpermits : s.Permits key (.cacheClose h)) : ∀ k, e.holder = some (k, h) → k = i := by
  rcases hpermits with ⟨hs, rfl⟩ | ⟨hs, rfl⟩
  · refine (ha.keeps ?_ ?_).client <;> rcases hs with hs | hs | hs <;> simp [hs]
  · exact fun k hk => absurd hk ((ha.back hs).2 k)

/-- A client that gets its handle. -/
theorem Agrees.opened {s : Session} (ha : e.Agrees i s) (hnew : s.stage = .new)
    {state : UInt32} {e' : Region ι} (hsame : e'.failed = e.failed ∧ e'.running = e.running ∧
      e'.runs = e.runs ∧ e'.next = e.next + 1 ∧ e'.state = (e.give state).state)
    (hholder : ∀ k h, e'.holder = some (k, h) → k = i ∧ h = e.next)
    (hobliged : Obliges state → e'.Obliged i e.next) :
    e'.Agrees i { s with stage := .opened, handle := e.next, state := state } := by
  obtain ⟨hfailed, hrunning, hruns, hnext, hstate⟩ := hsame
  have hnotRunning : e.running i ≠ true := by simp [ha.running, hnew]
  refine ⟨?_, ?_, ?_, ?_, ?_, ?_, ?_, ?_, ?_⟩
  · exact (congrFun hfailed i).trans ha.failed
  · simpa [hrunning] using hnotRunning
  · rw [hruns]
    exact ha.runs
  · rw [hruns]
    exact fun _ => ha.unrun (.inl hnew)
  · simp
  · refine fun _ _ => ⟨?_, fun k hk => (hholder k _ hk).1, fun h hh => (hholder i h hh).2⟩
    rw [hnext]
    exact Nat.lt_succ_self _
  · rw [hstate]
    exact fun _ => Function.update_self _ _ _
  · simpa using hobliged
  · simp

/-- The client's insert is accepted. -/
theorem Agrees.inserted {s : Session} (ha : e.Agrees i s) (hran : s.stage = .ran)
    (state : UInt32) :
    e.next ≠ s.handle ∧
      (e.acceptInsert state).Agrees i { s with stage := .inserted, back := e.next } := by
  have hkeeps := ha.keeps (by simp [hran]) (by simp [hran])
  refine ⟨Nat.ne_of_gt hkeeps.given, ha.failed, ?_, ha.runs, ?_, ?_, ?_, ?_, ?_, ?_⟩
  · simpa [hran, acceptInsert] using ha.running
  · simp
  · simp
  · exact fun _ _ => ⟨Nat.lt_succ_of_lt hkeeps.given, hkeeps.client, hkeeps.handle⟩
  · simp
  · simp
  · refine fun _ => ⟨Nat.lt_succ_self _, fun j hj => ?_⟩
    -- the obligation is through the handle of the lookup, which is an older one
    have hholder : some (i, s.handle) = some (j, e.next) :=
      (ha.obliged (.inr (.inr hran))).holder.symm.trans hj
    exact Nat.ne_of_lt hkeeps.given (Prod.mk.inj (Option.some.inj hholder)).2

/-- The client closes the handle of its lookup. -/
theorem Agrees.closed {s : Session} (ha : e.Agrees i s)
    (hs : s.stage = .opened ∨ s.stage = .ran ∨ s.stage = .inserted) :
    (e.release s.handle).Agrees i { s with stage := .closed } := by
  have hopen : s.stage ≠ .new ∧ s.stage ≠ .closed ∧ s.stage ≠ .running := by
    rcases hs with hs | hs | hs <;> simp [hs]
  have hkeeps := ha.keeps hopen.1 hopen.2.1
  have hreleased : ∃ holder inserting,
      e.release s.handle = { e with holder := holder, inserting := inserting } ∧
        ∀ h, holder ≠ some (i, h) := by
    by_cases hholder : e.holder = some (i, s.handle)
    · exact ⟨none, false, release_of_holder hholder, by simp⟩
    · refine ⟨e.holder, e.inserting, release_of_not_holder fun k hk => hholder ?_,
        fun h hh => hholder ?_⟩
      · rw [hk, hkeeps.client k hk]
      · rw [hh, hkeeps.handle h hh]
  obtain ⟨holder, inserting, hreleased, hfree⟩ := hreleased
  rw [hreleased]
  refine ⟨ha.failed, ?_, ha.runs, ?_, fun _ => hfree, ?_, ?_, ?_, ?_⟩
  · simpa [hopen.2.2] using ha.running
  all_goals simp

variable [DecidableEq ι]

theorem Frame.fail (e : Region ι) (status : Status) (hne : j ≠ i) :
    Frame e (e.fail i status) j :=
  ⟨Function.update_of_ne hne _ _, rfl, rfl, Nat.le_refl _, fun _ _ => rfl, fun _ _ => .inl,
    fun _ ho => ⟨ho.holder, ho.stored, ho.inserting⟩⟩

theorem Frame.beginClosure (e : Region ι) (hne : j ≠ i) : Frame e (e.beginClosure i) j :=
  ⟨rfl, Function.update_of_ne hne _ _, Function.update_of_ne hne _ _, Nat.le_refl _,
    fun _ _ => rfl, fun _ _ => .inl, fun _ ho => ⟨ho.holder, ho.stored, ho.inserting⟩⟩

theorem Frame.endClosure (e : Region ι) (hne : j ≠ i) : Frame e (e.endClosure i) j :=
  ⟨rfl, Function.update_of_ne hne _ _, rfl, Nat.le_refl _,
    fun _ _ => rfl, fun _ _ => .inl, fun _ ho => ⟨ho.holder, ho.stored, ho.inserting⟩⟩

/-- What an answer to one client does to the others. -/
theorem Frame.answer {s : Session} {c : HostCall} {a : c.Answer} {e' : Region ι}
    (ha : e.Agrees i s) (hpermits : s.Permits key c) (hanswer : e.Answers key i c a e')
    (hne : j ≠ i) : Frame e e' j := by
  cases c with
  | cacheTransactionLookup key' mask options =>
      cases a with
      | error status =>
          obtain ⟨-, rfl⟩ := hanswer
          exact .fail e status hne
      | ok h =>
          obtain ⟨-, hfree, rfl, state, ⟨-, -, rfl⟩ | ⟨-, -, rfl⟩⟩ := hanswer
          · exact .give e state j
          · exact .oblige hfree state hne
  | cacheGetState h =>
      obtain ⟨-, rfl⟩ := hanswer
      exact .refl e' j
  | cacheTransactionInsertAndStreamBack h mask options =>
      cases a with
      | error status =>
          obtain rfl : e' = e.fail i status := hanswer
          exact .fail e status hne
      | ok p =>
          obtain ⟨-, -, state, rfl⟩ := hanswer
          exact .insert (ha.obliged (.inr (.inr hpermits.1))).holder state hne
  | cacheGetBody h mask options =>
      cases a with
      | error status =>
          obtain rfl : e' = e.fail i status := hanswer
          exact .fail e status hne
      | ok bodyHandle =>
          obtain rfl : e' = e := hanswer
          exact .refl e' j
  | cacheClose h =>
      obtain rfl : e' = e.release h := hanswer
      exact .release (ha.client_of_close hpermits) hne
  | closureBegin =>
      obtain rfl : e' = e.beginClosure i := hanswer
      exact .beginClosure e hne
  | closureEnd =>
      obtain rfl : e' = e.endClosure i := hanswer
      exact .endClosure e hne
  | bodyFromHandle bodyHandle =>
      obtain rfl : e' = e := hanswer
      exact .refl e' j
  | streamingBodyFromBodyHandle bodyHandle =>
      obtain rfl : e' = e := hanswer
      exact .refl e' j
  | streamingBodyFinish bodyHandle bod =>
      obtain rfl : e' = e := hanswer
      exact .refl e' j
  | _ => exact hpermits.elim

theorem Agrees.fail {s : Session} (ha : e.Agrees i s) (status : Status) :
    (e.fail i status).Agrees i (s.fail status) where
  failed := by simp [Region.fail, Session.fail, ha.failed]
  running := ha.running
  runs := ha.runs
  unrun := ha.unrun
  free := ha.free
  keeps hnew hclosed := ⟨(ha.keeps hnew hclosed).given, (ha.keeps hnew hclosed).client,
    (ha.keeps hnew hclosed).handle⟩
  state := ha.state
  obliged hs := ⟨(ha.obliged hs).holder, (ha.obliged hs).stored, (ha.obliged hs).inserting⟩
  back := ha.back

/-- The client starts its closure. -/
theorem Agrees.beginClosure {s : Session} (ha : e.Agrees i s) (hopened : s.stage = .opened)
    (hobliges : Obliges s.state) : (e.beginClosure i).Agrees i { s with stage := .running } := by
  have hkeeps := ha.keeps (by simp [hopened]) (by simp [hopened])
  have hobliged := ha.obliged (.inl ⟨hopened, hobliges⟩)
  refine ⟨ha.failed, ?_, ?_, ?_, ?_, ?_, ?_, ?_, ?_⟩
  · simp [Region.beginClosure]
  · simp [Region.beginClosure, ha.unrun (.inr hopened)]
  · simp
  · simp
  · exact fun _ _ => ⟨hkeeps.given, hkeeps.client, hkeeps.handle⟩
  · simp
  · exact fun _ => ⟨hobliged.holder, hobliged.stored, hobliged.inserting⟩
  · simp

theorem Agrees.endClosure {s : Session} (ha : e.Agrees i s) (hrunning : s.stage = .running) :
    (e.endClosure i).Agrees i { s with stage := .ran } := by
  have hkeeps := ha.keeps (by simp [hrunning]) (by simp [hrunning])
  have hobliged := ha.obliged (.inr (.inl hrunning))
  refine ⟨ha.failed, ?_, ha.runs, ?_, ?_, ?_, ?_, ?_, ?_⟩
  · simp [Region.endClosure]
  · simp
  · simp
  · exact fun _ _ => ⟨hkeeps.given, hkeeps.client, hkeeps.handle⟩
  · simp
  · exact fun _ => ⟨hobliged.holder, hobliged.stored, hobliged.inserting⟩
  · simp

/-- What an answer tells the client that asked is right. -/
theorem Agrees.answer {s : Session} {c : HostCall} {a : c.Answer} {e' : Region ι}
    (ha : e.Agrees i s) (hpermits : s.Permits key c) (hanswer : e.Answers key i c a e') :
    ∃ t, s.Moves c a t ∧ e'.Agrees i t := by
  cases c with
  | cacheTransactionLookup key' mask options =>
      cases a with
      | error status =>
          obtain ⟨-, rfl⟩ := hanswer
          exact ⟨_, rfl, ha.fail status⟩
      | ok h =>
          obtain ⟨-, hfree, rfl, state, ⟨-, hhit, rfl⟩ | ⟨hstored, hobliges, rfl⟩⟩ := hanswer
          · refine ⟨_, ⟨state, .inl hhit, rfl⟩, ha.opened hpermits.1 ?_ ?_ ?_⟩
            · exact ⟨rfl, rfl, rfl, rfl, rfl⟩
            · intro k h hk
              rw [show (e.give state).holder = none from hfree] at hk
              cases hk
            · exact fun hobliges => absurd hhit.2 hobliges
          · refine ⟨_, ⟨state, .inr hobliges, rfl⟩, ha.opened hpermits.1 ?_ ?_ ?_⟩
            · exact ⟨rfl, rfl, rfl, rfl, rfl⟩
            · rintro k h ⟨⟩
              exact ⟨rfl, rfl⟩
            · exact fun _ => ⟨rfl, hstored, rfl⟩
  | cacheGetState h =>
      obtain ⟨rfl, rfl⟩ := hanswer
      obtain ⟨hopened, rfl⟩ := hpermits
      exact ⟨s, ⟨by rw [ha.state hopened], rfl⟩, ha⟩
  | cacheTransactionInsertAndStreamBack h mask options =>
      cases a with
      | error status =>
          obtain rfl : e' = e.fail i status := hanswer
          exact ⟨_, rfl, ha.fail status⟩
      | ok p =>
          obtain ⟨-, hback, state, rfl⟩ := hanswer
          obtain ⟨hne, hinserted⟩ := ha.inserted hpermits.1 state
          rw [← hback] at hne hinserted
          exact ⟨_, ⟨hne, rfl⟩, hinserted⟩
  | cacheGetBody h mask options =>
      cases a with
      | error status =>
          obtain rfl : e' = e.fail i status := hanswer
          exact ⟨_, rfl, ha.fail status⟩
      | ok bodyHandle =>
          obtain rfl : e' = e := hanswer
          exact ⟨s, rfl, ha⟩
  | cacheClose h =>
      obtain rfl : e' = e.release h := hanswer
      refine ⟨_, rfl, ?_⟩
      by_cases hh : h = s.handle
      · subst hh
        rw [if_pos rfl]
        refine ha.closed ?_
        rcases hpermits with ⟨hs, -⟩ | ⟨hs, -⟩
        · exact hs
        · exact .inr (.inr hs)
      · rcases hpermits with ⟨-, hsame⟩ | ⟨hs, rfl⟩
        · exact absurd hsame hh
        · rw [if_neg hh, release_of_not_holder (ha.back hs).2]
          exact ha
  | closureBegin =>
      obtain rfl : e' = e.beginClosure i := hanswer
      exact ⟨_, rfl, ha.beginClosure hpermits.1 hpermits.2⟩
  | closureEnd =>
      obtain rfl : e' = e.endClosure i := hanswer
      exact ⟨_, rfl, ha.endClosure hpermits⟩
  | bodyFromHandle bodyHandle =>
      obtain rfl : e' = e := hanswer
      exact ⟨s, rfl, ha⟩
  | streamingBodyFromBodyHandle bodyHandle =>
      obtain rfl : e' = e := hanswer
      exact ⟨s, rfl, ha⟩
  | streamingBodyFinish bodyHandle bod =>
      obtain rfl : e' = e := hanswer
      exact ⟨s, rfl, ha⟩
  | _ => exact hpermits.elim

end Region

end ComputeSdk
