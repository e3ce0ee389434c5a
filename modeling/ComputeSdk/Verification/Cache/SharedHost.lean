import ComputeSdk.Shared.Linearization
import ComputeSdk.Verification.Cache.Region
import ComputeSdk.Verification.Cache.Storage

/-! # Many clients of one host

Clients call the simple cache at the same time, on any keys. An item may be found while it is
still written; the bytes of a stream over it are known once all of them are there. -/

namespace ComputeSdk

open Shared ComputeSdk.Core

/-! ## The host -/

/-- What the host has under a key. An insert goes by a number. The host accepts it from the
client with the obligation, and may provide the item before the insert is finished. -/
inductive Slot (ι : Type) where
  | absent
  | obliged (i : ι) (h : ℕ)
  | accepted (i : ι) (h insert : ℕ)
  | provided (insert : ℕ)
  | complete (insert : ℕ) (bytes : List UInt8)

namespace Slot

variable {ι : Type}

/-- The insert of the item that a lookup finds. -/
def item : Slot ι → Option ℕ
  | provided n => some n
  | complete n _ => some n
  | _ => none

/-- The bytes of the item, once all of them are there. -/
def stored : Slot ι → Option (List UInt8)
  | complete _ bytes => some bytes
  | _ => none

/-- The insert is under way. -/
inductive Open (n : ℕ) : Slot ι → Prop where
  | accepted (i : ι) (h : ℕ) : Open n (accepted i h n)
  | provided : Open n (provided n)

theorem Open.stored {n : ℕ} {s : Slot ι} (h : s.Open n) : s.stored = none := by
  cases h <;> rfl

theorem Open.not_obliged {n : ℕ} {s : Slot ι} (h : s.Open n) (j : ι) (k : ℕ) :
    s ≠ .obliged j k := by
  cases h <;> simp

variable [DecidableEq ι]

/-- What is left when client `i` closes handle `h`. -/
def release (i : ι) (h : ℕ) : Slot ι → Slot ι
  | obliged j k => if j = i ∧ k = h then absent else obliged j k
  | accepted j k n => if j = i ∧ k = h then absent else accepted j k n
  | s => s

theorem stored_release (i : ι) (h : ℕ) (s : Slot ι) :
    (s.release i h).stored = s.stored := by
  unfold release
  split
  · split <;> rfl
  · split <;> rfl
  · rfl

theorem release_eq (i : ι) (h : ℕ) (s : Slot ι) :
    s.release i h = s ∨ s.release i h = absent ∧ s.item = none := by
  unfold release
  split
  · split
    · exact .inr ⟨rfl, rfl⟩
    · exact .inl rfl
  · split
    · exact .inr ⟨rfl, rfl⟩
    · exact .inl rfl
  · exact .inl rfl

theorem release_obliged {i j : ι} (hne : j ≠ i) (h k : ℕ) :
    (obliged j k).release i h = .obliged j k := by
  simp [release, hne]

end Slot

/-- What a handle of a client is for. -/
inductive HandleUse where
  | lookup
  | write
  | read
  deriving DecidableEq

/-- What stands behind a handle: a key, the state that it was given with, and an insert. -/
structure Opened where
  key : List UInt8
  state : UInt32
  insert : Option ℕ

/-- The host, with the handles of each client. The last two fields record what the clients
did. A client makes one call; to call again is to be another one. -/
structure SharedHost (ι : Type) where
  slot : List UInt8 → Slot ι
  next : ℕ := 0
  handle : ι → HandleUse → ℕ → Option Opened := fun _ _ _ => none
  began : ι → Bool := fun _ => false
  runs : ι → ℕ := fun _ => 0

namespace SharedHost

variable {ι : Type}

/-- The complete items. -/
def stored (e : SharedHost ι) : FirstWriteMap := fun key => (e.slot key).stored

/-- A host with these items. -/
def stock (M : FirstWriteMap) : SharedHost ι :=
  { slot := fun key => (M key).elim .absent (.complete 0), next := 1 }

@[simp] theorem stored_stock (M : FirstWriteMap) : (stock M : SharedHost ι).stored = M := by
  funext key
  cases h : M key <;> simp [stored, stock, h, Slot.stored]

def put (e : SharedHost ι) (key : List UInt8) (s : Slot ι) : SharedHost ι :=
  { e with slot := Function.update e.slot key s }

variable [DecidableEq ι]

def begin (e : SharedHost ι) (i : ι) : SharedHost ι :=
  { e with began := Function.update e.began i true }

/-- Client `i` gets a handle. -/
def give (e : SharedHost ι) (i : ι) (use : HandleUse) (h : ℕ) (opened : Opened) : SharedHost ι :=
  { e with
    handle := Function.update e.handle i
      (Function.update (e.handle i) use (Function.update (e.handle i use) h (some opened))) }

/-- An insert of client `i` is accepted through `h`, with `b` to write it and `h'` to read it
back. -/
def accept (e : SharedHost ι) (i : ι) (h b h' : ℕ) (key : List UInt8) (state : UInt32) :
    SharedHost ι :=
  ((({ e with next := e.next + 1 }).put key (.accepted i h e.next)).give i .write b
    ⟨key, 0, some e.next⟩).give i .lookup h' ⟨key, state, some e.next⟩

def beginClosure (e : SharedHost ι) (i : ι) : SharedHost ι :=
  { e with runs := Function.update e.runs i (e.runs i + 1) }

/-- Client `i` has no longer that handle. -/
def drop (e : SharedHost ι) (i : ι) (use : HandleUse) (h : ℕ) : SharedHost ι :=
  { e with
    handle := Function.update e.handle i
      (Function.update (e.handle i) use (Function.update (e.handle i use) h none)) }

/-- Client `i` closes a handle of a lookup. -/
def release (e : SharedHost ι) (i : ι) (h : ℕ) : SharedHost ι :=
  match e.handle i .lookup h with
  | some opened => (e.put opened.key ((e.slot opened.key).release i h)).drop i .lookup h
  | none => e

/-- The answers that client `i` may get, and what the host becomes with them. Any call may
fail. -/
def Answers (e : SharedHost ι) (i : ι) (c : HostCall) (a : c.Answer) (e' : SharedHost ι) : Prop :=
  match c, a with
  | .cacheTransactionLookup _ _ _, .error _ => e' = e.begin i
  | .cacheTransactionLookup key _ _, .ok h =>
    -- no answer while a client has the obligation: the lookup blocks
    e.handle i .lookup h = none ∧ ∃ state,
      (e.slot key = .absent ∧ Region.Obliges state ∧
        e' = ((e.put key (.obliged i h)).begin i).give i .lookup h ⟨key, state, none⟩) ∨
      ((e.slot key).item.isSome ∧ Region.Hit state ∧
        e' = (e.begin i).give i .lookup h ⟨key, state, (e.slot key).item⟩)
  | .cacheLookup _ _ _, .error _ => e' = e.begin i
  | .cacheLookup key _ _, .ok h =>
    e.handle i .lookup h = none ∧ ∃ state,
      (state &&& CacheLookupState.found ≠ 0 ↔ (e.slot key).item.isSome) ∧
      ¬ Region.Obliges state ∧
      e' = (e.begin i).give i .lookup h ⟨key, state, (e.slot key).item⟩
  | .cacheGetState _, .error _ => e' = e
  | .cacheGetState h, .ok state =>
    (∃ opened, e.handle i .lookup h = some opened ∧ opened.state = state) ∧ e' = e
  | .cacheTransactionInsertAndStreamBack _ _ _, .error _ => e' = e
  | .cacheTransactionInsertAndStreamBack h _ _, .ok (b, h') =>
    ∃ opened state, e.handle i .lookup h = some opened ∧ e.slot opened.key = .obliged i h ∧
      e.handle i .write b = none ∧ e.handle i .lookup h' = none ∧
      e' = e.accept i h b h' opened.key state
  | .streamingBodyFromBodyHandle _, bod => bod.content = [] ∧ e' = e
  | .streamingBodyFinish _ _, .error _ => e' = e
  | .streamingBodyFinish b bod, .ok _ =>
    ∃ opened n, e.handle i .write b = some opened ∧ opened.insert = some n ∧
      (e.slot opened.key).Open n ∧ e' = e.put opened.key (.complete n bod.content)
  | .cacheGetBody _ _ _, .error _ => e' = e
  | .cacheGetBody h mask options, .ok b =>
    -- a stream over the whole item
    decodeRange (options, mask) = (none, none) ∧
      ∃ opened, e.handle i .lookup h = some opened ∧ opened.insert.isSome ∧
        e.handle i .read b = none ∧ e' = e.give i .read b opened
  | .bodyFromHandle b, bod =>
    -- no answer for a stream that breaks off
    ∃ opened n, e.handle i .read b = some opened ∧ opened.insert = some n ∧
      e.slot opened.key = .complete n bod.content ∧ e' = e
  | .cacheClose h, _ => e' = e.release i h
  | .closureBegin, _ => e' = e.beginClosure i
  | _, _ => e' = e

/-- What happens without a call: an accepted insert starts to provide the item, which ends
the obligation; an item that is not complete is given up. -/
inductive Drift : SharedHost ι → SharedHost ι → Prop where
  | provide {e : SharedHost ι} {key : List UInt8} {i : ι} {h n : ℕ}
      (hslot : e.slot key = .accepted i h n) : Drift e (e.put key (.provided n))
  | giveUp {e : SharedHost ι} {key : List UInt8} {n : ℕ} (hslot : e.slot key = .provided n) :
      Drift e (e.put key .absent)

end SharedHost

/-! ## Operations -/

namespace SimpleOp

def key : SimpleOp → List UInt8
  | get _ key => key
  | getOrSet _ key _ _ => key
  | getOrSetWith _ key _ => key

/-- Whether the operation may set an entry. -/
def sets : SimpleOp → Bool
  | get _ _ => false
  | _ => true

/-- The bytes of the entry that it would set. -/
def offer : SimpleOp → Option (List UInt8)
  | get _ _ => none
  | getOrSet _ _ value _ => some value.bytes
  | getOrSetWith _ _ entry => entry.map fun p => p.1.bytes

theorem sets_of_offer {op : SimpleOp} {bytes : List UInt8} (h : op.offer = some bytes) :
    op.sets = true := by
  cases op with
  | get overload key => cases h
  | _ => rfl

end SimpleOp

/-- The bytes that a call returns, or its error, and how often it ran a closure. -/
abbrev Outcome := Except Simple.CacheError (Option (List UInt8)) × ℕ

namespace FirstWriteMap

variable {M : FirstWriteMap} {op : SimpleOp}

theorem step_of_some {bytes : List UInt8} (h : M op.key = some bytes) :
    step M op = ((.ok (some bytes), 0), M) := by
  cases op <;> simp only [step, getOrInsert, SimpleOp.key] at h ⊢ <;> rw [h]

theorem step_of_none_get (h : M op.key = none) (hget : op.sets = false) :
    step M op = ((.ok none, 0), M) := by
  cases op with
  | get overload key =>
      simp only [step, SimpleOp.key] at h ⊢
      rw [h]
  | _ => cases hget

theorem step_of_none_set (op : SimpleOp) (h : M op.key = none) (hset : op.sets = true) :
    step M op = match op.offer with
      | some bytes => ((.ok (some bytes), 1), Function.update M op.key (some bytes))
      | none => ((.error .getOrSet, 1), M) := by
  cases op with
  | get overload key => cases hset
  | getOrSet overload key value ttl =>
      simp only [step, getOrInsert, SimpleOp.key, SimpleOp.offer] at h ⊢
      rw [h]
  | getOrSetWith overload key entry =>
      have hnone : M key = none := h
      cases entry <;> simp [step, getOrInsert, SimpleOp.key, SimpleOp.offer, hnone]

end FirstWriteMap

/-! ## A client's own view -/

/-- How far a client is. It is settled once its operation took effect or cannot any more. -/
inductive Phase where
  | new
  | looked
  | running
  | ran
  | inserted
  | settled
  deriving DecidableEq, Repr

/-- How often the closure was run by then. -/
def Phase.runs : Phase → ℕ
  | new => 0
  | looked => 0
  | _ => 1

/-- What a client knows: the handle of its lookup while that is open, the state of it, how
often its closure was run, and the outcome of its operation if that took effect. -/
structure Caller where
  op : SimpleOp
  phase : Phase := .new
  handle : Option ℕ := none
  state : UInt32 := 0
  runs : ℕ := 0
  took : Option Outcome := none

namespace Caller

/-- The operation takes effect with this result. -/
def take (s : Caller) (result : Except Simple.CacheError (Option (List UInt8))) : Caller :=
  { s with phase := .settled, took := some (result, s.runs) }

/-- The lookup ends with a handle. -/
def look (s : Caller) (h : ℕ) (state : UInt32) : Caller :=
  { s with phase := .looked, handle := some h, state := state }

/-- The calls that the simple cache makes. -/
def Permits (s : Caller) : HostCall → Prop
  | .cacheTransactionLookup key _ _ => s.phase = .new ∧ key = s.op.key ∧ s.op.sets
  | .cacheLookup key _ _ => s.phase = .new ∧ key = s.op.key ∧ s.op.sets = false
  | .cacheGetState h => s.handle = some h
  | .closureBegin => s.phase = .looked ∧ Region.Obliges s.state ∧ s.op.sets
  | .closureEnd => s.phase = .running ∧ s.op.sets
  | .cacheTransactionInsertAndStreamBack _ _ _ => s.phase = .ran
  | .streamingBodyFromBodyHandle _ => True
  | .streamingBodyFinish _ bod => s.phase = .inserted ∧ s.op.offer = some bod.content
  | .cacheGetBody _ mask options => decodeRange (options, mask) = (none, none)
  | .bodyFromHandle _ => s.phase = .looked ∨ ∃ bytes, s.took = some (.ok (some bytes), s.runs)
  | .cacheClose _ => s.phase ≠ .new ∧ s.phase ≠ .running
  | _ => False

/-- What an answer tells the client. -/
def Moves (s : Caller) (c : HostCall) (a : c.Answer) (t : Caller) : Prop :=
  match c, a with
  | .cacheTransactionLookup _ _ _, .error _ => t = { s with phase := .settled }
  | .cacheTransactionLookup _ _ _, .ok h =>
    ∃ state, (Region.Hit state ∨ Region.Obliges state) ∧ t = s.look h state
  | .cacheLookup _ _ _, .error _ => t = { s with phase := .settled }
  | .cacheLookup _ _ _, .ok h =>
    ∃ state, t = if state &&& CacheLookupState.found ≠ 0 then s.look h state
      else (s.look h state).take (.ok none)
  | .cacheGetState _, .error _ => t = s
  | .cacheGetState _, .ok state => state = s.state ∧ t = s
  | .cacheTransactionInsertAndStreamBack _ _ _, .error _ => t = s
  | .cacheTransactionInsertAndStreamBack _ _ _, .ok _ => t = { s with phase := .inserted }
  | .streamingBodyFromBodyHandle _, bod => bod.content = [] ∧ t = s
  | .streamingBodyFinish _ _, .error _ => t = s
  | .streamingBodyFinish _ bod, .ok _ => t = s.take (.ok (some bod.content))
  | .bodyFromHandle _, bod => t = s.take (.ok (some bod.content))
  | .cacheClose _, _ => t = { s with phase := .settled, handle := none }
  | .closureBegin, _ => t = { s with phase := .running, runs := s.runs + 1 }
  | .closureEnd, _ =>
    t = if s.op.offer.isSome then { s with phase := .ran } else s.take (.error .getOrSet)
  | _, _ => t = s

def protocol : Protocol HostCall.Answer Caller := ⟨Permits, Moves⟩

end Caller

end ComputeSdk
