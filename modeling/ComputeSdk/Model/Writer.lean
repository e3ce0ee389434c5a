import ComputeSdk.Model.HostBody
import ComputeSdk.Shared.Area
import ComputeSdk.Shared.StreamBuf

/-! # The write side of `Body` and `StreamingBody`

Both are their own stream buffer and write in the same way. The pointers of the put area
are offsets into `pbuf`: `setp` is only called with its start as the base. -/

namespace ComputeSdk

open Shared

/-- The state bits of a stream. -/
structure IoState where
  eofbit : Bool
  failbit : Bool
  badbit : Bool
  deriving DecidableEq, Repr

namespace IoState

def goodbit : IoState := ⟨false, false, false⟩

def good (s : IoState) : Bool := !s.eofbit && !s.failbit && !s.badbit

theorem eofbit_of_good {s : IoState} (h : s.good) : s.eofbit = false := by
  simp only [good, Bool.and_eq_true, Bool.not_eq_true'] at h
  exact h.1.1

end IoState

/-- `max_size()` of `pbuf` and `gbuf`. -/
def bufSize : ℕ := 512

theorem bufSize_pos : 0 < bufSize := by decide

/-- The half that `Body` and `StreamingBody` share: the host body, the put area over
`pbuf`, and the state of the output stream. -/
structure Writer where
  bod : HostBody
  pbuf : Area UInt8 bufSize
  rdstate : IoState

namespace Writer

/-- The bytes in the put area. -/
def pending (w : Writer) : List UInt8 := w.pbuf.before

/-- A writer as the constructors leave it, with `setp` over all of `pbuf`. -/
def ofBox (bod : HostBody) : Writer :=
  ⟨bod, (Area.blank 0 bufSize).reset, IoState.goodbit⟩

/-- `Body::write` and `StreamingBody::write`. -/
def write (buf : List UInt8) (w : Writer) : Except FastlyError ℕ × Writer :=
  ((w.bod.write buf).1, { w with bod := (w.bod.write buf).2 })

/-- One turn of the loop in `overflow`, at `pos` in the put area. It leaves with whether
the put area was written out. -/
def overflowBody (w : Writer) : HostBody × ℕ → (HostBody × ℕ) ⊕ Except Abort (Bool × HostBody)
  | (bod, pos) =>
    if pos < w.pbuf.next then
      match bod.write ((w.pbuf.data.drop pos).take (w.pbuf.next - pos)) with
      | (.error err, _) => .inr (.error ⟨err.errorMsg ++ "\n"⟩)
      | (.ok written, bod) =>
        if written = 0 then .inr (.ok (false, bod)) else .inl (bod, pos + written)
    else .inr (.ok (true, bod))

def overflowLoop (w : Writer) : Loop (HostBody × ℕ) (Except Abort (Bool × HostBody)) where
  body := w.overflowBody
  variant := fun s => w.pbuf.next - s.2
  decreases := by
    rintro ⟨bod, pos⟩ ⟨bod', pos'⟩ h
    simp only [overflowBody] at h
    split at h
    · split at h
      · cases h
      · split at h
        · cases h
        · obtain ⟨-, rfl⟩ := Prod.mk.inj (Sum.inl.inj h)
          omega
    · cases h

/-- `setp` over all of `pbuf`, and the character that did not fit. -/
def restart (val : ℤ) (w : Writer) : Writer :=
  if val = eof then { w with pbuf := w.pbuf.reset }
  else { w with pbuf := w.pbuf.reset.put (toCharType val) (w.pbuf.next_reset_lt bufSize_pos) }

/-- `Body::overflow` and `StreamingBody::overflow`. -/
def overflow (val : ℤ) (w : Writer) : Except Abort (ℤ × Writer) :=
  match w.overflowLoop.run (w.bod, 0) with
  | .error e => .error e
  | .ok (false, bod) => .ok (eof, { w with bod := bod })
  | .ok (true, bod) => .ok (notEof val, restart val { w with bod := bod })

/-- `Body::sync` and `StreamingBody::sync`. -/
def sync (w : Writer) : Except Abort (ℤ × Writer) :=
  match w.overflow eof with
  | .error e => .error e
  | .ok (result, w) => .ok (if result = eof then -1 else 0, w)

def store (c : UInt8) (w : Writer) : Option Writer :=
  if h : w.pbuf.next < w.pbuf.limit then some { w with pbuf := w.pbuf.put c h } else none

/-- The stream buffer as the output stream drives it. -/
def putSide : PutSide Writer Abort where
  store := store
  overflow := overflow

/-- `operator<<` of a string: nothing on a stream that is not good, and a write that
stops short sets `badbit` and `failbit`. -/
def insert (s : List UInt8) (w : Writer) : Except Abort Writer :=
  if w.rdstate.good then
    match putSide.xsputn s w with
    | .error e => .error e
    | .ok (n, w) =>
      if n = s.length then .ok w
      else .ok { w with rdstate := { w.rdstate with failbit := true, badbit := true } }
  else .ok w

/-- `std::ostream::flush`: nothing on a stream that is not good, and a `sync` that fails
sets `badbit`. -/
def flush (w : Writer) : Except Abort Writer :=
  if w.rdstate.good then
    match w.sync with
    | .error e => .error e
    | .ok (r, w) =>
      if r = -1 then .ok { w with rdstate := { w.rdstate with badbit := true } } else .ok w
  else .ok w

/-- `std::ios::clear`. -/
def clear (w : Writer) : Writer := { w with rdstate := IoState.goodbit }

/-- The write side of the move constructors: sync the old object, whatever its stream
state, take its box, and start over with an empty put area. -/
def move (old : Writer) : Except Abort Writer :=
  match old.sync with
  | .error e => .error e
  | .ok (_, old) => .ok ⟨old.bod, old.pbuf.reset, IoState.goodbit⟩

end Writer

end ComputeSdk
