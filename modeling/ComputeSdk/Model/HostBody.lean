import Mathlib.Data.List.Basic
import Mathlib.Tactic.Common

/-! # Bridged host bodies

The body behind a `rust::Box<Body>`: the bytes it holds, written at the end and read from
the front, and the answers the host will give to the calls to come. -/

namespace ComputeSdk

inductive FastlyErrorCode where
  | utf8Error
  | invalidHeaderName
  | invalidHeaderValue
  | invalidStatusCode
  | invalidMethod
  | ioError
  | fastlyError
  | fastlySendError
  | addrParseError
  | backendError
  | backendCreationError
  | fastlyStatus
  | configStoreOpenError
  | configStoreLookupError
  | secretStoreOpenError
  | secretStoreLookupError
  | logError
  | esiError
  deriving DecidableEq, Repr

structure FastlyError where
  errorCode : FastlyErrorCode
  errorMsg : String
  deriving DecidableEq, Repr

/-- The end of the process by `std::abort()`, after this was printed to `std::cerr`. -/
structure Abort where
  stderr : String
  deriving DecidableEq, Repr

/-- How the host answers the successive calls of one kind: with an error, or by moving
as many bytes as there are, up to the number given. -/
abbrev Schedule := ℕ → Except FastlyError ℕ

namespace Schedule

/-- The most bytes the first call moves. -/
def first (s : Schedule) : ℕ :=
  match s 0 with
  | .ok k => k
  | .error _ => 0

/-- The answers after the first. -/
def rest (s : Schedule) : Schedule := fun i => s (i + 1)

/-- No call fails, and none moves nothing where there is something to move. -/
def Accepting (s : Schedule) : Prop := ∀ i, ∃ k, s i = .ok (k + 1)

theorem Accepting.rest {s : Schedule} (h : s.Accepting) : s.rest.Accepting :=
  fun i => h (i + 1)

/-- The schedule that moves at most `k + 1` bytes at each call. -/
def atMost (k : ℕ) : Schedule := fun _ => .ok (k + 1)

theorem accepting_atMost (k : ℕ) : (atMost k).Accepting := fun _ => ⟨k, rfl⟩

end Schedule

structure HostBody where
  content : List UInt8
  reads : Schedule
  writes : Schedule

namespace HostBody

/-- `m_static_http_body_new`. -/
def new (reads writes : Schedule) : HostBody := ⟨[], reads, writes⟩

/-- The bridged `Body::read` into a buffer of `n` bytes. -/
def read (n : ℕ) (b : HostBody) :
    Except FastlyError {xs : List UInt8 // xs.length ≤ n} × HostBody :=
  match b.reads 0 with
  | .error e => (.error e, { b with reads := b.reads.rest })
  | .ok k =>
    (.ok ⟨b.content.take (min k n), by rw [List.length_take]; omega⟩,
      { b with content := b.content.drop (min k n), reads := b.reads.rest })

/-- The bridged `Body::write`. -/
def write (bytes : List UInt8) (b : HostBody) : Except FastlyError ℕ × HostBody :=
  match b.writes 0 with
  | .error e => (.error e, { b with writes := b.writes.rest })
  | .ok k =>
    (.ok (min k bytes.length),
      { b with content := b.content ++ bytes.take k, writes := b.writes.rest })

/-- The bridged `Body::append`. -/
def append (b other : HostBody) : HostBody :=
  { b with content := b.content ++ other.content }

theorem read_of_ok {n k : ℕ} {b : HostBody} (h : b.reads 0 = .ok k) :
    b.read n = (.ok ⟨b.content.take (min k n), by rw [List.length_take]; omega⟩,
      { b with content := b.content.drop (min k n), reads := b.reads.rest }) := by
  simp only [read, h]

theorem write_of_ok {bytes : List UInt8} {k : ℕ} {b : HostBody} (h : b.writes 0 = .ok k) :
    b.write bytes = (.ok (min k bytes.length),
      { b with content := b.content ++ bytes.take k, writes := b.writes.rest }) := by
  simp only [write, h]

/-- An accepting host takes a nonempty prefix of what it is offered. -/
theorem write_of_accepting {bytes : List UInt8} {b : HostBody} (h : b.writes.Accepting)
    (hne : bytes ≠ []) :
    ∃ k c, k + 1 ≤ bytes.length ∧ c.writes.Accepting ∧ c.reads = b.reads ∧
      c.content = b.content ++ bytes.take (k + 1) ∧ b.write bytes = (.ok (k + 1), c) := by
  obtain ⟨m, hm⟩ := h 0
  have hpos : 0 < bytes.length := List.length_pos_iff.mpr hne
  refine ⟨min m (bytes.length - 1),
    { b with content := b.content ++ bytes.take (m + 1), writes := b.writes.rest },
    by omega, h.rest, rfl, ?_, ?_⟩
  · rcases Nat.le_total m (bytes.length - 1) with hle | hle
    · rw [Nat.min_eq_left hle]
    · rw [Nat.min_eq_right hle, List.take_of_length_le (by omega),
        List.take_of_length_le (by omega)]
  · rw [write_of_ok hm]
    congr 2
    omega

end HostBody

end ComputeSdk
