import ComputeSdk.Model.Writer

/-! # `Body` and `StreamingBody`

The pointers of the get area are offsets into `gbuf`, the base of every `setg`. -/

namespace ComputeSdk

open Shared

structure Body extends Writer where
  gbuf : Area UInt8 bufSize

namespace Body

/-- The bytes fetched from the host and not yet extracted. -/
def unread (b : Body) : List UInt8 := b.gbuf.ahead

/-- `Body(rust::Box<Body>)`, and with the box of an empty host body `Body()`. -/
def ofBox (bod : HostBody) : Body := ⟨Writer.ofBox bod, Area.blank 0 bufSize⟩

/-- `Body(Body &&old)`. -/
def move (old : Body) : Except Abort Body :=
  match old.toWriter.move with
  | .error e => .error e
  | .ok w => .ok ⟨w, old.gbuf⟩

/-- `Body::read` into a buffer of `bufsize` bytes. -/
def read (bufsize : ℕ) (b : Body) :
    Except FastlyError {xs : List UInt8 // xs.length ≤ bufsize} × Body :=
  ((b.bod.read bufsize).1, { b with bod := (b.bod.read bufsize).2 })

/-- `Body::underflow`. -/
def underflow (b : Body) : Except Abort (ℤ × Body) :=
  if h : b.gbuf.next < b.gbuf.limit then .ok (charToInt (b.gbuf.current h), b)
  else
    match b.read bufSize with
    | (.error err, _) => .error ⟨err.errorMsg ++ "\n"⟩
    | (.ok ⟨[], _⟩, b) => .ok (eof, b)
    | (.ok ⟨c :: cs, hle⟩, b) => .ok (charToInt c, { b with gbuf := b.gbuf.fill (c :: cs) hle })

def overflow (val : ℤ) (b : Body) : Except Abort (ℤ × Body) :=
  (b.toWriter.overflow val).map fun p => (p.1, { b with toWriter := p.2 })

def sync (b : Body) : Except Abort (ℤ × Body) :=
  b.toWriter.sync.map fun p => (p.1, { b with toWriter := p.2 })

def insert (s : List UInt8) (b : Body) : Except Abort Body :=
  (b.toWriter.insert s).map fun w => { b with toWriter := w }

def flush (b : Body) : Except Abort Body :=
  b.toWriter.flush.map fun w => { b with toWriter := w }

/-- `Body(std::string)`, `Body(const char *)` and `Body(std::string_view)`. -/
def ofString (s : List UInt8) (bod : HostBody) : Except Abort Body :=
  (insert s (ofBox bod)).bind flush

def write (buf : List UInt8) (b : Body) : Except FastlyError ℕ × Body :=
  ((b.toWriter.write buf).1, { b with toWriter := (b.toWriter.write buf).2 })

/-- One turn of the loop in `Body::fill_from_vec`, with `pos` and the value in `written`. -/
def fillBody (vec : List UInt8) :
    Body × ℕ × ℕ → (Body × ℕ × ℕ) ⊕ (Except FastlyError Unit × Body)
  | (b, pos, written) =>
    if written = 0 then .inr (.ok (), b)
    else match b.write (vec.drop pos) with
      | (.error err, b) => .inr (.error err, b)
      | (.ok written, b) => .inl (b, pos + written, written)

theorem write_le {b b' : Body} {buf : List UInt8} {n : ℕ} (h : b.write buf = (.ok n, b')) :
    n ≤ buf.length := by
  simp only [write, Writer.write, HostBody.write] at h
  cases hw : b.bod.writes 0 with
  | error e => simp [hw] at h
  | ok k =>
      simp only [hw, Prod.mk.injEq, Except.ok.injEq] at h
      omega

def fillLoop (vec : List UInt8) : Loop (Body × ℕ × ℕ) (Except FastlyError Unit × Body) where
  body := fillBody vec
  -- a turn that writes nothing is the last but one
  variant := fun s => 2 * (vec.length - s.2.1) + min s.2.2 1
  decreases := by
    rintro ⟨b, pos, written⟩ ⟨b', pos', written'⟩ h
    simp only [fillBody] at h
    split at h
    · cases h
    · split at h
      · cases h
      · rename_i hwrite
        have hle := write_le hwrite
        rw [List.length_drop] at hle
        obtain ⟨-, hpos⟩ := Prod.mk.inj (Sum.inl.inj h)
        obtain ⟨rfl, rfl⟩ := Prod.mk.inj hpos
        simp only
        omega

/-- `Body::fill_from_vec`. -/
def fillFromVec (vec : List UInt8) (b : Body) : Except FastlyError Unit × Body :=
  (fillLoop vec).run (b, 0, 0)

/-- `Body(std::vector<uint8_t>)`. -/
def ofVec (bodyVec : List UInt8) (bod : HostBody) : Except Abort Body :=
  match (ofBox bod).fillFromVec bodyVec with
  | (.error err, _) => .error ⟨err.errorMsg ++ "\n"⟩
  | (.ok (), b) => .ok b

/-- `Body::append`, once its parameter has been constructed. -/
def append (b other : Body) : Except Abort Body :=
  match other.flush with
  | .error e => .error e
  | .ok other => .ok { b with bod := b.bod.append other.bod }

def peek (b : Body) : Option UInt8 :=
  if h : b.gbuf.next < b.gbuf.limit then some (b.gbuf.current h) else none

def bump (b : Body) : Body :=
  if h : b.gbuf.next < b.gbuf.limit then { b with gbuf := b.gbuf.bump h } else b

theorem peek_eq (b : Body) : b.peek = b.unread.head? := by
  unfold peek unread
  split
  · rename_i h
    rw [b.gbuf.ahead_eq_cons h, List.head?_cons]
  · rename_i h
    rw [b.gbuf.ahead_eq_nil h, List.head?_nil]

theorem unread_eq_cons {b : Body} {c : UInt8} (h : b.peek = some c) :
    b.unread = c :: b.bump.unread := by
  unfold peek at h
  split at h
  · rename_i hlt
    rw [← Option.some.inj h]
    simpa only [unread, bump, hlt, dite_true] using b.gbuf.ahead_eq_cons hlt
  · cases h

theorem unread_eq_nil {b : Body} (h : b.peek = none) : b.unread = [] := by
  rw [peek_eq] at h
  exact List.head?_eq_none_iff.mp h

@[simp] theorem toWriter_bump (b : Body) : b.bump.toWriter = b.toWriter := by
  unfold bump
  split <;> rfl

/-- What `underflow` does, by what the get area and the host still hold. -/
theorem underflow_of_peek {b : Body} {c : UInt8} (h : b.peek = some c) :
    b.underflow = .ok (charToInt c, b) := by
  unfold peek at h
  split at h
  · rename_i hlt
    rw [underflow, dite_cond_eq_true (eq_true hlt), Option.some.inj h]
  · cases h

theorem underflow_of_peek_none {b : Body} (h : b.peek = none) :
    b.underflow =
      match b.read bufSize with
      | (.error err, _) => .error ⟨err.errorMsg ++ "\n"⟩
      | (.ok ⟨[], _⟩, b) => .ok (eof, b)
      | (.ok ⟨c :: cs, hle⟩, b) =>
        .ok (charToInt c, { b with gbuf := b.gbuf.fill (c :: cs) hle }) := by
  have hlt : ¬ b.gbuf.next < b.gbuf.limit := by
    intro hlt
    simp [peek, hlt] at h
  rw [underflow, dite_cond_eq_false (eq_false hlt)]

theorem read_of_ok {b : Body} {n k : ℕ} (h : b.bod.reads 0 = .ok k) :
    b.read n = (.ok ⟨b.bod.content.take (min k n), by rw [List.length_take]; omega⟩,
      { b with bod := ⟨b.bod.content.drop (min k n), b.bod.reads.rest, b.bod.writes⟩ }) := by
  simp only [read, HostBody.read_of_ok h]

/-- The bytes that can still be read: those in the get area, then those at the host. -/
def readable (b : Body) : List UInt8 := b.unread ++ b.bod.content

/-- A refill keeps the order of the bytes, and fails only if the host does. It reports the
end of file for an empty answer and for one that begins with the byte 255. -/
theorem underflow_spec {b b' : Body} {r : ℤ} (h : b.peek = none)
    (hu : b.underflow = .ok (r, b')) :
    ∃ k, b.bod.reads 0 = .ok k ∧ b'.unread = b.bod.content.take (min k bufSize) ∧
      b'.bod = ⟨b.bod.content.drop (min k bufSize), b.bod.reads.rest, b.bod.writes⟩ ∧
      (r = eof ↔ b'.unread = [] ∨ b'.unread.head? = some 255) := by
  rw [underflow_of_peek_none h] at hu
  cases hr : b.bod.reads 0 with
  | error e => simp [read, HostBody.read, hr] at hu
  | ok k =>
      refine ⟨k, rfl, ?_⟩
      have hnil := unread_eq_nil h
      rw [read_of_ok hr] at hu
      split at hu
      · cases hu
      · rename_i heq
        obtain ⟨hbytes, rfl⟩ := Prod.mk.inj heq
        have hempty := Subtype.mk.inj (Except.ok.inj hbytes)
        obtain ⟨rfl, rfl⟩ := Prod.mk.inj (Except.ok.inj hu)
        simp [unread, hempty] at hnil ⊢
        simp [hnil]
      · rename_i c cs hle heq
        obtain ⟨hbytes, rfl⟩ := Prod.mk.inj heq
        have hcons := Subtype.mk.inj (Except.ok.inj hbytes)
        obtain ⟨rfl, rfl⟩ := Prod.mk.inj (Except.ok.inj hu)
        simp [unread, hcons, charToInt_eq_eof_iff]

theorem readable_of_underflow {b b' : Body} {r : ℤ} (h : b.peek = none)
    (hu : b.underflow = .ok (r, b')) : b'.readable = b.readable := by
  obtain ⟨k, -, hunread, hbod, -⟩ := underflow_spec h hu
  simp only [readable, hunread, hbod, unread_eq_nil h, List.take_append_drop, List.nil_append]

/-- The stream buffer as its readers drive it. -/
def getSide : GetSide Body Abort where
  peek := peek
  bump := bump
  underflow := underflow
  remaining := fun b => b.readable.length
  underflow_peek := by
    intro b r b' hu hr
    cases hp : b.peek with
    | some c =>
        rw [underflow_of_peek hp] at hu
        obtain ⟨-, rfl⟩ := Prod.mk.inj (Except.ok.inj hu)
        exact ⟨c, hp⟩
    | none =>
        obtain ⟨k, -, -, -, heof⟩ := underflow_spec hp hu
        rw [peek_eq]
        cases hun : b'.unread with
        | nil => exact absurd (heof.mpr (.inl hun)) hr
        | cons c cs => exact ⟨c, rfl⟩
  remaining_bump := by
    intro b c hp
    simp only [readable, unread_eq_cons hp, toWriter_bump]
    simp
  remaining_underflow := by
    intro b r b' hu
    cases hp : b.peek with
    | some c =>
        rw [underflow_of_peek hp] at hu
        obtain ⟨-, rfl⟩ := Prod.mk.inj (Except.ok.inj hu)
        exact Nat.le_refl _
    | none => exact Nat.le_of_eq (congrArg List.length (readable_of_underflow hp hu))

/-- `std::istream::read` of `n` characters: nothing on a stream that is not good, and a read
that stops short sets `eofbit` and `failbit`. -/
def extract (n : ℕ) (b : Body) : Except Abort (List UInt8 × Body) :=
  if b.rdstate.good then
    match getSide.xsgetn n b with
    | .error e => .error e
    | .ok (cs, b) =>
      if cs.length = n then .ok (cs, b)
      else .ok (cs, { b with rdstate := { b.rdstate with eofbit := true, failbit := true } })
  else .ok ([], { b with rdstate := { b.rdstate with failbit := true } })

/-- `Body::take_body_string`. -/
def takeBodyString (b : Body) : Except Abort (List UInt8 × Body) :=
  getSide.drain.run (b, [])

end Body

/-- A streaming body has no get area. -/
structure StreamingBody extends Writer

namespace StreamingBody

def ofBox (bod : HostBody) : StreamingBody := ⟨Writer.ofBox bod⟩

/-- `StreamingBody(StreamingBody &&other)`. -/
def move (other : StreamingBody) : Except Abort StreamingBody :=
  other.toWriter.move.map StreamingBody.mk

def overflow (val : ℤ) (s : StreamingBody) : Except Abort (ℤ × StreamingBody) :=
  (s.toWriter.overflow val).map fun p => (p.1, ⟨p.2⟩)

def sync (s : StreamingBody) : Except Abort (ℤ × StreamingBody) :=
  s.toWriter.sync.map fun p => (p.1, ⟨p.2⟩)

def insert (xs : List UInt8) (s : StreamingBody) : Except Abort StreamingBody :=
  (s.toWriter.insert xs).map StreamingBody.mk

def flush (s : StreamingBody) : Except Abort StreamingBody :=
  s.toWriter.flush.map StreamingBody.mk

def write (buf : List UInt8) (s : StreamingBody) : Except FastlyError ℕ × StreamingBody :=
  ((s.toWriter.write buf).1, ⟨(s.toWriter.write buf).2⟩)

/-- `StreamingBody::append`, once its parameter has been constructed. -/
def append (s : StreamingBody) (other : Body) : StreamingBody :=
  ⟨{ s.toWriter with bod := s.bod.append other.bod }⟩

/-- `StreamingBody::finish`, where the host answers the call that finishes the body with
`answer`. The result is that of the call and the body as it was then. -/
def finish (answer : Except FastlyError Unit) (s : StreamingBody) :
    Except Abort (Except FastlyError Unit × HostBody) :=
  s.flush.map fun s => (answer, s.bod)

end StreamingBody

end ComputeSdk
