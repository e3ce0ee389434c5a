import ComputeSdk.Shared.Loop
import Mathlib.Data.List.Basic
import Mathlib.Data.Int.Notation

/-! # Stream buffers

The protocol by which `std::basic_streambuf<char>` drives its virtual functions, over an
arbitrary state. `int_type` is `int`, and `char` is signed where it converts by itself. -/

namespace ComputeSdk.Shared

/-- `traits_type::eof()`. -/
def eof : ℤ := -1

/-- `traits_type::to_int_type`: the character as an unsigned char. -/
def toIntType (c : UInt8) : ℤ := c.toNat

/-- `traits_type::to_char_type`. -/
def toCharType (i : ℤ) : UInt8 := UInt8.ofNat (i % 256).toNat

/-- `traits_type::not_eof`. -/
def notEof (i : ℤ) : ℤ := if i = eof then ~~~eof else i

/-- The implicit conversion of a signed `char` to `int`. -/
def charToInt (c : UInt8) : ℤ := c.toInt8.toInt

theorem toIntType_ne_eof (c : UInt8) : toIntType c ≠ eof := by
  simp only [toIntType, eof]
  omega

@[simp] theorem toCharType_toIntType (c : UInt8) : toCharType (toIntType c) = c := by
  have h : c.toNat < 256 := c.toNat_lt
  have hmod : ((c.toNat : ℤ) % 256).toNat = c.toNat := by omega
  rw [toCharType, toIntType, hmod, UInt8.ofNat_toNat]

theorem notEof_ne_eof (i : ℤ) : notEof i ≠ eof := by
  unfold notEof
  split
  · decide
  · assumption

/-- Exactly one character converts to the end-of-file value. -/
theorem charToInt_eq_eof_iff (c : UInt8) : charToInt c = eof ↔ c = 255 := by
  constructor
  · intro h
    have hi : c.toInt8 = (-1 : Int8) := Int8.toInt_inj.mp h
    calc
      c = c.toInt8.toUInt8 := (UInt8.toUInt8_toInt8 c).symm
      _ = (-1 : Int8).toUInt8 := by rw [hi]
      _ = 255 := rfl
  · rintro rfl
    rfl

@[simp] theorem toCharType_charToInt (c : UInt8) : toCharType (charToInt c) = c := by
  have hmod : charToInt c % 256 = c.toNat := by
    have hlt : c.toBitVec.toNat < 256 := c.toBitVec.isLt
    change c.toBitVec.toInt % 256 = c.toBitVec.toNat
    rw [BitVec.toInt_eq_toNat_bmod]
    exact Int.bmod_emod.trans (by omega)
  rw [toCharType, hmod]
  simp

/-- A character below 128 has no sign. -/
theorem charToInt_of_lt {c : UInt8} (h : c < 128) : charToInt c = toIntType c := by
  have hlt : c.toBitVec.toNat < 128 := h
  change c.toBitVec.toInt = (c.toBitVec.toNat : ℤ)
  rw [BitVec.toInt_eq_toNat_cond, if_pos (by omega)]

/-! ## Input -/

/-- A stream buffer as a reader sees it. An `underflow` that does not report the end of
file leaves a character to read, and only finitely many characters remain. -/
structure GetSide (σ ε : Type*) where
  /-- `*gptr()`, where `gptr() < egptr()`. -/
  peek : σ → Option UInt8
  /-- `gbump(1)`. -/
  bump : σ → σ
  underflow : σ → Except ε (ℤ × σ)
  remaining : σ → ℕ
  underflow_peek : ∀ s r t, underflow s = .ok (r, t) → r ≠ eof → ∃ c, peek t = some c
  remaining_bump : ∀ s c, peek s = some c → remaining (bump s) < remaining s
  remaining_underflow : ∀ s r t, underflow s = .ok (r, t) → remaining t ≤ remaining s

namespace GetSide

variable {σ ε : Type*} (B : GetSide σ ε)

def sgetc (s : σ) : Except ε (ℤ × σ) :=
  match B.peek s with
  | some c => .ok (toIntType c, s)
  | none => B.underflow s

def uflow (s : σ) : Except ε (ℤ × σ) :=
  match B.underflow s with
  | .error e => .error e
  | .ok (r, t) =>
    if r = eof then .ok (eof, t)
    else match B.peek t with
      | some c => .ok (toIntType c, B.bump t)
      | none => .ok (eof, t)

def sbumpc (s : σ) : Except ε (ℤ × σ) :=
  match B.peek s with
  | some c => .ok (toIntType c, B.bump s)
  | none => B.uflow s

/-- A `std::istreambuf_iterator` that is compared with the end iterator and, if it is not
there, dereferenced. -/
def istreambufIterator (s : σ) : Except ε (Option UInt8 × σ) :=
  match B.sgetc s with
  | .error e => .error e
  | .ok (r, s) =>
    if r = eof then .ok (none, s)
    else (B.sgetc s).map fun p => (some (toCharType p.1), p.2)

@[simp] theorem sgetc_of_peek {s : σ} {c : UInt8} (h : B.peek s = some c) :
    B.sgetc s = .ok (toIntType c, s) := by
  simp only [sgetc, h]

@[simp] theorem sgetc_of_peek_none {s : σ} (h : B.peek s = none) :
    B.sgetc s = B.underflow s := by
  simp only [sgetc, h]

@[simp] theorem sbumpc_of_peek {s : σ} {c : UInt8} (h : B.peek s = some c) :
    B.sbumpc s = .ok (toIntType c, B.bump s) := by
  simp only [sbumpc, h]

/-- As if by repeated calls of `sbumpc`, stopping at the first that reports the end of
file. The result is the characters read. -/
def xsgetn : ℕ → σ → Except ε (List UInt8 × σ)
  | 0, s => .ok ([], s)
  | n + 1, s =>
    match B.sbumpc s with
    | .error e => .error e
    | .ok (r, t) =>
      if r = eof then .ok ([], t)
      else (xsgetn n t).map fun p => (toCharType r :: p.1, p.2)

/-- The ways to get a character: it is there, or a refill brings it, or the refill reports
the end of file. -/
inductive Bump (s : σ) : ℤ × σ → Prop where
  | take {c : UInt8} (h : B.peek s = some c) : Bump s (toIntType c, B.bump s)
  | refill {r : ℤ} {t : σ} {c : UInt8} (h : B.peek s = none) (hu : B.underflow s = .ok (r, t))
      (hr : r ≠ eof) (hc : B.peek t = some c) : Bump s (toIntType c, B.bump t)
  | leave {t : σ} (h : B.peek s = none) (hu : B.underflow s = .ok (eof, t)) : Bump s (eof, t)

theorem sbumpc_cases {s : σ} (h : B.peek s = none → ∃ p, B.underflow s = .ok p) :
    ∃ p, B.sbumpc s = .ok p ∧ B.Bump s p := by
  cases hp : B.peek s with
  | some c => exact ⟨_, B.sbumpc_of_peek hp, .take hp⟩
  | none =>
      obtain ⟨⟨r, t⟩, hu⟩ := h hp
      by_cases hr : r = eof
      · subst hr
        exact ⟨(eof, t), by simp [sbumpc, uflow, hp, hu], .leave hp hu⟩
      · obtain ⟨c, hc⟩ := B.underflow_peek s r t hu hr
        exact ⟨(toIntType c, B.bump t), by simp [sbumpc, uflow, hp, hu, hr, hc],
          .refill hp hu hr hc⟩

theorem xsgetn_of_char {n : ℕ} {s t : σ} {c : UInt8} (h : B.sbumpc s = .ok (toIntType c, t)) :
    B.xsgetn (n + 1) s = (B.xsgetn n t).map fun p => (c :: p.1, p.2) := by
  simp only [xsgetn, h, if_neg (toIntType_ne_eof c), toCharType_toIntType]

theorem xsgetn_of_eof {n : ℕ} {s t : σ} (h : B.sbumpc s = .ok (eof, t)) :
    B.xsgetn (n + 1) s = .ok ([], t) := by
  simp only [xsgetn, h, if_true]

/-- One turn of constructing a string from a pair of `istreambuf_iterator`s: compare with
the end iterator, dereference, increment. -/
def drainBody : σ × List UInt8 → (σ × List UInt8) ⊕ Except ε (List UInt8 × σ)
  | (s, out) =>
    match B.sgetc s with
    | .error e => .inr (.error e)
    | .ok (r, s) =>
      if r = eof then .inr (.ok (out, s))
      else match B.sgetc s with
        | .error e => .inr (.error e)
        | .ok (c, s) =>
          match B.sbumpc s with
          | .error e => .inr (.error e)
          | .ok (_, s) => .inl (s, out ++ [toCharType c])

/-- The ways a turn can go: a character is there, or a refill brings one, or it reports the
end of file or fails. -/
inductive DrainTurn (s : σ) (out : List UInt8) :
    (σ × List UInt8) ⊕ Except ε (List UInt8 × σ) → Prop where
  | take {c : UInt8} (h : B.peek s = some c) : DrainTurn s out (.inl (B.bump s, out ++ [c]))
  | refill {r : ℤ} {t : σ} {c : UInt8} (h : B.peek s = none) (hu : B.underflow s = .ok (r, t))
      (hr : r ≠ eof) (hc : B.peek t = some c) : DrainTurn s out (.inl (B.bump t, out ++ [c]))
  | leave {t : σ} (h : B.peek s = none) (hu : B.underflow s = .ok (eof, t)) :
      DrainTurn s out (.inr (.ok (out, t)))
  | fail {e : ε} (h : B.peek s = none) (hu : B.underflow s = .error e) :
      DrainTurn s out (.inr (.error e))

theorem drainTurn (s : σ) (out : List UInt8) : B.DrainTurn s out (B.drainBody (s, out)) := by
  have taken : ∀ t c, B.peek t = some c →
      B.drainBody (t, out) = .inl (B.bump t, out ++ [c]) := by
    intro t c h
    simp [drainBody, h, toIntType_ne_eof]
  cases h : B.peek s with
  | some c =>
      rw [taken s c h]
      exact .take h
  | none =>
      cases hu : B.underflow s with
      | error e =>
          have hfail : B.drainBody (s, out) = .inr (.error e) := by simp [drainBody, h, hu]
          rw [hfail]
          exact .fail h hu
      | ok p =>
          obtain ⟨r, t⟩ := p
          by_cases hr : r = eof
          · subst hr
            have hleave : B.drainBody (s, out) = .inr (.ok (out, t)) := by
              simp [drainBody, h, hu]
            rw [hleave]
            exact .leave h hu
          · obtain ⟨c, hc⟩ := B.underflow_peek s r t hu hr
            have hrefill : B.drainBody (s, out) = B.drainBody (t, out) := by
              rw [taken t c hc]
              simp [drainBody, h, hu, hr, hc]
            rw [hrefill, taken t c hc]
            exact .refill h hu hr hc

/-- `std::string(istreambuf_iterator(buf), istreambuf_iterator())`. -/
def drain : Loop (σ × List UInt8) (Except ε (List UInt8 × σ)) where
  body := B.drainBody
  variant := fun p => B.remaining p.1
  decreases := by
    rintro ⟨s, out⟩ ⟨t, out'⟩ hb
    have hturn := B.drainTurn s out
    rw [hb] at hturn
    cases hturn with
    | take h => exact B.remaining_bump s _ h
    | refill h hu hr hc =>
        exact Nat.lt_of_lt_of_le (B.remaining_bump _ _ hc) (B.remaining_underflow s _ _ hu)

/-- Induction on the turns of a drain. -/
theorem drain_induction {motive : σ → List UInt8 → Except ε (List UInt8 × σ) → Prop}
    (take : ∀ s out c result, B.peek s = some c → motive (B.bump s) (out ++ [c]) result →
      motive s out result)
    (refill : ∀ s out r t c result, B.peek s = none → B.underflow s = .ok (r, t) → r ≠ eof →
      B.peek t = some c → motive (B.bump t) (out ++ [c]) result → motive s out result)
    (leave : ∀ s out t, B.peek s = none → B.underflow s = .ok (eof, t) →
      motive s out (.ok (out, t)))
    (fail : ∀ s out e, B.peek s = none → B.underflow s = .error e → motive s out (.error e))
    (s : σ) (out : List UInt8) : motive s out (B.drain.run (s, out)) := by
  refine B.drain.run_induction (motive := fun p result => motive p.1 p.2 result) ?_ ?_ (s, out)
  · rintro ⟨s, out⟩ result hbody
    have hturn : B.DrainTurn s out (.inr result) := hbody ▸ B.drainTurn s out
    cases hturn with
    | leave h hu => exact leave s out _ h hu
    | fail h hu => exact fail s out _ h hu
  · rintro ⟨s, out⟩ p hbody ih
    have hturn : B.DrainTurn s out (.inl p) := hbody ▸ B.drainTurn s out
    cases hturn with
    | take h => exact take s out _ _ h ih
    | refill h hu hr hc => exact refill s out _ _ _ _ h hu hr hc ih

/-- A map of the states that the reader does not notice. -/
structure Unseen (f : σ → σ) : Prop where
  peek : ∀ s, B.peek (f s) = B.peek s
  bump : ∀ s, B.bump (f s) = f (B.bump s)
  underflow : ∀ s, B.underflow (f s) = (B.underflow s).map fun p => (p.1, f p.2)

variable {B} {f : σ → σ}

theorem Unseen.sgetc (h : B.Unseen f) (s : σ) :
    B.sgetc (f s) = (B.sgetc s).map fun p => (p.1, f p.2) := by
  simp only [GetSide.sgetc, h.peek, h.underflow]
  cases B.peek s <;> rfl

theorem Unseen.uflow (h : B.Unseen f) (s : σ) :
    B.uflow (f s) = (B.uflow s).map fun p => (p.1, f p.2) := by
  simp only [GetSide.uflow, h.underflow]
  cases B.underflow s with
  | error e => rfl
  | ok p =>
      obtain ⟨r, t⟩ := p
      by_cases hr : r = eof
      · simp [Except.map, hr]
      · simp only [Except.map, if_neg hr, h.peek, h.bump]
        cases B.peek t <;> rfl

theorem Unseen.sbumpc (h : B.Unseen f) (s : σ) :
    B.sbumpc (f s) = (B.sbumpc s).map fun p => (p.1, f p.2) := by
  simp only [GetSide.sbumpc, h.peek, h.uflow, h.bump]
  cases B.peek s <;> rfl

theorem Unseen.xsgetn (h : B.Unseen f) (n : ℕ) (s : σ) :
    B.xsgetn n (f s) = (B.xsgetn n s).map fun p => (p.1, f p.2) := by
  induction n generalizing s with
  | zero => rfl
  | succ n ih =>
      simp only [GetSide.xsgetn, h.sbumpc]
      cases B.sbumpc s with
      | error e => rfl
      | ok p =>
          obtain ⟨r, t⟩ := p
          by_cases hr : r = eof
          · simp [Except.map, hr]
          · simp only [Except.map, if_neg hr, ih]
            cases B.xsgetn n t <;> rfl

theorem Unseen.drain (h : B.Unseen f) (s : σ) (out : List UInt8) :
    B.drain.run (f s, out) = (B.drain.run (s, out)).map fun p => (p.1, f p.2) := by
  refine B.drain.run_map (f := fun p => (f p.1, p.2))
    (g := fun r => r.map fun p => (p.1, f p.2)) ?_ (s, out)
  rintro ⟨s, out⟩
  simp only [GetSide.drain, drainBody, h.sgetc]
  cases B.sgetc s with
  | error e => rfl
  | ok p =>
      obtain ⟨r, t⟩ := p
      by_cases hr : r = eof
      · simp [Except.map, hr]
      · simp only [Except.map, if_neg hr, h.sgetc]
        cases B.sgetc t with
        | error e => rfl
        | ok q =>
            simp only [h.sbumpc]
            cases B.sbumpc q.2 <;> rfl

end GetSide

/-! ## Output -/

/-- A stream buffer as a writer sees it. -/
structure PutSide (σ ε : Type*) where
  /-- `*pptr() = c; pbump(1)`, where `pptr() < epptr()`. -/
  store : UInt8 → σ → Option σ
  overflow : ℤ → σ → Except ε (ℤ × σ)

namespace PutSide

variable {σ ε : Type*} (B : PutSide σ ε)

def sputc (c : UInt8) (s : σ) : Except ε (ℤ × σ) :=
  match B.store c s with
  | some t => .ok (toIntType c, t)
  | none => B.overflow (toIntType c) s

/-- As if by repeated calls of `sputc`, stopping at the first that reports the end of
file. The result counts the characters written. -/
def xsputn : List UInt8 → σ → Except ε (ℕ × σ)
  | [], s => .ok (0, s)
  | c :: cs, s =>
    match B.sputc c s with
    | .error e => .error e
    | .ok (r, t) =>
      if r = eof then .ok (0, t)
      else match xsputn cs t with
        | .error e => .error e
        | .ok (n, u) => .ok (n + 1, u)

/-- The states in which `xsputn` calls `overflow`. -/
def overflows : List UInt8 → σ → List σ
  | [], _ => []
  | c :: cs, s =>
    match B.store c s with
    | some t => overflows cs t
    | none =>
      s :: match B.overflow (toIntType c) s with
      | .error _ => []
      | .ok (r, t) => if r = eof then [] else overflows cs t

theorem overflows_of_store {c : UInt8} {s t : σ} (cs : List UInt8)
    (h : B.store c s = some t) : B.overflows (c :: cs) s = B.overflows cs t := by
  simp only [overflows, h]

theorem overflows_of_overflow {c : UInt8} {s t : σ} {r : ℤ} (cs : List UInt8)
    (h : B.store c s = none) (ho : B.overflow (toIntType c) s = .ok (r, t)) (hr : r ≠ eof) :
    B.overflows (c :: cs) s = s :: B.overflows cs t := by
  simp only [overflows, h, ho, if_neg hr]

theorem overflows_of_eof {c : UInt8} {s t : σ} (cs : List UInt8) (h : B.store c s = none)
    (ho : B.overflow (toIntType c) s = .ok (eof, t)) : B.overflows (c :: cs) s = [s] := by
  simp only [overflows, h, ho, if_true]

theorem xsputn_of_store {c : UInt8} {s t : σ} (cs : List UInt8) (h : B.store c s = some t) :
    B.xsputn (c :: cs) s = (B.xsputn cs t).map fun p => (p.1 + 1, p.2) := by
  simp only [xsputn, sputc, h, if_neg (toIntType_ne_eof c)]
  cases B.xsputn cs t <;> rfl

theorem xsputn_of_overflow {c : UInt8} {s t : σ} {r : ℤ} (cs : List UInt8)
    (h : B.store c s = none) (ho : B.overflow (toIntType c) s = .ok (r, t)) (hr : r ≠ eof) :
    B.xsputn (c :: cs) s = (B.xsputn cs t).map fun p => (p.1 + 1, p.2) := by
  simp only [xsputn, sputc, h, ho, if_neg hr]
  cases B.xsputn cs t <;> rfl

theorem xsputn_of_eof {c : UInt8} {s t : σ} (cs : List UInt8) (h : B.store c s = none)
    (ho : B.overflow (toIntType c) s = .ok (eof, t)) : B.xsputn (c :: cs) s = .ok (0, t) := by
  simp only [xsputn, sputc, h, ho, if_true]

/-- A property of what was written so far and the state that every `sputc` carries on
holds after `xsputn`, which then writes everything. -/
theorem xsputn_spec {P : List UInt8 → σ → Prop}
    (step : ∀ xs s c, P xs s → ∃ r t, B.sputc c s = .ok (r, t) ∧ r ≠ eof ∧ P (xs ++ [c]) t)
    (cs : List UInt8) {xs : List UInt8} {s : σ} (h : P xs s) :
    ∃ t, B.xsputn cs s = .ok (cs.length, t) ∧ P (xs ++ cs) t := by
  induction cs generalizing xs s with
  | nil => exact ⟨s, rfl, by simpa using h⟩
  | cons c cs ih =>
      obtain ⟨r, t, hput, hr, ht⟩ := step xs s c h
      obtain ⟨u, hrest, hu⟩ := ih ht
      refine ⟨u, ?_, by simpa using hu⟩
      simp [xsputn, hput, hr, hrest]

end PutSide

end ComputeSdk.Shared
