import ComputeSdk.Verification.Body.Input
import ComputeSdk.Verification.Body.Refusal

/-! # A body as a queue of bytes

Bytes wait in the get area, at the host and in the put area, in this order. A call that goes
past one of the three takes its bytes out of turn. -/

namespace ComputeSdk

open Shared

namespace Body

/-- `b'` is `b` after the bytes `xs` were taken from the front of what can be read. -/
structure Takes (b b' : Body) (xs : List UInt8) : Prop where
  readable : b.readable = xs ++ b'.readable
  pbuf : b'.pbuf = b.pbuf
  writes : b'.bod.writes = b.bod.writes
  reads : b'.bod.reads.Accepting

/-- In addition, the state of the stream is left alone. -/
structure Consumes (b b' : Body) (xs : List UInt8) : Prop extends Takes b b' xs where
  rdstate : b'.rdstate = b.rdstate

theorem Consumes.refl {b : Body} (h : b.bod.reads.Accepting) : Consumes b b [] :=
  ⟨⟨rfl, rfl, rfl, h⟩, rfl⟩

theorem Consumes.trans {b b' b'' : Body} {xs ys : List UInt8} (h : Consumes b b' xs)
    (h' : Consumes b' b'' ys) : Consumes b b'' (xs ++ ys) where
  readable := by rw [h.readable, h'.readable, List.append_assoc]
  pbuf := h'.pbuf.trans h.pbuf
  writes := h'.writes.trans h.writes
  reads := h'.reads
  rdstate := h'.rdstate.trans h.rdstate

theorem consumes_bump {b : Body} {c : UInt8} (hread : b.bod.reads.Accepting)
    (h : b.peek = some c) : Consumes b b.bump [c] := by
  refine ⟨⟨?_, by rw [toWriter_bump], by rw [toWriter_bump], by rwa [toWriter_bump]⟩,
    by rw [toWriter_bump]⟩
  simp only [Body.readable, unread_eq_cons h, toWriter_bump, List.cons_append, List.nil_append]

/-- A refill leaves the write side alone, but for the host body. -/
theorem underflow_frame {b b' : Body} {r : ℤ} (h : b.peek = none)
    (hu : b.underflow = .ok (r, b')) : b'.pbuf = b.pbuf ∧ b'.rdstate = b.rdstate := by
  rw [underflow_of_peek_none h] at hu
  split at hu
  · cases hu
  · rename_i heq
    obtain ⟨-, rfl⟩ := Prod.mk.inj heq
    obtain ⟨-, rfl⟩ := Prod.mk.inj (Except.ok.inj hu)
    exact ⟨rfl, rfl⟩
  · rename_i heq
    obtain ⟨-, rfl⟩ := Prod.mk.inj heq
    obtain ⟨-, rfl⟩ := Prod.mk.inj (Except.ok.inj hu)
    exact ⟨rfl, rfl⟩

theorem consumes_underflow {b b' : Body} {r : ℤ} (hread : b.bod.reads.Accepting)
    (h : b.peek = none) (hu : b.underflow = .ok (r, b')) : Consumes b b' [] := by
  obtain ⟨k, -, -, hbod, -⟩ := underflow_spec h hu
  obtain ⟨hpbuf, hstate⟩ := underflow_frame h hu
  exact ⟨⟨(readable_of_underflow h hu).symm, hpbuf, by rw [hbod],
    accepting_of_underflow hread h hu⟩, hstate⟩

/-! ## Extractions -/

/-- No chunk that is fetched for the next `n` bytes begins with the byte 255. -/
def ClearFor (n : ℕ) (b : Body) : Prop :=
  ∀ i, b.unread.length + b.bod.reads.boundary bufSize i < n →
    b.bod.content[b.bod.reads.boundary bufSize i]? ≠ some 255

theorem clearFor_zero (b : Body) : ClearFor 0 b := fun _ h => absurd h (Nat.not_lt_zero _)

theorem clearFor_of_peek {b : Body} {c : UInt8} (h : b.peek = some c) (n : ℕ) :
    ClearFor (n + 1) b ↔ ClearFor n b.bump := by
  simp only [ClearFor, unread_eq_cons h, toWriter_bump, List.length_cons]
  refine forall_congr' fun i => ?_
  rw [Nat.add_right_comm, Nat.add_lt_add_iff_right]

/-- The chunks to come after a refill are those before it but the first. -/
theorem clearFor_of_underflow {b b' : Body} {r : ℤ} {c : UInt8} (h : b.peek = none)
    (hu : b.underflow = .ok (r, b')) (hr : r ≠ eof) (hc : b'.peek = some c) (n : ℕ) :
    ClearFor (n + 1) b ↔ ClearFor n b'.bump := by
  obtain ⟨k, hk, hunread, hbod, heof⟩ := underflow_spec h hu
  have hlen : b'.bump.unread.length + 1 = min (min k bufSize) b.bod.content.length := by
    rw [← List.length_take, ← hunread, unread_eq_cons hc, List.length_cons]
  have hhead : b.bod.content[0]? ≠ some 255 := by
    intro hhead
    refine hr (heof.mpr (.inr ?_))
    rw [hunread, List.head?_take, if_neg (by omega), List.head?_eq_getElem?, hhead]
  have hnil : b.unread.length = 0 := by rw [unread_eq_nil h, List.length_nil]
  simp only [ClearFor, toWriter_bump, hbod, hnil, Nat.zero_add, List.getElem?_drop]
  constructor
  · intro hclear i hi
    have hclear := hclear (i + 1)
    simp only [Schedule.boundary, Schedule.first, hk] at hclear
    by_cases hle : min k bufSize ≤ b.bod.content.length
    · exact hclear (by omega)
    · rw [List.getElem?_eq_none (by omega)]
      simp
  · intro hclear i hi
    cases i with
    | zero => exact hhead
    | succ i =>
        simp only [Schedule.boundary, Schedule.first, hk] at hi ⊢
        exact hclear i (by omega)

/-- An extraction takes the front of what can be read, and stops short only at the end or
at a chunk that begins with the byte 255. -/
structure Extracts (n : ℕ) (b b' : Body) (cs : List UInt8) : Prop where
  consumes : Consumes b b' cs
  complete : ClearFor n b → cs = b.readable.take n
  stops : ¬ ClearFor n b → cs.length < n ∧ b'.readable ≠ []

theorem Extracts.cons {n : ℕ} {b b₁ b' : Body} {c : UInt8} {cs : List UInt8}
    (h : Extracts n b₁ b' cs) (hconsumes : Consumes b b₁ [c])
    (hclear : ClearFor (n + 1) b ↔ ClearFor n b₁) : Extracts (n + 1) b b' (c :: cs) where
  consumes := hconsumes.trans h.consumes
  complete := by
    intro hc
    rw [hconsumes.readable, List.singleton_append, List.take_succ_cons,
      ← h.complete (hclear.mp hc)]
  stops := by
    intro hc
    obtain ⟨hlen, hleft⟩ := h.stops (mt hclear.mpr hc)
    exact ⟨Nat.succ_lt_succ hlen, hleft⟩

theorem xsgetn_spec (n : ℕ) {b : Body} (hread : b.bod.reads.Accepting) :
    ∃ cs b', getSide.xsgetn n b = .ok (cs, b') ∧ Extracts n b b' cs := by
  induction n generalizing b with
  | zero =>
      refine ⟨[], b, rfl, .refl hread, fun _ => rfl, fun h => absurd (clearFor_zero b) h⟩
  | succ n ih =>
      obtain ⟨⟨r, b₁⟩, hbump, hcases⟩ :=
        getSide.sbumpc_cases (underflow_of_accepting hread : b.peek = none → _)
      cases hcases with
      | @take c hpeek =>
          have hconsumes := consumes_bump hread hpeek
          obtain ⟨cs, b', hrun, hspec⟩ := ih hconsumes.reads
          refine ⟨c :: cs, b', ?_, hspec.cons hconsumes (clearFor_of_peek hpeek n)⟩
          rw [getSide.xsgetn_of_char hbump]
          exact congrArg (Except.map _) hrun
      | @refill r t c hpeek hu hr hc =>
          have hconsumes := (consumes_underflow hread hpeek hu).trans
            (consumes_bump (accepting_of_underflow hread hpeek hu) hc)
          obtain ⟨cs, b', hrun, hspec⟩ := ih hconsumes.reads
          refine ⟨c :: cs, b', ?_, hspec.cons hconsumes (clearFor_of_underflow hpeek hu hr hc n)⟩
          rw [getSide.xsgetn_of_char hbump]
          exact congrArg (Except.map _) hrun
      | leave hpeek hu =>
          have hconsumes := consumes_underflow hread hpeek hu
          refine ⟨[], b₁, getSide.xsgetn_of_eof hbump, ?_⟩
          have hreadable := readable_of_peek_none hpeek
          rcases content_of_eof hpeek hread hu with hnil | hhead
          · refine ⟨hconsumes, fun _ => ?_, fun hclear => absurd ?_ hclear⟩
            · rw [hreadable, hnil, List.take_nil]
            · intro i _
              simp [hnil]
          · have hdirty : ¬ ClearFor (n + 1) b := by
              intro hclear
              refine hclear 0 ?_ ?_
              · simp [unread_eq_nil hpeek, Schedule.boundary]
              · rwa [Schedule.boundary, ← List.head?_eq_getElem?]
            refine ⟨hconsumes, fun hclear => absurd hclear hdirty, fun _ => ⟨Nat.succ_pos n, ?_⟩⟩
            intro hnil
            rw [← List.nil_append b₁.readable, ← hconsumes.readable, hreadable] at hnil
            simp [hnil] at hhead

/-- Draining, too, takes the front of what can be read. -/
theorem drain_consumes (b : Body) (hread : b.bod.reads.Accepting) (acc : List UInt8) :
    ∃ out b', getSide.drain.run (b, acc) = .ok (acc ++ out, b') ∧ Consumes b b' out := by
  refine getSide.drain_induction
    (motive := fun b acc result => b.bod.reads.Accepting → ∃ out b',
      result = .ok (acc ++ out, b') ∧ Consumes b b' out) ?take ?refill ?leave ?fail b acc hread
  case take =>
    intro b acc c result h ih hread
    have hconsumes := consumes_bump hread h
    obtain ⟨out, b', hrun, hrest⟩ := ih hconsumes.reads
    exact ⟨c :: out, b', by rw [hrun, List.append_assoc, List.singleton_append],
      hconsumes.trans hrest⟩
  case refill =>
    intro b acc r t c result h hu hr hc ih hread
    have hconsumes := (consumes_underflow hread h hu).trans
      (consumes_bump (accepting_of_underflow hread h hu) hc)
    obtain ⟨out, b', hrun, hrest⟩ := ih hconsumes.reads
    exact ⟨c :: out, b', by rw [hrun, List.append_assoc, List.singleton_append],
      hconsumes.trans hrest⟩
  case leave =>
    intro b acc t h hu hread
    exact ⟨[], t, by rw [List.append_nil], consumes_underflow hread h hu⟩
  case fail =>
    intro b acc e h hu hread
    obtain ⟨p, hp⟩ := underflow_of_accepting hread h
    cases hp.symm.trans hu

theorem takeBodyString_spec {b : Body} (hread : b.bod.reads.Accepting) :
    ∃ out b', b.takeBodyString = .ok (out, b') ∧ Consumes b b' out ∧
      (b'.readable = [] ↔ ChunksClear b.bod) := by
  obtain ⟨out, b', hrun, hconsumes⟩ := drain_consumes b hread []
  obtain ⟨out', rest, hrun', hspec⟩ := drain_spec b hread []
  obtain ⟨rfl, -⟩ := Prod.mk.inj (Except.ok.inj (hrun.symm.trans hrun'))
  refine ⟨out, b', hrun, hconsumes, ?_⟩
  rw [← hspec.complete_iff, hconsumes.readable, List.nil_append, List.self_eq_append_right]

end Body

/-! ## Calls -/

/-- The calls that put bytes into a body or take them out. -/
inductive IoOp where
  | insert (chunk : List UInt8)
  | flush
  | write (buf : List UInt8)
  | extract (n : ℕ)
  | read (n : ℕ)
  | takeBodyString
  deriving DecidableEq, Repr

/-- What a call put into the body and got out of it, and whether it reports the end of
input. -/
structure Exchange where
  put : List UInt8 := []
  got : List UInt8 := []
  ended : Bool := false
  deriving DecidableEq, Repr

/-- After an extraction the program sees the end of input in `eofbit`. Taking the entire
body amounts to such a report. -/
def Body.io (b : Body) : IoOp → Except Abort (Exchange × Body)
  | .insert chunk => (b.insert chunk).map fun b' => ({ put := b.toWriter.taken chunk }, b')
  | .flush => b.flush.map fun b' => ({}, b')
  | .write buf =>
    match b.write buf with
    | (.error _, b') => .ok ({}, b')
    | (.ok written, b') => .ok ({ put := buf.take written }, b')
  | .extract n =>
    (b.extract n).map fun p => ({ got := p.1, ended := p.2.rdstate.eofbit }, p.2)
  | .read n =>
    match b.read n with
    | (.error _, b') => .ok ({}, b')
    | (.ok bytes, b') => .ok ({ got := bytes }, b')
  | .takeBodyString => b.takeBodyString.map fun p => ({ got := p.1, ended := true }, p.2)

namespace Body

/-- All that a body still holds, in the order in which a queue would give it back. -/
def rest (b : Body) : List UInt8 := b.readable ++ b.pending

end Body

/-- The call takes bytes only from the front and adds them only at the back, and an end of
input that it reports is the end of all that the body holds. -/
def IoOp.InTurn (b : Body) : IoOp → Prop
  | insert _ => True
  | flush => True
  | write buf =>
    b.pending ++ buf.take b.bod.writes.first = buf.take b.bod.writes.first ++ b.pending
  | extract n =>
    if b.rdstate.good then b.ClearFor n ∧ (n ≤ b.readable.length ∨ b.pending = [])
    else b.rdstate.eofbit → b.rest = []
  | read n =>
    b.unread ++ b.bod.content.take (min b.bod.reads.first n) =
      b.bod.content.take (min b.bod.reads.first n) ++ b.unread
  | takeBodyString => Body.ChunksClear b.bod ∧ b.pending = []

namespace Body

/-- The host answers every call of a body, and moves at least one byte where it can. -/
structure Live (b : Body) : Prop where
  reads : b.bod.reads.Accepting
  writes : b.bod.writes.Accepting

/-- `b'` is `b` after a call with the exchange `e`, in turn exactly under `ok`. -/
structure Exchanged (b b' : Body) (e : Exchange) (ok : Prop) : Prop where
  live : b'.Live
  inTurn : (e.got ++ b'.rest = b.rest ++ e.put ∧ (e.ended → b'.rest = [])) ↔ ok

/-- A call that does not report the end of input. -/
theorem Exchanged.quiet {b b' : Body} {e : Exchange} {ok : Prop} (hlive : b'.Live)
    (hended : e.ended = false) (h : e.got ++ b'.rest = b.rest ++ e.put ↔ ok) :
    Exchanged b b' e ok :=
  ⟨hlive, by rw [hended, h, and_iff_left (fun hfalse => Bool.noConfusion hfalse)]⟩

theorem rest_of_advance {b : Body} {w : Writer} {xs : List UInt8}
    (h : Writer.Advance b.toWriter w xs) :
    rest { b with toWriter := w } = b.rest ++ xs := by
  simp only [rest, readable, unread, List.append_assoc]
  rw [h.total, List.append_assoc]

theorem Takes.rest_eq {b b' : Body} {xs : List UInt8} (h : Takes b b' xs) :
    b.rest = xs ++ b'.rest := by
  rw [rest, rest, h.readable, Writer.pending, Writer.pending, h.pbuf, List.append_assoc]

theorem Takes.live {b b' : Body} {xs : List UInt8} (h : Takes b b' xs) (hb : b.Live) :
    b'.Live := ⟨h.reads, by rw [h.writes]; exact hb.writes⟩

/-- What is only taken from the front is in turn up to the report of the end. -/
theorem Takes.exchanged {b b' : Body} {e : Exchange} {ok : Prop} (h : Takes b b' e.got)
    (hb : b.Live) (hput : e.put = []) (hok : (e.ended → b'.rest = []) ↔ ok) :
    Exchanged b b' e ok :=
  ⟨h.live hb, by rw [← h.rest_eq, hput, List.append_nil, and_iff_right rfl, hok]⟩

theorem insert_exchanged {b : Body} (hb : b.Live) (chunk : List UInt8) :
    ∃ e b', b.io (.insert chunk) = .ok (e, b') ∧
      Exchanged b b' e ((IoOp.insert chunk).InTurn b) := by
  by_cases hgood : b.rdstate.good
  · obtain ⟨w, hrun, hadv⟩ := Writer.xsputn_accepting hb.writes chunk
    have htaken : b.toWriter.taken chunk = chunk := by
      simp only [Writer.taken, if_pos hgood, hrun, List.take_length]
    have hinsert : b.toWriter.insert chunk = .ok w := by
      simp only [Writer.insert, if_pos hgood, hrun, if_true]
    refine ⟨{ put := chunk }, { b with toWriter := w }, ?_, ⟨by rw [hadv.reads]; exact hb.reads,
      hadv.accepting⟩, ?_⟩
    · simp only [io, insert, hinsert, Except.map, htaken]
    · rw [rest_of_advance hadv]
      simp [IoOp.InTurn]
  · have hinsert : b.toWriter.insert chunk = .ok b.toWriter := by
      simp only [Writer.insert, if_neg hgood]
    have htaken : b.toWriter.taken chunk = [] := by
      simp only [Writer.taken, if_neg hgood]
    refine ⟨{}, b, ?_, hb, by simp [IoOp.InTurn]⟩
    simp only [io, insert, hinsert, Except.map, htaken]

theorem flush_exchanged {b : Body} (hb : b.Live) :
    ∃ e b', b.io .flush = .ok (e, b') ∧ Exchanged b b' e (IoOp.flush.InTurn b) := by
  by_cases hgood : b.rdstate.good
  · obtain ⟨w, hflush, -, hadv⟩ := Writer.flush_spec hb.writes hgood
    refine ⟨{}, { b with toWriter := w }, ?_, ⟨by rw [hadv.reads]; exact hb.reads,
      hadv.accepting⟩, ?_⟩
    · simp only [io, flush, hflush, Except.map]
    · rw [rest_of_advance hadv]
      simp [IoOp.InTurn]
  · refine ⟨{}, b, ?_, hb, by simp [IoOp.InTurn]⟩
    simp only [io, flush, Writer.flush, if_neg hgood, Except.map]

theorem write_exchanged {b : Body} (hb : b.Live) (buf : List UInt8) :
    ∃ e b', b.io (.write buf) = .ok (e, b') ∧ Exchanged b b' e ((IoOp.write buf).InTurn b) := by
  obtain ⟨k, hk⟩ := hb.writes 0
  have hfirst : b.bod.writes.first = k + 1 := by simp only [Schedule.first, hk]
  have htake : buf.take (min (k + 1) buf.length) = buf.take (k + 1) := by
    rw [← List.take_take, List.take_length]
  refine ⟨{ put := buf.take (k + 1) }, { b with bod := ⟨b.bod.content ++ buf.take (k + 1),
    b.bod.reads, b.bod.writes.rest⟩ }, ?_, .quiet ⟨hb.reads, hb.writes.rest⟩ rfl ?_⟩
  · simp only [io, write, Writer.write, HostBody.write_of_ok hk, htake]
  · simp only [IoOp.InTurn, hfirst, rest, readable, unread, Writer.pending, List.nil_append,
      List.append_assoc, List.append_cancel_left_eq]
    exact eq_comm

theorem read_exchanged {b : Body} (hb : b.Live) (n : ℕ) :
    ∃ e b', b.io (.read n) = .ok (e, b') ∧ Exchanged b b' e ((IoOp.read n).InTurn b) := by
  obtain ⟨k, hk⟩ := hb.reads 0
  have hfirst : b.bod.reads.first = k + 1 := by simp only [Schedule.first, hk]
  refine ⟨{ got := b.bod.content.take (min (k + 1) n) }, { b with bod :=
    ⟨b.bod.content.drop (min (k + 1) n), b.bod.reads.rest, b.bod.writes⟩ }, ?_,
    .quiet ⟨hb.reads.rest, hb.writes⟩ rfl ?_⟩
  · simp only [io, read_of_ok hk]
  · have hsplit : b.rest = b.unread ++ b.bod.content.take (min (k + 1) n) ++
        (b.bod.content.drop (min (k + 1) n) ++ b.pending) := by
      rw [rest, readable, List.append_assoc, List.append_assoc,
        ← List.append_assoc (b.bod.content.take _), List.take_append_drop]
    simp only [IoOp.InTurn, hfirst, hsplit, List.append_nil]
    rw [rest, readable, List.append_assoc, ← List.append_assoc]
    exact (List.append_left_inj _).trans eq_comm

theorem extract_exchanged {b : Body} (hb : b.Live) (n : ℕ) :
    ∃ e b', b.io (.extract n) = .ok (e, b') ∧
      Exchanged b b' e ((IoOp.extract n).InTurn b) := by
  by_cases hgood : b.rdstate.good
  · obtain ⟨cs, b₁, hrun, hspec⟩ := xsgetn_spec n hb.reads
    have heofbit : b₁.rdstate.eofbit = false := by
      rw [hspec.consumes.rdstate]
      exact IoState.eofbit_of_good hgood
    have hrest : b₁.rest = [] ↔ b₁.readable = [] ∧ b.pending = [] := by
      rw [rest, List.append_eq_nil_iff, Writer.pending, Writer.pending, hspec.consumes.pbuf]
    rw [IoOp.InTurn, if_pos hgood]
    by_cases hlen : cs.length = n
    · refine ⟨{ got := cs, ended := b₁.rdstate.eofbit }, b₁, ?_,
        hspec.consumes.toTakes.exchanged hb rfl ?_⟩
      · simp only [io, extract, if_pos hgood, hrun, if_pos hlen, Except.map]
      · have hclear : b.ClearFor n := by
          by_contra hclear
          exact absurd hlen (Nat.ne_of_lt (hspec.stops hclear).1)
        have hn : n ≤ b.readable.length := by
          rw [← hlen, hspec.consumes.readable, List.length_append]
          exact Nat.le_add_right _ _
        rw [heofbit]
        exact iff_of_true (fun h => by cases h) ⟨hclear, .inl hn⟩
    · refine ⟨{ got := cs, ended := true }, { b₁ with rdstate :=
        { b₁.rdstate with eofbit := true, failbit := true } }, ?_, ?_⟩
      · simp only [io, extract, if_pos hgood, hrun, if_neg hlen, Except.map]
      · have htakes := hspec.consumes.toTakes
        refine Takes.exchanged ⟨htakes.readable, htakes.pbuf, htakes.writes, htakes.reads⟩ hb rfl
          ⟨fun h => ?_, fun h _ => ?_⟩
        · obtain ⟨hnil, hpending⟩ := hrest.mp (h rfl)
          refine ⟨?_, .inr hpending⟩
          by_contra hclear
          exact (hspec.stops hclear).2 hnil
        · have hcs := hspec.complete h.1
          have hshort : ¬ n ≤ b.readable.length := by
            intro hn
            rw [hcs, List.length_take, Nat.min_eq_left hn] at hlen
            exact hlen rfl
          have hall := htakes.readable
          rw [hcs, List.take_of_length_le (Nat.le_of_not_le hshort),
            List.self_eq_append_right] at hall
          exact hrest.mpr ⟨hall, h.2.resolve_left hshort⟩
  · refine ⟨{ ended := b.rdstate.eofbit }, { b with rdstate :=
      { b.rdstate with failbit := true } }, ?_, ?_⟩
    · simp only [io, extract, if_neg hgood, Except.map]
    · rw [IoOp.InTurn, if_neg hgood]
      exact Takes.exchanged ⟨rfl, rfl, rfl, hb.reads⟩ hb rfl Iff.rfl

theorem takeBodyString_exchanged {b : Body} (hb : b.Live) :
    ∃ e b', b.io .takeBodyString = .ok (e, b') ∧
      Exchanged b b' e (IoOp.takeBodyString.InTurn b) := by
  obtain ⟨out, b', hrun, hconsumes, hleft⟩ := takeBodyString_spec hb.reads
  refine ⟨{ got := out, ended := true }, b', by simp only [io, hrun, Except.map],
    hconsumes.toTakes.exchanged hb rfl ?_⟩
  rw [rest, List.append_eq_nil_iff, hleft, Writer.pending, hconsumes.pbuf]
  simp [IoOp.InTurn, Writer.pending]

theorem io_exchanged {b : Body} (hb : b.Live) (op : IoOp) :
    ∃ e b', b.io op = .ok (e, b') ∧ Exchanged b b' e (op.InTurn b) := by
  cases op with
  | insert chunk => exact insert_exchanged hb chunk
  | flush => exact flush_exchanged hb
  | write buf => exact write_exchanged hb buf
  | extract n => exact extract_exchanged hb n
  | read n => exact read_exchanged hb n
  | takeBodyString => exact takeBodyString_exchanged hb

end Body

/-! ## Runs -/

/-- A body with all that was put into it and got out of it, and whether the last call
reported the end of input. -/
structure Traffic where
  put : List UInt8
  got : List UInt8
  ended : Bool
  body : Body

namespace Traffic

def start (host : HostBody) : Traffic := ⟨[], [], false, Body.ofBox host⟩

def step (s : Traffic) (op : IoOp) : Except Abort Traffic :=
  (s.body.io op).map fun p => ⟨s.put ++ p.1.put, s.got ++ p.1.got, p.1.ended, p.2⟩

/-- What was got is a prefix of what was put, the body holds the rest in order, and nothing
is left after a report of the end of input. -/
structure Fifo (host : HostBody) (s : Traffic) : Prop where
  isPrefix : s.got <+: host.content ++ s.put
  queue : s.got ++ s.body.rest = host.content ++ s.put
  complete : s.ended → s.got = host.content ++ s.put

theorem fifo_iff {host : HostBody} {s : Traffic} :
    s.Fifo host ↔ s.got ++ s.body.rest = host.content ++ s.put ∧
      (s.ended → s.body.rest = []) := by
  constructor
  · intro h
    refine ⟨h.queue, fun hended => ?_⟩
    rw [← List.append_right_inj s.got, h.queue, h.complete hended, List.append_nil]
  · rintro ⟨hqueue, hended⟩
    refine ⟨⟨_, hqueue⟩, hqueue, fun h => ?_⟩
    rw [← hqueue, hended h, List.append_nil]

theorem fifo_start (host : HostBody) : (start host).Fifo host :=
  fifo_iff.mpr ⟨rfl, fun h => by cases h⟩

theorem step_spec {host : HostBody} (s : Traffic) (op : IoOp) (h : s.body.Live) :
    ∃ t, s.step op = .ok t ∧ t.body.Live ∧
      (s.Fifo host → (t.Fifo host ↔ op.InTurn s.body)) := by
  obtain ⟨e, b, hio, hlive, hturn⟩ := Body.io_exchanged h op
  refine ⟨⟨s.put ++ e.put, s.got ++ e.got, e.ended, b⟩, by simp only [step, hio, Except.map],
    hlive, fun hfifo => ?_⟩
  rw [← hturn, fifo_iff, ← List.append_assoc host.content, ← hfifo.queue, List.append_assoc,
    List.append_assoc, List.append_right_inj]

end Traffic

/-- A body is a queue of bytes in every state of a run exactly if all calls are in turn. -/
theorem fifo_prefixes_iff (host : HostBody) (hreads : host.reads.Accepting)
    (hwrites : host.writes.Accepting) (ops : List IoOp) :
    (∀ past, past <+: ops →
      ∃ s, run Traffic.step (.start host) past = .ok s ∧ s.Fifo host) ↔
      ∀ past op, past ++ [op] <+: ops →
        ∀ s, run Traffic.step (.start host) past = .ok s → op.InTurn s.body :=
  forall_prefix_exists_iff (J := fun s => s.body.Live) Traffic.step_spec ⟨hreads, hwrites⟩
    (Traffic.fifo_start host) ops

/-- What was flushed is taken back whole. -/
theorem fifo_prefixes_flushed :
    ∃ s, run Traffic.step (.start (.new (.atMost 0) (.atMost 0)))
        [.insert [97, 98], .flush, .takeBodyString] = .ok s ∧
      s.Fifo (.new (.atMost 0) (.atMost 0)) := by
  refine (fifo_prefixes_iff (.new (.atMost 0) (.atMost 0)) (Schedule.accepting_atMost 0)
    (Schedule.accepting_atMost 0) [.insert [97, 98], .flush, .takeBodyString]).mpr ?_ _
    List.prefix_rfl
  intro past op hpast s hrun
  match past with
  | [] =>
      obtain ⟨rfl, -⟩ := List.cons_prefix_cons.mp hpast
      trivial
  | [_] =>
      simp only [List.cons_append, List.nil_append, List.cons_prefix_cons] at hpast
      obtain ⟨rfl, rfl, -⟩ := hpast
      trivial
  | [_, _] =>
      simp only [List.cons_append, List.nil_append, List.cons_prefix_cons] at hpast
      obtain ⟨rfl, rfl, rfl, -⟩ := hpast
      obtain rfl := Except.ok.inj hrun
      refine ⟨fun i h => ?_, rfl⟩
      have hmem : (255 : UInt8) ∈ [97, 98] := List.mem_of_getElem? h
      exact absurd hmem (by decide)
  | _ :: _ :: _ :: _ => simp at hpast

/-- Taking the body leaves behind what was not flushed, and a direct read after a refill
goes past the byte 98 in the get area. -/
theorem not_fifo :
    (∃ s, run Traffic.step (.start (.new (.atMost 0) (.atMost 0)))
        [.insert [97], .takeBodyString] = .ok s ∧ s.put = [97] ∧ s.got = [] ∧
      ¬ s.Fifo (.new (.atMost 0) (.atMost 0))) ∧
    ∃ s, run Traffic.step (.start (.new (.starting [2]) (.starting [])))
        [.insert [97, 98, 99], .flush, .extract 1, .read 1] = .ok s ∧
      s.put = [97, 98, 99] ∧ s.got = [97, 99] ∧
      ¬ s.Fifo (.new (.starting [2]) (.starting [])) := by
  refine ⟨⟨_, rfl, rfl, rfl, fun h => ?_⟩, ⟨_, rfl, rfl, rfl, fun h => ?_⟩⟩
  · have hall : [] = ([97] : List UInt8) := h.complete rfl
    cases hall
  · have hfront : [97, 99] <+: ([97, 98, 99] : List UInt8) := h.isPrefix
    exact absurd hfront (by decide)

end ComputeSdk
