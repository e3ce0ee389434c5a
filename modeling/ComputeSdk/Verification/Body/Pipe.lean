import ComputeSdk.Shared.Handlers
import ComputeSdk.Verification.Body.Fifo
import ComputeSdk.Verification.Body.Handover

/-! # The host behind a body

How many bytes the host moves at a time cannot be seen through the stream of a body. To a
program that reads and writes text, every body is a pipe. -/

namespace ComputeSdk

open Shared

/-- Bytes other than 255, which a refill would take for the end of file. -/
abbrev Text := {xs : List UInt8 // 255 ∉ xs}

/-- The calls to a body that do not say how many bytes the host moves. -/
inductive StreamCall where
  | rdstate
  | clear
  | sgetc
  | istreambufIterator
  | sbumpc
  | extract (n : ℕ)
  | takeBodyString
  | insert (s : Text)
  | flush
  | sync
  | move
  | append (s : Text)

/-- What the program gets. -/
@[reducible] def StreamCall.Answer : StreamCall → Type
  | rdstate => IoState
  | clear => Unit
  | sgetc => ℤ
  | istreambufIterator => Option UInt8
  | sbumpc => ℤ
  | extract _ => List UInt8
  | takeBodyString => List UInt8
  | insert _ => Unit
  | flush => Unit
  | sync => ℤ
  | move => Unit
  | append _ => Unit

/-- A call to a body. An appended body is built from a string, over a host body with these
schedules. -/
def Body.respond (reads writes : Schedule) :
    (c : StreamCall) → StateT Body (Except Abort) c.Answer
  | .rdstate => fun b => .ok (b.rdstate, b)
  | .clear => fun b => .ok ((), { b with toWriter := b.toWriter.clear })
  | .sgetc => getSide.sgetc
  | .istreambufIterator => getSide.istreambufIterator
  | .sbumpc => getSide.sbumpc
  | .extract n => fun b => b.extract n
  | .takeBodyString => fun b => b.takeBodyString
  | .insert s => fun b => (b.insert s.1).map fun b => ((), b)
  | .flush => fun b => b.flush.map fun b => ((), b)
  | .sync => Body.sync
  | .move => fun b => b.move.map fun b => ((), b)
  | .append s => fun b =>
    (ofString s.1 (.new reads writes)).bind fun other => (b.append other).map fun b => ((), b)

/-! ## Pipes -/

/-- The bytes that can be read, and those that are not written out yet. -/
structure Pipe where
  queue : List UInt8
  pending : List UInt8
  rdstate : IoState

/-- How a pipe stops: the program aborts, or it asks for the value of a character that has a
sign if a refill brings it, and none if it is there. -/
inductive PipeStop where
  | stopped (e : Abort)
  | signed

/-- What stops a body then. A signed character does not. -/
def PipeStop.abort : PipeStop → Option Abort
  | stopped e => some e
  | signed => none

namespace Pipe

/-- All that the pipe holds. -/
def total (s : Pipe) : List UInt8 := s.queue ++ s.pending

def sync (s : Pipe) : Pipe := { s with queue := s.queue ++ s.pending, pending := [] }

/-- A full put area is written out before the next byte. -/
def put (s : Pipe) (c : UInt8) : Pipe :=
  if s.pending.length < bufSize then { s with pending := s.pending ++ [c] }
  else { s.sync with pending := [c] }

def extract (n : ℕ) (s : Pipe) : List UInt8 × Pipe :=
  if s.rdstate.good then
    (s.queue.take n,
      { s with
        queue := s.queue.drop n
        rdstate :=
          if n ≤ s.queue.length then s.rdstate
          else { s.rdstate with eofbit := true, failbit := true } })
  else ([], { s with rdstate := { s.rdstate with failbit := true } })

/-- The value of the next character for `sgetc`, if the host has no say in it. -/
def peek (s : Pipe) : Except PipeStop ℤ :=
  match s.queue with
  | [] => .ok eof
  | c :: _ => if c < 128 then .ok (toIntType c) else .error .signed

def respond : (c : StreamCall) → StateT Pipe (Except PipeStop) c.Answer
  | .rdstate => fun s => .ok (s.rdstate, s)
  | .clear => fun s => .ok ((), { s with rdstate := IoState.goodbit })
  | .sgetc => fun s => s.peek.map fun r => (r, s)
  | .istreambufIterator => fun s => .ok (s.queue.head?, s)
  | .sbumpc => fun s => .ok (s.queue.head?.elim eof toIntType, { s with queue := s.queue.tail })
  | .extract n => fun s => .ok (s.extract n)
  | .takeBodyString => fun s => .ok (s.queue, { s with queue := [] })
  | .insert xs => fun s => .ok ((), if s.rdstate.good then xs.1.foldl put s else s)
  | .flush => fun s => .ok ((), if s.rdstate.good then s.sync else s)
  | .sync => fun s => .ok (0, s.sync)
  | .move => fun s => .ok ((), { s.sync with rdstate := IoState.goodbit })
  -- what is appended overtakes what is pending
  | .append xs => fun s => .ok ((), { s with queue := s.queue ++ xs.1 })

/-- The program does not abort by asking for a character. -/
theorem abort_of_peek (s : Pipe) {stop : PipeStop} (h : s.peek = .error stop) :
    stop.abort = none := by
  unfold peek at h
  split at h
  · cases h
  · split at h <;> cases h
    rfl

end Pipe

@[simp] theorem Pipe.total_sync (s : Pipe) : s.sync.total = s.total := by
  simp [total, sync]

/-- What was put is at the end of what the pipe holds. -/
theorem Pipe.total_foldl_put (s : Pipe) (xs : List UInt8) :
    (xs.foldl put s).total = s.total ++ xs := by
  induction xs generalizing s with
  | nil => exact (List.append_nil _).symm
  | cons x xs ih =>
      have hput : (s.put x).total = s.total ++ [x] := by
        unfold put
        split <;> simp [total, sync]
      rw [List.foldl_cons, ih, hput, List.append_assoc, List.singleton_append]

@[simp] theorem Pipe.rdstate_foldl_put (s : Pipe) (xs : List UInt8) :
    (xs.foldl put s).rdstate = s.rdstate := by
  induction xs generalizing s with
  | nil => rfl
  | cons x xs ih =>
      rw [List.foldl_cons, ih]
      unfold put
      split <;> rfl

/-- To a program the body looks like this pipe. -/
structure Body.Looks (b : Body) (s : Pipe) : Prop where
  live : b.Live
  room : b.pbuf.limit = bufSize
  readable : b.readable = s.queue
  pending : b.pending = s.pending
  rdstate : b.rdstate = s.rdstate

/-- In addition, the pipe holds text. -/
structure Body.Shows (b : Body) (s : Pipe) : Prop extends Body.Looks b s where
  text : 255 ∉ s.total

/-! ## Writing -/

namespace Writer

/-- `w'` is `w` after all that was pending was written out, with `xs` put then. -/
structure WritesOut (w w' : Writer) (xs : List UInt8) : Prop where
  accepting : w'.bod.writes.Accepting
  reads : w'.bod.reads = w.bod.reads
  room : w'.pbuf.limit = bufSize
  content : w'.bod.content = w.bod.content ++ w.pending
  pending : w'.pending = xs
  rdstate : w'.rdstate = w.rdstate

theorem limit_restart (val : ℤ) (w : Writer) : (restart val w).pbuf.limit = bufSize := by
  unfold restart
  split <;> rfl

theorem overflow_writesOut {w : Writer} (h : w.bod.writes.Accepting) (val : ℤ) :
    ∃ w', w.overflow val = .ok (notEof val, w') ∧
      WritesOut w w' (if val = eof then [] else [toCharType val]) := by
  obtain ⟨bod, hrun, haccept, hreads, hcontent⟩ := w.overflowLoop_spec w.bod 0 h
  rw [List.drop_zero] at hcontent
  refine ⟨restart val { w with bod := bod }, by simp only [overflow, hrun], ?_, ?_,
    limit_restart _ _, ?_, pending_restart _ _, rdstate_restart _ _⟩
  · rwa [bod_restart]
  · rwa [bod_restart]
  · rwa [bod_restart]

theorem sync_writesOut {w : Writer} (h : w.bod.writes.Accepting) :
    ∃ w', w.sync = .ok (0, w') ∧ WritesOut w w' [] := by
  obtain ⟨w', hover, hout⟩ := overflow_writesOut h eof
  exact ⟨w', by simp only [sync, hover, if_neg (notEof_ne_eof eof)], hout⟩

end Writer

namespace Body

variable {b b' : Body} {s : Pipe}

theorem Looks.writesOut (h : b.Looks s) {w : Writer} {xs : List UInt8}
    (hw : b.toWriter.WritesOut w xs) :
    Looks { b with toWriter := w } { s.sync with pending := xs } where
  live := ⟨by rw [hw.reads]; exact h.live.reads, hw.accepting⟩
  room := hw.room
  readable := by
    change b.unread ++ w.bod.content = s.queue ++ s.pending
    rw [hw.content, ← List.append_assoc, ← h.readable, ← h.pending]
    rfl
  pending := hw.pending
  rdstate := hw.rdstate.trans h.rdstate

theorem Looks.sputc (h : b.Looks s) (c : UInt8) :
    ∃ r w, Writer.putSide.sputc c b.toWriter = .ok (r, w) ∧ r ≠ eof ∧
      Looks { b with toWriter := w } (s.put c) := by
  have hlen : b.pbuf.next < b.pbuf.limit ↔ s.pending.length < bufSize := by
    rw [h.room, ← h.pending, Writer.pending, Area.length_before]
  unfold Pipe.put
  by_cases hlt : b.pbuf.next < b.pbuf.limit
  · refine ⟨toIntType c, { b.toWriter with pbuf := b.pbuf.put c hlt }, ?_, toIntType_ne_eof c, ?_⟩
    · simp [PutSide.sputc, Writer.putSide, Writer.store, hlt]
    · rw [if_pos (hlen.mp hlt)]
      refine ⟨⟨h.live.reads, h.live.writes⟩, h.room, h.readable, ?_, h.rdstate⟩
      rw [← h.pending, Writer.pending, Writer.pending, Area.before_put]
  · obtain ⟨w, hover, hout⟩ := Writer.overflow_writesOut h.live.writes (toIntType c)
    rw [if_neg (toIntType_ne_eof c), toCharType_toIntType] at hout
    refine ⟨_, w, ?_, notEof_ne_eof (toIntType c), ?_⟩
    · simp [PutSide.sputc, Writer.putSide, Writer.store, hlt, hover]
    · rw [if_neg (mt hlen.mpr hlt)]
      exact h.writesOut hout

theorem Looks.insert (h : b.Looks s) (xs : List UInt8) :
    ∃ b', b.insert xs = .ok b' ∧ b'.Looks (if s.rdstate.good then xs.foldl Pipe.put s else s) := by
  rw [← h.rdstate]
  by_cases hgood : b.rdstate.good
  · have hstart : Looks { b with toWriter := b.toWriter } (List.foldl Pipe.put s []) := h
    obtain ⟨w, hrun, hlooks⟩ := Writer.putSide.xsputn_spec
      (P := fun xs w => Looks { b with toWriter := w } (xs.foldl Pipe.put s))
      (fun xs w c hw => by
        obtain ⟨r, w', hput, hr, hlooks⟩ := hw.sputc c
        exact ⟨r, w', hput, hr, by rwa [List.foldl_concat]⟩) xs hstart
    refine ⟨{ b with toWriter := w }, ?_, by rwa [if_pos hgood]⟩
    simp [Body.insert, Writer.insert, hgood, hrun, Except.map]
  · refine ⟨b, ?_, by rwa [if_neg hgood]⟩
    simp [Body.insert, Writer.insert, hgood, Except.map]

theorem Looks.sync (h : b.Looks s) :
    ∃ w, b.toWriter.sync = .ok (0, w) ∧ Looks { b with toWriter := w } s.sync := by
  obtain ⟨w, hsync, hout⟩ := Writer.sync_writesOut h.live.writes
  exact ⟨w, hsync, h.writesOut hout⟩

theorem Looks.flush (h : b.Looks s) :
    ∃ b', b.flush = .ok b' ∧ b'.Looks (if s.rdstate.good then s.sync else s) := by
  rw [← h.rdstate]
  obtain ⟨w, hsync, hlooks⟩ := h.sync
  by_cases hgood : b.rdstate.good
  · refine ⟨{ b with toWriter := w }, ?_, by rwa [if_pos hgood]⟩
    simp [Body.flush, Writer.flush, hgood, hsync, Except.map]
  · refine ⟨b, ?_, by rwa [if_neg hgood]⟩
    simp [Body.flush, Writer.flush, hgood, Except.map]

theorem Looks.move (h : b.Looks s) :
    ∃ b', b.move = .ok b' ∧ b'.Looks { s.sync with rdstate := IoState.goodbit } := by
  obtain ⟨w, hsync, hlooks⟩ := h.sync
  refine ⟨⟨⟨w.bod, w.pbuf.reset, IoState.goodbit⟩, b.gbuf⟩, ?_,
    ⟨hlooks.live.reads, hlooks.live.writes⟩, rfl, hlooks.readable, rfl, rfl⟩
  simp only [Body.move, Writer.move, hsync]

/-- A body that is built from a string is flushed. -/
theorem ofString_content (reads : Schedule) {writes : Schedule}
    (hwrites : writes.Accepting) (xs : List UInt8) :
    ∃ b, ofString xs (.new reads writes) = .ok b ∧ b.bod.content = xs ∧ b.pending = [] ∧
      b.bod.writes.Accepting := by
  obtain ⟨w, hput, hadv⟩ :=
    Writer.insert_spec (w := Writer.ofBox (.new reads writes)) hwrites rfl xs
  obtain ⟨w', hflush, hpending, hadv'⟩ := Writer.flush_spec hadv.accepting (hadv.good rfl)
  have htotal := (hadv.trans hadv').total
  rw [hpending, List.append_nil, List.append_nil] at htotal
  refine ⟨⟨w', Area.blank 0 bufSize⟩, ?_, htotal, hpending, hadv'.accepting⟩
  simp only [ofString, Body.insert, ofBox, hput, Except.map, Except.bind, Body.flush, hflush]

theorem Looks.append (h : b.Looks s) (reads : Schedule) {writes : Schedule}
    (hwrites : writes.Accepting) (xs : List UInt8) :
    ∃ other b', ofString xs (.new reads writes) = .ok other ∧ b.append other = .ok b' ∧
      b'.Looks { s with queue := s.queue ++ xs } := by
  obtain ⟨other, hother, hcontent, hpending, -⟩ := ofString_content reads hwrites xs
  obtain ⟨flushed, hflush, hbod⟩ := flush_of_moved hpending
  refine ⟨other, { b with bod := b.bod.append flushed.bod }, hother, by
    simp only [Body.append, hflush], ⟨h.live.reads, h.live.writes⟩, h.room, ?_, h.pending,
    h.rdstate⟩
  change b.unread ++ (b.bod.content ++ flushed.bod.content) = s.queue ++ xs
  rw [hbod, hcontent, ← List.append_assoc, ← h.readable]
  rfl

/-! ## Reading -/

theorem Shows.notMem_readable (h : b.Shows s) : 255 ∉ b.readable := by
  rw [h.readable]
  exact fun hmem => h.text (List.mem_append_left _ hmem)

/-- Without the byte 255 a refill reports the end of file only at the end. -/
theorem Shows.readable_of_eof (h : b.Shows s) (hpeek : b.peek = none)
    (hu : b.underflow = .ok (eof, b')) : s.queue = [] := by
  rw [← h.readable, readable_of_peek_none hpeek]
  refine (content_of_eof hpeek h.live.reads hu).resolve_right fun hhead => ?_
  refine h.notMem_readable ?_
  rw [readable_of_peek_none hpeek]
  exact List.mem_of_head? hhead

/-- Reading takes bytes from the front of the queue. -/
theorem Shows.consumes {xs rest : List UInt8} (h : b.Shows s) (hc : Consumes b b' xs)
    (hqueue : s.queue = xs ++ rest) : b'.Shows { s with queue := rest } where
  live := hc.live h.live
  room := by rw [hc.pbuf, h.room]
  readable := by
    have hall := hc.readable
    rw [h.readable, hqueue] at hall
    exact (List.append_cancel_left hall).symm
  pending := by rw [← h.pending, Writer.pending, Writer.pending, hc.pbuf]
  rdstate := hc.rdstate.trans h.rdstate
  text hmem := h.text (by
    rw [Pipe.total, hqueue, List.append_assoc]
    exact List.mem_append_right _ hmem)

theorem underflow_value {r : ℤ} (h : b.peek = none) (hu : b.underflow = .ok (r, b')) :
    r = b'.unread.head?.elim eof charToInt := by
  have hnil := unread_eq_nil h
  rw [underflow_of_peek_none h] at hu
  split at hu
  · cases hu
  · rename_i heq
    obtain ⟨-, rfl⟩ := Prod.mk.inj heq
    obtain ⟨rfl, rfl⟩ := Prod.mk.inj (Except.ok.inj hu)
    change eof = b.unread.head?.elim eof charToInt
    rw [hnil]
    rfl
  · rename_i c cs hle heq
    obtain ⟨rfl, rfl⟩ := Prod.mk.inj (Except.ok.inj hu)
    simp [unread]

theorem Shows.head_queue (h : b.Shows s) {c : UInt8} (hpeek : b.peek = some c) :
    s.queue.head? = some c := by
  rw [← h.readable, readable, unread_eq_cons hpeek]
  rfl

/-- The value of the next character has its sign if a refill brings it. -/
theorem Shows.sgetc (h : b.Shows s) :
    ∃ b', getSide.sgetc b =
        .ok (s.queue.head?.elim eof (if b.peek.isSome then toIntType else charToInt), b') ∧
      b'.Shows s := by
  cases hpeek : b.peek with
  | some c =>
      refine ⟨b, ?_, h⟩
      rw [h.head_queue hpeek]
      exact getSide.sgetc_of_peek hpeek
  | none =>
      obtain ⟨⟨r, b'⟩, hu⟩ := underflow_of_accepting h.live.reads hpeek
      have hshows := h.consumes (consumes_underflow h.live.reads hpeek hu) rfl
      refine ⟨b', ?_, hshows⟩
      rw [getSide.sgetc_of_peek_none hpeek]
      refine hu.trans (congrArg (fun r => Except.ok (r, b')) ?_)
      have hr := underflow_value hpeek hu
      cases hunread : b'.unread with
      | nil =>
          rw [hunread] at hr
          subst hr
          rw [h.readable_of_eof hpeek hu]
          rfl
      | cons c cs =>
          rw [hr, ← hshows.readable, readable, hunread]
          rfl

/-- Below 128 it has none. -/
theorem Shows.sgetc_of_peek (h : b.Shows s) {r : ℤ} (hpeek : s.peek = .ok r) :
    ∃ b', getSide.sgetc b = .ok (r, b') ∧ b'.Shows s := by
  obtain ⟨b', hget, hshows⟩ := h.sgetc
  refine ⟨b', hget.trans (congrArg (fun r => Except.ok (r, b')) ?_), hshows⟩
  unfold Pipe.peek at hpeek
  cases hqueue : s.queue with
  | nil =>
      rw [hqueue] at hpeek
      exact Except.ok.inj hpeek
  | cons c cs =>
      rw [hqueue] at hpeek
      dsimp only at hpeek
      split at hpeek
      · rename_i hlt
        rw [← Except.ok.inj hpeek, List.head?_cons, Option.elim_some]
        split
        · rfl
        · exact charToInt_of_lt hlt
      · cases hpeek

/-- The host cuts two bytes above 127. With reads of one byte the second one is negative, with
reads of two it is not. -/
example : ((do
      let (_, b) ← getSide.sbumpc (ofBox ⟨[195, 169], .atMost 0, .atMost 0⟩)
      getSide.sgetc b).map Prod.fst, (do
      let (_, b) ← getSide.sbumpc (ofBox ⟨[195, 169], .atMost 1, .atMost 0⟩)
      getSide.sgetc b).map Prod.fst) = (.ok (-87), .ok 169) := rfl

/-- With its sign or without, it is the same character, and not the end of file. -/
theorem Shows.sgetc_of_cons (h : b.Shows s) {c : UInt8} {cs : List UInt8}
    (hqueue : s.queue = c :: cs) :
    ∃ r b', getSide.sgetc b = .ok (r, b') ∧ r ≠ eof ∧ toCharType r = c ∧ b'.Shows s := by
  obtain ⟨b', hget, hshows⟩ := h.sgetc
  have hne : c ≠ 255 := by
    rintro rfl
    exact h.text (List.mem_append_left _ (hqueue ▸ List.mem_cons_self))
  rw [hqueue, List.head?_cons, Option.elim_some] at hget
  refine ⟨_, b', hget, ?_⟩
  split
  · exact ⟨toIntType_ne_eof c, toCharType_toIntType c, hshows⟩
  · exact ⟨mt (charToInt_eq_eof_iff c).mp hne, toCharType_charToInt c, hshows⟩

theorem Shows.istreambufIterator (h : b.Shows s) :
    ∃ b', getSide.istreambufIterator b = .ok (s.queue.head?, b') ∧ b'.Shows s := by
  unfold GetSide.istreambufIterator
  cases hqueue : s.queue with
  | nil =>
      obtain ⟨b', hget, hshows⟩ := h.sgetc
      rw [hqueue] at hget
      rw [hget]
      exact ⟨b', rfl, hshows⟩
  | cons c cs =>
      obtain ⟨r, b₁, hfirst, hne, -, h₁⟩ := h.sgetc_of_cons hqueue
      obtain ⟨r', b₂, hsecond, -, hchar, h₂⟩ := h₁.sgetc_of_cons hqueue
      refine ⟨b₂, ?_, h₂⟩
      simp only [hfirst, if_neg hne, hsecond, Except.map, hchar, List.head?_cons]

theorem Shows.sbumpc (h : b.Shows s) :
    ∃ b', getSide.sbumpc b = .ok (s.queue.head?.elim eof toIntType, b') ∧
      b'.Shows { s with queue := s.queue.tail } := by
  obtain ⟨p, hbump, hcases⟩ :=
    getSide.sbumpc_cases (underflow_of_accepting h.live.reads : b.peek = none → _)
  have hone : ∀ b' c, getSide.sbumpc b = .ok (toIntType c, b') → Consumes b b' [c] →
      ∃ b', getSide.sbumpc b = .ok (s.queue.head?.elim eof toIntType, b') ∧
        b'.Shows { s with queue := s.queue.tail } := by
    intro b' c hrun hc
    have hqueue : s.queue = [c] ++ b'.readable := h.readable.symm.trans hc.readable
    rw [hqueue]
    exact ⟨b', hrun, h.consumes hc hqueue⟩
  cases hcases with
  | @take c hpeek => exact hone _ c hbump (consumes_bump h.live.reads hpeek)
  | @refill r t c hpeek hu hr hc =>
      exact hone _ c hbump ((consumes_underflow h.live.reads hpeek hu).trans
        (consumes_bump (accepting_of_underflow h.live.reads hpeek hu) hc))
  | @leave t hpeek hu =>
      have hnil := h.readable_of_eof hpeek hu
      rw [hnil]
      exact ⟨t, hbump, h.consumes (consumes_underflow h.live.reads hpeek hu) hnil⟩

theorem Shows.clearFor (h : b.Shows s) (n : ℕ) : ClearFor n b := by
  intro i _ hhead
  exact h.notMem_readable (List.mem_append_right _ (List.mem_of_getElem? hhead))

theorem Shows.chunksClear (h : b.Shows s) : ChunksClear b.bod := by
  intro i hhead
  exact h.notMem_readable (List.mem_append_right _ (List.mem_of_getElem? hhead))

theorem Shows.extract (h : b.Shows s) (n : ℕ) :
    ∃ b', b.extract n = .ok ((s.extract n).1, b') ∧ b'.Shows (s.extract n).2 := by
  unfold Body.extract Pipe.extract
  rw [← h.rdstate]
  by_cases hgood : b.rdstate.good
  · obtain ⟨cs, b', hrun, hspec⟩ := xsgetn_spec n h.live.reads
    have hcs : cs = s.queue.take n := by rw [hspec.complete (h.clearFor n), h.readable]
    have hlen : cs.length = n ↔ n ≤ s.queue.length := by
      rw [hcs, List.length_take]
      omega
    have hshows : b'.Shows { s with queue := s.queue.drop n } :=
      h.consumes hspec.consumes (by rw [hcs, List.take_append_drop])
    rw [if_pos hgood, if_pos hgood, hrun, ← hcs]
    by_cases hall : cs.length = n
    · refine ⟨b', if_pos hall, ?_⟩
      rw [if_pos (hlen.mp hall), h.rdstate]
      exact hshows
    · refine ⟨_, if_neg hall, ?_⟩
      rw [if_neg (mt hlen.mpr hall)]
      exact ⟨⟨⟨hshows.live.reads, hshows.live.writes⟩, hshows.room, hshows.readable,
        hshows.pending, by rw [hspec.consumes.rdstate]⟩, hshows.text⟩
  · rw [if_neg hgood, if_neg hgood]
    exact ⟨_, rfl, ⟨⟨h.live.reads, h.live.writes⟩, h.room, h.readable, h.pending, rfl⟩, h.text⟩

theorem Shows.takeBodyString (h : b.Shows s) :
    ∃ b', b.takeBodyString = .ok (s.queue, b') ∧ b'.Shows { s with queue := [] } := by
  obtain ⟨out, b', hrun, hconsumes, hclear⟩ := takeBodyString_spec h.live.reads
  have hqueue : s.queue = out := by
    rw [← h.readable, hconsumes.readable, hclear.mpr h.chunksClear, List.append_nil]
  rw [hqueue]
  exact ⟨b', hrun, h.consumes hconsumes (by rw [hqueue, List.append_nil])⟩

/-! ## Programs -/

theorem refines_respond (reads : Schedule) {writes : Schedule} (hwrites : writes.Accepting)
    (c : StreamCall) : Refines PipeStop.abort Shows (respond reads writes c) (Pipe.respond c) := by
  intro b s h
  have step : ∀ {α : Type} {x : Except Abort (α × Body)} {a : α} {c : Body} {t : Pipe},
      x = .ok (a, c) → c.Shows t → Lockstep PipeStop.abort Shows x (.ok (a, t)) := by
    rintro α x a c t rfl ht
    exact .ok a ht
  cases c with
  | rdstate => exact step (by rw [← h.rdstate]; rfl) h
  | clear =>
      exact step rfl
        ⟨⟨⟨h.live.reads, h.live.writes⟩, h.room, h.readable, h.pending, rfl⟩, h.text⟩
  | sgetc =>
      change Lockstep _ _ _ (s.peek.map _)
      cases hpeek : s.peek with
      | ok r =>
          obtain ⟨b', hrun, hshows⟩ := h.sgetc_of_peek hpeek
          exact step hrun hshows
      | error stop => exact .free (s.abort_of_peek hpeek) _
  | istreambufIterator =>
      obtain ⟨b', hrun, hshows⟩ := h.istreambufIterator
      exact step hrun hshows
  | sbumpc =>
      obtain ⟨b', hrun, hshows⟩ := h.sbumpc
      exact step hrun hshows
  | extract n =>
      obtain ⟨b', hrun, hshows⟩ := h.extract n
      exact step hrun hshows
  | takeBodyString =>
      obtain ⟨b', hrun, hshows⟩ := h.takeBodyString
      exact step hrun hshows
  | insert xs =>
      obtain ⟨b', hrun, hlooks⟩ := h.insert xs.1
      refine step (congrArg (Except.map _) hrun) ⟨hlooks, ?_⟩
      split
      · rw [Pipe.total_foldl_put]
        exact fun hmem => (List.mem_append.mp hmem).elim h.text xs.2
      · exact h.text
  | flush =>
      obtain ⟨b', hrun, hlooks⟩ := h.flush
      refine step (congrArg (Except.map _) hrun) ⟨hlooks, ?_⟩
      split
      · rw [Pipe.total_sync]
        exact h.text
      · exact h.text
  | sync =>
      obtain ⟨w, hsync, hlooks⟩ := h.sync
      refine step (c := { b with toWriter := w }) ?_ ⟨hlooks, by rw [Pipe.total_sync]; exact h.text⟩
      change b.sync = _
      rw [Body.sync, hsync]
      rfl
  | move =>
      obtain ⟨b', hrun, hlooks⟩ := h.move
      refine step (congrArg (Except.map _) hrun) ⟨hlooks, ?_⟩
      change 255 ∉ s.sync.total
      rw [Pipe.total_sync]
      exact h.text
  | append xs =>
      obtain ⟨other, b', hother, hrun, hlooks⟩ := h.append reads hwrites xs.1
      refine step (c := b') ?_ ⟨hlooks, fun hmem => ?_⟩
      · change (ofString xs.1 (.new reads writes)).bind _ = _
        rw [hother]
        exact congrArg (Except.map _) hrun
      · rcases List.mem_append.mp hmem with hqueue | hpending
        · rcases List.mem_append.mp hqueue with hold | hnew
          · exact h.text (List.mem_append_left _ hold)
          · exact xs.2 hnew
        · exact h.text (List.mem_append_right _ hpending)

theorem shows_ofBox {host : HostBody} (hreads : host.reads.Accepting)
    (hwrites : host.writes.Accepting) (htext : 255 ∉ host.content) :
    (ofBox host).Shows ⟨host.content, [], IoState.goodbit⟩ :=
  ⟨⟨⟨hreads, hwrites⟩, rfl, rfl, rfl, rfl⟩, by rwa [Pipe.total, List.append_nil]⟩

end Body

/-- However the host cuts the bytes, a program that reads and writes text gets from a body, in
any order of its calls, what it would get from the pipe that the body shows, and never aborts
unless it does so itself. This is so until it asks for the value of a character that may have a
sign. -/
theorem text_lockstep {α : Type} (reads : Schedule) {writes : Schedule}
    (hwrites : writes.Accepting) (program : Prog StreamCall.Answer Abort α) {b : Body} {s : Pipe}
    (h : b.Shows s) :
    Lockstep PipeStop.abort Body.Shows ((program.exec id (Body.respond reads writes)).run b)
      ((program.exec .stopped Pipe.respond).run s) :=
  refines_exec (Body.refines_respond reads hwrites) (fun _ => rfl) program b s h

/-- An insertion that is not flushed cannot be read, whatever the host does. -/
theorem text_lockstep_pending :
    Lockstep PipeStop.abort Body.Shows
      (((do
        let _ ← Prog.perform (.insert ⟨[105], by decide⟩)
        let before ← Prog.perform .takeBodyString
        let _ ← Prog.perform .flush
        let after ← Prog.perform .takeBodyString
        pure (before, after) : Prog StreamCall.Answer Abort (List UInt8 × List UInt8)).exec id
          (Body.respond (.atMost 0) (.atMost 0))).run
        (Body.ofBox ⟨[104, 101, 121], .atMost 1, .atMost 0⟩))
      (.ok (([104, 101, 121], [105]), ⟨[], [], IoState.goodbit⟩)) :=
  text_lockstep (.atMost 0) (Schedule.accepting_atMost 0) _
    (Body.shows_ofBox (Schedule.accepting_atMost 1) (Schedule.accepting_atMost 0) (by decide))

end ComputeSdk
