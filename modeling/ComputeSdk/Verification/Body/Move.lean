import ComputeSdk.Verification.Body.Fifo

/-! # Moving a body

A move syncs the old object, takes its box and its get area, and starts over with an empty
put area and a good stream. To all later calls it is a `sync` and a `clear`. -/

namespace ComputeSdk

open Shared

/-! ## One move -/

/-- The object that a move makes of a body: ready to write, and with everything that was
pending at the end of what can be read. -/
structure Body.Moved (old new : Body) : Prop where
  pending : new.pending = []
  next : new.pbuf.next = 0
  capacity : new.pbuf.limit = 512
  content : new.bod.content = old.bod.content ++ old.pending
  reads : new.bod.reads = old.bod.reads
  unread : new.unread = old.unread
  readable : new.readable = old.readable ++ old.pending

structure StreamingBody.Moved (old new : StreamingBody) : Prop where
  pending : new.pending = []
  next : new.pbuf.next = 0
  capacity : new.pbuf.limit = 512
  content : new.bod.content = old.bod.content ++ old.pending

/-- A move is a `sync` and a `clear`, where the `sync` succeeds. -/
theorem Writer.move_eq {w : Writer} (h : w.bod.writes.Accepting) :
    w.move = w.sync.map fun p => p.2.clear := by
  obtain ⟨bod, hrun, -⟩ := w.overflowLoop_spec w.bod 0 h
  simp only [move, sync, overflow, hrun, restart, if_true, Except.map]
  rfl

theorem Body.move_spec {old : Body} (h : old.bod.writes.Accepting) :
    ∃ new, old.move = .ok new ∧ Moved old new := by
  obtain ⟨w, hmove, hpending, -, hlimit, hadv⟩ := Writer.move_spec h
  have hcontent : w.bod.content = old.bod.content ++ old.pending := by
    have htotal := hadv.total
    rwa [hpending, List.append_nil, List.append_nil] at htotal
  refine ⟨⟨w, old.gbuf⟩, by simp only [move, hmove], hpending, ?_, hlimit, hcontent, hadv.reads,
    rfl, ?_⟩
  · rw [← w.pbuf.length_before]
    exact congrArg List.length hpending
  · simp only [readable, unread, hcontent, List.append_assoc]

theorem StreamingBody.move_spec {old : StreamingBody} (h : old.bod.writes.Accepting) :
    ∃ new, old.move = .ok new ∧ Moved old new := by
  obtain ⟨w, hmove, hpending, -, hlimit, hadv⟩ := Writer.move_spec h
  refine ⟨⟨w⟩, by simp only [move, hmove, Except.map], hpending, ?_, hlimit, ?_⟩
  · rw [← w.pbuf.length_before]
    exact congrArg List.length hpending
  · have htotal := hadv.total
    rwa [hpending, List.append_nil, List.append_nil] at htotal

/-! ## What an insertion leaves pending -/

namespace Writer

theorem sputc_pending {w : Writer} (h : w.bod.writes.Accepting) (c : UInt8) :
    ∃ r w', putSide.sputc c w = .ok (r, w') ∧ r ≠ eof ∧ w'.bod.writes.Accepting ∧
      w'.pending ≠ [] := by
  by_cases hlt : w.pbuf.next < w.pbuf.limit
  · refine ⟨toIntType c, { w with pbuf := w.pbuf.put c hlt }, ?_, toIntType_ne_eof c, h, ?_⟩
    · simp [PutSide.sputc, putSide, store, hlt]
    · rw [pending, Area.before_put]
      exact List.append_ne_nil_of_right_ne_nil _ (List.cons_ne_nil c [])
  · obtain ⟨w', hover, hpending, hadv⟩ := overflow_spec h (toIntType c)
    refine ⟨_, w', ?_, notEof_ne_eof (toIntType c), hadv.accepting, ?_⟩
    · simp [PutSide.sputc, putSide, store, hlt, hover]
    · rw [hpending, if_neg (toIntType_ne_eof c)]
      exact List.cons_ne_nil _ _

/-- Only an insertion of nothing leaves nothing pending. -/
theorem xsputn_pending {w : Writer} (h : w.bod.writes.Accepting) (s : List UInt8) :
    ∃ w', putSide.xsputn s w = .ok (s.length, w') ∧ (w'.pending = [] → s = []) := by
  obtain ⟨w', hrun, -, hnil⟩ := putSide.xsputn_spec
    (P := fun xs w' => w'.bod.writes.Accepting ∧ (w'.pending = [] → xs = []))
    (fun xs w' c hP => by
      obtain ⟨r, w'', hput, hr, haccept, hne⟩ := sputc_pending hP.1 c
      exact ⟨r, w'', hput, hr, haccept, fun hnil => absurd hnil hne⟩)
    s ⟨h, fun _ => rfl⟩
  exact ⟨w', hrun, hnil⟩

end Writer

/-! ## What a reader does not see -/

namespace Body

/-- The body `b` with the write side of `w` in place of its own. -/
def graft (w : Writer) (b : Body) : Body :=
  { b with toWriter := { w with bod := { b.bod with writes := w.bod.writes } } }

theorem read_graft (w : Writer) (n : ℕ) (b : Body) :
    (b.graft w).read n = ((b.read n).1, (b.read n).2.graft w) := by
  simp only [read, graft, HostBody.read]
  cases b.bod.reads 0 <;> rfl

theorem unseen_graft (w : Writer) : getSide.Unseen (graft w) where
  peek := fun _ => rfl
  bump := by
    intro b
    change bump (graft w b) = graft w b.bump
    unfold bump
    split
    · rename_i h
      rw [dif_pos (show b.gbuf.next < b.gbuf.limit from h)]
      rfl
    · rename_i h
      rw [dif_neg (show ¬ b.gbuf.next < b.gbuf.limit from h)]
  underflow := by
    intro b
    change underflow (graft w b) = b.underflow.map fun p => (p.1, graft w p.2)
    cases hp : b.peek with
    | some c =>
        rw [underflow_of_peek hp, underflow_of_peek (show (b.graft w).peek = some c from hp)]
        rfl
    | none =>
        rw [underflow_of_peek_none hp,
          underflow_of_peek_none (show (b.graft w).peek = none from hp), read_graft]
        obtain ⟨result, b'⟩ := b.read bufSize
        cases result with
        | error e => rfl
        | ok bytes =>
            obtain ⟨bytes, hle⟩ := bytes
            cases bytes <;> rfl

end Body

/-! ## Runs with moves -/

/-- A call, or a move to a new object. -/
inductive MoveOp where
  | call (op : IoOp)
  | move
  deriving DecidableEq, Repr

def MoveOp.isCall : MoveOp → Bool
  | call _ => true
  | move => false

/-- The run state pairs the body with the exchanges of the calls so far. -/
def Body.record (p : List Exchange × Body) : MoveOp → Except Abort (List Exchange × Body)
  | .call op => (p.2.io op).map fun q => (p.1 ++ [q.1], q.2)
  | .move => p.2.move.map fun b => (p.1, b)

/-- The same with a `sync` and a `clear` in place of each move. -/
def Body.recordSynced (p : List Exchange × Body) : MoveOp → Except Abort (List Exchange × Body)
  | .call op => (p.2.io op).map fun q => (p.1 ++ [q.1], q.2)
  | .move => p.2.sync.map fun q => (p.1, { q.2 with toWriter := q.2.toWriter.clear })

/-- A call that sees neither what is pending nor a failed stream. How much a direct write
transfers is up to the host. -/
def IoOp.Sheltered (b : Body) : IoOp → Prop
  | insert _ => b.rdstate.good
  | flush => b.rdstate.good
  | write _ => False
  | extract _ => b.rdstate.good ∧ b.pending = []
  | read _ => b.pending = []
  | takeBodyString => b.pending = []

namespace Body

/-- The moved object `m` and the object `p` that was not moved: the same but for what `m`
has already written out. -/
structure Alike (m p : Body) : Prop where
  live : m.Live
  live' : p.Live
  gbuf : m.gbuf = p.gbuf
  reads : m.bod.reads = p.bod.reads
  held : m.held = p.held
  empty : p.pending = [] → m.pending = []
  good : p.rdstate.good → m.rdstate.good

theorem Alike.refl {b : Body} (h : b.Live) : Alike b b := ⟨h, h, rfl, rfl, rfl, id, id⟩

theorem record_move {p : List Exchange × Body} (h : p.2.Live) :
    record p .move = recordSynced p .move := by
  simp only [record, recordSynced, move, sync, Writer.move_eq h.writes]
  cases p.2.toWriter.sync <;> rfl

theorem record_live {p : List Exchange × Body} (h : p.2.Live) (op : MoveOp) :
    ∃ q, record p op = .ok q ∧ q.2.Live := by
  cases op with
  | call op =>
      obtain ⟨e, b, hio, hexch⟩ := io_exchanged h op
      exact ⟨(p.1 ++ [e], b), by simp only [record, hio, Except.map], hexch.live⟩
  | move =>
      obtain ⟨w, hmove, -, -, -, hadv⟩ := Writer.move_spec h.writes
      exact ⟨(p.1, ⟨w, p.2.gbuf⟩), by simp only [record, move, hmove, Except.map],
        by rw [hadv.reads]; exact h.reads, hadv.accepting⟩

/-- In every run the moves can be replaced. -/
theorem run_record_eq {p : List Exchange × Body} (h : p.2.Live) (ops : List MoveOp) :
    run record p ops = run recordSynced p ops := by
  induction ops generalizing p with
  | nil => rfl
  | cons op ops ih =>
      have hsame : recordSynced p op = record p op := by
        cases op with
        | call op => rfl
        | move => exact (record_move h).symm
      obtain ⟨q, hstep, hlive⟩ := record_live h op
      rw [run_cons_of_ok ops hstep, run_cons_of_ok ops (hsame.trans hstep), ih hlive]

/-! ## Moves that are not seen -/

theorem Alike.eq_graft {m p : Body} (h : Alike m p) (hp : p.pending = []) :
    p = m.graft p.toWriter := by
  have hcontent : m.bod.content = p.bod.content := by
    have hheld := h.held
    rwa [Writer.held, Writer.held, h.empty hp, hp, List.append_nil, List.append_nil] at hheld
  simp only [graft, h.gbuf, hcontent, h.reads]

theorem Alike.graft {m p m' : Body} (h : Alike m p) (hp : p.pending = []) (hlive : m'.Live)
    (hpbuf : m'.pbuf = m.pbuf) (hstate : m'.rdstate = m.rdstate) :
    Alike m' (m'.graft p.toWriter) := by
  have hm : m'.pending = [] := by
    rw [Writer.pending, hpbuf]
    exact h.empty hp
  refine ⟨hlive, ⟨hlive.reads, h.live'.writes⟩, rfl, rfl, ?_, fun _ => hm, fun hg => ?_⟩
  · rw [Writer.held, Writer.held, hm]
    exact congrArg (m'.bod.content ++ ·) hp.symm
  · rw [hstate]
    exact h.good hg

theorem Alike.of_advance {m p : Body} {w w' : Writer} {xs : List UInt8} (h : Alike m p)
    (hw : Writer.Advance m.toWriter w xs) (hw' : Writer.Advance p.toWriter w' xs)
    (hempty : w'.pending = [] → w.pending = []) (hgood : m.rdstate.good) :
    Alike { m with toWriter := w } { p with toWriter := w' } where
  live := ⟨by rw [hw.reads]; exact h.live.reads, hw.accepting⟩
  live' := ⟨by rw [hw'.reads]; exact h.live'.reads, hw'.accepting⟩
  gbuf := h.gbuf
  reads := by
    change w.bod.reads = w'.bod.reads
    rw [hw.reads, hw'.reads, h.reads]
  held := by
    have hheld := h.held
    simp only [Writer.held] at hheld ⊢
    rw [hw.total, hw'.total, hheld]
  empty := hempty
  good := fun _ => hw.good hgood

theorem io_insert {b : Body} (hb : b.Live) (hgood : b.rdstate.good) (chunk : List UInt8) :
    ∃ w, b.io (.insert chunk) = .ok ({ put := chunk }, { b with toWriter := w }) ∧
      Writer.Advance b.toWriter w chunk ∧ (w.pending = [] → chunk = []) ∧
      (chunk = [] → w = b.toWriter) := by
  obtain ⟨w, hrun, hadv⟩ := Writer.xsputn_accepting hb.writes chunk
  obtain ⟨w', hrun', hpending⟩ := Writer.xsputn_pending hb.writes chunk
  obtain ⟨-, rfl⟩ := Prod.mk.inj (Except.ok.inj (hrun.symm.trans hrun'))
  refine ⟨w, ?_, hadv, hpending, ?_⟩
  · simp only [io, insert, Writer.insert, Writer.taken, if_pos hgood, hrun, if_true, Except.map,
      List.take_length]
  · rintro rfl
    exact (Prod.mk.inj (Except.ok.inj hrun)).2.symm

theorem alike_insert {m p : Body} (h : Alike m p) (hgood : p.rdstate.good)
    (chunk : List UInt8) :
    ∃ e m' p', m.io (.insert chunk) = .ok (e, m') ∧ p.io (.insert chunk) = .ok (e, p') ∧
      Alike m' p' := by
  obtain ⟨w, hio, hadv, -, hsame⟩ := io_insert h.live (h.good hgood) chunk
  obtain ⟨w', hio', hadv', hnil, hsame'⟩ := io_insert h.live' hgood chunk
  refine ⟨_, _, _, hio, hio', h.of_advance hadv hadv' (fun hp => ?_) (h.good hgood)⟩
  -- nothing was inserted, so neither put area changed
  rw [hsame (hnil hp)]
  rw [hsame' (hnil hp)] at hp
  exact h.empty hp

theorem alike_flush {m p : Body} (h : Alike m p) (hgood : p.rdstate.good) :
    ∃ e m' p', m.io .flush = .ok (e, m') ∧ p.io .flush = .ok (e, p') ∧ Alike m' p' := by
  obtain ⟨w, hflush, hpending, hadv⟩ := Writer.flush_spec h.live.writes (h.good hgood)
  obtain ⟨w', hflush', -, hadv'⟩ := Writer.flush_spec h.live'.writes hgood
  refine ⟨{}, { m with toWriter := w }, { p with toWriter := w' }, ?_, ?_,
    h.of_advance hadv hadv' (fun _ => hpending) (h.good hgood)⟩
  · simp only [io, flush, hflush, Except.map]
  · simp only [io, flush, hflush', Except.map]

theorem alike_read {m p : Body} (h : Alike m p) (hp : p.pending = []) (n : ℕ) :
    ∃ e m' p', m.io (.read n) = .ok (e, m') ∧ p.io (.read n) = .ok (e, p') ∧ Alike m' p' := by
  obtain ⟨k, hk⟩ := h.live.reads 0
  have hio : m.io (.read n) = .ok ({ got := m.bod.content.take (min (k + 1) n) },
      { m with bod := ⟨m.bod.content.drop (min (k + 1) n), m.bod.reads.rest,
        m.bod.writes⟩ }) := by
    simp only [io, read_of_ok hk]
  refine ⟨_, _, _, hio, ?_, h.graft hp ⟨h.live.reads.rest, h.live.writes⟩ rfl rfl⟩
  rw [h.eq_graft hp]
  simp only [io, read_graft, read_of_ok hk]
  rfl

theorem alike_takeBodyString {m p : Body} (h : Alike m p) (hp : p.pending = []) :
    ∃ e m' p', m.io .takeBodyString = .ok (e, m') ∧ p.io .takeBodyString = .ok (e, p') ∧
      Alike m' p' := by
  obtain ⟨out, m', hrun, hconsumes, -⟩ := takeBodyString_spec h.live.reads
  refine ⟨{ got := out, ended := true }, m', m'.graft p.toWriter, ?_, ?_,
    h.graft hp (hconsumes.toTakes.live h.live) hconsumes.pbuf hconsumes.rdstate⟩
  · simp only [io, hrun, Except.map]
  · have hgraft := (unseen_graft p.toWriter).drain m []
    rw [← h.eq_graft hp] at hgraft
    simp only [takeBodyString] at hrun
    simp only [io, takeBodyString, hgraft, hrun, Except.map]

theorem alike_extract {m p : Body} (h : Alike m p) (hgood : p.rdstate.good)
    (hp : p.pending = []) (n : ℕ) :
    ∃ e m' p', m.io (.extract n) = .ok (e, m') ∧ p.io (.extract n) = .ok (e, p') ∧
      Alike m' p' := by
  obtain ⟨cs, m', hrun, hspec⟩ := xsgetn_spec n h.live.reads
  have hrun' : getSide.xsgetn n p = .ok (cs, m'.graft p.toWriter) := by
    have hgraft := (unseen_graft p.toWriter).xsgetn n m
    rw [← h.eq_graft hp, hrun] at hgraft
    exact hgraft
  have halike := h.graft hp (hspec.consumes.toTakes.live h.live) hspec.consumes.pbuf
    hspec.consumes.rdstate
  by_cases hlen : cs.length = n
  · refine ⟨{ got := cs }, m', m'.graft p.toWriter, ?_, ?_, halike⟩
    · have heof := IoState.eofbit_of_good (h.good hgood)
      rw [← hspec.consumes.rdstate] at heof
      simp only [io, extract, if_pos (h.good hgood), hrun, if_pos hlen, Except.map, heof]
    · have heof : (m'.graft p.toWriter).rdstate.eofbit = false := IoState.eofbit_of_good hgood
      simp only [io, extract, if_pos hgood, hrun', if_pos hlen, Except.map, heof]
  · refine ⟨{ got := cs, ended := true },
      { m' with rdstate := { m'.rdstate with eofbit := true, failbit := true } },
      { m'.graft p.toWriter with
        rdstate := { p.rdstate with eofbit := true, failbit := true } }, ?_, ?_,
      ⟨⟨halike.live.reads, halike.live.writes⟩, ⟨halike.live'.reads, halike.live'.writes⟩,
        halike.gbuf, halike.reads, halike.held, halike.empty, ?_⟩⟩
    · simp only [io, extract, if_pos (h.good hgood), hrun, if_neg hlen, Except.map]
    · simp only [io, extract, if_pos hgood, hrun', if_neg hlen, Except.map]
      rfl
    · intro hfalse
      simp [IoState.good] at hfalse

theorem alike_call {m p : Body} (h : Alike m p) {op : IoOp} (hop : op.Sheltered p) :
    ∃ e m' p', m.io op = .ok (e, m') ∧ p.io op = .ok (e, p') ∧ Alike m' p' := by
  cases op with
  | insert chunk => exact alike_insert h hop chunk
  | flush => exact alike_flush h hop
  | write buf => exact absurd hop id
  | extract n => exact alike_extract h hop.1 hop.2 n
  | read n => exact alike_read h hop n
  | takeBodyString => exact alike_takeBodyString h hop

theorem alike_move {m p : Body} (h : Alike m p) :
    ∃ m', m.move = .ok m' ∧ Alike m' p := by
  obtain ⟨w, hmove, hpending, hstate, -, hadv⟩ := Writer.move_spec h.live.writes
  refine ⟨⟨w, m.gbuf⟩, by simp only [move, hmove], ?_⟩
  refine ⟨⟨by rw [hadv.reads]; exact h.live.reads, hadv.accepting⟩, h.live', h.gbuf,
    hadv.reads.trans h.reads, ?_, fun _ => hpending, fun _ => ?_⟩
  · rw [← h.held, Writer.held, hadv.total, List.append_nil, Writer.held]
  · change w.rdstate.good
    rw [hstate]
    rfl

/-- Every call of the run finds the body sheltered, in the object that was not moved. -/
def ShelteredRun (b : Body) (ops : List MoveOp) : Prop :=
  ∀ past op, past ++ [MoveOp.call op] <+: ops.filter MoveOp.isCall →
    ∀ es p, run record ([], b) past = .ok (es, p) → op.Sheltered p

/-- Moves in a sheltered run change no exchange, and after it both objects are alike. -/
theorem run_alike {b : Body} (hb : b.Live) (ops : List MoveOp) (h : b.ShelteredRun ops) :
    ∃ es m p, run record ([], b) ops = .ok (es, m) ∧
      run record ([], b) (ops.filter MoveOp.isCall) = .ok (es, p) ∧ Alike m p := by
  have silent : ∀ (s t : List Exchange × Body) op, s.1 = t.1 ∧ Alike s.2 t.2 →
      MoveOp.isCall op = false →
      ∃ s', record s op = .ok s' ∧ s'.1 = t.1 ∧ Alike s'.2 t.2 := by
    rintro ⟨es, m⟩ t op ⟨rfl, hrel⟩ hsilent
    cases op with
    | call op => cases hsilent
    | move =>
        obtain ⟨m', hmove, hrel'⟩ := alike_move hrel
        exact ⟨(t.1, m'), by simp only [record, hmove, Except.map], rfl, hrel'⟩
  have call : ∀ (s t : List Exchange × Body) op, s.1 = t.1 ∧ Alike s.2 t.2 →
      MoveOp.isCall op → (∀ o, op = .call o → o.Sheltered t.2) →
      ∃ s' t', record s op = .ok s' ∧ record t op = .ok t' ∧ s'.1 = t'.1 ∧
        Alike s'.2 t'.2 := by
    rintro ⟨es, m⟩ ⟨es', p⟩ op ⟨rfl, hrel⟩ hvisible hop
    cases op with
    | call op =>
        obtain ⟨e, m', p', hm, hp, hrel'⟩ := alike_call hrel (hop op rfl)
        exact ⟨(es ++ [e], m'), (es ++ [e], p'), by simp only [record, hm, Except.map],
          by simp only [record, hp, Except.map], rfl, hrel'⟩
    | move => cases hvisible
  obtain ⟨⟨es, m⟩, ⟨es', p⟩, hrun, hrun', rfl, hrel⟩ := run_filter silent call
    (s := ([], b)) (t := ([], b)) ⟨rfl, .refl hb⟩ ops
    (fun past op u hpast hu o ho => h past o (ho ▸ hpast) u.1 u.2 hu)
  exact ⟨es, m, p, hrun, hrun', hrel⟩

/-- A flush makes alike bodies the same at the host. -/
theorem Alike.flush {m p : Body} (h : Alike m p) (hgood : p.rdstate.good) :
    ∃ m' p', m.flush = .ok m' ∧ p.flush = .ok p' ∧ m'.bod.content = p'.bod.content := by
  obtain ⟨w, hflush, hcontent⟩ := Writer.flush_content h.live.writes (h.good hgood)
  obtain ⟨w', hflush', hcontent'⟩ := Writer.flush_content h.live'.writes hgood
  refine ⟨{ m with toWriter := w }, { p with toWriter := w' },
    by simp only [Body.flush, hflush, Except.map], by simp only [Body.flush, hflush', Except.map],
    ?_⟩
  change w.bod.content = w'.bod.content
  rw [hcontent, hcontent']
  exact h.held

end Body

/-! ## Streaming bodies -/

namespace StreamingBody

def isCall : WriteOp → Bool
  | .move => false
  | _ => true

/-- Two objects of which one was moved more often. -/
structure Alike (m p : StreamingBody) : Prop where
  accepting : m.bod.writes.Accepting
  accepting' : p.bod.writes.Accepting
  good : m.rdstate.good
  good' : p.rdstate.good
  held : m.held = p.held

theorem exec_advance {s : StreamingBody} (h : s.bod.writes.Accepting) (hgood : s.rdstate.good)
    (op : WriteOp) :
    ∃ t, s.exec op = .ok t ∧ t.bod.writes.Accepting ∧ t.rdstate.good ∧
      t.held = s.held ++ op.bytes := by
  obtain ⟨w, hrun, hadv, -⟩ := Writer.exec_spec h hgood op
  refine ⟨⟨w⟩, ?_, hadv.accepting, hadv.good hgood, hadv.total⟩
  rw [show s.exec op = (s.toWriter.exec op).map StreamingBody.mk from exec_eq s.toWriter op, hrun]
  rfl

/-- Moves change nothing that a flush at the end brings to the host. -/
theorem run_alike {s : StreamingBody} (h : s.bod.writes.Accepting) (hgood : s.rdstate.good)
    (ops : List WriteOp) :
    ∃ m p, run exec s ops = .ok m ∧ run exec s (ops.filter isCall) = .ok p ∧ Alike m p := by
  refine run_filter (G := fun _ _ => True) ?_ ?_ ⟨h, h, hgood, hgood, rfl⟩ ops
    (fun _ _ _ _ _ => trivial)
  · intro m p op hrel hsilent
    obtain ⟨m', hm, haccept, hgood, hheld⟩ := exec_advance hrel.accepting hrel.good op
    refine ⟨m', hm, haccept, hrel.accepting', hgood, hrel.good', ?_⟩
    cases op with
    | move => rw [hheld, WriteOp.bytes, List.append_nil, hrel.held]
    | insert chunk => cases hsilent
    | flush => cases hsilent
    | sync => cases hsilent
  · intro m p op hrel _ _
    obtain ⟨m', hm, haccept, hgood, hheld⟩ := exec_advance hrel.accepting hrel.good op
    obtain ⟨p', hp, haccept', hgood', hheld'⟩ := exec_advance hrel.accepting' hrel.good' op
    exact ⟨m', p', hm, hp, haccept, haccept', hgood, hgood', by rw [hheld, hheld', hrel.held]⟩

theorem Alike.flush {m p : StreamingBody} (h : Alike m p) :
    ∃ m' p', m.flush = .ok m' ∧ p.flush = .ok p' ∧ m'.bod.content = p'.bod.content := by
  obtain ⟨w, hflush, hcontent⟩ := Writer.flush_content h.accepting h.good
  obtain ⟨w', hflush', hcontent'⟩ := Writer.flush_content h.accepting' h.good'
  refine ⟨⟨w⟩, ⟨w'⟩, by simp only [StreamingBody.flush, hflush, Except.map],
    by simp only [StreamingBody.flush, hflush', Except.map], ?_⟩
  change w.bod.content = w'.bod.content
  rw [hcontent, hcontent']
  exact h.held

end StreamingBody

/-! ## Transparency -/

/-- The new object is ready to write and reads what the old one would have, then what was
pending in it. In every run a move is a `sync` and a `clear`, and where no call sees these,
it changes neither an exchange nor, after a flush, the bytes at the host. -/
structure MovesTransparently (b : Body) (s : StreamingBody) : Prop where
  moved : ∃ new, b.move = .ok new ∧ b.Moved new
  synced : ∀ ops, run Body.record ([], b) ops = run Body.recordSynced ([], b) ops
  unseen : ∀ ops, b.ShelteredRun ops → ∃ es m p,
    run Body.record ([], b) ops = .ok (es, m) ∧
    run Body.record ([], b) (ops.filter MoveOp.isCall) = .ok (es, p) ∧ m.unread = p.unread ∧
    (p.rdstate.good → ∃ m' p', m.flush = .ok m' ∧ p.flush = .ok p' ∧
      m'.bod.content = p'.bod.content)
  streamingMoved : ∃ new, s.move = .ok new ∧ s.Moved new
  streamingUnseen : s.rdstate.good → ∀ ops, ∃ m p m' p',
    run StreamingBody.exec s ops = .ok m ∧
    run StreamingBody.exec s (ops.filter StreamingBody.isCall) = .ok p ∧
    m.flush = .ok m' ∧ p.flush = .ok p' ∧ m'.bod.content = p'.bod.content

theorem movesTransparently (b : Body) (hreads : b.bod.reads.Accepting)
    (hwrites : b.bod.writes.Accepting) (s : StreamingBody) (hs : s.bod.writes.Accepting) :
    MovesTransparently b s where
  moved := Body.move_spec hwrites
  synced := Body.run_record_eq ⟨hreads, hwrites⟩
  unseen := by
    intro ops hops
    obtain ⟨es, m, p, hrun, hrun', hrel⟩ := Body.run_alike ⟨hreads, hwrites⟩ ops hops
    exact ⟨es, m, p, hrun, hrun', congrArg Area.ahead hrel.gbuf, hrel.flush⟩
  streamingMoved := StreamingBody.move_spec hs
  streamingUnseen := by
    intro hgood ops
    obtain ⟨m, p, hrun, hrun', hrel⟩ := StreamingBody.run_alike hs hgood ops
    obtain ⟨m', p', hm, hp, hcontent⟩ := hrel.flush
    exact ⟨m, p, m', p', hrun, hrun', hm, hp, hcontent⟩

theorem movesTransparently_pending :
    ∃ b, run Body.record ([], .ofBox (.new (.atMost 0) (.atMost 0))) [.call (.insert [97])] =
        .ok ([{ put := [97] }], b) ∧
      b.pending = [97] ∧ MovesTransparently b (.ofBox (.new (.atMost 0) (.atMost 0))) :=
  ⟨_, rfl, rfl, movesTransparently _ (Schedule.accepting_atMost 0) (Schedule.accepting_atMost 0)
    _ (Schedule.accepting_atMost 0)⟩

/-- A move between an insertion and a reading makes the inserted byte readable. -/
theorem not_unseen_pending :
    (∃ b, run Body.record ([], .ofBox (.new (.atMost 0) (.atMost 0)))
        [.call (.insert [97]), .move, .call .takeBodyString] =
      .ok ([{ put := [97] }, { got := [97], ended := true }], b)) ∧
    ∃ b, run Body.record ([], .ofBox (.new (.atMost 0) (.atMost 0)))
        [.call (.insert [97]), .call .takeBodyString] =
      .ok ([{ put := [97] }, { got := [], ended := true }], b) :=
  ⟨⟨_, rfl⟩, ⟨_, rfl⟩⟩

end ComputeSdk
