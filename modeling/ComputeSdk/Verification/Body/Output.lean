import ComputeSdk.Model.Body
import ComputeSdk.Shared.Run

/-! # Writing to a body

At a host that accepts at least one byte of every write, each operation of a writer moves
bytes from the put area to the end of the host body without losing or repeating any. -/

namespace ComputeSdk

open Shared

namespace Writer

/-- `w'` is `w` after the bytes `xs` were inserted and any part of what was pending then
was written out, in order. -/
structure Advance (w w' : Writer) (xs : List UInt8) : Prop where
  accepting : w'.bod.writes.Accepting
  reads : w'.bod.reads = w.bod.reads
  grows : w.bod.content <+: w'.bod.content
  total : w'.bod.content ++ w'.pending = w.bod.content ++ w.pending ++ xs
  good : w.rdstate.good → w'.rdstate.good

theorem Advance.refl {w : Writer} (h : w.bod.writes.Accepting) : Advance w w [] :=
  ⟨h, rfl, List.prefix_rfl, (List.append_nil _).symm, id⟩

theorem Advance.trans {w w' w'' : Writer} {xs ys : List UInt8} (h : Advance w w' xs)
    (h' : Advance w' w'' ys) : Advance w w'' (xs ++ ys) where
  accepting := h'.accepting
  reads := h'.reads.trans h.reads
  grows := h.grows.trans h'.grows
  total := by rw [h'.total, h.total, List.append_assoc]
  good := h'.good ∘ h.good

/-! ## The write loop -/

theorem pending_drop (w : Writer) (pos : ℕ) :
    (w.pbuf.data.drop pos).take (w.pbuf.next - pos) = w.pending.drop pos := by
  rw [pending, Area.before, List.drop_take]

/-- A turn hands the host a nonempty part of what is left, if anything is. -/
theorem overflowBody_of_accepting (w : Writer) {bod : HostBody} {pos : ℕ}
    (h : bod.writes.Accepting) :
    (¬ pos < w.pbuf.next ∧ w.overflowBody (bod, pos) = .inr (.ok (true, bod))) ∨
    ∃ n bod', w.overflowBody (bod, pos) = .inl (bod', pos + n) ∧ bod'.writes.Accepting ∧
      bod'.reads = bod.reads ∧ bod'.content = bod.content ++ (w.pending.drop pos).take n := by
  by_cases hpos : pos < w.pbuf.next
  · have hne : w.pending.drop pos ≠ [] := by
      rw [ne_eq, List.drop_eq_nil_iff, pending, Area.length_before]
      omega
    obtain ⟨k, bod', -, haccept, hreads, hcontent, hwrite⟩ := HostBody.write_of_accepting h hne
    refine .inr ⟨k + 1, bod', ?_, haccept, hreads, hcontent⟩
    simp [overflowBody, hpos, pending_drop, hwrite]
  · exact .inl ⟨hpos, by simp [overflowBody, hpos]⟩

/-- Where the host accepts, the loop writes out the put area from `pos` on. -/
theorem overflowLoop_spec (w : Writer) (bod : HostBody) (pos : ℕ)
    (h : bod.writes.Accepting) :
    ∃ bod', w.overflowLoop.run (bod, pos) = .ok (true, bod') ∧ bod'.writes.Accepting ∧
      bod'.reads = bod.reads ∧ bod'.content = bod.content ++ w.pending.drop pos := by
  have main := w.overflowLoop.run_induction
    (motive := fun s result => s.1.writes.Accepting → ∃ bod', result = .ok (true, bod') ∧
      bod'.writes.Accepting ∧ bod'.reads = s.1.reads ∧
      bod'.content = s.1.content ++ w.pending.drop s.2) ?leave ?turn (bod, pos)
  · exact main h
  case leave =>
    rintro ⟨bod, pos⟩ result hbody haccept
    rcases w.overflowBody_of_accepting haccept with ⟨hpos, hleave⟩ | ⟨n, bod', hturn, -⟩
    · obtain rfl := Sum.inr.inj (hbody.symm.trans hleave)
      refine ⟨bod, rfl, haccept, rfl, ?_⟩
      rw [List.drop_eq_nil_of_le, List.append_nil]
      rw [pending, Area.length_before]
      omega
    · cases hbody.symm.trans hturn
  case turn =>
    rintro ⟨bod, pos⟩ s hbody ih haccept
    rcases w.overflowBody_of_accepting haccept with
        ⟨-, hleave⟩ | ⟨n, bod', hturn, haccept', hreads, hcontent⟩
    · cases hbody.symm.trans hleave
    · obtain rfl := Sum.inl.inj (hbody.symm.trans hturn)
      obtain ⟨bod'', hrun, haccept'', hreads', hcontent'⟩ := ih haccept'
      refine ⟨bod'', hrun, haccept'', hreads'.trans hreads, ?_⟩
      rw [hcontent', hcontent, List.append_assoc, ← List.drop_drop, List.take_append_drop]

/-! ## One operation -/

theorem pending_restart (val : ℤ) (w : Writer) :
    (restart val w).pending = if val = eof then [] else [toCharType val] := by
  unfold restart
  split
  · rfl
  · rw [pending, Area.before_put, Area.before_reset, List.nil_append]

@[simp] theorem bod_restart (val : ℤ) (w : Writer) : (restart val w).bod = w.bod := by
  unfold restart
  split <;> rfl

@[simp] theorem rdstate_restart (val : ℤ) (w : Writer) :
    (restart val w).rdstate = w.rdstate := by
  unfold restart
  split <;> rfl

theorem overflow_spec {w : Writer} (h : w.bod.writes.Accepting) (val : ℤ) :
    ∃ w', w.overflow val = .ok (notEof val, w') ∧
      w'.pending = (if val = eof then [] else [toCharType val]) ∧
      Advance w w' (if val = eof then [] else [toCharType val]) := by
  obtain ⟨bod, hrun, haccept, hreads, hcontent⟩ := w.overflowLoop_spec w.bod 0 h
  rw [List.drop_zero] at hcontent
  refine ⟨restart val { w with bod := bod }, ?_, pending_restart _ _, ?_⟩
  · simp only [overflow, hrun]
  · refine ⟨?_, ?_, ?_, ?_, ?_⟩
    · rwa [bod_restart]
    · rwa [bod_restart]
    · rw [bod_restart, hcontent]
      exact List.prefix_append _ _
    · rw [pending_restart, bod_restart, hcontent]
    · rw [rdstate_restart]
      exact id

theorem sync_spec {w : Writer} (h : w.bod.writes.Accepting) :
    ∃ w', w.sync = .ok (0, w') ∧ w'.pending = [] ∧ Advance w w' [] := by
  obtain ⟨w', hover, hpending, hadv⟩ := overflow_spec h eof
  refine ⟨w', ?_, hpending, hadv⟩
  simp only [sync, hover, if_neg (notEof_ne_eof eof)]

theorem flush_spec {w : Writer} (h : w.bod.writes.Accepting) (hgood : w.rdstate.good) :
    ∃ w', w.flush = .ok w' ∧ w'.pending = [] ∧ Advance w w' [] := by
  obtain ⟨w', hsync, hpending, hadv⟩ := sync_spec h
  refine ⟨w', ?_, hpending, hadv⟩
  simp [flush, hgood, hsync]

/-- Moving does not ask for a good stream: it syncs the old object directly. -/
theorem move_spec {w : Writer} (h : w.bod.writes.Accepting) :
    ∃ w', w.move = .ok w' ∧ w'.pending = [] ∧ w'.rdstate = IoState.goodbit ∧
      w'.pbuf.limit = bufSize ∧ Advance w w' [] := by
  obtain ⟨w', hsync, hpending, hadv⟩ := sync_spec h
  refine ⟨⟨w'.bod, w'.pbuf.reset, IoState.goodbit⟩, ?_, rfl, rfl, rfl, ?_⟩
  · simp only [move, hsync]
  · refine ⟨hadv.accepting, hadv.reads, hadv.grows, ?_, fun _ => rfl⟩
    rw [← hadv.total, hpending]
    rfl

theorem sputc_spec {w : Writer} (h : w.bod.writes.Accepting) (c : UInt8) :
    ∃ r w', putSide.sputc c w = .ok (r, w') ∧ r ≠ eof ∧ Advance w w' [c] := by
  by_cases hlt : w.pbuf.next < w.pbuf.limit
  · refine ⟨toIntType c, { w with pbuf := w.pbuf.put c hlt }, ?_, toIntType_ne_eof c, ?_⟩
    · simp [PutSide.sputc, putSide, store, hlt]
    · refine ⟨h, rfl, List.prefix_rfl, ?_, id⟩
      rw [pending, pending, Area.before_put, List.append_assoc]
  · obtain ⟨w', hover, -, hadv⟩ := overflow_spec h (toIntType c)
    rw [if_neg (toIntType_ne_eof c), toCharType_toIntType] at hadv
    refine ⟨_, w', ?_, notEof_ne_eof (toIntType c), hadv⟩
    simp [PutSide.sputc, putSide, store, hlt, hover]

theorem xsputn_accepting {w : Writer} (h : w.bod.writes.Accepting) (s : List UInt8) :
    ∃ w', putSide.xsputn s w = .ok (s.length, w') ∧ Advance w w' s := by
  have step : ∀ xs w' c, Advance w w' xs →
      ∃ r w'', putSide.sputc c w' = .ok (r, w'') ∧ r ≠ eof ∧ Advance w w'' (xs ++ [c]) := by
    intro xs w' c hadv
    obtain ⟨r, w'', hput, hr, hadv'⟩ := sputc_spec hadv.accepting c
    exact ⟨r, w'', hput, hr, hadv.trans hadv'⟩
  exact putSide.xsputn_spec step s (Advance.refl h)

theorem insert_spec {w : Writer} (h : w.bod.writes.Accepting) (hgood : w.rdstate.good)
    (s : List UInt8) : ∃ w', w.insert s = .ok w' ∧ Advance w w' s := by
  obtain ⟨w', hput, hadv⟩ := xsputn_accepting h s
  exact ⟨w', by simp [insert, hgood, hput], hadv⟩

end Writer

/-! ## Runs -/

/-- What a program does to the write side of a body. -/
inductive WriteOp where
  | insert (chunk : List UInt8)
  | flush
  | sync
  | move
  deriving DecidableEq, Repr

namespace WriteOp

def bytes : WriteOp → List UInt8
  | insert chunk => chunk
  | flush => []
  | sync => []
  | move => []

/-- The operations after which nothing is pending. -/
def settles : WriteOp → Bool
  | insert _ => false
  | flush => true
  | sync => true
  | move => true

/-- The concatenation of everything a run inserts. -/
def inserted (ops : List WriteOp) : List UInt8 := ops.flatMap bytes

end WriteOp

def Writer.exec (w : Writer) : WriteOp → Except Abort Writer
  | .insert chunk => w.insert chunk
  | .flush => w.flush
  | .sync => w.sync.map Prod.snd
  | .move => w.move

def Body.exec (b : Body) : WriteOp → Except Abort Body
  | .insert chunk => b.insert chunk
  | .flush => b.flush
  | .sync => b.sync.map Prod.snd
  | .move => b.move

def StreamingBody.exec (s : StreamingBody) : WriteOp → Except Abort StreamingBody
  | .insert chunk => s.insert chunk
  | .flush => s.flush
  | .sync => s.sync.map Prod.snd
  | .move => s.move

/-- Writing leaves the get area of a body alone. -/
theorem Body.exec_eq (b : Body) (w : Writer) (op : WriteOp) :
    exec { b with toWriter := w } op = (w.exec op).map fun w => { b with toWriter := w } := by
  cases op with
  | insert chunk => rfl
  | flush => rfl
  | sync =>
      simp only [exec, Writer.exec, sync]
      cases w.sync <;> rfl
  | move =>
      simp only [exec, Writer.exec, move]
      cases w.move <;> rfl

theorem StreamingBody.exec_eq (w : Writer) (op : WriteOp) :
    exec ⟨w⟩ op = (w.exec op).map StreamingBody.mk := by
  cases op with
  | insert chunk => rfl
  | flush => rfl
  | sync =>
      simp only [exec, Writer.exec, sync]
      cases w.sync <;> rfl
  | move => rfl

theorem Writer.exec_spec {w : Writer} (h : w.bod.writes.Accepting) (hgood : w.rdstate.good)
    (op : WriteOp) :
    ∃ w', w.exec op = .ok w' ∧ Advance w w' op.bytes ∧ (op.settles → w'.pending = []) := by
  cases op with
  | insert chunk =>
      obtain ⟨w', hrun, hadv⟩ := insert_spec h hgood chunk
      exact ⟨w', hrun, hadv, fun hs => by cases hs⟩
  | flush =>
      obtain ⟨w', hrun, hpending, hadv⟩ := flush_spec h hgood
      exact ⟨w', hrun, hadv, fun _ => hpending⟩
  | sync =>
      obtain ⟨w', hrun, hpending, hadv⟩ := sync_spec h
      exact ⟨w', by simp only [exec, hrun, Except.map], hadv, fun _ => hpending⟩
  | move =>
      obtain ⟨w', hrun, hpending, -, -, hadv⟩ := move_spec h
      exact ⟨w', hrun, hadv, fun _ => hpending⟩

/-! ## Output fidelity -/

/-- Of what the run `ops` on a fresh body over `host` inserted, the host has received a
prefix, in order, and the put area holds the rest. -/
structure Delivered (host : HostBody) (ops : List WriteOp) (w : Writer) : Prop where
  received : ∃ received, w.bod.content = host.content ++ received ∧
    received ++ w.pending = WriteOp.inserted ops
  length_pending : w.pending.length ≤ 512
  settled : ∀ op, ops.getLast? = some op → op.settles →
    w.bod.content = host.content ++ WriteOp.inserted ops

/-- The invariant of the runs on a fresh writer over `host`. -/
structure Writer.Tracks (host : HostBody) (past : List WriteOp) (w : Writer) : Prop where
  good : w.rdstate.good
  advance : Advance (ofBox host) w (WriteOp.inserted past)
  settled : ∀ op, past.getLast? = some op → op.settles → w.pending = []

theorem Writer.Tracks.start {host : HostBody} (h : host.writes.Accepting) :
    Tracks host [] (ofBox host) :=
  ⟨rfl, Advance.refl (w := ofBox host) h, fun op hop => by cases hop⟩

theorem Writer.Tracks.next {host : HostBody} (past : List WriteOp) (w : Writer) (op : WriteOp)
    (h : Tracks host past w) : ∃ w', w.exec op = .ok w' ∧ Tracks host (past ++ [op]) w' := by
  obtain ⟨w', hexec, hadv, hsettled⟩ := exec_spec h.advance.accepting h.good op
  refine ⟨w', hexec, hadv.good h.good, ?_, fun last hlast hs => ?_⟩
  · simpa [WriteOp.inserted] using h.advance.trans hadv
  · rw [List.getLast?_concat] at hlast
    obtain rfl := Option.some.inj hlast
    exact hsettled hs

theorem Writer.Tracks.total {host : HostBody} {past : List WriteOp} {w : Writer}
    (h : Tracks host past w) :
    w.bod.content ++ w.pending = host.content ++ WriteOp.inserted past := by
  simpa [ofBox, pending] using h.advance.total

theorem Writer.Tracks.delivered {host : HostBody} {past : List WriteOp} {w : Writer}
    (h : Tracks host past w) : Delivered host past w := by
  have htotal := h.total
  refine ⟨?_, w.pbuf.length_before_le, fun op hop hs => ?_⟩
  · obtain ⟨received, hreceived⟩ := h.advance.grows
    refine ⟨received, hreceived.symm, ?_⟩
    rw [← hreceived, List.append_assoc] at htotal
    exact List.append_cancel_left htotal
  · rwa [h.settled op hop hs, List.append_nil] at htotal

theorem Writer.delivered_run (host : HostBody) (h : host.writes.Accepting)
    (ops : List WriteOp) :
    ∃ w, run exec (ofBox host) ops = .ok w ∧ Delivered host ops w := by
  obtain ⟨w, hrun, htracks⟩ := run_history (Tracks.start h) Tracks.next ops
  exact ⟨w, hrun, htracks.delivered⟩

/-- Buffered output loses, repeats and reorders nothing at a host that accepts at least one
byte of every write, and every `overflow` ends. -/
theorem output_fidelity (host : HostBody) (h : host.writes.Accepting) :
    (∀ ops, ∃ b, run Body.exec (Body.ofBox host) ops = .ok b ∧
      Delivered host ops b.toWriter) ∧
    (∀ ops, ∃ s, run StreamingBody.exec (StreamingBody.ofBox host) ops = .ok s ∧
      Delivered host ops s.toWriter) ∧
    ∀ w : Writer, w.bod.writes.Accepting → ∀ val,
      (∃ turns bod, w.overflowLoop.within turns (w.bod, 0) = some (.ok (true, bod))) ∧
      ∃ w', w.overflow val = .ok (notEof val, w') := by
  refine ⟨fun ops => ?_, fun ops => ?_, fun w hw val => ⟨?_, ?_⟩⟩
  · obtain ⟨w, hrun, hdelivered⟩ := Writer.delivered_run host h ops
    refine ⟨{ Body.ofBox host with toWriter := w }, ?_, hdelivered⟩
    have hmap := run_map (fun op (_ : op ∈ ops) w => Body.exec_eq (Body.ofBox host) w op)
      (Writer.ofBox host)
    rw [hrun] at hmap
    exact hmap
  · obtain ⟨w, hrun, hdelivered⟩ := Writer.delivered_run host h ops
    refine ⟨⟨w⟩, ?_, hdelivered⟩
    have hmap := run_map (fun op (_ : op ∈ ops) w => StreamingBody.exec_eq w op)
      (Writer.ofBox host)
    rw [hrun] at hmap
    exact hmap
  · obtain ⟨bod, hrun, -⟩ := w.overflowLoop_spec w.bod 0 hw
    exact ⟨_, bod, by rw [w.overflowLoop.within_run, hrun]⟩
  · obtain ⟨w', hover, -⟩ := Writer.overflow_spec hw val
    exact ⟨w', hover⟩

/-- A run of two insertions around a move, at a host that takes one byte at a time. -/
theorem output_fidelity_move :
    ∃ b, run Body.exec (Body.ofBox (.new (.atMost 0) (.atMost 0)))
        [.insert [104, 105], .move, .insert [33], .flush] = .ok b ∧
      b.bod.content = [104, 105, 33] := by
  obtain ⟨b, hrun, hdelivered⟩ :=
    (output_fidelity (.new (.atMost 0) (.atMost 0)) (Schedule.accepting_atMost 0)).1
      [.insert [104, 105], .move, .insert [33], .flush]
  exact ⟨b, hrun, hdelivered.settled .flush rfl rfl⟩

/-! ## A body from a vector -/

/-- The body built from `v` holds exactly `v`: the constructor ends with such a body where
the host accepts, and never ends with another one. -/
structure Body.HoldsVec (v : List UInt8) (reads writes : Schedule) : Prop where
  ends : writes.Accepting → ∃ b, ofVec v (.new reads writes) = .ok b ∧ b.bod.content = v
  whole : ∀ b, ofVec v (.new reads writes) = .ok b → b.bod.content = v

/-- The loop of `fill_from_vec` is left before its first turn. -/
theorem Body.fillFromVec_eq (v : List UInt8) (b : Body) : b.fillFromVec v = (.ok (), b) := by
  apply (fillLoop v).run_of_inr
  simp only [fillLoop, fillBody, if_true]

theorem Body.ofVec_eq (v : List UInt8) (bod : HostBody) : ofVec v bod = .ok (ofBox bod) := by
  simp only [ofVec, fillFromVec_eq]

/-- A vector is held by the body built from it exactly if it is empty. -/
theorem holdsVec_iff (v : List UInt8) (reads writes : Schedule) :
    Body.HoldsVec v reads writes ↔ v = [] := by
  constructor
  · intro h
    exact (h.whole _ (Body.ofVec_eq v _)).symm
  · rintro rfl
    refine ⟨fun _ => ⟨_, Body.ofVec_eq _ _, rfl⟩, fun b h => ?_⟩
    rw [Body.ofVec_eq] at h
    obtain rfl := Except.ok.inj h
    rfl

/-- The body built from one byte is empty. -/
theorem not_holdsVec_singleton :
    (∃ b, Body.ofVec [97] (.new (.atMost 0) (.atMost 0)) = .ok b ∧ b.bod.content = []) ∧
      ¬ Body.HoldsVec [97] (.atMost 0) (.atMost 0) := by
  refine ⟨⟨_, rfl, rfl⟩, fun h => ?_⟩
  obtain ⟨b, hb, hcontent⟩ := h.ends (Schedule.accepting_atMost 0)
  obtain rfl := Except.ok.inj hb
  cases hcontent

end ComputeSdk
