import ComputeSdk.Verification.Body.Output

/-! # The order of buffered and direct output

Insertions go through the put area, `write` and `append` go straight to the host. What a
direct call transfers therefore overtakes what is pending. -/

namespace ComputeSdk

open Shared

/-- The calls that put bytes at the end of a body. -/
inductive OutputOp where
  | insert (chunk : List UInt8)
  | flush
  | write (buf : List UInt8)
  | append (other : Body)

namespace OutputOp

/-- A body that is appended is fully flushed and unread. -/
def Legal : OutputOp → Prop
  | append other => other.pending = [] ∧ other.unread = []
  | _ => True

/-- What a call transfers to the host without going through the put area. -/
def direct (bod : HostBody) : OutputOp → List UInt8
  | insert _ => []
  | flush => []
  | write buf => buf.take bod.writes.first
  | append other => other.bod.content

end OutputOp

/-- A call together with the bytes it stands for: those inserted, the prefix of a direct
write that was accepted, the content of an appended body. -/
def Body.output (b : Body) : OutputOp → Except Abort (List UInt8 × Body)
  | .insert chunk => (b.insert chunk).map fun b => (chunk, b)
  | .flush => b.flush.map fun b => ([], b)
  | .write buf =>
    match b.write buf with
    | (.error _, b) => .ok ([], b)
    | (.ok written, b) => .ok (buf.take written, b)
  | .append other =>
    match other.move with
    | .error e => .error e
    | .ok other => (b.append other).map fun b => (other.bod.content, b)

def StreamingBody.output (s : StreamingBody) : OutputOp → Except Abort (List UInt8 × StreamingBody)
  | .insert chunk => (s.insert chunk).map fun s => (chunk, s)
  | .flush => s.flush.map fun s => ([], s)
  | .write buf =>
    match s.write buf with
    | (.error _, s) => .ok ([], s)
    | (.ok written, s) => .ok (buf.take written, s)
  | .append other =>
    match other.move with
    | .error e => .error e
    | .ok other => .ok (other.bod.content, s.append other)

/-! ## Runs -/

/-- The run state pairs the body with the bytes that the calls so far stand for. -/
def Body.collect (p : List UInt8 × Body) (op : OutputOp) : Except Abort (List UInt8 × Body) :=
  (p.2.output op).map fun q => (p.1 ++ q.1, q.2)

def StreamingBody.collect (p : List UInt8 × StreamingBody) (op : OutputOp) :
    Except Abort (List UInt8 × StreamingBody) :=
  (p.2.output op).map fun q => (p.1 ++ q.1, q.2)

/-- What the host body should hold after a run and a final flush, and what it does hold. -/
def Body.observed (host : HostBody) (ops : List OutputOp) :
    Except Abort (List UInt8 × List UInt8) :=
  match run collect ([], ofBox host) ops with
  | .error e => .error e
  | .ok (out, b) => b.flush.map fun b => (host.content ++ out, b.bod.content)

def StreamingBody.observed (host : HostBody) (ops : List OutputOp) :
    Except Abort (List UInt8 × List UInt8) :=
  match run collect ([], ofBox host) ops with
  | .error e => .error e
  | .ok (out, s) => s.flush.map fun s => (host.content ++ out, s.bod.content)

/-- After the run and a flush the host holds what the calls stand for, in their order. -/
def Body.Coherent (host : HostBody) (ops : List OutputOp) : Prop :=
  ∃ xs, observed host ops = .ok (xs, xs)

def StreamingBody.Coherent (host : HostBody) (ops : List OutputOp) : Prop :=
  ∃ xs, observed host ops = .ok (xs, xs)

/-- What `op` transfers directly after the run `past` commutes with what is pending then;
so it does where nothing is pending. -/
def Body.Unobstructed (host : HostBody) (past : List OutputOp) (op : OutputOp) : Prop :=
  ∀ out b, run collect ([], ofBox host) past = .ok (out, b) →
    b.pending ++ op.direct b.bod = op.direct b.bod ++ b.pending

def StreamingBody.Unobstructed (host : HostBody) (past : List OutputOp) (op : OutputOp) : Prop :=
  ∀ out s, run collect ([], ofBox host) past = .ok (out, s) →
    s.pending ++ op.direct s.bod = op.direct s.bod ++ s.pending

/-! ## The common write side -/

namespace Writer

def output (w : Writer) : OutputOp → Except Abort (List UInt8 × Writer)
  | .insert chunk => (w.insert chunk).map fun w => (chunk, w)
  | .flush => w.flush.map fun w => ([], w)
  | .write buf =>
    match w.write buf with
    | (.error _, w) => .ok ([], w)
    | (.ok written, w) => .ok (buf.take written, w)
  | .append other => .ok (other.bod.content, { w with bod := w.bod.append other.bod })

def collect (p : List UInt8 × Writer) (op : OutputOp) : Except Abort (List UInt8 × Writer) :=
  (p.2.output op).map fun q => (p.1 ++ q.1, q.2)

theorem overflowLoop_of_pending_nil {w : Writer} (h : w.pending = []) :
    w.overflowLoop.run (w.bod, 0) = .ok (true, w.bod) := by
  have hnext : w.pbuf.next = 0 := by
    rw [← w.pbuf.length_before]
    exact congrArg List.length h
  apply w.overflowLoop.run_of_inr
  simp [overflowLoop, overflowBody, hnext]

/-- With nothing pending `sync` does not call the host. -/
theorem sync_of_pending_nil {w : Writer} (h : w.pending = []) :
    w.sync = .ok (0, { w with pbuf := w.pbuf.reset }) := by
  simp only [sync, overflow, overflowLoop_of_pending_nil h, if_neg (notEof_ne_eof eof), restart,
    if_true]

theorem move_of_pending_nil {w : Writer} (h : w.pending = []) :
    w.move = .ok ⟨w.bod, w.pbuf.reset, IoState.goodbit⟩ := by
  simp only [move, sync_of_pending_nil h]
  rfl

theorem flush_of_pending_nil {w : Writer} (h : w.pending = []) :
    ∃ w', w.flush = .ok w' ∧ w'.bod = w.bod := by
  unfold flush
  split
  · rw [sync_of_pending_nil h]
    exact ⟨_, rfl, rfl⟩
  · exact ⟨w, rfl, rfl⟩

end Writer

theorem Body.move_of_pending_nil {b : Body} (h : b.pending = []) :
    b.move = .ok ⟨⟨b.bod, b.pbuf.reset, IoState.goodbit⟩, b.gbuf⟩ := by
  simp only [move, Writer.move_of_pending_nil h]

theorem Body.append_of_pending_nil {other : Body} (h : other.pending = []) (b : Body) :
    b.append other =
      .ok { b with toWriter := { b.toWriter with bod := b.bod.append other.bod } } := by
  obtain ⟨w, hflush, hbod⟩ := Writer.flush_of_pending_nil h
  simp only [append, flush, hflush, Except.map, hbod]

theorem Body.output_eq (b : Body) (w : Writer) {op : OutputOp} (h : op.Legal) :
    output { b with toWriter := w } op =
      (w.output op).map fun p => (p.1, { b with toWriter := p.2 }) := by
  cases op with
  | insert chunk =>
      simp only [output, Writer.output, insert]
      cases w.insert chunk <;> rfl
  | flush =>
      simp only [output, Writer.output, flush]
      cases w.flush <;> rfl
  | write buf =>
      simp only [output, Writer.output, write, Writer.write]
      cases (w.bod.write buf).1 <;> rfl
  | append other =>
      simp only [output, Writer.output, move_of_pending_nil h.1]
      rw [append_of_pending_nil (by rfl)]
      rfl

theorem StreamingBody.output_eq (w : Writer) {op : OutputOp} (h : op.Legal) :
    output ⟨w⟩ op = (w.output op).map fun p => (p.1, ⟨p.2⟩) := by
  cases op with
  | insert chunk =>
      simp only [output, Writer.output, insert]
      cases w.insert chunk <;> rfl
  | flush =>
      simp only [output, Writer.output, flush]
      cases w.flush <;> rfl
  | write buf =>
      simp only [output, Writer.output, write, Writer.write]
      cases (w.bod.write buf).1 <;> rfl
  | append other =>
      simp only [output, Writer.output, Body.move_of_pending_nil h.1]
      rfl

/-! ## Program order -/

namespace Writer

/-- The host and the put area hold, in this order, what the calls so far stand for. -/
def InOrder (host : HostBody) (p : List UInt8 × Writer) : Prop :=
  p.2.bod.content ++ p.2.pending = host.content ++ p.1

/-- The invariant of all runs, coherent or not. -/
structure Running (p : List UInt8 × Writer) : Prop where
  accepting : p.2.bod.writes.Accepting
  good : p.2.rdstate.good

theorem output_write (w : Writer) (h : w.bod.writes.Accepting) (buf : List UInt8) :
    w.output (.write buf) = .ok (buf.take w.bod.writes.first,
      { w with bod := ⟨w.bod.content ++ buf.take w.bod.writes.first, w.bod.reads,
        w.bod.writes.rest⟩ }) := by
  obtain ⟨k, hk⟩ := h 0
  have htake : buf.take (min (k + 1) buf.length) = buf.take (k + 1) := by
    rw [← List.take_take, List.take_length]
  simp only [output, write, HostBody.write_of_ok hk, Schedule.first, hk, htake]

/-- One call keeps the order exactly if what it transfers directly commutes with what was
pending. -/
theorem collect_spec (host : HostBody) (p : List UInt8 × Writer) (h : Running p)
    (op : OutputOp) :
    ∃ q, collect p op = .ok q ∧ Running q ∧ (InOrder host p → (InOrder host q ↔
      p.2.pending ++ op.direct p.2.bod = op.direct p.2.bod ++ p.2.pending)) := by
  obtain ⟨out, w⟩ := p
  obtain ⟨haccept, hgood⟩ := h
  -- a direct transfer of `d` puts it before what is pending
  have overtake : ∀ d, w.bod.content ++ w.pending = host.content ++ out →
      (w.bod.content ++ d ++ w.pending = host.content ++ (out ++ d) ↔
        w.pending ++ d = d ++ w.pending) := by
    intro d hin
    rw [← List.append_assoc host.content, ← hin, List.append_assoc, List.append_assoc,
      List.append_cancel_left_eq, eq_comm]
  -- a buffered call keeps the order
  have buffered : ∀ w' xs, Advance w w' xs → w.bod.content ++ w.pending = host.content ++ out →
      w'.bod.content ++ w'.pending = host.content ++ (out ++ xs) := by
    intro w' xs hadv hin
    rw [hadv.total, hin, List.append_assoc]
  cases op with
  | insert chunk =>
      obtain ⟨w', hrun, hadv⟩ := insert_spec haccept hgood chunk
      refine ⟨(out ++ chunk, w'), ?_, ⟨hadv.accepting, hadv.good hgood⟩, fun hin => ?_⟩
      · simp only [collect, output, hrun, Except.map]
      · exact iff_of_true (buffered w' chunk hadv hin) (List.append_nil _)
  | flush =>
      obtain ⟨w', hrun, -, hadv⟩ := flush_spec haccept hgood
      refine ⟨(out ++ [], w'), ?_, ⟨hadv.accepting, hadv.good hgood⟩, fun hin => ?_⟩
      · simp only [collect, output, hrun, Except.map]
      · exact iff_of_true (buffered w' [] hadv hin) (List.append_nil _)
  | write buf =>
      refine ⟨(out ++ buf.take w.bod.writes.first,
        { w with bod := ⟨w.bod.content ++ buf.take w.bod.writes.first, w.bod.reads,
          w.bod.writes.rest⟩ }), ?_, ⟨haccept.rest, hgood⟩, overtake _⟩
      simp only [collect, output_write w haccept, Except.map]
  | append other =>
      refine ⟨(out ++ other.bod.content, { w with bod := w.bod.append other.bod }), rfl,
        ⟨haccept, hgood⟩, ?_⟩
      exact overtake _

theorem running_ofBox {host : HostBody} (h : host.writes.Accepting) :
    Running ([], ofBox host) := ⟨h, rfl⟩

theorem inOrder_ofBox (host : HostBody) : InOrder host ([], ofBox host) := rfl

theorem run_collect (host : HostBody) (h : host.writes.Accepting) (ops : List OutputOp) :
    ∃ p, run collect ([], ofBox host) ops = .ok p ∧ Running p :=
  run_history (I := fun _ p => Running p) (running_ofBox h)
    (fun _ p op hp => by
      obtain ⟨q, hstep, hq, -⟩ := collect_spec host p hp op
      exact ⟨q, hstep, hq⟩) ops

/-- What `op` transfers directly after the run `past` commutes with what is pending then. -/
def Unobstructed (host : HostBody) (past : List OutputOp) (op : OutputOp) : Prop :=
  ∀ p, run collect ([], ofBox host) past = .ok p →
    p.2.pending ++ op.direct p.2.bod = op.direct p.2.bod ++ p.2.pending

/-- All states of a run are in order exactly if all its calls are unobstructed. -/
theorem inOrder_iff (host : HostBody) (h : host.writes.Accepting) (ops : List OutputOp) :
    (∀ past, past <+: ops →
      ∃ p, run collect ([], ofBox host) past = .ok p ∧ InOrder host p) ↔
      ∀ past op, past ++ [op] <+: ops → Unobstructed host past op :=
  forall_prefix_exists_iff (fun p op hp => collect_spec host p hp op) (running_ofBox h)
    (inOrder_ofBox host) ops

/-- A final flush brings the host what the put area still holds. -/
theorem flush_content {w : Writer} (h : w.bod.writes.Accepting) (hgood : w.rdstate.good) :
    ∃ w', w.flush = .ok w' ∧ w'.bod.content = w.bod.content ++ w.pending := by
  obtain ⟨w', hflush, hpending, hadv⟩ := flush_spec h hgood
  refine ⟨w', hflush, ?_⟩
  have htotal := hadv.total
  rwa [hpending, List.append_nil, List.append_nil] at htotal

/-- What the host body should hold after a run and a final flush, and what it does hold. -/
def observed (host : HostBody) (ops : List OutputOp) : Except Abort (List UInt8 × List UInt8) :=
  match run collect ([], ofBox host) ops with
  | .error e => .error e
  | .ok (out, w) => w.flush.map fun w => (host.content ++ out, w.bod.content)

theorem observed_iff (host : HostBody) (hw : host.writes.Accepting) (ops : List OutputOp) :
    (∃ xs, observed host ops = .ok (xs, xs)) ↔
      ∃ p, run collect ([], ofBox host) ops = .ok p ∧ InOrder host p := by
  obtain ⟨⟨out, w⟩, hrun, hrunning⟩ := run_collect host hw ops
  obtain ⟨w', hflush, hcontent⟩ := flush_content hrunning.accepting hrunning.good
  have hobserved : observed host ops =
      .ok (host.content ++ out, w.bod.content ++ w.pending) := by
    simp only [observed, hrun, hflush, Except.map, hcontent]
  simp only [hobserved, hrun, Except.ok.injEq, Prod.mk.injEq, InOrder, exists_eq_left']

end Writer

/-- The run of a body is the run of its write side. -/
theorem Body.run_collect_eq (host : HostBody) {ops : List OutputOp}
    (h : ∀ op ∈ ops, op.Legal) :
    run collect ([], ofBox host) ops =
      (run Writer.collect ([], Writer.ofBox host) ops).map fun p =>
        (p.1, { ofBox host with toWriter := p.2 }) := by
  have hstep : ∀ op ∈ ops, ∀ p : List UInt8 × Writer,
      collect (p.1, { ofBox host with toWriter := p.2 }) op =
        (Writer.collect p op).map fun p => (p.1, { ofBox host with toWriter := p.2 }) := by
    intro op hop p
    simp only [collect, Writer.collect, output_eq _ _ (h op hop)]
    cases p.2.output op <;> rfl
  exact run_map (f := fun p => (p.1, { ofBox host with toWriter := p.2 })) hstep
    ([], Writer.ofBox host)

theorem StreamingBody.run_collect_eq (host : HostBody) {ops : List OutputOp}
    (h : ∀ op ∈ ops, op.Legal) :
    run collect ([], ofBox host) ops =
      (run Writer.collect ([], Writer.ofBox host) ops).map fun p => (p.1, ⟨p.2⟩) := by
  have hstep : ∀ op ∈ ops, ∀ p : List UInt8 × Writer,
      collect (p.1, ⟨p.2⟩) op = (Writer.collect p op).map fun p => (p.1, ⟨p.2⟩) := by
    intro op hop p
    simp only [collect, Writer.collect, output_eq _ (h op hop)]
    cases p.2.output op <;> rfl
  exact run_map (f := fun p => (p.1, StreamingBody.mk p.2)) hstep ([], Writer.ofBox host)

theorem Body.observed_eq (host : HostBody) {ops : List OutputOp} (h : ∀ op ∈ ops, op.Legal) :
    observed host ops = Writer.observed host ops := by
  rw [observed, Writer.observed, run_collect_eq host h]
  cases run Writer.collect ([], Writer.ofBox host) ops with
  | error e => rfl
  | ok p =>
      simp only [Except.map, flush]
      cases p.2.flush <;> rfl

theorem StreamingBody.observed_eq (host : HostBody) {ops : List OutputOp}
    (h : ∀ op ∈ ops, op.Legal) : observed host ops = Writer.observed host ops := by
  rw [observed, Writer.observed, run_collect_eq host h]
  cases run Writer.collect ([], Writer.ofBox host) ops with
  | error e => rfl
  | ok p =>
      simp only [Except.map, flush]
      cases p.2.flush <;> rfl

theorem Body.unobstructed_iff {host : HostBody} (hw : host.writes.Accepting)
    {past : List OutputOp} (h : ∀ op ∈ past, op.Legal) (op : OutputOp) :
    Unobstructed host past op ↔ Writer.Unobstructed host past op := by
  obtain ⟨p, hrun, -⟩ := Writer.run_collect host hw past
  simp [Unobstructed, Writer.Unobstructed, run_collect_eq host h, hrun, Except.map]

theorem StreamingBody.unobstructed_iff {host : HostBody} (hw : host.writes.Accepting)
    {past : List OutputOp} (h : ∀ op ∈ past, op.Legal) (op : OutputOp) :
    Unobstructed host past op ↔ Writer.Unobstructed host past op := by
  obtain ⟨p, hrun, -⟩ := Writer.run_collect host hw past
  simp [Unobstructed, Writer.Unobstructed, run_collect_eq host h, hrun, Except.map]

/-- Every state of a run on a body is coherent exactly if each direct write or append finds
the put area empty, or holding bytes that commute with what it transfers. -/
theorem coherent_prefixes_iff (host : HostBody) (hw : host.writes.Accepting)
    (ops : List OutputOp) (h : ∀ op ∈ ops, op.Legal) :
    ((∀ past, past <+: ops → Body.Coherent host past) ↔
      ∀ past op, past ++ [op] <+: ops → Body.Unobstructed host past op) ∧
    ((∀ past, past <+: ops → StreamingBody.Coherent host past) ↔
      ∀ past op, past ++ [op] <+: ops → StreamingBody.Unobstructed host past op) := by
  have legal : ∀ past, past <+: ops → ∀ op ∈ past, op.Legal :=
    fun past hpast op hop => h op (hpast.subset hop)
  have legal' : ∀ past op, past ++ [op] <+: ops → ∀ op ∈ past, op.Legal :=
    fun past op hpast => legal past ((List.prefix_append past [op]).trans hpast)
  have hiff := Writer.inOrder_iff host hw ops
  constructor
  · calc
      (∀ past, past <+: ops → Body.Coherent host past) ↔ _ :=
        forall₂_congr fun past hpast => by
          rw [Body.Coherent, Body.observed_eq host (legal past hpast)]
          exact Writer.observed_iff host hw past
      _ ↔ _ := hiff
      _ ↔ _ := forall₃_congr fun past op hpast =>
        (Body.unobstructed_iff hw (legal' past op hpast) op).symm
  · calc
      (∀ past, past <+: ops → StreamingBody.Coherent host past) ↔ _ :=
        forall₂_congr fun past hpast => by
          rw [StreamingBody.Coherent, StreamingBody.observed_eq host (legal past hpast)]
          exact Writer.observed_iff host hw past
      _ ↔ _ := hiff
      _ ↔ _ := forall₃_congr fun past op hpast =>
        (StreamingBody.unobstructed_iff hw (legal' past op hpast) op).symm

/-- A flush before a direct call keeps the order. -/
theorem coherent_prefixes_flushed :
    Body.Coherent (.new (.atMost 0) (.atMost 0)) [.insert [97], .flush, .write [98]] := by
  refine (coherent_prefixes_iff (.new (.atMost 0) (.atMost 0)) (Schedule.accepting_atMost 0)
    [.insert [97], .flush, .write [98]] (by simp [OutputOp.Legal])).1.mpr ?_ _ List.prefix_rfl
  intro past op hpast out b hrun
  match past with
  | [] =>
      obtain ⟨rfl, -⟩ := List.cons_prefix_cons.mp hpast
      exact List.append_nil _
  | [_] =>
      simp only [List.cons_append, List.nil_append, List.cons_prefix_cons] at hpast
      obtain ⟨rfl, rfl, -⟩ := hpast
      exact List.append_nil _
  | [_, _] =>
      simp only [List.cons_append, List.nil_append, List.cons_prefix_cons] at hpast
      obtain ⟨rfl, rfl, rfl, -⟩ := hpast
      obtain ⟨-, rfl⟩ := Prod.mk.inj (Except.ok.inj hrun)
      exact (List.append_nil _).symm
  | _ :: _ :: _ :: _ => simp at hpast

/-- A direct write overtakes the byte inserted before it. -/
theorem not_coherent_insert_write :
    ¬ Body.Coherent (.new (.atMost 0) (.atMost 0)) [.insert [97], .write [98]] := by
  rintro ⟨xs, h⟩
  have hobserved : Body.observed (.new (.atMost 0) (.atMost 0)) [.insert [97], .write [98]] =
      .ok ([97, 98], [98, 97]) := rfl
  rw [hobserved] at h
  obtain ⟨h97, h98⟩ := Prod.mk.inj (Except.ok.inj h)
  rw [← h97] at h98
  exact absurd h98 (by decide)

end ComputeSdk
