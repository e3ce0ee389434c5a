import ComputeSdk.Verification.Body.Refusal

/-! # At-most-once delivery

A program may clear the state of a stream that failed and try again. What `overflow` wrote
before it stopped is then written a second time. -/

namespace ComputeSdk

open Shared

/-- What a program does to a body that may have failed. -/
inductive RetryOp where
  | call (op : WriteOp)
  | clear
  deriving DecidableEq, Repr

namespace RetryOp

/-- The bytes that the stream buffer takes in a call. -/
def taken (w : Writer) : RetryOp → List UInt8
  | call (.insert chunk) => w.taken chunk
  | _ => []

/-- The states in which a call makes `overflow` start. -/
def overflows (w : Writer) : RetryOp → List Writer
  | call (.insert chunk) => if w.rdstate.good then Writer.putSide.overflows chunk w else []
  | call .flush => if w.rdstate.good then [w] else []
  | call .sync => [w]
  | call .move => [w]
  | clear => []

/-- No `overflow` of the call stops in the middle of the put area, and a move is not
refused at all. -/
def Resumable (w : Writer) : RetryOp → Prop
  | call .move => ¬ w.Refused
  | op => ∀ v ∈ op.overflows w, ¬ v.Divided

end RetryOp

def Writer.retry (w : Writer) : RetryOp → Except Abort Writer
  | .call op => w.exec op
  | .clear => .ok w.clear

def Body.retry (b : Body) : RetryOp → Except Abort Body
  | .call op => b.exec op
  | .clear => .ok { b with toWriter := b.toWriter.clear }

def StreamingBody.retry (s : StreamingBody) : RetryOp → Except Abort StreamingBody
  | .call op => s.exec op
  | .clear => .ok ⟨s.toWriter.clear⟩

/-- The run state pairs the body with the bytes taken so far. -/
def Writer.tally (p : List UInt8 × Writer) (op : RetryOp) : Except Abort (List UInt8 × Writer) :=
  (p.2.retry op).map fun w => (p.1 ++ op.taken p.2, w)

def Body.tally (p : List UInt8 × Body) (op : RetryOp) : Except Abort (List UInt8 × Body) :=
  (p.2.retry op).map fun b => (p.1 ++ op.taken p.2.toWriter, b)

def StreamingBody.tally (p : List UInt8 × StreamingBody) (op : RetryOp) :
    Except Abort (List UInt8 × StreamingBody) :=
  (p.2.retry op).map fun s => (p.1 ++ op.taken p.2.toWriter, s)

theorem Body.tally_eq (b : Body) (p : List UInt8 × Writer) (op : RetryOp) :
    tally (p.1, { b with toWriter := p.2 }) op =
      (Writer.tally p op).map fun p => (p.1, { b with toWriter := p.2 }) := by
  cases op with
  | call op =>
      simp only [tally, Writer.tally, retry, Writer.retry, exec_eq]
      cases p.2.exec op <;> rfl
  | clear => rfl

theorem StreamingBody.tally_eq (p : List UInt8 × Writer) (op : RetryOp) :
    tally (p.1, ⟨p.2⟩) op = (Writer.tally p op).map fun p => (p.1, ⟨p.2⟩) := by
  cases op with
  | call op =>
      simp only [tally, Writer.tally, retry, Writer.retry, exec_eq]
      cases p.2.exec op <;> rfl
  | clear => rfl

theorem RetryOp.attempted {w : Writer} (h : w.bod.writes.Answering) (op : RetryOp) :
    ∃ w', w.retry op = .ok w' ∧ w.Attempted w' (op.taken w) (op.Resumable w) := by
  cases op with
  | call op =>
      cases op with
      | insert chunk =>
          obtain ⟨w', hrun, hattempt, -⟩ := Writer.insert_attempted chunk h
          refine ⟨w', hrun, hattempt.answering, hattempt.grows, hattempt.held_iff.trans ?_⟩
          by_cases hgood : w.rdstate.good <;> simp [Resumable, overflows, hgood]
      | flush =>
          obtain ⟨w', hrun, hattempt, -⟩ := Writer.flush_attempted h
          refine ⟨w', hrun, hattempt.answering, hattempt.grows, hattempt.held_iff.trans ?_⟩
          by_cases hgood : w.rdstate.good <;> simp [Resumable, overflows, hgood]
      | sync =>
          obtain ⟨r, w', hrun, hattempt, -⟩ := Writer.sync_attempted h
          refine ⟨w', by simp only [Writer.retry, Writer.exec, hrun, Except.map],
            hattempt.answering, hattempt.grows, hattempt.held_iff.trans ?_⟩
          simp [Resumable, overflows]
      | move => exact Writer.move_attempted h
  | clear =>
      refine ⟨w.clear, rfl, h, List.prefix_rfl, iff_of_true (List.append_nil _).symm ?_⟩
      simp [Resumable, overflows]

/-! ## Every state of a run -/

/-- The host has received a prefix of what was put, and the put area holds exactly the
rest: a later `sync` resumes after the bytes already accepted. -/
def AtMostOnce (host : HostBody) (put : List UInt8) (w : Writer) : Prop :=
  ∃ received, w.bod.content = host.content ++ received ∧ received <+: put ∧
    received ++ w.pending = put

namespace Writer

/-- The invariant of all runs over `host`, whether they are resumable or not. -/
structure Grows (host : HostBody) (p : List UInt8 × Writer) : Prop where
  answering : p.2.bod.writes.Answering
  grows : host.content <+: p.2.bod.content

theorem grows_ofBox {host : HostBody} (h : host.writes.Answering) :
    Grows host ([], ofBox host) := ⟨h, List.prefix_rfl⟩

theorem atMostOnce_iff_held {host : HostBody} {p : List UInt8 × Writer} (h : Grows host p) :
    AtMostOnce host p.1 p.2 ↔ p.2.held = host.content ++ p.1 := by
  obtain ⟨received, hreceived⟩ := h.grows
  constructor
  · rintro ⟨xs, hcontent, -, hrest⟩
    rw [held, hcontent, List.append_assoc, hrest]
  · intro hheld
    rw [held, ← hreceived, List.append_assoc] at hheld
    have hrest := List.append_cancel_left hheld
    exact ⟨received, hreceived.symm, ⟨_, hrest⟩, hrest⟩

theorem tally_spec {host : HostBody} {p : List UInt8 × Writer} (h : Grows host p)
    (op : RetryOp) :
    ∃ q, tally p op = .ok q ∧ Grows host q ∧
      (p.2.held = host.content ++ p.1 →
        (q.2.held = host.content ++ q.1 ↔ op.Resumable p.2)) := by
  obtain ⟨w, hrun, hattempt⟩ := op.attempted h.answering
  refine ⟨(p.1 ++ op.taken p.2, w), by simp only [tally, hrun, Except.map],
    ⟨hattempt.answering, h.grows.trans hattempt.grows⟩, fun hheld => ?_⟩
  rw [← hattempt.held_iff, hheld, List.append_assoc]

theorem run_tally {host : HostBody} (h : host.writes.Answering) (ops : List RetryOp) :
    ∃ p, run tally ([], ofBox host) ops = .ok p ∧ Grows host p :=
  run_history (I := fun _ p => Grows host p) (grows_ofBox h)
    (fun _ _ op hp => by
      obtain ⟨q, hstep, hq, -⟩ := tally_spec hp op
      exact ⟨q, hstep, hq⟩) ops

end Writer

/-- The run `past` ends in a state where nothing is lost or doubled. -/
def Body.Once (host : HostBody) (past : List RetryOp) : Prop :=
  ∃ put b, run tally ([], ofBox host) past = .ok (put, b) ∧ AtMostOnce host put b.toWriter

def StreamingBody.Once (host : HostBody) (past : List RetryOp) : Prop :=
  ∃ put s, run tally ([], ofBox host) past = .ok (put, s) ∧ AtMostOnce host put s.toWriter

/-- After the run `past` the call `op` is resumable. -/
def Body.Resumes (host : HostBody) (past : List RetryOp) (op : RetryOp) : Prop :=
  ∀ put b, run tally ([], ofBox host) past = .ok (put, b) → op.Resumable b.toWriter

def StreamingBody.Resumes (host : HostBody) (past : List RetryOp) (op : RetryOp) : Prop :=
  ∀ put s, run tally ([], ofBox host) past = .ok (put, s) → op.Resumable s.toWriter

theorem Body.run_tally_eq (host : HostBody) (ops : List RetryOp) :
    run tally ([], ofBox host) ops =
      (run Writer.tally ([], Writer.ofBox host) ops).map fun p =>
        (p.1, { ofBox host with toWriter := p.2 }) :=
  run_map (f := fun p => (p.1, { ofBox host with toWriter := p.2 }))
    (fun op _ p => tally_eq (ofBox host) p op) ([], Writer.ofBox host)

theorem StreamingBody.run_tally_eq (host : HostBody) (ops : List RetryOp) :
    run tally ([], ofBox host) ops =
      (run Writer.tally ([], Writer.ofBox host) ops).map fun p => (p.1, ⟨p.2⟩) :=
  run_map (f := fun p => (p.1, StreamingBody.mk p.2))
    (fun op _ p => tally_eq p op) ([], Writer.ofBox host)

namespace Writer

/-- The statement for the common write side. -/
theorem atMostOnce_iff {host : HostBody} (h : host.writes.Answering) (ops : List RetryOp) :
    (∀ past, past <+: ops → ∃ p, run tally ([], ofBox host) past = .ok p ∧
      AtMostOnce host p.1 p.2) ↔
      ∀ past op, past ++ [op] <+: ops → ∀ p, run tally ([], ofBox host) past = .ok p →
        op.Resumable p.2 := by
  refine forall_prefix_exists_iff (J := Grows host) (fun p op hp => ?_) (grows_ofBox h) ?_ ops
  · obtain ⟨q, hstep, hq, hiff⟩ := tally_spec hp op
    exact ⟨q, hstep, hq, by rwa [atMostOnce_iff_held hp, atMostOnce_iff_held hq]⟩
  · exact (atMostOnce_iff_held (grows_ofBox h)).mpr rfl

end Writer

/-- At a host that may refuse, every state of a run delivers at most once exactly if no
`overflow` of the run stops in the middle of the put area and no move is refused. -/
theorem once_prefixes_iff (host : HostBody) (h : host.writes.Answering) (ops : List RetryOp) :
    ((∀ past, past <+: ops → Body.Once host past) ↔
      ∀ past op, past ++ [op] <+: ops → Body.Resumes host past op) ∧
    ((∀ past, past <+: ops → StreamingBody.Once host past) ↔
      ∀ past op, past ++ [op] <+: ops → StreamingBody.Resumes host past op) := by
  have hiff := Writer.atMostOnce_iff h ops
  have body : ∀ past p, run Writer.tally ([], Writer.ofBox host) past = .ok p →
      run Body.tally ([], Body.ofBox host) past =
        .ok (p.1, { Body.ofBox host with toWriter := p.2 }) := by
    intro past p hrun
    rw [Body.run_tally_eq, hrun]
    rfl
  have streaming : ∀ past p, run Writer.tally ([], Writer.ofBox host) past = .ok p →
      run StreamingBody.tally ([], StreamingBody.ofBox host) past = .ok (p.1, ⟨p.2⟩) := by
    intro past p hrun
    rw [StreamingBody.run_tally_eq, hrun]
    rfl
  constructor
  · calc
      (∀ past, past <+: ops → Body.Once host past) ↔ _ :=
        forall₂_congr fun past _ => by
          obtain ⟨p, hrun, -⟩ := Writer.run_tally h past
          simp only [Body.Once, body past p hrun, hrun, Except.ok.injEq, Prod.mk.injEq]
          simp
      _ ↔ _ := hiff
      _ ↔ _ := forall₃_congr fun past op _ => by
        obtain ⟨p, hrun, -⟩ := Writer.run_tally h past
        simp [Body.Resumes, body past p hrun, hrun]
  · calc
      (∀ past, past <+: ops → StreamingBody.Once host past) ↔ _ :=
        forall₂_congr fun past _ => by
          obtain ⟨p, hrun, -⟩ := Writer.run_tally h past
          simp only [StreamingBody.Once, streaming past p hrun, hrun, Except.ok.injEq,
            Prod.mk.injEq]
          simp
      _ ↔ _ := hiff
      _ ↔ _ := forall₃_congr fun past op _ => by
        obtain ⟨p, hrun, -⟩ := Writer.run_tally h past
        simp [StreamingBody.Resumes, streaming past p hrun, hrun]

/-- A flush that is refused at once does no harm. -/
theorem once_prefixes_refused :
    Body.Once (.new (.atMost 0) (.starting [0])) [.call (.insert [97, 98]), .call .flush] := by
  refine (once_prefixes_iff (.new (.atMost 0) (.starting [0])) (Schedule.answering_starting [0])
    [.call (.insert [97, 98]), .call .flush]).1.mpr ?_ _ List.prefix_rfl
  intro past op hpast put b hrun
  match past with
  | [] =>
      obtain ⟨rfl, -⟩ := List.cons_prefix_cons.mp hpast
      obtain ⟨-, rfl⟩ := Prod.mk.inj (Except.ok.inj hrun)
      intro v hv
      cases hv
  | [_] =>
      simp only [List.cons_append, List.nil_append, List.cons_prefix_cons] at hpast
      obtain ⟨rfl, rfl, -⟩ := hpast
      obtain ⟨-, rfl⟩ := Prod.mk.inj (Except.ok.inj hrun)
      intro v hv hdivided
      obtain rfl := List.mem_singleton.mp hv
      exact hdivided.1 rfl
  | _ :: _ :: _ => simp at hpast

/-- A flush that stops after the first of two bytes, and a second flush: the host receives
the first byte twice. -/
theorem not_once_divided :
    (Schedule.starting [1, 0]).Answering ∧
      (∃ b, run Body.tally ([], Body.ofBox (.new (.atMost 0) (.starting [1, 0])))
          [.call (.insert [97, 98]), .call .flush, .clear, .call .flush] = .ok ([97, 98], b) ∧
        b.bod.content = [97, 97, 98]) ∧
      ¬ Body.Once (.new (.atMost 0) (.starting [1, 0]))
        [.call (.insert [97, 98]), .call .flush, .clear, .call .flush] := by
  refine ⟨Schedule.answering_starting [1, 0], ⟨_, rfl, rfl⟩, ?_⟩
  rintro ⟨put, b, hrun, received, hcontent, hprefix, -⟩
  obtain ⟨rfl, rfl⟩ := Prod.mk.inj (Except.ok.inj hrun)
  have hreceived : [97, 97, 98] = received := hcontent
  subst hreceived
  exact absurd hprefix (by decide)

end ComputeSdk
