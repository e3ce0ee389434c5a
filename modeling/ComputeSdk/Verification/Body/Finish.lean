import ComputeSdk.Verification.Body.Retry

/-! # Finishing a streaming body

`finish` flushes first, but reports only the answer of the call that finishes the body. -/

namespace ComputeSdk

open Shared

namespace RetryOp

def bytes : RetryOp → List UInt8
  | call op => op.bytes
  | clear => []

/-- The concatenation of everything a run inserts. -/
def inserted (ops : List RetryOp) : List UInt8 := ops.flatMap bytes

/-- The call leaves everything it inserts either delivered or pending: an insertion finds a
good stream and is not refused. -/
def Complete (w : Writer) : RetryOp → Prop
  | call (.insert chunk) =>
    chunk = [] ∨ w.rdstate.good ∧ ∀ v ∈ Writer.putSide.overflows chunk w, ¬ v.Refused
  | op => op.Resumable w

theorem Complete.resumable {w : Writer} {op : RetryOp} (h : op.Complete w) :
    op.Resumable w := by
  cases op with
  | call op =>
      cases op with
      | insert chunk =>
          intro v hv hdivided
          rcases h with rfl | ⟨hgood, hno⟩
          · simp [overflows, PutSide.overflows] at hv
          · rw [overflows, if_pos hgood] at hv
            exact hno v hv hdivided.2
      | flush => exact h
      | sync => exact h
      | move => exact h
  | clear => exact h

theorem Complete.taken {w : Writer} {op : RetryOp} (h : op.Complete w)
    (hw : w.bod.writes.Answering) : op.taken w = op.bytes := by
  cases op with
  | call op =>
      cases op with
      | insert chunk =>
          obtain ⟨-, -, -, hall⟩ := Writer.insert_attempted chunk hw
          rcases h with rfl | ⟨hgood, hno⟩
          · simp [RetryOp.taken, Writer.taken, PutSide.xsputn, bytes, WriteOp.bytes]
          · exact hall hgood hno
      | flush => rfl
      | sync => rfl
      | move => rfl
  | clear => rfl

end RetryOp

namespace StreamingBody

/-- A body that was finished successfully after the run `ops` had received everything that
the run inserted. -/
def FinishSound (host : HostBody) (ops : List RetryOp) (answer : Except FastlyError Unit) :
    Prop :=
  ∃ s bod, run retry (ofBox host) ops = .ok s ∧ s.finish answer = .ok (answer, bod) ∧
    (answer = .ok () → bod.content = host.content ++ RetryOp.inserted ops)

theorem retry_eq (s : StreamingBody) (op : RetryOp) :
    s.retry op = (s.toWriter.retry op).map StreamingBody.mk := by
  cases op with
  | call op => exact exec_eq s.toWriter op
  | clear => rfl

theorem retry_attempted {s : StreamingBody} (h : s.bod.writes.Answering) (op : RetryOp) :
    ∃ t, s.retry op = .ok t ∧
      s.toWriter.Attempted t.toWriter (op.taken s.toWriter) (op.Resumable s.toWriter) := by
  obtain ⟨w, hrun, hattempt⟩ := op.attempted h
  exact ⟨⟨w⟩, by rw [retry_eq, hrun]; rfl, hattempt⟩

/-- A finish hands on the answer of the host, whatever its flush has delivered. -/
theorem finish_attempted {s : StreamingBody} (h : s.bod.writes.Answering)
    (answer : Except FastlyError Unit) :
    ∃ bod, s.finish answer = .ok (answer, bod) ∧ (bod.content = s.held ↔ s.FlushDelivers) := by
  obtain ⟨w, hflush, -, hdelivers⟩ := Writer.flush_attempted h
  exact ⟨w.bod, by simp only [finish, flush, hflush, Except.map], hdelivers⟩

/-- The invariant of the runs whose calls are complete. -/
structure Complete (host : HostBody) (past : List RetryOp) (s : StreamingBody) : Prop where
  answering : s.bod.writes.Answering
  held : s.held = host.content ++ RetryOp.inserted past

theorem Complete.next {host : HostBody} {past : List RetryOp} {s : StreamingBody} {op : RetryOp}
    (h : Complete host past s) (hop : op.Complete s.toWriter) :
    ∃ t, s.retry op = .ok t ∧ Complete host (past ++ [op]) t := by
  obtain ⟨t, hrun, hattempt⟩ := retry_attempted h.answering op
  refine ⟨t, hrun, hattempt.answering, ?_⟩
  rw [hattempt.held_iff.mpr hop.resumable, h.held, hop.taken h.answering, List.append_assoc,
    RetryOp.inserted, RetryOp.inserted, List.flatMap_append, List.flatMap_singleton]

/-- Whatever the run was, an error of the call that finishes the body is reported. -/
theorem finishSound_error {host : HostBody} (h : host.writes.Answering) (ops : List RetryOp)
    (e : FastlyError) : FinishSound host ops (.error e) := by
  have hstep : ∀ (_ : List RetryOp) (s : StreamingBody) (op : RetryOp),
      s.bod.writes.Answering → ∃ t, s.retry op = .ok t ∧ t.bod.writes.Answering := by
    intro _ s op hs
    obtain ⟨t, hretry, hattempt⟩ := retry_attempted hs op
    exact ⟨t, hretry, hattempt.answering⟩
  obtain ⟨s, hrun, hs⟩ := run_history (s := ofBox host)
    (I := fun _ s => s.bod.writes.Answering) h hstep ops
  obtain ⟨bod, hfinish, -⟩ := finish_attempted hs (.error e)
  exact ⟨s, bod, hrun, hfinish, nofun⟩

/-- After the run `past` the call `op` is complete. -/
def CompleteAt (host : HostBody) (past : List RetryOp) (op : RetryOp) : Prop :=
  ∀ s, run retry (ofBox host) past = .ok s → op.Complete s.toWriter

end StreamingBody

/-- A finish that fails promises nothing. Where all calls of a run are complete, a successful
one means that everything was delivered exactly if the flush in it delivers what is still
pending. -/
theorem finishSound_iff (host : HostBody) (h : host.writes.Answering) (ops : List RetryOp)
    (answer : Except FastlyError Unit)
    (hops : answer = .ok () →
      ∀ past op, past ++ [op] <+: ops → StreamingBody.CompleteAt host past op) :
    StreamingBody.FinishSound host ops answer ↔
      ∀ s, run StreamingBody.retry (.ofBox host) ops = .ok s →
        answer = .ok () → s.FlushDelivers := by
  rcases answer with e | ⟨⟩
  · exact iff_of_true (StreamingBody.finishSound_error h ops e) nofun
  obtain ⟨s, hrun, hcomplete⟩ := run_guarded (I := StreamingBody.Complete host)
    (G := fun s op => op.Complete s.toWriter) ⟨h, rfl⟩
    (fun _ _ _ hI hop => hI.next hop) ops
    (fun past op t hpast hrun => hops rfl past op hpast t hrun)
  obtain ⟨bod, hfinish, hdelivers⟩ :=
    StreamingBody.finish_attempted hcomplete.answering (.ok ())
  rw [hcomplete.held] at hdelivers
  constructor
  · rintro ⟨s', bod', hrun', hfinish', hsound⟩ t ht hok
    obtain rfl := Except.ok.inj (hrun.symm.trans hrun')
    obtain rfl := Except.ok.inj (hrun.symm.trans ht)
    obtain ⟨-, rfl⟩ := Prod.mk.inj (Except.ok.inj (hfinish.symm.trans hfinish'))
    exact hdelivers.mp (hsound hok)
  · exact fun hall => ⟨s, bod, hrun, hfinish, fun hok => hdelivers.mpr (hall s hrun hok)⟩

theorem finishSound_delivered :
    StreamingBody.FinishSound (.new (.atMost 0) (.starting [1])) [.call (.insert [97, 98])]
      (.ok ()) := by
  refine (finishSound_iff (.new (.atMost 0) (.starting [1])) (Schedule.answering_starting [1])
    [.call (.insert [97, 98])] (.ok ()) ?_).mpr ?_
  · intro _ past op hpast s hrun
    match past with
    | [] =>
        obtain ⟨rfl, -⟩ := List.cons_prefix_cons.mp hpast
        obtain rfl := Except.ok.inj hrun
        exact .inr ⟨rfl, fun v hv => by cases hv⟩
    | _ :: _ => simp at hpast
  · intro s hrun _
    obtain rfl := Except.ok.inj hrun
    refine .inr ⟨rfl, ?_⟩
    rintro ⟨i, hi, -⟩
    match i with
    | 0 => cases hi
    | _ + 1 => cases hi

/-- A body whose only byte the host refused is finished successfully without it. -/
theorem not_finishSound_refused :
    (Schedule.starting [0]).Answering ∧
      (∃ s bod, run StreamingBody.retry (.ofBox (.new (.atMost 0) (.starting [0])))
          [.call (.insert [97])] = .ok s ∧
        s.finish (.ok ()) = .ok (.ok (), bod) ∧ bod.content = []) ∧
      ¬ StreamingBody.FinishSound (.new (.atMost 0) (.starting [0])) [.call (.insert [97])]
        (.ok ()) := by
  refine ⟨Schedule.answering_starting [0], ⟨_, _, rfl, rfl, rfl⟩, ?_⟩
  rintro ⟨s, bod, hrun, hfinish, hsound⟩
  obtain rfl := Except.ok.inj hrun
  obtain ⟨-, rfl⟩ := Prod.mk.inj (Except.ok.inj hfinish)
  have hcontent : ([] : List UInt8) = [97] := hsound rfl
  cases hcontent

end ComputeSdk
