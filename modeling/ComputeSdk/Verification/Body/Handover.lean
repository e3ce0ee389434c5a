import ComputeSdk.Model.KvStore
import ComputeSdk.Model.Message
import ComputeSdk.Verification.Body.Order

/-! # Handing a body over by value

Every sink takes the box of its parameter. What the parameter still holds in its put area
reaches the host only if the sink flushes or a move came before, and what it holds in its
get area is not looked at by any of them. -/

namespace ComputeSdk

open Shared

/-- How the parameter of a sink comes about. -/
inductive Pass where
  /-- From a prvalue, without a move. -/
  | inPlace
  /-- Moved from an lvalue. -/
  | moved
  deriving DecidableEq, Repr

def Pass.construct : Pass → Body → Except Abort Body
  | inPlace, b => .ok b
  | moved, b => b.move

/-- The functions that take a body by value, with the object that receives it. -/
inductive Sink where
  | requestSetBody (r : Request)
  | requestWithBody (r : Request)
  | responseFromBody
  | responseSetBody (r : Response)
  | responseWithBody (r : Response)
  | responseAppendBody (r : Response)
  | bodyAppend (b : Body)
  | streamingBodyAppend (s : StreamingBody)
  | kvStoreInsert (store : KVStore) (key : String)
  | insertBuilderExecute (store : KVStore) (key : String)
  | insertBuilderExecuteAsync (store : KVStore) (key : String)

namespace Sink

/-- The value of the insert that the host was asked for last. -/
def latest (store : KVStore) : List UInt8 :=
  match store.inserts with
  | [] => []
  | ins :: _ => ins.value

/-- The bytes that the sink receives through its parameter. -/
def receive : Sink → Body → Except Abort (List UInt8)
  | requestSetBody r, body => (r.setBody body).map fun r => r.body.content
  | requestWithBody r, body => (r.withBody body).map fun r => r.body.content
  | responseFromBody, body => .ok (Response.fromBody body).body.content
  | responseSetBody r, body => (r.setBody body).map fun r => r.body.content
  | responseWithBody r, body => (r.withBody body).map fun r => r.body.content
  | responseAppendBody r, body =>
    (r.appendBody body).map fun r' => r'.body.content.drop r.body.content.length
  | bodyAppend b, body => (b.append body).map fun b' => b'.bod.content.drop b.bod.content.length
  | streamingBodyAppend s, body =>
    .ok ((s.append body).bod.content.drop s.bod.content.length)
  | kvStoreInsert store key, body => .ok (latest (store.insert key body).2)
  | insertBuilderExecute store key, body => .ok (latest (InsertBuilder.execute store key body).2)
  | insertBuilderExecuteAsync store key, body =>
    .ok (latest (InsertBuilder.executeAsync store key body).2)

def deliver (sink : Sink) (pass : Pass) (b : Body) : Except Abort (List UInt8) :=
  match pass.construct b with
  | .error e => .error e
  | .ok body => sink.receive body

/-- Whether the sink flushes its parameter. -/
def flushes : Sink → Bool
  | requestSetBody _ => true
  | responseSetBody _ => true
  | responseAppendBody _ => true
  | bodyAppend _ => true
  | _ => false

/-- Whether the sink moves its parameter on. -/
def moves : Sink → Bool
  | requestWithBody _ => true
  | responseWithBody _ => true
  | _ => false

/-- Whether the put area of the parameter `body` reaches the host. -/
def Settles (sink : Sink) (body : Body) : Prop :=
  body.pending = [] ∨ sink.moves ∨ (sink.flushes ∧ body.rdstate.good)

instance (sink : Sink) (body : Body) : Decidable (sink.Settles body) :=
  inferInstanceAs (Decidable (_ ∨ _ ∨ (_ ∧ _)))

end Sink

/-- The bytes of a body that were not extracted yet. -/
def Body.unextracted (b : Body) : List UInt8 := b.unread ++ b.bod.content ++ b.pending

/-- A flush brings the host what is pending if the stream is good, and otherwise nothing. -/
theorem Body.flush_content {b : Body} (h : b.bod.writes.Accepting) :
    ∃ b', b.flush = .ok b' ∧
      b'.bod.content = b.bod.content ++ if b.rdstate.good then b.pending else [] := by
  by_cases hgood : b.rdstate.good
  · obtain ⟨w, hflush, hcontent⟩ := Writer.flush_content h hgood
    refine ⟨{ b with toWriter := w }, ?_, ?_⟩
    · simp only [flush, hflush, Except.map]
    · rw [if_pos hgood]
      exact hcontent
  · refine ⟨b, ?_, ?_⟩
    · simp [flush, Writer.flush, hgood, Except.map]
    · rw [if_neg hgood, List.append_nil]

theorem Body.move_content {b : Body} (h : b.bod.writes.Accepting) :
    ∃ b', b.move = .ok b' ∧ b'.bod.content = b.bod.content ++ b.pending ∧ b'.pending = [] ∧
      b'.bod.writes.Accepting := by
  obtain ⟨w, hmove, hpending, -, -, hadv⟩ := Writer.move_spec h
  refine ⟨⟨w, b.gbuf⟩, ?_, ?_, hpending, hadv.accepting⟩
  · simp only [move, hmove]
  · have htotal := hadv.total
    rwa [hpending, List.append_nil, List.append_nil] at htotal

theorem Body.flush_of_moved {b : Body} (h : b.pending = []) :
    ∃ b', b.flush = .ok b' ∧ b'.bod = b.bod := by
  obtain ⟨w, hflush, hbod⟩ := Writer.flush_of_pending_nil h
  refine ⟨{ b with toWriter := w }, ?_, hbod⟩
  simp only [flush, hflush, Except.map]

namespace Sink

/-- A sink receives the host bytes of its parameter, and what is pending if it settles it. -/
theorem receive_spec (sink : Sink) {b : Body} (h : b.bod.writes.Accepting) :
    sink.receive b = .ok (b.bod.content ++ if sink.Settles b then b.pending else []) := by
  obtain ⟨f, hflush, hfcontent⟩ := Body.flush_content h
  obtain ⟨m, hmove, hmcontent, hmpending, -⟩ := Body.move_content h
  obtain ⟨mf, hmflush, hmbod⟩ := Body.flush_of_moved hmpending
  -- the sinks that flush it
  have flushed : f.bod.content =
      b.bod.content ++ if b.pending = [] ∨ b.rdstate.good then b.pending else [] := by
    rw [hfcontent]
    congr 1
    by_cases hnil : b.pending = []
    · simp only [hnil, ite_self]
    · simp only [hnil, false_or]
  cases sink with
  | requestSetBody r =>
      simp [receive, Request.setBody, hflush, Except.map, flushed, Settles, moves, flushes]
  | requestWithBody r =>
      simp [receive, Request.withBody, Request.setBody, hmove, hmflush, hmbod, hmcontent,
        Except.map, Settles, moves]
  | responseFromBody =>
      simp [receive, Response.fromBody, Settles, moves, flushes]
  | responseSetBody r =>
      simp [receive, Response.setBody, hflush, Except.map, flushed, Settles, moves, flushes]
  | responseWithBody r =>
      simp [receive, Response.withBody, Response.setBody, hmove, hmflush, hmbod, hmcontent,
        Except.map, Settles, moves]
  | responseAppendBody r =>
      simp [receive, Response.appendBody, HostBody.append, hflush, Except.map, flushed, Settles,
        moves, flushes]
  | bodyAppend b' =>
      simp [receive, Body.append, HostBody.append, hflush, Except.map, flushed, Settles, moves,
        flushes]
  | streamingBodyAppend s =>
      simp [receive, StreamingBody.append, HostBody.append, Settles, moves, flushes]
  | kvStoreInsert store key =>
      simp [receive, KVStore.insert, KVStore.submit, latest, Settles, moves, flushes]
  | insertBuilderExecute store key =>
      simp [receive, InsertBuilder.execute, KVStore.submit, latest, Settles, moves, flushes]
  | insertBuilderExecuteAsync store key =>
      simp [receive, InsertBuilder.executeAsync, KVStore.submit, latest, Settles, moves, flushes]

/-- What was pending arrives if the parameter was moved or the sink settles it; what was
in the get area never does. -/
theorem deliver_spec (sink : Sink) (pass : Pass) {b : Body} (h : b.bod.writes.Accepting) :
    sink.deliver pass b = .ok (b.bod.content ++
      if pass = .moved ∨ sink.Settles b then b.pending else []) := by
  cases pass with
  | inPlace => simp [deliver, Pass.construct, receive_spec sink h]
  | moved =>
      obtain ⟨m, hmove, hcontent, hpending, haccept⟩ := Body.move_content h
      simp [deliver, Pass.construct, hmove, receive_spec sink haccept, hcontent, hpending]

end Sink

/-- A body is handed over whole exactly if its get area is empty and what is pending is
flushed on the way. -/
theorem deliver_eq_unextracted_iff (sink : Sink) (pass : Pass) (b : Body)
    (h : b.bod.writes.Accepting) :
    sink.deliver pass b = .ok b.unextracted ↔
      b.unread = [] ∧ (pass = .moved ∨ sink.Settles b) := by
  rw [sink.deliver_spec pass h, Except.ok.injEq, Body.unextracted]
  by_cases hsettled : pass = .moved ∨ sink.Settles b
  · rw [if_pos hsettled, List.append_assoc, List.self_eq_append_left]
    exact (and_iff_left hsettled).symm
  · rw [if_neg hsettled, List.append_nil]
    have hpending : b.pending ≠ [] := fun hnil => hsettled (.inr (.inl hnil))
    refine iff_of_false (fun hsame => hpending ?_) (fun hboth => hsettled hboth.2)
    -- too short by what is pending
    have hlength := congrArg List.length hsame
    rw [List.length_append, List.length_append] at hlength
    exact List.length_eq_zero_iff.mp (by omega)

/-- A body over `content` into which `s` was then inserted. -/
def Body.filled (content s : List UInt8) : Except Abort Body :=
  (Body.ofBox ⟨content, .atMost 511, .atMost 511⟩).insert s

theorem deliver_filled :
    ∃ b, Body.filled [97] [98] = .ok b ∧ b.pending = [98] ∧
      (Sink.requestWithBody ⟨.new (.atMost 0) (.atMost 0)⟩).deliver .inPlace b =
        .ok b.unextracted := by
  refine ⟨_, rfl, rfl, ?_⟩
  exact (deliver_eq_unextracted_iff _ _ _ (Schedule.accepting_atMost 511)).mpr
    ⟨rfl, .inr (.inr (.inl rfl))⟩

/-- The body over two bytes after a reader took the first loses the second, and
`Response::from_body` loses what is pending. -/
theorem not_delivered :
    (∃ b, Body.getSide.sbumpc (Body.ofBox ⟨[97, 98], .atMost 511, .atMost 511⟩) = .ok (97, b) ∧
      b.unextracted = [98] ∧
      (Sink.requestSetBody ⟨.new (.atMost 0) (.atMost 0)⟩).deliver .moved b ≠
        .ok b.unextracted) ∧
    ∃ b, Body.filled [97] [98] = .ok b ∧ b.unextracted = [97, 98] ∧
      Sink.responseFromBody.deliver .inPlace b ≠ .ok b.unextracted := by
  refine ⟨⟨_, rfl, rfl, fun h => ?_⟩, ⟨_, rfl, rfl, fun h => ?_⟩⟩
  · have hlost : (Except.ok [] : Except Abort (List UInt8)) = .ok [98] := h
    cases hlost
  · have hlost : (Except.ok [97] : Except Abort (List UInt8)) = .ok [97, 98] := h
    cases hlost

end ComputeSdk
