import ComputeSdk.Verification.Body.Order

/-! # Writing to a host that may refuse

The host may answer a write with 0. An `overflow` that meets this answer reports the end of
file and leaves the put area as it is, whatever part of it was already written. -/

namespace ComputeSdk

open Shared

namespace Schedule

/-- No call fails, but a call may move nothing. -/
def Answering (s : Schedule) : Prop := ∀ i, ∃ k, s i = .ok k

theorem Answering.rest {s : Schedule} (h : s.Answering) : s.rest.Answering :=
  fun i => h (i + 1)

/-- The most bytes that the first `i` calls move. -/
def total : ℕ → Schedule → ℕ
  | 0, _ => 0
  | i + 1, s => s.first + total i s.rest

/-- Writing `len` bytes, a part at each call, meets the answer 0. -/
def Refuses (s : Schedule) (len : ℕ) : Prop := ∃ i, s i = .ok 0 ∧ s.total i < len

theorem not_refuses_zero (s : Schedule) : ¬ s.Refuses 0 :=
  fun ⟨_, _, h⟩ => Nat.not_lt_zero _ h

theorem refuses_of_zero {s : Schedule} {len : ℕ} (h : s 0 = .ok 0) (hlen : 0 < len) :
    s.Refuses len := ⟨0, h, hlen⟩

theorem refuses_of_ok {s : Schedule} {len k : ℕ} (h : s 0 = .ok k) (hk : k ≠ 0) :
    s.Refuses len ↔ s.rest.Refuses (len - k) := by
  have hfirst : s.first = k := by simp only [first, h]
  constructor
  · rintro ⟨i, hi, hlt⟩
    cases i with
    | zero =>
        rw [h] at hi
        exact absurd (Except.ok.inj hi) hk
    | succ i =>
        rw [total, hfirst] at hlt
        exact ⟨i, hi, by omega⟩
  · rintro ⟨i, hi, hlt⟩
    refine ⟨i + 1, hi, ?_⟩
    rw [total, hfirst]
    omega

/-- The schedule that moves the given numbers of bytes, then at most 512 at each call. -/
def starting : List ℕ → Schedule
  | [], _ => .ok 512
  | k :: _, 0 => .ok k
  | _ :: ks, i + 1 => starting ks i

theorem answering_starting (ks : List ℕ) : (starting ks).Answering := by
  induction ks with
  | nil => exact fun _ => ⟨512, rfl⟩
  | cons k ks ih =>
      intro i
      cases i with
      | zero => exact ⟨k, rfl⟩
      | succ i => exact ih i

end Schedule

/-- `b'` is `b` after the bytes `xs` were written to it. -/
structure HostBody.Received (b b' : HostBody) (xs : List UInt8) : Prop where
  content : b'.content = b.content ++ xs
  reads : b'.reads = b.reads
  answering : b'.writes.Answering

namespace HostBody

theorem Received.refl {b : HostBody} (h : b.writes.Answering) : Received b b [] :=
  ⟨(List.append_nil _).symm, rfl, h⟩

theorem Received.trans {b b' b'' : HostBody} {xs ys : List UInt8} (h : Received b b' xs)
    (h' : Received b' b'' ys) : Received b b'' (xs ++ ys) :=
  ⟨by rw [h'.content, h.content, List.append_assoc], h'.reads.trans h.reads, h'.answering⟩

theorem write_of_answering {b : HostBody} (h : b.writes.Answering) (bytes : List UInt8) :
    ∃ k b', b.writes 0 = .ok k ∧ b'.writes = b.writes.rest ∧ Received b b' (bytes.take k) ∧
      b.write bytes = (.ok (min k bytes.length), b') := by
  obtain ⟨k, hk⟩ := h 0
  exact ⟨k, { b with content := b.content ++ bytes.take k, writes := b.writes.rest }, hk, rfl,
    ⟨rfl, rfl, h.rest⟩, write_of_ok hk⟩

end HostBody

namespace Writer

/-! ## The write loop -/

/-- Writing out the put area meets the answer 0. -/
def Refused (w : Writer) : Prop := w.bod.writes.Refuses w.pending.length

/-- Writing out the put area meets the answer 0, but not at once. -/
def Divided (w : Writer) : Prop := w.bod.writes 0 ≠ .ok 0 ∧ w.Refused

/-- The ways to leave the loop in `overflow`: with everything written, or at an answer 0
after `n` bytes. -/
inductive LoopEnd (w : Writer) (bod : HostBody) (pos : ℕ) :
    Except Abort (Bool × HostBody) → Prop where
  | done {bod' : HostBody} (h : ¬ bod.writes.Refuses (w.pbuf.next - pos))
      (received : bod.Received bod' (w.pending.drop pos)) : LoopEnd w bod pos (.ok (true, bod'))
  | refused {bod' : HostBody} {n : ℕ} (h : bod.writes.Refuses (w.pbuf.next - pos))
      (hn : n < w.pbuf.next - pos) (hzero : n = 0 ↔ bod.writes 0 = .ok 0)
      (received : bod.Received bod' ((w.pending.drop pos).take n)) :
      LoopEnd w bod pos (.ok (false, bod'))

/-- The ways a turn of the loop can go. -/
inductive LoopTurn (w : Writer) (bod : HostBody) (pos : ℕ) :
    (HostBody × ℕ) ⊕ Except Abort (Bool × HostBody) → Prop where
  | done (h : ¬ pos < w.pbuf.next) : LoopTurn w bod pos (.inr (.ok (true, bod)))
  | refused {bod' : HostBody} (h : pos < w.pbuf.next) (hk : bod.writes 0 = .ok 0)
      (received : bod.Received bod' []) : LoopTurn w bod pos (.inr (.ok (false, bod')))
  | write {bod' : HostBody} {k : ℕ} (h : pos < w.pbuf.next) (hk : bod.writes 0 = .ok k)
      (hpos : k ≠ 0) (hrest : bod'.writes = bod.writes.rest)
      (received : bod.Received bod' ((w.pending.drop pos).take k)) :
      LoopTurn w bod pos (.inl (bod', pos + min k (w.pbuf.next - pos)))

theorem loopTurn (w : Writer) {bod : HostBody} (pos : ℕ) (h : bod.writes.Answering) :
    LoopTurn w bod pos (w.overflowBody (bod, pos)) := by
  by_cases hpos : pos < w.pbuf.next
  · obtain ⟨k, bod', hk, hrest, received, hwrite⟩ :=
      HostBody.write_of_answering h (w.pending.drop pos)
    have hlen : (w.pending.drop pos).length = w.pbuf.next - pos := by
      rw [List.length_drop, pending, Area.length_before]
    rw [hlen] at hwrite
    by_cases hzero : k = 0
    · subst hzero
      have hturn : w.overflowBody (bod, pos) = .inr (.ok (false, bod')) := by
        simp [overflowBody, hpos, pending_drop, hwrite]
      rw [hturn]
      exact .refused hpos hk received
    · have hne : min k (w.pbuf.next - pos) ≠ 0 := by omega
      have hturn : w.overflowBody (bod, pos) =
          .inl (bod', pos + min k (w.pbuf.next - pos)) := by
        simp only [overflowBody, if_pos hpos, pending_drop, hwrite, if_neg hne]
      rw [hturn]
      exact .write hpos hk hzero hrest received
  · have hturn : w.overflowBody (bod, pos) = .inr (.ok (true, bod)) := by
      simp only [overflowBody, if_neg hpos]
    rw [hturn]
    exact .done hpos

theorem loopEnd (w : Writer) {bod : HostBody} (pos : ℕ) (h : bod.writes.Answering) :
    LoopEnd w bod pos (w.overflowLoop.run (bod, pos)) := by
  have main := w.overflowLoop.run_induction
    (motive := fun s result => s.1.writes.Answering → LoopEnd w s.1 s.2 result)
    ?leave ?turn (bod, pos)
  · exact main h
  case leave =>
    rintro ⟨bod, pos⟩ result hbody h
    have hturn := w.loopTurn pos h
    rw [show w.overflowBody (bod, pos) = .inr result from hbody] at hturn
    cases hturn with
    | done hpos =>
        refine .done ?_ ?_
        · rw [Nat.sub_eq_zero_of_le (Nat.le_of_not_lt hpos)]
          exact bod.writes.not_refuses_zero
        · rw [List.drop_eq_nil_of_le]
          · exact .refl h
          · rw [pending, Area.length_before]
            exact Nat.le_of_not_lt hpos
    | refused hpos hk received =>
        exact .refused (n := 0) (Schedule.refuses_of_zero hk (Nat.sub_pos_of_lt hpos))
          (Nat.sub_pos_of_lt hpos) (iff_of_true rfl hk) received
  case turn =>
    rintro ⟨bod, pos⟩ s hbody ih h
    have hturn := w.loopTurn pos h
    rw [show w.overflowBody (bod, pos) = .inl s from hbody] at hturn
    cases hturn with
    | @write bod' k hpos hk hzero hrest received =>
        have hlen : (w.pending.drop pos).length = w.pbuf.next - pos := by
          rw [List.length_drop, pending, Area.length_before]
        have hrefuses : bod.writes.Refuses (w.pbuf.next - pos) ↔
            bod'.writes.Refuses (w.pbuf.next - (pos + min k (w.pbuf.next - pos))) := by
          rw [Schedule.refuses_of_ok hk hzero, hrest]
          congr! 1
          omega
        have htake : (w.pending.drop pos).take k =
            (w.pending.drop pos).take (min k (w.pbuf.next - pos)) := by
          rw [← hlen, ← List.take_take, List.take_length]
        rw [htake] at received
        have hend := ih received.answering
        generalize w.overflowLoop.run (bod', pos + min k (w.pbuf.next - pos)) = result at hend ⊢
        cases hend with
        | done hdone received' =>
            refine .done (mt hrefuses.mp hdone) ?_
            rw [← List.take_append_drop (min k (w.pbuf.next - pos)) (w.pending.drop pos),
              List.drop_drop]
            exact received.trans received'
        | @refused bod'' n hrefused hn hzero' received' =>
            refine .refused (n := min k (w.pbuf.next - pos) + n) (hrefuses.mpr hrefused)
              (by omega) (iff_of_false (by omega) ?_) ?_
            · rw [hk]
              exact fun h => hzero (Except.ok.inj h)
            · rw [List.take_add, List.drop_drop]
              exact received.trans received'

/-! ## One operation -/

/-- What the host has received and what is still pending. -/
def held (w : Writer) : List UInt8 := w.bod.content ++ w.pending

/-- The ways that `overflow` can end. -/
inductive Overflowed (w : Writer) (val : ℤ) : ℤ × Writer → Prop where
  | done {w' : Writer} (h : ¬ w.Refused) (received : w.bod.Received w'.bod w.pending)
      (hpending : w'.pending = if val = eof then [] else [toCharType val])
      (hstate : w'.rdstate = w.rdstate) : Overflowed w val (notEof val, w')
  | refused {bod' : HostBody} {n : ℕ} (h : w.Refused) (hn : n < w.pending.length)
      (hzero : n = 0 ↔ w.bod.writes 0 = .ok 0)
      (received : w.bod.Received bod' (w.pending.take n)) :
      Overflowed w val (eof, { w with bod := bod' })

theorem overflowed {w : Writer} (h : w.bod.writes.Answering) (val : ℤ) :
    ∃ p, w.overflow val = .ok p ∧ Overflowed w val p := by
  have hlen : w.pending.length = w.pbuf.next := w.pbuf.length_before
  have hend := w.loopEnd 0 h
  generalize hrun : w.overflowLoop.run (w.bod, 0) = result at hend
  cases hend with
  | @done bod' hdone received =>
      refine ⟨(notEof val, restart val { w with bod := bod' }), by simp only [overflow, hrun],
        .done ?_ ?_ (pending_restart _ _) (rdstate_restart _ _)⟩
      · rwa [Refused, hlen]
      · rwa [bod_restart]
  | @refused bod' n hrefused hn hzero received =>
      refine ⟨(eof, { w with bod := bod' }), by simp only [overflow, hrun],
        .refused ?_ ?_ hzero received⟩
      · rwa [Refused, hlen]
      · rwa [hlen]

/-- `w'` is `w` after a call that put the bytes `xs`. Nothing is lost or doubled exactly
under the condition `whole`. -/
structure Attempted (w w' : Writer) (xs : List UInt8) (whole : Prop) : Prop where
  answering : w'.bod.writes.Answering
  grows : w.bod.content <+: w'.bod.content
  held_iff : w'.held = w.held ++ xs ↔ whole

/-- After an `overflow` that stops, the put area holds again what was written of it. -/
theorem held_of_refused {w : Writer} {bod' : HostBody} {n : ℕ} (hn : n < w.pending.length)
    (received : w.bod.Received bod' (w.pending.take n)) :
    { w with bod := bod' }.held = w.held ++ [] ↔ n = 0 := by
  simp only [held, pending, received.content, List.append_nil] at hn ⊢
  constructor
  · intro h
    have hlen := congrArg List.length h
    simp only [List.length_append, List.length_take] at hlen
    omega
  · rintro rfl
    rw [List.take_zero, List.append_nil]

/-- An `overflow` with no character to put. -/
theorem Overflowed.attempted {w w' : Writer} {r : ℤ} (h : Overflowed w eof (r, w')) :
    Attempted w w' [] (¬ w.Divided) ∧ (w'.bod.content = w.held ↔ ¬ w.Refused) := by
  cases h with
  | done hdone received hpending _ =>
      rw [if_pos rfl] at hpending
      refine ⟨⟨received.answering, ?_, iff_of_true ?_ (fun hd => hdone hd.2)⟩,
        iff_of_true received.content hdone⟩
      · rw [received.content]
        exact List.prefix_append _ _
      · simp only [held, received.content, hpending, List.append_nil]
  | refused hrefused hn hzero received =>
      refine ⟨⟨received.answering, ?_, ?_⟩, iff_of_false ?_ (not_not_intro hrefused)⟩
      · rw [received.content]
        exact List.prefix_append _ _
      · rw [held_of_refused hn received, hzero, Divided, and_iff_left hrefused, not_not]
      · intro hsame
        have hlen := congrArg List.length hsame
        rw [held, received.content] at hlen
        simp only [List.length_append, List.length_take] at hlen
        omega

theorem sync_attempted {w : Writer} (h : w.bod.writes.Answering) :
    ∃ r w', w.sync = .ok (r, w') ∧ Attempted w w' [] (¬ w.Divided) ∧
      (w'.bod.content = w.held ↔ ¬ w.Refused) := by
  obtain ⟨⟨r, w'⟩, hover, hcases⟩ := overflowed h eof
  exact ⟨if r = eof then -1 else 0, w', by simp only [sync, hover], hcases.attempted⟩

/-- A flush delivers what is pending. -/
def FlushDelivers (w : Writer) : Prop :=
  w.pending = [] ∨ w.rdstate.good ∧ ¬ w.Refused

theorem not_refused_of_pending_nil {w : Writer} (h : w.pending = []) : ¬ w.Refused := by
  rw [Refused, h]
  exact w.bod.writes.not_refuses_zero

theorem flush_attempted {w : Writer} (h : w.bod.writes.Answering) :
    ∃ w', w.flush = .ok w' ∧ Attempted w w' [] (w.rdstate.good → ¬ w.Divided) ∧
      (w'.bod.content = w.held ↔ w.FlushDelivers) := by
  by_cases hgood : w.rdstate.good
  · obtain ⟨r, w', hsync, hattempt, hcontent⟩ := sync_attempted h
    have hwhole : w'.held = w.held ++ [] ↔ (w.rdstate.good → ¬ w.Divided) := by
      rw [hattempt.held_iff]
      exact ⟨fun hd _ => hd, fun hd => hd hgood⟩
    have hdelivers : w'.bod.content = w.held ↔ w.FlushDelivers := by
      rw [hcontent, FlushDelivers, and_iff_right hgood]
      exact ⟨.inr, fun hor => hor.elim not_refused_of_pending_nil id⟩
    by_cases hfail : r = -1
    · refine ⟨{ w' with rdstate := { w'.rdstate with badbit := true } }, ?_,
        ⟨hattempt.answering, hattempt.grows, hwhole⟩, hdelivers⟩
      simp only [flush, if_pos hgood, hsync, if_pos hfail]
    · refine ⟨w', ?_, ⟨hattempt.answering, hattempt.grows, hwhole⟩, hdelivers⟩
      simp only [flush, if_pos hgood, hsync, if_neg hfail]
  · refine ⟨w, by simp only [flush, if_neg hgood], ⟨h, List.prefix_rfl, ?_⟩, ?_⟩
    · exact iff_of_true (List.append_nil _).symm (fun hg => absurd hg hgood)
    · rw [held, List.self_eq_append_right, FlushDelivers]
      exact ⟨.inl, fun hor => hor.elim id fun hg => absurd hg.1 hgood⟩

/-- The put area is emptied by a move, also where the `sync` in it was refused. -/
theorem move_attempted {w : Writer} (h : w.bod.writes.Answering) :
    ∃ w', w.move = .ok w' ∧ Attempted w w' [] (¬ w.Refused) := by
  obtain ⟨⟨r, w₁⟩, hover, hcases⟩ := overflowed h eof
  have hmove : w.move = .ok ⟨w₁.bod, w₁.pbuf.reset, IoState.goodbit⟩ := by
    simp only [move, sync, hover]
  refine ⟨⟨w₁.bod, w₁.pbuf.reset, IoState.goodbit⟩, hmove, ?_⟩
  have hpending : pending ⟨w₁.bod, w₁.pbuf.reset, IoState.goodbit⟩ = [] := rfl
  cases hcases with
  | done hdone received _ _ =>
      refine ⟨received.answering, ?_, iff_of_true ?_ hdone⟩
      · rw [received.content]
        exact List.prefix_append _ _
      · simp only [held, hpending, received.content, List.append_nil]
  | @refused bod' n hrefused hn hzero received =>
      refine ⟨received.answering, ?_, iff_of_false ?_ (not_not_intro hrefused)⟩
      · rw [received.content]
        exact List.prefix_append _ _
      · intro hsame
        have hlen := congrArg List.length hsame
        rw [held, hpending, held, received.content] at hlen
        simp only [List.length_append, List.length_take, List.length_nil] at hlen
        omega

/-! ## Insertion -/

theorem Attempted.put {w w₁ w' : Writer} {c : UInt8} {xs : List UInt8} {whole : Prop}
    (h : Attempted w₁ w' xs whole) (hgrows : w.bod.content <+: w₁.bod.content)
    (hheld : w₁.held = w.held ++ [c]) : Attempted w w' (c :: xs) whole where
  answering := h.answering
  grows := hgrows.trans h.grows
  held_iff := by rw [← h.held_iff, hheld, List.append_assoc, List.singleton_append]

theorem xsputn_attempted (cs : List UInt8) {w : Writer} (h : w.bod.writes.Answering) :
    ∃ n w', putSide.xsputn cs w = .ok (n, w') ∧
      Attempted w w' (cs.take n) (∀ v ∈ putSide.overflows cs w, ¬ v.Divided) ∧
      ((∀ v ∈ putSide.overflows cs w, ¬ v.Refused) → n = cs.length) := by
  induction cs generalizing w with
  | nil => exact ⟨0, w, rfl, ⟨h, List.prefix_rfl, by simp [PutSide.overflows]⟩, fun _ => rfl⟩
  | cons c cs ih =>
      by_cases hlt : w.pbuf.next < w.pbuf.limit
      · have hstore : putSide.store c w = some { w with pbuf := w.pbuf.put c hlt } := by
          simp only [putSide, store, dif_pos hlt]
        obtain ⟨n, w', hrun, hattempt, hall⟩ := ih (w := { w with pbuf := w.pbuf.put c hlt }) h
        refine ⟨n + 1, w', ?_, ?_, ?_⟩
        · rw [putSide.xsputn_of_store cs hstore, hrun]
          rfl
        · rw [List.take_succ_cons, putSide.overflows_of_store cs hstore]
          refine hattempt.put List.prefix_rfl ?_
          simp only [held, pending, Area.before_put, List.append_assoc]
        · rw [putSide.overflows_of_store cs hstore, List.length_cons]
          exact fun hno => congrArg (· + 1) (hall hno)
      · have hstore : putSide.store c w = none := by
          simp only [putSide, store, dif_neg hlt]
        obtain ⟨⟨r, w₁⟩, hover, hcases⟩ := overflowed h (toIntType c)
        cases hcases with
        | done hdone received hpending _ =>
            rw [if_neg (toIntType_ne_eof c), toCharType_toIntType] at hpending
            obtain ⟨n, w', hrun, hattempt, hall⟩ := ih received.answering
            have hlist := putSide.overflows_of_overflow cs hstore hover
              (notEof_ne_eof (toIntType c))
            refine ⟨n + 1, w', ?_, ?_, ?_⟩
            · rw [putSide.xsputn_of_overflow cs hstore hover (notEof_ne_eof _), hrun]
              rfl
            · rw [hlist, List.take_succ_cons, List.forall_mem_cons,
                and_iff_right (fun hd => hdone hd.2 : ¬ w.Divided)]
              refine hattempt.put ?_ ?_
              · rw [received.content]
                exact List.prefix_append _ _
              · rw [held, held, received.content, hpending]
            · rw [hlist, List.forall_mem_cons, List.length_cons]
              exact fun hno => congrArg (· + 1) (hall hno.2)
        | @refused bod' n hrefused hn hzero received =>
            have hlist := putSide.overflows_of_eof cs hstore hover
            refine ⟨0, _, putSide.xsputn_of_eof cs hstore hover, ⟨received.answering, ?_, ?_⟩,
              fun hno => ?_⟩
            · rw [received.content]
              exact List.prefix_append _ _
            · rw [List.take_zero, held_of_refused hn received, hzero, hlist,
                List.forall_mem_singleton, Divided, and_iff_left hrefused, not_not]
            · rw [hlist, List.forall_mem_singleton] at hno
              exact absurd hrefused hno

/-- What `operator<<` puts of `s`: the characters that the stream buffer takes. -/
def taken (s : List UInt8) (w : Writer) : List UInt8 :=
  if w.rdstate.good then
    match putSide.xsputn s w with
    | .error _ => []
    | .ok (n, _) => s.take n
  else []

theorem insert_attempted (s : List UInt8) {w : Writer} (h : w.bod.writes.Answering) :
    ∃ w', w.insert s = .ok w' ∧
      Attempted w w' (w.taken s)
        (w.rdstate.good → ∀ v ∈ putSide.overflows s w, ¬ v.Divided) ∧
      (w.rdstate.good → (∀ v ∈ putSide.overflows s w, ¬ v.Refused) → w.taken s = s) := by
  by_cases hgood : w.rdstate.good
  · obtain ⟨n, w', hrun, hattempt, hall⟩ := xsputn_attempted s h
    have htaken : w.taken s = s.take n := by
      simp only [taken, if_pos hgood, hrun]
    have hwhole : w'.held = w.held ++ w.taken s ↔
        (w.rdstate.good → ∀ v ∈ putSide.overflows s w, ¬ v.Divided) := by
      rw [htaken, hattempt.held_iff]
      exact ⟨fun hd _ => hd, fun hd => hd hgood⟩
    have hfull : w.rdstate.good → (∀ v ∈ putSide.overflows s w, ¬ v.Refused) →
        w.taken s = s := by
      intro _ hno
      rw [htaken, hall hno, List.take_length]
    by_cases hn : n = s.length
    · refine ⟨w', ?_, ⟨hattempt.answering, hattempt.grows, hwhole⟩, hfull⟩
      simp only [insert, if_pos hgood, hrun, if_pos hn]
    · refine ⟨{ w' with rdstate := { w'.rdstate with failbit := true, badbit := true } }, ?_,
        ⟨hattempt.answering, hattempt.grows, hwhole⟩, hfull⟩
      simp only [insert, if_pos hgood, hrun, if_neg hn]
  · refine ⟨w, by simp only [insert, if_neg hgood], ⟨h, List.prefix_rfl, iff_of_true ?_ ?_⟩,
      fun hg => absurd hg hgood⟩
    · rw [taken, if_neg hgood, List.append_nil]
    · exact fun hg => absurd hg hgood

end Writer

end ComputeSdk
