import ComputeSdk.Verification.Body.Handover

/-! # Moving a body on

A body that is moved once more before it is flushed. The move writes out what is pending
whatever the state of the stream, the flush only if it is good. -/

namespace ComputeSdk

open Shared

namespace Writer

/-- A turn that goes on has brought the host a part of what is pending. -/
theorem overflowBody_inl (w : Writer) {bod bod' : HostBody} {pos pos' : ℕ}
    (h : w.overflowBody (bod, pos) = .inl (bod', pos')) :
    ∃ k, bod'.content = bod.content ++ (w.pending.drop pos).take k ∧
      bod.writes 0 = .ok k ∧ k ≠ 0 ∧ pos < w.pending.length := by
  simp only [overflowBody, pending_drop] at h
  split at h
  · rename_i hpos
    cases hk : bod.writes 0 with
    | error e => simp [HostBody.write, hk] at h
    | ok k =>
        rw [HostBody.write_of_ok hk] at h
        simp only at h
        split at h
        · cases h
        · rename_i hwritten
          obtain ⟨rfl, -⟩ := Prod.mk.inj (Sum.inl.inj h)
          refine ⟨k, rfl, rfl, ?_, ?_⟩
          · rintro rfl
            exact hwritten (Nat.zero_min _)
          · rw [pending, Area.length_before]
            exact hpos
  · cases h

/-- The last turn brings the host nothing: nothing is left, or the host takes none of it. -/
theorem overflowBody_inr (w : Writer) {bod : HostBody} {pos : ℕ} {p : Bool × HostBody}
    (h : w.overflowBody (bod, pos) = .inr (.ok p)) :
    p.2.content = bod.content ∧ (w.pending.drop pos = [] ∨ bod.writes 0 = .ok 0) := by
  simp only [overflowBody, pending_drop] at h
  split at h
  · cases hk : bod.writes 0 with
    | error e => simp [HostBody.write, hk] at h
    | ok k =>
        rw [HostBody.write_of_ok hk] at h
        simp only at h
        split at h
        · rename_i hwritten
          obtain rfl := Except.ok.inj (Sum.inr.inj h)
          rcases Nat.min_eq_zero_iff.mp hwritten with rfl | hnil
          · exact ⟨List.append_nil _, .inr rfl⟩
          · have hdrop := List.length_eq_zero_iff.mp hnil
            exact ⟨by simp only [hdrop, List.take_nil, List.append_nil], .inl hdrop⟩
        · cases h
  · rename_i hpos
    obtain rfl := Except.ok.inj (Sum.inr.inj h)
    refine ⟨rfl, .inl (List.drop_eq_nil_of_le ?_)⟩
    rw [pending, Area.length_before]
    exact Nat.le_of_not_lt hpos

theorem overflowLoop_prefix (w : Writer) (s : HostBody × ℕ) :
    ∀ p, w.overflowLoop.run s = .ok p → s.1.content <+: p.2.content := by
  apply w.overflowLoop.run_induction
    (motive := fun s result => ∀ p, result = .ok p → s.1.content <+: p.2.content)
  case leave =>
    rintro ⟨bod, pos⟩ result hbody p rfl
    rw [(w.overflowBody_inr hbody).1]
  case turn =>
    rintro ⟨bod, pos⟩ ⟨bod', pos'⟩ hbody ih p hp
    obtain ⟨k, hcontent, -⟩ := w.overflowBody_inl hbody
    refine List.IsPrefix.trans ?_ (ih p hp)
    rw [hcontent]
    exact List.prefix_append _ _

/-- The write loop brings the host nothing exactly if nothing is pending, or the host takes
nothing of it. -/
theorem overflowLoop_content_iff (w : Writer) {p : Bool × HostBody}
    (h : w.overflowLoop.run (w.bod, 0) = .ok p) :
    p.2.content = w.bod.content ↔ w.pending = [] ∨ w.bod.writes 0 = .ok 0 := by
  cases hbody : w.overflowBody (w.bod, 0) with
  | inl s =>
      obtain ⟨k, hcontent, hk, hne, hpos⟩ := w.overflowBody_inl hbody
      rw [w.overflowLoop.run_of_inl (s := (w.bod, 0)) hbody] at h
      have hprefix := (w.overflowLoop_prefix s p h).length_le
      rw [hcontent, List.drop_zero, List.length_append, List.length_take] at hprefix
      refine iff_of_false (fun hsame => ?_) ?_
      · rw [hsame] at hprefix
        omega
      · rintro (hnil | hzero)
        · rw [hnil] at hpos
          exact absurd hpos (Nat.lt_irrefl 0)
        · exact hne (Except.ok.inj (hk.symm.trans hzero))
  | inr result =>
      rw [w.overflowLoop.run_of_inr (s := (w.bod, 0)) hbody] at h
      subst h
      obtain ⟨hsame, hend⟩ := w.overflowBody_inr hbody
      exact iff_of_true hsame hend

theorem sync_bod {w v : Writer} {r : ℤ} (h : w.sync = .ok (r, v)) :
    ∃ b, w.overflowLoop.run (w.bod, 0) = .ok (b, v.bod) := by
  simp only [sync, overflow] at h
  cases hrun : w.overflowLoop.run (w.bod, 0) with
  | error e => simp [hrun] at h
  | ok p =>
      obtain ⟨_ | _, bod⟩ := p
      · simp only [hrun] at h
        obtain ⟨-, rfl⟩ := Prod.mk.inj (Except.ok.inj h)
        exact ⟨false, rfl⟩
      · simp only [hrun] at h
        obtain ⟨-, rfl⟩ := Prod.mk.inj (Except.ok.inj h)
        exact ⟨true, by rw [bod_restart]⟩

theorem flush_of_sync {w v : Writer} {r : ℤ} (hgood : w.rdstate.good)
    (h : w.sync = .ok (r, v)) : ∃ v', w.flush = .ok v' ∧ v'.bod = v.bod := by
  rw [flush, if_pos hgood, h]
  by_cases hr : r = -1
  · exact ⟨_, if_pos hr, rfl⟩
  · exact ⟨v, if_neg hr, rfl⟩

end Writer

namespace Body

/-- A move of the body before it is flushed makes no difference to the host: the flush would
bring it the same, or the move brings it nothing. -/
def MoveIdle (b : Body) : Prop :=
  b.rdstate.good ∨ b.pending = [] ∨ b.bod.writes 0 = .ok 0

instance (b : Body) : Decidable b.MoveIdle := inferInstanceAs (Decidable (_ ∨ _ ∨ _))

/-- A body that is moved first and then flushed could also be flushed right away. -/
theorem flush_of_move {b f : Body} (h : b.move.bind flush = .ok f) :
    ∃ f', b.flush = .ok f' ∧ (f.bod.content = f'.bod.content ↔ b.MoveIdle) := by
  cases hsync : b.toWriter.sync with
  | error e =>
      simp only [move, Writer.move, hsync] at h
      cases h
  | ok p =>
      obtain ⟨r, w⟩ := p
      -- the move leaves nothing for the flush after it
      have hmove : b.move = .ok ⟨⟨w.bod, w.pbuf.reset, IoState.goodbit⟩, b.gbuf⟩ := by
        simp only [move, Writer.move, hsync]
      obtain ⟨m, hflush, hbod⟩ :=
        flush_of_moved (b := ⟨⟨w.bod, w.pbuf.reset, IoState.goodbit⟩, b.gbuf⟩) rfl
      rw [hmove] at h
      obtain rfl := Except.ok.inj (hflush.symm.trans h)
      rw [hbod]
      by_cases hgood : b.rdstate.good
      · obtain ⟨v, hv, hvbod⟩ := Writer.flush_of_sync hgood hsync
        refine ⟨{ b with toWriter := v }, by simp only [flush, hv, Except.map], ?_⟩
        exact iff_of_true (congrArg HostBody.content hvbod.symm) (.inl hgood)
      · obtain ⟨ok, hrun⟩ := Writer.sync_bod hsync
        refine ⟨b, by simp [flush, Writer.flush, hgood, Except.map], ?_⟩
        rw [b.toWriter.overflowLoop_content_iff hrun, MoveIdle, or_iff_right hgood]

end Body

end ComputeSdk
