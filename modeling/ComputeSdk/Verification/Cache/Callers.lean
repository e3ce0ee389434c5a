import ComputeSdk.Verification.Cache.SharedHost

/-! # What the clients of one host know

An answer tells its client what is so, leaves the others as they are, and is the point at which
an operation takes effect, or none. -/

namespace ComputeSdk

open Shared

namespace SharedHost

variable {ι : Type}

/-- What client `i` knows of its own handles, closure and obligation is right. -/
structure Knows (e : SharedHost ι) (i : ι) (s : Caller) : Prop where
  began : s.phase ≠ .new → e.began i = true
  runs : e.runs i = s.runs
  ran : s.phase ≠ .settled → s.runs = s.phase.runs
  key : ∀ use h opened, e.handle i use h = some opened → opened.key = s.op.key
  state : ∀ h, s.handle = some h →
    ∃ opened, e.handle i .lookup h = some opened ∧ opened.state = s.state
  obliged : s.phase = .looked ∧ Region.Obliges s.state ∨ s.phase = .running →
    ∃ h, e.slot s.op.key = .obliged i h

/-- The view that client `i` has is right. -/
structure Agrees (e : SharedHost ι) (i : ι) (s : Caller) : Prop extends Knows e i s where
  pending : s.phase ≠ .settled → s.took = none
  took : ∀ bytes n, s.took = some (.ok (some bytes), n) → e.stored s.op.key = some bytes

theorem agrees_stock (M : FirstWriteMap) (i : ι) (op : SimpleOp) :
    (stock M).Agrees i { op := op } :=
  ⟨⟨by simp, rfl, fun _ => rfl, by simp [stock], by simp, by simp⟩, fun _ => rfl, by simp⟩

/-- Client `j` does not notice what others do. -/
structure Unnoticed (e e' : SharedHost ι) (j : ι) : Prop where
  handle : e'.handle j = e.handle j
  began : e'.began j = e.began j
  runs : e'.runs j = e.runs j
  obliged : ∀ key h, e.slot key = .obliged j h → e'.slot key = .obliged j h

/-- What others may do while client `j` is not looking. -/
structure Frame (e e' : SharedHost ι) (j : ι) : Prop extends Unnoticed e e' j where
  stored : ∀ key bytes, e.stored key = some bytes → e'.stored key = some bytes

variable {e e' : SharedHost ι} {i j : ι} {s : Caller}

theorem Unnoticed.refl (e : SharedHost ι) (j : ι) : Unnoticed e e j :=
  ⟨rfl, rfl, rfl, fun _ _ => id⟩

theorem Unnoticed.trans {e'' : SharedHost ι} (h : Unnoticed e e' j) (h' : Unnoticed e' e'' j) :
    Unnoticed e e'' j :=
  ⟨h'.handle.trans h.handle, h'.began.trans h.began, h'.runs.trans h.runs,
    fun key k hk => h'.obliged key k (h.obliged key k hk)⟩

/-- What leaves the complete items as they are. -/
theorem Unnoticed.frame (h : Unnoticed e e' j) (hstored : e'.stored = e.stored) : Frame e e' j :=
  ⟨h, fun _ _ => by rw [hstored]; exact id⟩

theorem Frame.refl (e : SharedHost ι) (j : ι) : Frame e e j := (Unnoticed.refl e j).frame rfl

theorem Frame.trans {e'' : SharedHost ι} (h : Frame e e' j) (h' : Frame e' e'' j) : Frame e e'' j :=
  ⟨h.toUnnoticed.trans h'.toUnnoticed,
    fun key bytes hk => h'.stored key bytes (h.stored key bytes hk)⟩

theorem Knows.frame (hk : e.Knows j s) (hu : Unnoticed e e' j) : e'.Knows j s where
  began hs := hu.began.trans (hk.began hs)
  runs := hu.runs.trans hk.runs
  ran := hk.ran
  key use h opened hopened := hk.key use h opened (by rwa [← hu.handle])
  state h hs := by
    rw [hu.handle]
    exact hk.state h hs
  obliged hs := by
    obtain ⟨h, hslot⟩ := hk.obliged hs
    exact ⟨h, hu.obliged _ _ hslot⟩

theorem Agrees.frame (ha : e.Agrees j s) (hf : Frame e e' j) : e'.Agrees j s :=
  ⟨ha.toKnows.frame hf.toUnnoticed, ha.pending,
    fun bytes n hs => hf.stored _ _ (ha.took bytes n hs)⟩

/-! ## Changes of the host -/

theorem stored_put (e : SharedHost ι) (key : List UInt8) (s : Slot ι) :
    (e.put key s).stored = Function.update e.stored key s.stored := by
  funext k
  by_cases hk : k = key
  · subst hk
    simp [stored, put]
  · simp [stored, put, hk]

/-- A slot that is not complete is replaced by another such slot. -/
theorem stored_put_of_none {key : List UInt8} {s : Slot ι} (h : (e.slot key).stored = none)
    (hs : s.stored = none) : (e.put key s).stored = e.stored := by
  rw [stored_put, hs]
  exact Function.update_eq_self_iff.mpr h.symm

/-- A slot is changed, and no obligation of `j` with it. -/
theorem Unnoticed.put {key : List UInt8} (s : Slot ι) (hobliged : ∀ h, e.slot key ≠ .obliged j h) :
    Unnoticed e (e.put key s) j := by
  refine ⟨rfl, rfl, rfl, fun k h hk => ?_⟩
  have hne : k ≠ key := by
    rintro rfl
    exact hobliged h hk
  exact (Function.update_of_ne hne _ _).trans hk

/-- A slot is changed that is not complete. -/
theorem Frame.put {key : List UInt8} {s : Slot ι} (hstored : (e.slot key).stored = none)
    (hobliged : ∀ h, e.slot key ≠ .obliged j h) : Frame e (e.put key s) j := by
  refine ⟨.put s hobliged, fun k bytes hk => ?_⟩
  have hne : k ≠ key := by
    rintro rfl
    exact Option.some_ne_none bytes (hk.symm.trans hstored)
  rw [stored_put, Function.update_of_ne hne]
  exact hk

theorem drift_spec (h : Drift e e') :
    e'.stored = e.stored ∧ ∀ j s, e.Agrees j s → e'.Agrees j s := by
  cases h with
  | @provide key i h n hslot =>
      have hopen : (e.slot key).Open n := by
        rw [hslot]
        exact .accepted i h
      exact ⟨stored_put_of_none hopen.stored rfl,
        fun j s ha => ha.frame (.put hopen.stored (hopen.not_obliged j))⟩
  | @giveUp key n hslot =>
      have hopen : (e.slot key).Open n := by
        rw [hslot]
        exact .provided
      exact ⟨stored_put_of_none hopen.stored rfl,
        fun j s ha => ha.frame (.put hopen.stored (hopen.not_obliged j))⟩

/-- The operation of a client is settled. -/
theorem Knows.take (hk : e.Knows i s) (hbegan : e.began i = true)
    (result : Except Simple.CacheError (Option (List UInt8))) : e.Knows i (s.take result) where
  began _ := hbegan
  runs := hk.runs
  ran hs := absurd rfl hs
  key := hk.key
  state := hk.state
  obliged hs := by
    rcases hs with ⟨hs, -⟩ | hs <;> cases hs

/-- The operation of a client takes effect, or the client has an outcome already. -/
theorem Agrees.take (ha : e.Agrees i s) (hbegan : e.began i = true)
    {result : Except Simple.CacheError (Option (List UInt8))}
    (hresult : ∀ bytes, result = .ok (some bytes) → e.stored s.op.key = some bytes) :
    e.Agrees i (s.take result) :=
  ⟨ha.toKnows.take hbegan result, fun hs => absurd rfl hs,
    fun bytes _ hs => hresult bytes (Prod.mk.inj (Option.some.inj hs)).1⟩

/-- The client goes on to a phase in which it has no obligation. -/
theorem Knows.goOn (hk : e.Knows i s) (hnew : s.phase ≠ .new) {phase : Phase}
    (hpending : phase ≠ .settled → s.phase ≠ .settled ∧ phase.runs = s.phase.runs)
    (hfree : phase ≠ .looked ∧ phase ≠ .running) : e.Knows i { s with phase := phase } where
  began _ := hk.began hnew
  runs := hk.runs
  ran hs := by
    rw [(hpending hs).2]
    exact hk.ran (hpending hs).1
  key := hk.key
  state := hk.state
  obliged hs := by
    rcases hs with ⟨hs, -⟩ | hs
    · exact absurd hs hfree.1
    · exact absurd hs hfree.2

theorem Agrees.goOn (ha : e.Agrees i s) (hnew : s.phase ≠ .new) {phase : Phase}
    (hpending : phase ≠ .settled → s.phase ≠ .settled ∧ phase.runs = s.phase.runs)
    (hfree : phase ≠ .looked ∧ phase ≠ .running) : e.Agrees i { s with phase := phase } :=
  ⟨ha.toKnows.goOn hnew hpending hfree, fun hs => ha.pending (hpending hs).1, ha.took⟩

/-! ## Answers -/

/-- Client `i` goes on from `s` to `t` with an answer, and the other clients do not notice. -/
structure Goes (e : SharedHost ι) (i : ι) (s : Caller) (c : HostCall) (a : c.Answer)
    (e' : SharedHost ι) (t : Caller) : Prop where
  moves : s.Moves c a t
  agrees : e'.Agrees i t
  others : ∀ j, j ≠ i → Frame e e' j
  effect : Effect FirstWriteMap.step s.op s.took e.stored t.took e'.stored
  op : t.op = s.op

variable {c : HostCall} {a : c.Answer}

/-- An answer that tells the client nothing. -/
theorem Agrees.stays (ha : e.Agrees i s) (hmoves : s.Moves c a s) : e.Goes i s c a e s :=
  ⟨hmoves, ha, fun j _ => .refl e j, .stay _ _, rfl⟩

/-- The operation takes effect with the outcome that the map gives it. -/
theorem effect_take {M M' : FirstWriteMap} (hnone : s.took = none)
    {result : Except Simple.CacheError (Option (List UInt8))} {n : ℕ} (hruns : s.runs = n)
    (hstep : FirstWriteMap.step M s.op = ((result, n), M')) :
    Effect FirstWriteMap.step s.op s.took M (s.take result).took M' := by
  have htake : Effect FirstWriteMap.step s.op none M _ _ := .take M
  rw [hstep] at htake
  rw [hnone, Caller.take, hruns]
  exact htake

/-- A stream is given once the item is complete. -/
theorem Agrees.reads (ha : e.Agrees i s)
    (hs : s.phase = .looked ∨ ∃ bytes, s.took = some (.ok (some bytes), s.runs))
    {bytes : List UInt8} (hstored : e.stored s.op.key = some bytes)
    (hmoves : s.Moves c a (s.take (.ok (some bytes)))) :
    e.Goes i s c a e (s.take (.ok (some bytes))) where
  moves := hmoves
  agrees := by
    refine ha.take (ha.began fun hnew => ?_) fun bytes' hbytes => ?_
    · rcases hs with hs | ⟨bytes, hs⟩
      · rw [hnew] at hs
        cases hs
      · rw [ha.pending (by simp [hnew])] at hs
        cases hs
    · obtain rfl := Option.some.inj (Except.ok.inj hbytes)
      exact hstored
  others j _ := .refl e j
  effect := by
    rcases hs with hs | ⟨bytes', hs⟩
    · have hruns := ha.ran (by simp [hs])
      rw [hs] at hruns
      exact effect_take (ha.pending (by simp [hs])) hruns (FirstWriteMap.step_of_some hstored)
    · have hsame : bytes' = bytes := Option.some.inj ((ha.took _ _ hs).symm.trans hstored)
      rw [hsame] at hs
      rw [hs]
      exact .stay _ _
  op := rfl

/-- A closure that returns no entry ends the operation. -/
theorem Agrees.endClosure (ha : e.Agrees i s) (hrunning : s.phase = .running)
    (hset : s.op.sets = true) (hoffer : s.op.offer = none)
    (hmoves : s.Moves c a (s.take (.error .getOrSet))) :
    e.Goes i s c a e (s.take (.error .getOrSet)) where
  moves := hmoves
  agrees := ha.take (ha.began (by simp [hrunning])) nofun
  others j _ := .refl e j
  effect := by
    have hruns := ha.ran (by simp [hrunning])
    rw [hrunning] at hruns
    obtain ⟨h, hslot⟩ := ha.obliged (.inr hrunning)
    have hstep := FirstWriteMap.step_of_none_set (M := e.stored) s.op
      (by rw [stored, hslot]; rfl) hset
    rw [hoffer] at hstep
    exact effect_take (ha.pending (by simp [hrunning])) hruns hstep
  op := rfl

/-- The insert is finished, and with it the operation takes effect. -/
theorem Agrees.finishes (ha : e.Agrees i s) (hinserted : s.phase = .inserted) {key : List UInt8}
    (hkey : key = s.op.key) {n : ℕ} (hopen : (e.slot key).Open n) {bytes : List UInt8}
    (hoffer : s.op.offer = some bytes) (hmoves : s.Moves c a (s.take (.ok (some bytes)))) :
    e.Goes i s c a (e.put key (.complete n bytes)) (s.take (.ok (some bytes))) := by
  have hframe : ∀ j, Frame e (e.put key (.complete n bytes)) j := fun j =>
    .put hopen.stored (hopen.not_obliged j)
  have hset := SimpleOp.sets_of_offer hoffer
  have hstored : (e.put key (.complete n bytes)).stored =
      Function.update e.stored s.op.key (some bytes) := by
    rw [stored_put, hkey]
    rfl
  have hruns := ha.ran (by simp [hinserted])
  rw [hinserted] at hruns
  refine ⟨hmoves, ?_, fun j _ => hframe j, ?_, rfl⟩
  · refine (ha.frame (hframe i)).take (ha.began (by simp [hinserted])) fun bytes' hbytes => ?_
    obtain rfl := Option.some.inj (Except.ok.inj hbytes)
    rw [hstored, Function.update_self]
  · have hstep := FirstWriteMap.step_of_none_set (M := e.stored) s.op
      (by rw [← hkey]; exact hopen.stored) hset
    rw [hoffer] at hstep
    rw [hstored]
    exact effect_take (ha.pending (by simp [hinserted])) hruns hstep

/-! ## Answers that change the host -/

/-- Without an obligation the client does not notice what is put. -/
theorem Knows.put (hk : e.Knows i s) (key : List UInt8) (slot : Slot ι)
    (hfree : s.phase ≠ .looked ∧ s.phase ≠ .running) : (e.put key slot).Knows i s where
  began := hk.began
  runs := hk.runs
  ran := hk.ran
  key := hk.key
  state := hk.state
  obliged hs := by
    rcases hs with ⟨hs, -⟩ | hs
    · exact absurd hs hfree.1
    · exact absurd hs hfree.2

theorem Unnoticed.advance (e : SharedHost ι) (j : ι) :
    Unnoticed e { e with next := e.next + 1 } j :=
  ⟨rfl, rfl, rfl, fun _ _ => id⟩

variable [DecidableEq ι]

theorem Unnoticed.begin (e : SharedHost ι) (hne : j ≠ i) : Unnoticed e (e.begin i) j :=
  ⟨rfl, Function.update_of_ne hne _ _, rfl, fun _ _ => id⟩

theorem Unnoticed.give (e : SharedHost ι) (use : HandleUse) (h : ℕ) (opened : Opened)
    (hne : j ≠ i) : Unnoticed e (e.give i use h opened) j :=
  ⟨Function.update_of_ne hne _ _, rfl, rfl, fun _ _ => id⟩

theorem Unnoticed.drop (e : SharedHost ι) (use : HandleUse) (h : ℕ) (hne : j ≠ i) :
    Unnoticed e (e.drop i use h) j :=
  ⟨Function.update_of_ne hne _ _, rfl, rfl, fun _ _ => id⟩

theorem Unnoticed.beginClosure (e : SharedHost ι) (hne : j ≠ i) :
    Unnoticed e (e.beginClosure i) j :=
  ⟨rfl, rfl, Function.update_of_ne hne _ _, fun _ _ => id⟩

theorem Unnoticed.look (e : SharedHost ι) (h : ℕ) (opened : Opened) (hne : j ≠ i) :
    Unnoticed e ((e.begin i).give i .lookup h opened) j :=
  (Unnoticed.begin e hne).trans (.give _ _ _ _ hne)

theorem Unnoticed.release (e : SharedHost ι) (h : ℕ) (hne : j ≠ i) :
    Unnoticed e (e.release i h) j := by
  unfold SharedHost.release
  split
  · rename_i opened _
    have hput : Unnoticed e (e.put opened.key ((e.slot opened.key).release i h)) j := by
      refine ⟨rfl, rfl, rfl, fun key k hk => ?_⟩
      by_cases hkey : key = opened.key
      · subst hkey
        refine (Function.update_self ..).trans ?_
        rw [hk, Slot.release_obliged hne]
      · exact (Function.update_of_ne hkey _ _).trans hk
    exact hput.trans (.drop _ _ _ hne)
  · exact .refl e j

/-- Others do not notice that the host accepts the insert of `i`. -/
theorem Unnoticed.accept {key : List UInt8} {h : ℕ} (hslot : e.slot key = .obliged i h)
    (b h' : ℕ) (state : UInt32) (hne : j ≠ i) :
    Unnoticed e (e.accept i h b h' key state) j := by
  have hother : ∀ k, e.slot key ≠ .obliged j k := by
    intro k hk
    rw [hslot] at hk
    cases hk
    exact hne rfl
  exact .trans (.trans (.put (.accepted i h e.next) hother) (.advance _ j))
    (.trans (.give _ _ _ _ hne) (.give _ _ _ _ hne))

theorem Knows.begin (hk : e.Knows i s) : (e.begin i).Knows i s :=
  ⟨fun _ => Function.update_self .., hk.runs, hk.ran, hk.key, hk.state, hk.obliged⟩

/-- A lookup that is refused. -/
theorem Knows.refused (hk : e.Knows i s) : (e.begin i).Knows i { s with phase := .settled } :=
  ⟨fun _ => Function.update_self .., hk.runs, fun hs => absurd rfl hs, hk.key, hk.state, by simp⟩

/-- Of the handles of a client, the new one is the only one that it did not have. -/
theorem handle_give (e : SharedHost ι) {i : ι} {use use' : HandleUse} {h h' : ℕ}
    {opened opened' : Opened} (hopened : (e.give i use h opened).handle i use' h' = some opened') :
    use' = use ∧ h' = h ∧ opened' = opened ∨ e.handle i use' h' = some opened' := by
  simp only [SharedHost.give, Function.update_self] at hopened
  by_cases huse : use' = use
  · subst huse
    rw [Function.update_self] at hopened
    by_cases hh : h' = h
    · subst hh
      rw [Function.update_self] at hopened
      exact .inl ⟨rfl, rfl, (Option.some.inj hopened).symm⟩
    · exact .inr (by rwa [Function.update_of_ne hh] at hopened)
  · exact .inr (by rwa [Function.update_of_ne huse] at hopened)

/-- A new handle leaves the others of the client as they are. -/
theorem Knows.give (hk : e.Knows i s) (use : HandleUse) {h : ℕ} (opened : Opened)
    (hfresh : e.handle i use h = none) (hkey : opened.key = s.op.key) :
    (e.give i use h opened).Knows i s := by
  refine ⟨hk.began, hk.runs, hk.ran, fun use' h' opened' hopened => ?_, fun h' hs => ?_,
    hk.obliged⟩
  · rcases handle_give e hopened with ⟨-, -, rfl⟩ | hopened
    · exact hkey
    · exact hk.key _ _ _ hopened
  · obtain ⟨old, hold, hstate⟩ := hk.state h' hs
    refine ⟨old, ?_, hstate⟩
    simp only [SharedHost.give, Function.update_self]
    by_cases huse : HandleUse.lookup = use
    · subst huse
      have hne : h' ≠ h := by
        rintro rfl
        exact Option.some_ne_none old (hold.symm.trans hfresh)
      rw [Function.update_self, Function.update_of_ne hne, hold]
    · rw [Function.update_of_ne huse, hold]

/-- The client gets the handle of its lookup. -/
theorem Knows.look (hk : e.Knows i s) (hnew : s.phase = .new) {h : ℕ} (opened : Opened)
    (hfresh : e.handle i .lookup h = none) (hkey : opened.key = s.op.key)
    (hobliged : Region.Obliges opened.state → ∃ h, e.slot s.op.key = .obliged i h) :
    ((e.begin i).give i .lookup h opened).Knows i (s.look h opened.state) where
  began _ := Function.update_self ..
  runs := hk.runs
  ran _ := by
    have hran := hk.ran (by simp [hnew])
    rwa [hnew] at hran
  key := (hk.begin.give .lookup opened hfresh hkey).key
  state k hk := by
    obtain rfl := Option.some.inj hk
    exact ⟨opened, by simp [SharedHost.give, SharedHost.begin], rfl⟩
  obliged hs := by
    rcases hs with ⟨-, hs⟩ | hs
    · exact hobliged hs
    · cases hs

theorem Agrees.look (ha : e.Agrees i s) (hnew : s.phase = .new) {h : ℕ} (opened : Opened)
    (hfresh : e.handle i .lookup h = none) (hkey : opened.key = s.op.key)
    (hobliged : Region.Obliges opened.state → ∃ h, e.slot s.op.key = .obliged i h) :
    ((e.begin i).give i .lookup h opened).Agrees i (s.look h opened.state) :=
  ⟨ha.toKnows.look hnew opened hfresh hkey hobliged, fun _ => ha.pending (by simp [hnew]), ha.took⟩

theorem Knows.beginClosure (hk : e.Knows i s) (hlooked : s.phase = .looked)
    (hobliges : Region.Obliges s.state) :
    (e.beginClosure i).Knows i { s with phase := .running, runs := s.runs + 1 } := by
  have hruns := hk.ran (by simp [hlooked])
  rw [hlooked] at hruns
  refine ⟨fun _ => hk.began (by simp [hlooked]), ?_, fun _ => by rw [hruns]; rfl, hk.key, hk.state,
    fun _ => hk.obliged (.inl ⟨hlooked, hobliges⟩)⟩
  exact (Function.update_self ..).trans (congrArg (· + 1) hk.runs)

/-- The host accepts the insert of the client with the obligation. -/
theorem Knows.accept (hk : e.Knows i s) (hran : s.phase = .ran) {b h h' : ℕ} {opened : Opened}
    (state : UInt32) (hopened : e.handle i .lookup h = some opened)
    (hwrite : e.handle i .write b = none) (hback : e.handle i .lookup h' = none) :
    (e.accept i h b h' opened.key state).Knows i { s with phase := .inserted } := by
  have hkey := hk.key _ _ _ hopened
  have hgo : e.Knows i { s with phase := .inserted } :=
    hk.goOn (by simp [hran]) (fun _ => by simp [hran, Phase.runs]) (by simp)
  have hput := (hgo.put opened.key (.accepted i h e.next) (by simp)).frame (.advance _ i)
  refine (hput.give .write ⟨opened.key, 0, some e.next⟩ hwrite hkey).give .lookup
    ⟨opened.key, state, some e.next⟩ ?_ hkey
  simpa [SharedHost.give, SharedHost.put] using hback

theorem stored_release (e : SharedHost ι) (i : ι) (h : ℕ) : (e.release i h).stored = e.stored := by
  unfold SharedHost.release
  split
  · rename_i opened _
    change (e.put opened.key _).stored = e.stored
    rw [stored_put, Slot.stored_release]
    exact Function.update_eq_self _ _
  · rfl

/-- A client that closes a handle gets no other. -/
theorem handle_release (e : SharedHost ι) (i : ι) (h : ℕ) {use : HandleUse} {k : ℕ}
    {opened : Opened} (hopened : (e.release i h).handle i use k = some opened) :
    e.handle i use k = some opened := by
  unfold SharedHost.release at hopened
  split at hopened
  · simp only [SharedHost.drop, SharedHost.put, Function.update_self] at hopened
    by_cases huse : use = .lookup
    · subst huse
      rw [Function.update_self] at hopened
      by_cases hk : k = h
      · subst hk
        rw [Function.update_self] at hopened
        cases hopened
      · rwa [Function.update_of_ne hk] at hopened
    · rwa [Function.update_of_ne huse] at hopened
  · exact hopened

/-- The client closes a handle. -/
theorem Knows.close (hk : e.Knows i s) (hnew : s.phase ≠ .new) (h : ℕ) :
    (e.release i h).Knows i { s with phase := .settled, handle := none } := by
  have hsame : (e.release i h).began = e.began ∧ (e.release i h).runs = e.runs := by
    unfold SharedHost.release
    split <;> exact ⟨rfl, rfl⟩
  refine ⟨fun _ => ?_, ?_, fun hs => absurd rfl hs,
    fun use k opened hopened => hk.key use k opened (handle_release e i h hopened), by simp,
    by simp⟩
  · rw [hsame.1]
    exact hk.began hnew
  · rw [hsame.2]
    exact hk.runs

theorem Agrees.close (ha : e.Agrees i s) (hnew : s.phase ≠ .new) (h : ℕ) :
    (e.release i h).Agrees i { s with phase := .settled, handle := none } :=
  ⟨ha.toKnows.close hnew h, fun hs => absurd rfl hs, fun bytes n hs => by
    rw [stored_release]
    exact ha.took bytes n hs⟩

theorem Agrees.refused (ha : e.Agrees i s) (hmoves : s.Moves c a { s with phase := .settled }) :
    e.Goes i s c a (e.begin i) { s with phase := .settled } where
  moves := hmoves
  agrees := ⟨ha.toKnows.refused, fun hs => absurd rfl hs, ha.took⟩
  others _ hj := (Unnoticed.begin e hj).frame rfl
  effect := .stay _ _
  op := rfl

/-- A lookup that gets the obligation. -/
theorem Agrees.obliges (ha : e.Agrees i s) (hnew : s.phase = .new) {key : List UInt8}
    (hkey : key = s.op.key) {h : ℕ} (hfresh : e.handle i .lookup h = none) {state : UInt32}
    (habsent : e.slot key = .absent) (hmoves : s.Moves c a (s.look h state)) :
    e.Goes i s c a (((e.put key (.obliged i h)).begin i).give i .lookup h ⟨key, state, none⟩)
      (s.look h state) := by
  have hstored : (e.slot key).stored = none := by
    rw [habsent]
    rfl
  have hput : ∀ j, Frame e (e.put key (.obliged i h)) j := fun j =>
    .put hstored (by simp [habsent])
  refine ⟨hmoves, ?_, fun j hj => .trans (hput j) ((Unnoticed.look _ h _ hj).frame rfl), ?_, rfl⟩
  · refine (ha.frame (hput i)).look hnew ⟨key, state, none⟩ hfresh hkey
      fun _ => ⟨h, ?_⟩
    rw [← hkey]
    exact Function.update_self ..
  · change Effect _ _ _ _ _ (e.put key (.obliged i h)).stored
    rw [stored_put_of_none hstored rfl]
    exact .stay _ _

/-- A lookup that finds an item. -/
theorem Agrees.finds (ha : e.Agrees i s) (hnew : s.phase = .new) {h : ℕ} (opened : Opened)
    (hkey : opened.key = s.op.key) (hfresh : e.handle i .lookup h = none)
    (hfree : ¬ Region.Obliges opened.state)
    (hmoves : s.Moves c a (s.look h opened.state)) :
    e.Goes i s c a ((e.begin i).give i .lookup h opened) (s.look h opened.state) where
  moves := hmoves
  agrees := ha.look hnew opened hfresh hkey fun hobliges => absurd hobliges hfree
  others _ hj := (Unnoticed.look e h opened hj).frame rfl
  effect := .stay _ _
  op := rfl

/-- A `get` that finds no item. -/
theorem Agrees.misses (ha : e.Agrees i s) (hnew : s.phase = .new) (hget : s.op.sets = false)
    {h : ℕ} (opened : Opened) (hkey : opened.key = s.op.key)
    (hfresh : e.handle i .lookup h = none) (hfree : ¬ Region.Obliges opened.state)
    (hnone : e.stored s.op.key = none)
    (hmoves : s.Moves c a ((s.look h opened.state).take (.ok none))) :
    e.Goes i s c a ((e.begin i).give i .lookup h opened)
      ((s.look h opened.state).take (.ok none)) where
  moves := hmoves
  agrees := (ha.look hnew opened hfresh hkey fun hobliges => absurd hobliges hfree).take
    (Function.update_self ..) nofun
  others _ hj := (Unnoticed.look e h opened hj).frame rfl
  effect := by
    have hruns := ha.ran (by simp [hnew])
    rw [hnew] at hruns
    exact effect_take (s := s.look h opened.state) (ha.pending (by simp [hnew])) hruns
      (FirstWriteMap.step_of_none_get hnone hget)
  op := rfl

theorem Agrees.beginClosure (ha : e.Agrees i s) (hlooked : s.phase = .looked)
    (hobliges : Region.Obliges s.state)
    (hmoves : s.Moves c a { s with phase := .running, runs := s.runs + 1 }) :
    e.Goes i s c a (e.beginClosure i) { s with phase := .running, runs := s.runs + 1 } where
  moves := hmoves
  agrees := ⟨ha.toKnows.beginClosure hlooked hobliges, fun _ => ha.pending (by simp [hlooked]),
    ha.took⟩
  others _ hj := (Unnoticed.beginClosure e hj).frame rfl
  effect := .stay _ _
  op := rfl

theorem Agrees.inserts (ha : e.Agrees i s) (hran : s.phase = .ran) {b h h' : ℕ}
    {opened : Opened} {state : UInt32} (hopened : e.handle i .lookup h = some opened)
    (hslot : e.slot opened.key = .obliged i h) (hwrite : e.handle i .write b = none)
    (hback : e.handle i .lookup h' = none)
    (hmoves : s.Moves c a { s with phase := .inserted }) :
    e.Goes i s c a (e.accept i h b h' opened.key state) { s with phase := .inserted } := by
  have hput : (e.put opened.key (.accepted i h e.next)).stored = e.stored :=
    stored_put_of_none (by rw [hslot]; rfl) rfl
  have hstored : (e.accept i h b h' opened.key state).stored = e.stored := hput
  refine ⟨hmoves, ⟨ha.toKnows.accept hran state hopened hwrite hback,
    fun _ => ha.pending (by simp [hran]), fun bytes n hs => ?_⟩,
    fun j hj => (Unnoticed.accept hslot b h' state hj).frame hstored, ?_, rfl⟩
  · rw [hstored]
    exact ha.took bytes n hs
  · rw [hstored]
    exact .stay _ _

theorem Agrees.closes (ha : e.Agrees i s) (hnew : s.phase ≠ .new) (h : ℕ)
    (hmoves : s.Moves c a { s with phase := .settled, handle := none }) :
    e.Goes i s c a (e.release i h) { s with phase := .settled, handle := none } where
  moves := hmoves
  agrees := ha.close hnew h
  others _ hj := (Unnoticed.release e h hj).frame (stored_release e i h)
  effect := by
    rw [stored_release]
    exact .stay _ _
  op := rfl

/-- Every answer to a client is one that it expects. -/
theorem Agrees.answer (ha : e.Agrees i s) (hpermits : s.Permits c) (hanswer : e.Answers i c a e') :
    ∃ t, e.Goes i s c a e' t := by
  cases c with
  | cacheTransactionLookup key mask options =>
      obtain ⟨hnew, hkey, hset⟩ := hpermits
      cases a with
      | error status =>
          obtain rfl : e' = e.begin i := hanswer
          exact ⟨_, ha.refused rfl⟩
      | ok h =>
          obtain ⟨hfresh, state, ⟨habsent, hobliges, rfl⟩ | ⟨hitem, hhit, rfl⟩⟩ := hanswer
          · exact ⟨_, ha.obliges hnew hkey hfresh habsent ⟨state, .inr hobliges, rfl⟩⟩
          · exact ⟨_, ha.finds hnew ⟨key, state, _⟩ hkey hfresh
              (fun hobliges => hobliges hhit.2) ⟨state, .inl hhit, rfl⟩⟩
  | cacheLookup key mask options =>
      obtain ⟨hnew, hkey, hget⟩ := hpermits
      cases a with
      | error status =>
          obtain rfl : e' = e.begin i := hanswer
          exact ⟨_, ha.refused rfl⟩
      | ok h =>
          obtain ⟨hfresh, state, hfound, hfree, rfl⟩ := hanswer
          by_cases hstate : state &&& CacheLookupState.found ≠ 0
          · exact ⟨_, ha.finds hnew ⟨key, state, _⟩ hkey hfresh hfree
              ⟨state, (if_pos hstate).symm⟩⟩
          · refine ⟨_, ha.misses hnew hget ⟨key, state, _⟩ hkey hfresh hfree ?_
              ⟨state, (if_neg hstate).symm⟩⟩
            rw [← hkey, stored]
            cases hslot : e.slot key with
            | complete n bytes => exact absurd (hfound.mpr (by rw [hslot]; rfl)) hstate
            | _ => rfl
  | cacheGetState h =>
      cases a with
      | error status =>
          obtain rfl : e' = e := hanswer
          exact ⟨s, ha.stays rfl⟩
      | ok state =>
          obtain ⟨⟨opened, hopened, rfl⟩, rfl⟩ := hanswer
          obtain ⟨opened', hopened', hstate⟩ := ha.state h hpermits
          obtain rfl := Option.some.inj (hopened.symm.trans hopened')
          exact ⟨s, ha.stays ⟨hstate, rfl⟩⟩
  | cacheTransactionInsertAndStreamBack h mask options =>
      cases a with
      | error status =>
          obtain rfl : e' = e := hanswer
          exact ⟨s, ha.stays rfl⟩
      | ok p =>
          obtain ⟨opened, state, hopened, hslot, hwrite, hback, rfl⟩ := hanswer
          exact ⟨_, ha.inserts hpermits hopened hslot hwrite hback rfl⟩
  | streamingBodyFromBodyHandle bodyHandle =>
      obtain ⟨hempty, rfl⟩ := hanswer
      exact ⟨s, ha.stays ⟨hempty, rfl⟩⟩
  | streamingBodyFinish bodyHandle bod =>
      obtain ⟨hinserted, hoffer⟩ := hpermits
      cases a with
      | error err =>
          obtain rfl : e' = e := hanswer
          exact ⟨s, ha.stays rfl⟩
      | ok u =>
          obtain ⟨opened, n, hopened, -, hopen, rfl⟩ := hanswer
          exact ⟨_, ha.finishes hinserted (ha.key _ _ _ hopened) hopen hoffer rfl⟩
  | cacheGetBody h mask options =>
      cases a with
      | error status =>
          obtain rfl : e' = e := hanswer
          exact ⟨s, ha.stays rfl⟩
      | ok b =>
          obtain ⟨-, opened, hopened, -, hfresh, rfl⟩ := hanswer
          exact ⟨s, rfl, ⟨ha.toKnows.give .read opened hfresh (ha.key _ _ _ hopened), ha.pending,
              ha.took⟩,
            fun j hj => (Unnoticed.give e _ _ _ hj).frame rfl, .stay _ _, rfl⟩
  | bodyFromHandle b =>
      obtain ⟨opened, n, hopened, -, hslot, rfl⟩ := hanswer
      refine ⟨_, ha.reads hpermits ?_ rfl⟩
      rw [← ha.key _ _ _ hopened, stored, hslot]
      rfl
  | cacheClose h =>
      obtain rfl : e' = e.release i h := hanswer
      exact ⟨_, ha.closes hpermits.1 h rfl⟩
  | closureBegin =>
      obtain rfl : e' = e.beginClosure i := hanswer
      exact ⟨_, ha.beginClosure hpermits.1 hpermits.2.1 rfl⟩
  | closureEnd =>
      obtain rfl : e' = e := hanswer
      cases hoffer : s.op.offer with
      | none =>
          exact ⟨_, ha.endClosure hpermits.1 hpermits.2 hoffer
            (by simp [Caller.Moves, hoffer])⟩
      | some bytes =>
          refine ⟨{ s with phase := .ran }, ?_, ?_, fun j _ => .refl _ j, .stay _ _, rfl⟩
          · simp [Caller.Moves, hoffer]
          · exact ha.goOn (by simp [hpermits.1]) (fun _ => by simp [hpermits.1, Phase.runs])
              (by simp)
  | _ => exact hpermits.elim

end SharedHost

end ComputeSdk
