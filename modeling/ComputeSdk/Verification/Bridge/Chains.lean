import ComputeSdk.Verification.Bridge.Builders

/-! # Chains of builders

A chain of builders against the same chain of setters. Where one of them fails both stop. -/

namespace ComputeSdk

open Shared

variable {F : Crates} {U : Type}

section

variable (slots slots' : Slots FastlyError Unit)

/-- A chain of builders against the same chain of setters: if it succeeds, so do the setters
and leave the same request; if a call fails, the chain stops there with its error. -/
structure ChainsAgree (view : (i : Component) → F.Request → i.Value F U) (req : F.Request)
    (cs : List Call) : Prop where
  result : ∀ r, run (Call.build slots) req cs = .ok r →
    ∃ r', run (Call.set slots') req cs = .ok r' ∧ ∀ i, view i r = view i r'
  stop : ∀ e, run (Call.build slots) req cs = .error (.error e) →
    ∃ past c rest r r', cs = past ++ c :: rest ∧
      run (Call.build slots) req past = .ok r ∧ c.build slots r = .error (.error e) ∧
      run (Call.set slots') req past = .ok r' ∧ c.set slots' r' = .error (.error e)

/-- What a chain of builders must do to keep to the setters: the last `with_ttl`, if any, has
the time to live that the request has anyway, it leaves the right value of `pass`, and the
last body that is set is not one that a move would change. -/
structure KeepsTo (view : (i : Component) → F.Request → i.Value F U) (req : F.Request)
    (cs : List Call) : Prop where
  ttl : lastWrite Call.ttlArgument (view .ttl req) cs = view .ttl req
  pass : lastWrite Call.passBuilt (view .pass req) cs =
    lastWrite Call.passArgument (view .pass req) cs
  body : ∀ b, lastWriter Call.setsBody cs = some (.body b) → b.MoveIdle

variable {slots slots'} {view : (i : Component) → F.Request → i.Value F U}

theorem build_eq_ok {c : Call} {s t : F.Request} (h : c.build slots s = .ok t) :
    ∃ f, c.built F = .ok f ∧ f s = t := by
  rw [c.build_eq] at h
  exact Call.map_eq_ok h

theorem set_eq_ok {c : Call} {s t : F.Request} (h : c.set slots s = .ok t) :
    ∃ f, c.edit F = .ok f ∧ f s = t := by
  rw [c.set_eq] at h
  exact Call.map_eq_ok h

/-- Where the chain of builders gets, the chain of setters does, and the components that both
treat alike are the same. -/
theorem run_set_of_build (h : Componentwise view) (slots' : Slots FastlyError Unit)
    {req r : F.Request} {cs : List Call} (hrun : run (Call.build slots) req cs = .ok r) :
    ∃ r', run (Call.set slots') req cs = .ok r' ∧
      ∀ i, i ∉ [.body, .pass, .ttl] → view i r = view i r' := by
  refine run_follows (R := fun s t => ∀ i, i ∉ [.body, .pass, .ttl] → view i s = view i t)
    ?_ (fun _ _ => rfl) hrun
  intro s t c s' hst hstep
  obtain ⟨f, hf, rfl⟩ := build_eq_ok hstep
  obtain ⟨g, hg, hview⟩ := Call.edit_of_built h hf
  refine ⟨g t, ?_, fun i hi => hview i hi s t (hst i hi)⟩
  rw [c.set_eq, hg]
  rfl

theorem built_error {c : Call} {e : RawPtr FastlyError} (h : c.built F = .error (.error e)) :
    c.edit F = .error (.error e) := by
  cases c with
  | body b =>
      simp only [Call.built] at h
      cases hb : b.move.bind Body.flush with
      | error a =>
          rw [hb] at h
          cases h
      | ok m =>
          rw [hb] at h
          cases h
  | ttl t => cases h
  | _ => exact h

theorem chainsAgree_stop (h : Componentwise view) {req : F.Request} {cs : List Call}
    {e : RawPtr FastlyError} (hrun : run (Call.build slots) req cs = .error (.error e)) :
    ∃ past c rest r r', cs = past ++ c :: rest ∧
      run (Call.build slots) req past = .ok r ∧ c.build slots r = .error (.error e) ∧
      run (Call.set slots') req past = .ok r' ∧ c.set slots' r' = .error (.error e) := by
  obtain ⟨past, c, rest, r, rfl, hpast, hc⟩ := run_eq_error hrun
  obtain ⟨r', hpast', -⟩ := run_set_of_build h slots' hpast
  refine ⟨past, c, rest, r, r', rfl, hpast, hc, hpast', ?_⟩
  rw [c.build_eq] at hc
  rw [c.set_eq]
  cases hbuilt : c.built F with
  | ok f =>
      rw [hbuilt] at hc
      cases hc
  | error e' =>
      rw [hbuilt] at hc
      obtain rfl := Except.error.inj hc
      rw [built_error hbuilt]
      rfl

theorem build_left (h : Componentwise view) {req r : F.Request} {cs : List Call}
    (hrun : run (Call.build slots) req cs = .ok r) :
    view .pass r = lastWrite Call.passBuilt (view .pass req) cs ∧ view .ttl r = view .ttl req ∧
      view .body r = lastWrite (Call.bodyWrite view req (Call.built F)) (view .body req) cs := by
  refine ⟨run_lastWrite (fun c _ s t hstep => ?_) hrun, ?_,
    run_lastWrite (fun c _ s t hstep => ?_) hrun⟩
  · obtain ⟨f, hf, rfl⟩ := build_eq_ok hstep
    exact Call.pass_built h hf s
  · have hlast : view .ttl r = lastWrite (fun _ : Call => none) (view .ttl req) cs := by
      refine run_lastWrite (fun c _ s t hstep => ?_) hrun
      obtain ⟨f, hf, rfl⟩ := build_eq_ok hstep
      exact Call.ttl_built h hf s
    exact hlast.trans (List.foldl_fixed cs)
  · obtain ⟨f, hf, rfl⟩ := build_eq_ok hstep
    exact Call.body_built h hf req s

theorem set_left (h : Componentwise view) {req r : F.Request} {cs : List Call}
    (hrun : run (Call.set slots) req cs = .ok r) :
    view .pass r = lastWrite Call.passArgument (view .pass req) cs ∧
      view .ttl r = lastWrite Call.ttlArgument (view .ttl req) cs ∧
      view .body r = lastWrite (Call.bodyWrite view req (Call.edit F)) (view .body req) cs := by
  refine ⟨run_lastWrite (fun c _ s t hstep => ?_) hrun,
    run_lastWrite (fun c _ s t hstep => ?_) hrun, run_lastWrite (fun c _ s t hstep => ?_) hrun⟩
  · obtain ⟨f, hf, rfl⟩ := set_eq_ok hstep
    exact Call.pass_edit h hf s
  · obtain ⟨f, hf, rfl⟩ := set_eq_ok hstep
    exact Call.ttl_edit h hf s
  · obtain ⟨f, hf, rfl⟩ := set_eq_ok hstep
    exact Call.body_edit h hf req s

/-- The bodies are the same exactly if the last one that is set is not changed by a move. -/
theorem lastWrite_body_iff (h : Componentwise view) {req r : F.Request} {cs : List Call}
    (hrun : run (Call.build slots) req cs = .ok r) (a : List UInt8) :
    lastWrite (Call.bodyWrite view req (Call.built F)) a cs =
        lastWrite (Call.bodyWrite view req (Call.edit F)) a cs ↔
      ∀ b, lastWriter Call.setsBody cs = some (.body b) → b.MoveIdle := by
  rw [lastWrite_eq_iff (Call.isSome_bodyWrite req (Call.built F))
    (Call.isSome_bodyWrite req (Call.edit F))]
  have accepted : ∀ c, lastWriter Call.setsBody cs = some c → ∃ f, c.built F = .ok f := by
    intro c hc
    obtain ⟨s, t, hstep⟩ := exists_step_of_run hrun (lastWriter_mem hc)
    obtain ⟨f, hf, -⟩ := build_eq_ok hstep
    exact ⟨f, hf⟩
  constructor
  · intro hall b hb
    obtain ⟨f, hf⟩ := accepted _ hb
    exact (Call.bodyWrite_eq_iff h hf req).mp (hall _ hb) b rfl
  · intro hall c hc
    obtain ⟨f, hf⟩ := accepted c hc
    refine (Call.bodyWrite_eq_iff h hf req).mpr fun b hb => hall b ?_
    rw [← hb, hc]

/-- Two chains that succeed leave the same exactly if the builders keep to the setters. -/
theorem view_eq_iff_keepsTo (h : Componentwise view) {req r r' : F.Request} {cs : List Call}
    (hrun : run (Call.build slots) req cs = .ok r) (hrun' : run (Call.set slots') req cs = .ok r')
    (hothers : ∀ i, i ∉ [.body, .pass, .ttl] → view i r = view i r') :
    (∀ i, view i r = view i r') ↔ KeepsTo view req cs := by
  obtain ⟨hpass, httl, hbody⟩ := build_left h hrun
  obtain ⟨hpass', httl', hbody'⟩ := set_left h hrun'
  constructor
  · intro hall
    refine ⟨?_, ?_, (lastWrite_body_iff h hrun (view .body req)).mp ?_⟩
    · rw [← httl', ← hall .ttl, httl]
    · rw [← hpass, ← hpass', hall .pass]
    · rw [← hbody, ← hbody', hall .body]
  · rintro ⟨kttl, kpass, kbody⟩ i
    by_cases hi : i ∈ [.body, .pass, .ttl]
    · simp only [List.mem_cons, List.not_mem_nil, or_false] at hi
      rcases hi with rfl | rfl | rfl
      · rw [hbody, hbody']
        exact (lastWrite_body_iff h hrun (view .body req)).mpr kbody
      · rw [hpass, hpass', kpass]
      · rw [httl, httl', kttl]
    · exact hothers i hi

/-- The arguments of a call are accepted. -/
def Call.Accepted (F : Crates) (c : Call) : Prop := ∃ f, c.built F = .ok f

theorem exists_run_build (slots : Slots FastlyError Unit) (req : F.Request) {cs : List Call}
    (h : ∀ c ∈ cs, c.Accepted F) : ∃ r, run (Call.build slots) req cs = .ok r := by
  induction cs generalizing req with
  | nil => exact ⟨req, rfl⟩
  | cons c cs ih =>
      obtain ⟨f, hf⟩ := h c List.mem_cons_self
      obtain ⟨r, hr⟩ := ih (f req) fun c hc => h c (List.mem_cons_of_mem _ hc)
      refine ⟨r, (run_cons_of_ok cs ?_).trans hr⟩
      rw [c.build_eq, hf]
      rfl

theorem accepted_of_run {req r : F.Request} {cs : List Call}
    (hrun : run (Call.build slots) req cs = .ok r) : ∀ c ∈ cs, c.Accepted F := by
  intro c hc
  obtain ⟨s, t, hstep⟩ := exists_step_of_run hrun hc
  obtain ⟨f, hf, -⟩ := build_eq_ok hstep
  exact ⟨f, hf⟩

theorem chainsAgree_iff (h : Componentwise view) (slots slots' : Slots FastlyError Unit)
    (req : F.Request) (cs : List Call) :
    ChainsAgree slots slots' view req cs ↔
      ((∀ c ∈ cs, c.Accepted F) → KeepsTo view req cs) := by
  constructor
  · intro hagree haccepted
    obtain ⟨r, hrun⟩ := exists_run_build slots req haccepted
    obtain ⟨r', hrun', hview⟩ := hagree.result r hrun
    exact (view_eq_iff_keepsTo h hrun hrun' fun i _ => hview i).mp hview
  · intro hkeeps
    refine ⟨fun r hrun => ?_, fun e hrun => chainsAgree_stop h hrun⟩
    obtain ⟨r', hrun', hothers⟩ := run_set_of_build h slots' hrun
    exact ⟨r', hrun',
      (view_eq_iff_keepsTo h hrun hrun' hothers).mpr (hkeeps (accepted_of_run hrun))⟩

end

/-- A path and a mark that go together with the cache, and a time to live that does not. -/
theorem chainsAgree_iff_plain :
    ChainsAgree ⟨.wild 1, ()⟩ ⟨.null, ()⟩ Plain.view Plain.message
        [.path (Plain.ascii "/a"), .pci true] ∧
      ¬ ChainsAgree ⟨.wild 1, ()⟩ ⟨.null, ()⟩ Plain.view Plain.message
        [.path (Plain.ascii "/a"), .ttl 30] := by
  constructor
  · refine (chainsAgree_iff Plain.componentwise _ _ _ _).mpr fun _ => ⟨rfl, rfl, fun b hb => ?_⟩
    cases hb
  · intro hagree
    have haccepted : ∀ c ∈ [.path (Plain.ascii "/a"), .ttl 30], Call.Accepted Plain.crates c := by
      intro c hc
      simp only [List.mem_cons, List.not_mem_nil, or_false] at hc
      rcases hc with rfl | rfl
      · exact ⟨_, rfl⟩
      · exact ⟨_, rfl⟩
    cases ((chainsAgree_iff Plain.componentwise _ _ _ _).mp hagree haccepted).ttl

/-- Every chain of builders does what its setters do. -/
def BuildersAgree : Prop :=
  ∀ (F : Crates) (U : Type) (view : (i : Component) → F.Request → i.Value F U),
    Componentwise view → ∀ slots slots' req cs, ChainsAgree slots slots' view req cs

/-- A time to live of half a minute becomes a request that passes the cache. -/
theorem not_buildersAgree : ¬ BuildersAgree := by
  intro h
  have hagree := h Plain.crates Plain.Url Plain.view Plain.componentwise ⟨.null, ()⟩ ⟨.null, ()⟩
    Plain.message [.ttl 30]
  obtain ⟨r', hrun, hview⟩ := hagree.result _ rfl
  obtain rfl := Except.ok.inj hrun
  cases hview .ttl

end ComputeSdk
