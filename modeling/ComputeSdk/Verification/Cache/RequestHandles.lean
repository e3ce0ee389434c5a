import ComputeSdk.Verification.Cache.Chain

/-! # The request handle of a builder

`header_values` lets the host collect headers under a request handle, which a builder keeps
in its options. The handle class closes the handle in its destructor and is copied where it
should be moved, so the handle is closed before it is used for the first time. -/

namespace ComputeSdk

open Shared Guest ComputeSdk.Core

/-! ## Programs that leave request handles alone -/

namespace RequestTable

/-- The calls that neither use nor name a request handle. -/
def Silent : HostCall → Prop
  | .httpReqNew => False
  | .httpReqClose _ => False
  | .httpReqHeaderValuesSet _ _ _ => False
  | .cacheLookup _ mask _ => mask &&& CacheLookupOptions.maskRequestHeaders = 0
  | .cacheTransactionLookup _ mask _ => mask &&& CacheLookupOptions.maskRequestHeaders = 0
  | .cacheTransactionLookupAsync _ mask _ => mask &&& CacheLookupOptions.maskRequestHeaders = 0
  | .cacheInsert _ mask _ => mask &&& CacheWriteOptions.maskRequestHeaders = 0
  | .cacheReplaceInsert _ mask _ => mask &&& CacheWriteOptions.maskRequestHeaders = 0
  | _ => True

def silence : Protocol HostCall.Answer Unit where
  permits := fun _ c => Silent c
  moves := fun _ _ _ _ => True

/-- A silent call is seen, if at all, as a cache call that names no handle. -/
theorem handle_log_of_silent {t : RequestTable} {c : HostCall} (h : Silent c) :
    (t.handle c).2.log = t.log ∨ (t.handle c).2.log = t.log ++ [.cacheCall none []] := by
  cases c <;> simp [Silent] at h <;>
    simp [handle, effect, noteCacheCall, named, record, h]

theorem run_log_of_silent {α : Type} {p : Prog HostCall.Answer Abort α} {t : RequestTable}
    (h : p.Follows silence (fun _ => True) (fun _ _ => True) ()) :
    ∃ n, (p.run handle t).2.log = t.log ++ List.replicate n (.cacheCall none []) := by
  induction p generalizing t with
  | ret a => exact ⟨0, (List.append_nil _).symm⟩
  | stop e => exact ⟨0, (List.append_nil _).symm⟩
  | call c next ih =>
      obtain ⟨n, hn⟩ := ih (t.handle c).1 (t := (t.handle c).2) (h.2 _ () trivial)
      rcases handle_log_of_silent (t := t) h.1 with hlog | hlog
      · exact ⟨n, by rw [Prog.run_call, hn, hlog]⟩
      · refine ⟨n + 1, ?_⟩
        rw [Prog.run_call, hn, hlog, List.append_assoc, List.replicate_succ]
        rfl

/-- What the host has seen it has seen for good. -/
theorem log_prefix_handle (t : RequestTable) (c : HostCall) : t.log <+: (t.handle c).2.log := by
  cases c <;> simp only [handle, effect, noteCacheCall, record] <;>
    (repeat' split) <;> simp

theorem log_prefix_run {α : Type} (p : Prog HostCall.Answer Abort α) (t : RequestTable) :
    t.log <+: (p.run handle t).2.log := by
  induction p generalizing t with
  | ret a => exact List.prefix_rfl
  | stop e => exact List.prefix_rfl
  | call c next ih => exact (log_prefix_handle t c).trans (ih _ _)

end RequestTable

/-! ## Chains without a header call -/

namespace Builder

/-- The other calls keep the request handle and do not call the host. -/
theorem call_of_not_header {c : BuilderCall} (h : c.isHeader = false) (b : Builder) :
    ∃ b', b.call c = pure b' ∧ b'.requestHeaders = b.requestHeaders := by
  cases b with
  | lookup b => cases c <;> simp [BuilderCall.isHeader] at h <;> exact ⟨_, rfl, rfl⟩
  | transactionLookup b => cases c <;> simp [BuilderCall.isHeader] at h <;> exact ⟨_, rfl, rfl⟩
  | insert b =>
      cases c <;> simp [BuilderCall.isHeader] at h <;>
        exact ⟨_, rfl, by simp [requestHeaders, InsertBuilder.varyBy, InsertBuilder.initialAge,
          InsertBuilder.staleWhileRevalidate, InsertBuilder.surrogateKeys,
          InsertBuilder.knownLength, InsertBuilder.userMetadata, InsertBuilder.sensitiveData,
          InsertBuilder.deliverNodeMaxAge, InsertBuilder.onBehalfOf]⟩
  | replace r =>
      cases c <;> simp [BuilderCall.isHeader] at h <;>
        exact ⟨_, rfl, by simp [requestHeaders, Replace.varyBy, Replace.initialAge,
          Replace.staleWhileRevalidate, Replace.surrogateKeys, Replace.knownLength,
          Replace.userMetadata, Replace.sensitiveData, Replace.deliverNodeMaxAge]⟩

/-- Setting the headers under a handle, and what else the builder becomes. -/
theorem call_of_header {c : BuilderCall} (h : c.isHeader = true) (b : Builder) :
    ∃ name values, ∃ f : RequestHandle → Builder,
      b.call c = f <$> setRequestHeaderValues b.requestHeaders name values := by
  have mapped : ∀ {α : Type} (g : α → Builder) (k : RequestHandle → α) name values,
      g <$> (do let h ← setRequestHeaderValues b.requestHeaders name values; pure (k h)) =
        (g ∘ k) <$> setRequestHeaderValues b.requestHeaders name values := by
    intro α g k name values
    funext H
    exact Prog.bind_assoc _ _ _
  cases b <;> cases c <;> simp [BuilderCall.isHeader] at h <;>
    exact ⟨_, _, _, mapped _ _ _ _⟩

end Builder

namespace Chain

/-- No builder of the chain has a request handle. -/
structure Bare (chain : Chain) : Prop where
  builder : chain.builder.requestHeaders = none
  leftovers : ∀ l ∈ chain.leftovers, l = none

theorem Bare.exec {chain : Chain} (h : chain.Bare) {op : ChainOp} (hop : op.isHeader = false) :
    ∃ chain', chain.exec op = pure chain' ∧ chain'.Bare := by
  cases op with
  | call c =>
      obtain ⟨b, hcall, hb⟩ := Builder.call_of_not_header hop chain.builder
      refine ⟨⟨b, b.requestHeaders :: chain.leftovers⟩, ?_, hb.trans h.builder, ?_⟩
      · simp only [Chain.exec, hcall, pure_bind]
      · rintro l (_ | ⟨_, hl⟩)
        · exact hb.trans h.builder
        · exact h.leftovers l hl
  | destroyLeftover i =>
      have hnone : (chain.leftovers[i]?).join = none := by
        cases hi : chain.leftovers[i]? with
        | none => rfl
        | some l => exact h.leftovers l (List.mem_of_getElem? hi)
      refine ⟨{ chain with leftovers := chain.leftovers.eraseIdx i }, ?_, h.builder, ?_⟩
      · simp only [Chain.exec, hnone, destroyRequestHeaders, pure_bind]
      · exact fun l hl => h.leftovers l (List.mem_of_mem_eraseIdx hl)

theorem Bare.foldlM {ops : List ChainOp} (hops : ∀ op ∈ ops, op.isHeader = false) {chain : Chain}
    (h : chain.Bare) : ∃ chain', ops.foldlM Chain.exec chain = pure chain' ∧ chain'.Bare := by
  induction ops generalizing chain with
  | nil => exact ⟨chain, rfl, h⟩
  | cons op ops ih =>
      obtain ⟨chain', hexec, h'⟩ := h.exec (hops op List.mem_cons_self)
      obtain ⟨chain'', hrun, h''⟩ := ih (fun op' hop' => hops op' (List.mem_cons_of_mem op hop')) h'
      exact ⟨chain'', by rw [List.foldlM_cons, hexec, pure_bind, hrun], h''⟩

end Chain

/-! ## Silent computations -/

/-- The computation makes silent calls only, and its value meets `post`. -/
def Quiet {α : Type} (post : α → Prop) (x : Guest α) : Prop :=
  ∀ H, (x.run H).Follows RequestTable.silence (fun _ => True) (fun p _ => post p.1) ()

namespace Quiet

variable {α β : Type} {post : α → Prop} {post' : β → Prop}

theorem pure {a : α} (h : post a) : Quiet post (pure a) := fun _ => h

theorem bind {x : Guest α} {f : α → Guest β} (hx : Quiet post x)
    (hf : ∀ a, post a → Quiet post' (f a)) : Quiet post' (x >>= f) :=
  fun H => (hx H).bind fun p _ hp => hf p.1 hp p.2

theorem map {x : Guest α} {f : α → β} (hx : Quiet post x) (hf : ∀ a, post a → post' (f a)) :
    Quiet post' (f <$> x) :=
  fun H => (hx H).bind fun p _ hp => hf p.1 hp

theorem host {c : HostCall} (h : RequestTable.Silent c) : Quiet (fun _ => True) (host c) :=
  fun _ => ⟨h, fun _ _ _ => trivial⟩

theorem make (object : HandleObject) : Quiet (fun _ => True) (SharedPtr.make object) :=
  fun _ => trivial

theorem destroy (ptr : SharedPtr) : Quiet (fun _ => True) ptr.destroy := by
  have hrelease : Quiet (fun _ => True) (modifyGet (RefHeap.release ptr) : Guest _) :=
    fun _ => trivial
  refine hrelease.bind fun gone _ => ?_
  cases gone with
  | none => exact pure trivial
  | some object => exact (host (by trivial)).bind fun _ _ => pure trivial

theorem cacheTry {call : Guest (Except Status α)} {next : α → Guest (Except CacheError β)}
    (hcall : Quiet (fun _ => True) call) (hnext : ∀ a, Quiet (fun _ => True) (next a)) :
    Quiet (fun _ => True) (Core.cacheTry call next) := by
  refine hcall.bind fun r _ => ?_
  cases r with
  | error status => exact pure trivial
  | ok a => exact hnext a

theorem fromBodyHandle (bodyHandle : ℕ) :
    Quiet (fun _ => True) (HostedStream.fromBodyHandle bodyHandle) :=
  (host (by trivial)).bind fun _ _ => pure trivial

theorem ofExcept (x : Except Abort α) : Quiet (fun _ => True) (Guest.ofExcept x) := by
  cases x with
  | ok a => exact pure trivial
  | error e => exact fun _ => trivial

theorem streamResult (bodyHandle : ℕ) : Quiet (fun _ => True) (Core.streamResult bodyHandle) :=
  (fromBodyHandle bodyHandle).bind fun _ _ => (ofExcept _).bind fun _ _ => pure trivial

end Quiet

namespace Builder

variable {ending : Ending}

theorem quiet_lookup {b : LookupBuilder} (h : b.options.requestHeaders = none) :
    Quiet (fun _ => True) b.execute := by
  have hmask := LookupOptions.mask_requestHeaders b.options
  rw [h] at hmask
  refine .cacheTry (.host hmask) fun _ => .cacheTry (.host trivial) fun _ =>
    .cacheTry (.host trivial) fun state => ?_
  split
  · exact (Quiet.make _).bind fun _ _ => .pure trivial
  · exact .pure trivial

theorem quiet_transactionLookup {b : TransactionLookupBuilder}
    (h : b.options.requestHeaders = none) : Quiet (fun _ => True) b.execute := by
  have hmask := LookupOptions.mask_requestHeaders b.options
  rw [h] at hmask
  exact .cacheTry (.host hmask) fun _ => .cacheTry (.host trivial) fun _ =>
    (Quiet.make _).bind fun _ _ => .pure trivial

theorem quiet_transactionLookupAsync {b : TransactionLookupBuilder}
    (h : b.options.requestHeaders = none) : Quiet (fun _ => True) b.executeAsync := by
  have hmask := LookupOptions.mask_requestHeaders b.options
  rw [h] at hmask
  exact .cacheTry (.host hmask) fun _ => (Quiet.make _).bind fun _ _ => .pure trivial

theorem quiet_insert {b : InsertBuilder} (h : b.options.requestHeaders = none) :
    Quiet (fun _ => True) b.execute := by
  have hmask := WriteOptions.mask_requestHeaders b.options
  rw [h] at hmask
  exact .cacheTry (.host hmask) .streamResult

theorem quiet_resetExisting (r : Replace) :
    Quiet (fun r' => r'.options = r.options) r.resetExisting := by
  unfold Replace.resetExisting
  cases r.existingObject with
  | none => exact .pure rfl
  | some found => exact (Quiet.destroy _).bind fun _ _ => .pure rfl

theorem quiet_replace {r : Replace} (h : r.options.requestHeaders = none) (maxAge : Int64) :
    Quiet (fun p => p.2.options.requestHeaders = none) (r.execute maxAge) := by
  refine (quiet_resetExisting _).bind fun r' hr' => ?_
  have hnone : r'.options.requestHeaders = none := by rw [hr', ← h]
  have hmask := WriteOptions.mask_requestHeaders r'.options
  rw [hnone] at hmask
  have hinsert : RequestTable.Silent (.cacheReplaceInsert r'.handle.val.handle
      r'.options.asAbi.2 r'.options.asAbi.1) := hmask
  exact (Quiet.cacheTry (.host hinsert) .streamResult).bind fun _ _ =>
    .pure hnone

/-- Without a request handle the last call is silent. -/
theorem quiet_finish {b : Builder} (h : b.requestHeaders = none) (ending : Ending) :
    Quiet (fun b' => b'.requestHeaders = none) (b.finish ending) := by
  cases b with
  | lookup b =>
      cases ending with
      | execute _ => exact (quiet_lookup h).map fun _ _ => h
      | _ => exact .pure h
  | transactionLookup b =>
      cases ending with
      | execute _ => exact (quiet_transactionLookup h).map fun _ _ => h
      | executeAsync => exact (quiet_transactionLookupAsync h).map fun _ _ => h
      | drop => exact .pure h
  | insert b =>
      cases ending with
      | execute _ => exact (quiet_insert h).map fun _ _ => h
      | _ => exact .pure h
  | replace r =>
      cases ending with
      | execute maxAge => exact (quiet_replace h maxAge).map fun _ hp => hp
      | _ => exact .pure h

theorem quiet_destroyRequestHeaders {l : Option RequestHandle} (h : l = none) :
    Quiet (fun _ => True) (destroyRequestHeaders l) := by
  subst h
  exact .pure trivial

theorem quiet_destroy {b : Builder} (h : b.requestHeaders = none) :
    Quiet (fun _ => True) b.destroy := by
  cases b with
  | replace r =>
      exact (quiet_destroyRequestHeaders h).bind fun _ _ =>
        (quiet_resetExisting r).bind fun _ _ => .destroy _
  | _ => exact quiet_destroyRequestHeaders h

end Builder

theorem Chain.Bare.quiet_finish {chain : Chain} (h : chain.Bare) (ending : Ending) :
    Quiet (fun _ => True) (chain.finish ending) := by
  have hleftovers : ∀ ls : List (Option RequestHandle), (∀ l ∈ ls, l = none) →
      Quiet (fun _ => True) (ls.forM destroyRequestHeaders) := by
    intro ls hls
    induction ls with
    | nil => exact .pure trivial
    | cons l ls ih =>
        rw [List.forM_eq_forM, List.forM_cons]
        exact (Builder.quiet_destroyRequestHeaders (hls l List.mem_cons_self)).bind fun _ _ =>
          ih fun l' hl' => hls l' (List.mem_cons_of_mem _ hl')
  exact (Builder.quiet_finish h.builder ending).bind fun b hb =>
    (Builder.quiet_destroy hb).bind fun _ _ => hleftovers _ h.leftovers

/-! ## Chains with a header call -/

theorem Origin.bare (origin : Origin) : ({ builder := origin.builder } : Chain).Bare := by
  refine ⟨?_, fun l hl => by cases hl⟩
  cases origin <;> rfl

/-- The operations before the first header call, and what comes after it. -/
theorem exists_first_header {ops : List ChainOp} (h : ∃ op ∈ ops, op.isHeader = true) :
    ∃ before c after, ops = before ++ .call c :: after ∧ c.isHeader = true ∧
      ∀ op ∈ before, op.isHeader = false := by
  induction ops with
  | nil => obtain ⟨op, hop, -⟩ := h; cases hop
  | cons op ops ih =>
      cases hop : op.isHeader with
      | true =>
          cases op with
          | call c => exact ⟨[], c, ops, rfl, hop, fun op hop => by cases hop⟩
          | destroyLeftover i => cases hop
      | false =>
          obtain ⟨op', hmem, hop'⟩ := h
          rcases List.mem_cons.mp hmem with rfl | hmem
          · rw [hop] at hop'
            cases hop'
          · obtain ⟨before, c, after, rfl, hc, hbefore⟩ := ih ⟨op', hmem, hop'⟩
            refine ⟨op :: before, c, after, rfl, hc, ?_⟩
            rintro op'' (_ | ⟨_, hmem⟩)
            · exact hop
            · exact hbefore op'' hmem

/-- A chain that reaches its first header call asks the host for a request handle there,
closes it, and sets the headers. -/
theorem run_first_header (origin : Origin) {before : List ChainOp} {c : BuilderCall}
    (hc : c.isHeader = true) (hbefore : ∀ op ∈ before, op.isHeader = false)
    (after : List ChainOp) (ending : Ending) (H : RefHeap HandleObject) :
    ∃ name values, ∃ rest : RequestHandle → Prog HostCall.Answer Abort (Unit × RefHeap _),
      (runChain origin (before ++ .call c :: after) ending).run H =
        .call .httpReqNew fun r =>
          match r with
          | .error _ => .stop ⟨"http_req_new failed\n"⟩
          | .ok h => .call (.httpReqClose h) fun _ =>
            .call (.httpReqHeaderValuesSet h name values) fun _ => rest ⟨h⟩ := by
  obtain ⟨chain, hrun, hbare⟩ := Chain.Bare.foldlM hbefore origin.bare
  obtain ⟨name, values, f, hcall⟩ := Builder.call_of_header hc chain.builder
  rw [hbare.builder] at hcall
  refine ⟨name, headerBytes values, fun h => ((do
    let chain' ← after.foldlM Chain.exec ⟨f h, (f h).requestHeaders :: chain.leftovers⟩
    chain'.finish ending : Guest Unit)).run H, ?_⟩
  simp only [runChain, List.foldlM_append, hrun, pure_bind, List.foldlM_cons, Chain.exec, hcall]
  refine congrArg (Prog.call HostCall.httpReqNew) (funext fun r => ?_)
  cases r <;> rfl

/-! ## The lifecycle -/

theorem chainLog_of_no_header (origin : Origin) {ops : List ChainOp}
    (hops : ∀ op ∈ ops, op.isHeader = false) (ending : Ending) (H : RefHeap HandleObject)
    (answers : ℕ → (c : HostCall) → c.Answer) :
    ∃ n, chainLog origin ops ending H answers = List.replicate n (.cacheCall none []) := by
  obtain ⟨chain, hrun, hbare⟩ := Chain.Bare.foldlM hops origin.bare
  obtain ⟨n, hlog⟩ := RequestTable.run_log_of_silent (t := { answers := answers })
    ((hbare.quiet_finish ending H).mono fun _ _ _ => trivial)
  refine ⟨n, ?_⟩
  rw [chainLog, runChain, hrun, pure_bind]
  exact hlog

theorem askedHeaders_of_no_header {ops : List ChainOp}
    (hops : ∀ op ∈ ops, op.isHeader = false) : askedHeaders ops = [] := by
  calc
    askedHeaders ops = ops.foldl (fun headers _ => headers) [] := by
      refine List.foldl_ext _ _ _ fun headers op hop => ?_
      have hop := hops op hop
      cases op with
      | destroyLeftover i => rfl
      | call c => cases c <;> first | rfl | cases hop
    _ = [] := List.foldl_fixed ops

theorem lifecycle_of_no_header {ops : List ChainOp} (hops : ∀ op ∈ ops, op.isHeader = false)
    (n : ℕ) : Lifecycle (askedHeaders ops) (List.replicate n (.cacheCall none [])) := by
  have hmem : ∀ event ∈ List.replicate n (RequestEvent.cacheCall none []),
      event = .cacheCall none [] := fun event h => List.eq_of_mem_replicate h
  refine ⟨fun h isOpen hin => ?_, fun h isOpen headers hin => ?_, fun request headers hin => ?_,
    fun h hin => ?_⟩
  · cases hmem _ hin
  · cases hmem _ hin
  · cases hmem _ hin
    rw [askedHeaders_of_no_header hops]
    exact fun _ => rfl
  · cases hmem _ hin

/-- A chain handles request handles properly exactly if it has no header call, or the host
refuses the request handle for the first one, so that the process ends there. -/
theorem lifecycle_iff (origin : Origin) (ops : List ChainOp) (ending : Ending)
    (H : RefHeap HandleObject) (answers : ℕ → (c : HostCall) → c.Answer) :
    Lifecycle (askedHeaders ops) (chainLog origin ops ending H answers) ↔
      (∀ op ∈ ops, op.isHeader = false) ∨ ∃ status, answers 0 .httpReqNew = .error status := by
  by_cases hops : ∀ op ∈ ops, op.isHeader = false
  · obtain ⟨n, hlog⟩ := chainLog_of_no_header origin hops ending H answers
    rw [hlog]
    exact iff_of_true (lifecycle_of_no_header hops n) (.inl hops)
  · have hheader : ∃ op ∈ ops, op.isHeader = true := by
      simpa using hops
    obtain ⟨before, c, after, rfl, hc, hbefore⟩ := exists_first_header hheader
    obtain ⟨name, values, rest, hrun⟩ :=
      run_first_header origin hc hbefore after ending H
    cases hnew : answers 0 .httpReqNew with
    | error status =>
        refine iff_of_true ?_ (.inr ⟨status, rfl⟩)
        have hlog : chainLog origin (before ++ .call c :: after) ending H answers = [] := by
          rw [chainLog, hrun]
          simp [RequestTable.handle, hnew]
        rw [hlog]
        exact ⟨by simp, by simp, by simp, by simp⟩
    | ok h =>
        refine iff_of_false (fun hlife => ?_) ?_
        · -- the handle was closed with the temporary that it was copied from
          have hset : .valuesSet 0 false ∈
              chainLog origin (before ++ .call c :: after) ending H answers := by
            rw [chainLog, hrun]
            simp only [Prog.run_call, RequestTable.handle, hnew]
            refine (RequestTable.log_prefix_run _ _).subset ?_
            simp [RequestTable.effect, RequestTable.record]
          cases hlife.valuesSet_open _ _ hset
        · rintro (hnone | ⟨status, hstatus⟩)
          · exact hops hnone
          · cases hstatus

/-- A lookup with one header sets it under a handle that is closed already, and the
handle is closed three times. -/
theorem not_lifecycle_header :
    chainLog (.lookup [107]) [.call (.header [97] ⟨[98], false⟩)] .drop .empty
        (fun _ => HostCall.succeed) =
      [.opened 0, .closed 0, .valuesSet 0 false, .closed 0, .closed 0] ∧
    ¬ Lifecycle (askedHeaders [.call (.header [97] ⟨[98], false⟩)])
      (chainLog (.lookup [107]) [.call (.header [97] ⟨[98], false⟩)] .drop .empty
        (fun _ => HostCall.succeed)) := by
  have hlog : chainLog (.lookup [107]) [.call (.header [97] ⟨[98], false⟩)] .drop .empty
        (fun _ => HostCall.succeed) =
      [.opened 0, .closed 0, .valuesSet 0 false, .closed 0, .closed 0] := rfl
  refine ⟨hlog, fun hlife => ?_⟩
  rw [hlog] at hlife
  cases hlife.valuesSet_open 0 false (by decide)

end ComputeSdk
