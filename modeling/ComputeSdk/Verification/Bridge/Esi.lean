import Mathlib.Data.Fin.Tuple.Basic
import ComputeSdk.Model.Esi

/-! # Callbacks across the bridge

Processing with callbacks that cross the bridge, compared with callbacks that are called in
place. -/

namespace ComputeSdk.Esi

open Shared

variable {F : Crates} {K K' W : Type} {E : EsiCrate F}

/-! ## In place -/

variable (F) in
/-- The world, and the objects that the callbacks have returned so far. -/
structure Direct (W : Type) where
  world : W
  returned : List (Boxed F)

/-- What ends the process: the crate panics, or a processor is used that processed before. -/
inductive Stop where
  | panic (message : String)
  | emptied

/-- An emptied box is passed as a null pointer. -/
def Stop.crash : Stop → Crash
  | panic message => .panic message
  | emptied => .badPointer .null

variable (F) in
abbrev DirectM (W : Type) := StateT (Direct F W) (Except Stop)

/-- The object in the content. -/
def PendingFragmentContent.objects : PendingFragmentContent F → List (Boxed F)
  | .pendingRequest req => [.pendingRequest req]
  | .completedRequest resp => [.response resp]
  | .noContent => []

/-- A callback that is called where it is, with what it captured at first. -/
def DispatchFragmentRequestFn.direct (fn : DispatchFragmentRequestFn F K W) (req : F.Request) :
    DirectM F W (Except ExecutionError (PendingFragmentContent F)) := fun s =>
  let (res, _, world) := fn.invoke req fn.captured s.world
  match res with
  | some content => .ok (.ok content, ⟨world, s.returned ++ content.objects⟩)
  | none => .ok (.error (.functionError "dispatch_fragment_request"), ⟨world, s.returned⟩)

/-- The callback has a clone of the request, which stays as cloning leaves it. -/
def ProcessFragmentResponseFn.direct (E : EsiCrate F) (fn : ProcessFragmentResponseFn F K W)
    (req : F.Request) (resp : F.Response) :
    DirectM F W (Except ExecutionError F.Response × F.Request) := fun s =>
  let (clone, req) := E.cloneWithBody req
  let (res, _, _, world) := fn.invoke clone resp fn.captured s.world
  match res with
  | some resp => .ok ((.ok resp, req), ⟨world, s.returned ++ [.response resp]⟩)
  | none => .ok ((.error (.functionError "process_fragment_response"), req), ⟨world, s.returned⟩)

def directly (E : EsiCrate F) (dispatch : Option (DispatchFragmentRequestFn F K W))
    (process : Option (ProcessFragmentResponseFn F K' W)) :
    (c : Callback F dispatch.isSome process.isSome) → DirectM F W (c.Answer F)
  | .dispatchFragmentRequest given req => (dispatch.get given).direct req
  | .processFragmentResponse given req resp => (process.get given).direct E req resp

/-- The worlds are the same. Behind raw pointers nothing is left but a lost box for each
object that a callback returned. -/
def Related (m : Memory F W) (s : Direct F W) : Prop :=
  m.world = s.world ∧ m.boxes.Settled s.returned

/-! ## One callback -/

theorem run_intoRaw (a : Boxed F) (m : Memory F W) :
    (intoRaw a : CallbackM F W RawBox).run m =
      .ok (some m.boxes.cells.length, ⟨⟨m.boxes.cells ++ [.released a]⟩, m.world⟩) := rfl

/-- A released box is adopted, wherever it is. -/
theorem run_fromRaw (before after : List (BoxCell (Boxed F))) (a : Boxed F) (world : W) :
    (behind (RawBoxes.fromRaw (some before.length))).run
        (⟨⟨before ++ .released a :: after⟩, world⟩ : Memory F W) =
      .ok (a, ⟨⟨before ++ .adopted :: after⟩, world⟩) := by
  simp only [behind, StateT.run, RawBoxes.fromRaw, RawBoxes.take_middle]

/-- The value of a released box is moved out. -/
theorem run_read (before : List (BoxCell (Boxed F))) (a : Boxed F) (world : W) :
    (behind (RawBoxes.read (some before.length))).run
        (⟨⟨before ++ [.released a]⟩, world⟩ : Memory F W) =
      .ok (a, ⟨⟨before ++ [.hollow a]⟩, world⟩) := by
  simp only [behind, StateT.run, RawBoxes.read, RawBoxes.take_middle]

/-- What Rust gets from the callback. The box of the request is adopted. -/
theorem run_manualbridgeCall_dispatch (func : DispatchFragmentRequestFn F K W) (req : F.Request)
    (cells : List (BoxCell (Boxed F))) (world : W) :
    (func.manualbridgeCall (some cells.length) none none).run
        ⟨⟨cells ++ [.released (.request req)]⟩, world⟩ =
      let adopted := cells ++ [BoxCell.adopted]
      let (res, _, world) := func.invoke req func.captured world
      match res with
      | none => .ok ((.error, none, none), ⟨⟨adopted⟩, world⟩)
      | some .noContent => .ok ((.noContent, none, none), ⟨⟨adopted⟩, world⟩)
      | some (.pendingRequest req) =>
        .ok ((.pendingRequest, some adopted.length, none),
          ⟨⟨adopted ++ [.released (.pendingRequest req)]⟩, world⟩)
      | some (.completedRequest resp) =>
        .ok ((.completedRequest, none, some adopted.length),
          ⟨⟨adopted ++ [.released (.response resp)]⟩, world⟩) := by
  unfold DispatchFragmentRequestFn.manualbridgeCall
  rw [run_bind_of_ok (run_fromRaw cells [] (.request req) world)]
  rw [asRequest_request, pure_bind]
  rcases hres : func.invoke req func.captured world with ⟨res, k, world'⟩
  have hcall : (func.call req).run ⟨⟨cells ++ [.adopted]⟩, world⟩ =
      .ok (res, ⟨⟨cells ++ [.adopted]⟩, world'⟩) := by
    simp only [DispatchFragmentRequestFn.call, StateT.run, hres]
  rw [run_bind_of_ok hcall]
  match res with
  | none => rfl
  | some .noContent => rfl
  | some (.pendingRequest _) => rfl
  | some (.completedRequest _) => rfl

/-- The value of a returned box, which is lost. -/
theorem refines_read {α : Type} {x : Boxed F → CallbackM F W α} {cells : List (BoxCell (Boxed F))}
    {a : Boxed F} {b : α} {world : W} {lost : List (Boxed F)}
    (hsettled : (⟨cells⟩ : RawBoxes (Boxed F)).Settled lost) (hx : x a = pure b) :
    Lockstep (some ∘ Stop.crash) Related
      ((behind (RawBoxes.read (some cells.length)) >>= x).run
        ⟨⟨cells ++ [.released a]⟩, world⟩)
      (.ok (b, ⟨world, lost ++ [a]⟩)) := by
  rw [run_bind_of_ok (run_read cells a world), hx]
  exact .ok b ⟨rfl, hsettled.append [.hollow a] rfl⟩

theorem refines_shimDispatchFragmentRequestFn (func : DispatchFragmentRequestFn F K W)
    (req : F.Request) :
    Refines (some ∘ Stop.crash) Related (Sys.shimDispatchFragmentRequestFn func req)
      (func.direct req) := by
  rintro ⟨⟨cells⟩, world⟩ s ⟨rfl, hsettled⟩
  have hadopted := hsettled.append_of_nil [.adopted] rfl rfl
  have hcall := run_manualbridgeCall_dispatch func req cells s.world
  have hdirect : (func.direct req).run s = func.direct req s := rfl
  unfold Sys.shimDispatchFragmentRequestFn
  rw [run_bind_of_ok (run_intoRaw (.request req) _)]
  rcases hres : func.invoke req func.captured s.world with ⟨res, k, world'⟩
  simp only [hres] at hcall
  simp only [DispatchFragmentRequestFn.direct, hres] at hdirect
  rw [hdirect]
  match res with
  | none =>
      rw [run_bind_of_ok hcall]
      exact .ok _ ⟨rfl, hadopted⟩
  | some .noContent =>
      rw [run_bind_of_ok hcall]
      exact .ok _ ⟨rfl, by simpa [PendingFragmentContent.objects] using hadopted⟩
  | some (.pendingRequest req) =>
      rw [run_bind_of_ok hcall]
      exact refines_read hadopted rfl
  | some (.completedRequest resp) =>
      rw [run_bind_of_ok hcall]
      exact refines_read hadopted rfl

/-- The boxes of the request and of the response are both adopted. -/
theorem run_manualbridgeCall_process (func : ProcessFragmentResponseFn F K W) (req : F.Request)
    (resp : F.Response) (cells : List (BoxCell (Boxed F))) (world : W) :
    (func.manualbridgeCall (some cells.length) (some (cells.length + 1)) none).run
        ⟨⟨cells ++ [.released (.request req), .released (.response resp)]⟩, world⟩ =
      let adopted := cells ++ [BoxCell.adopted, BoxCell.adopted]
      let (res, _, _, world) := func.invoke req resp func.captured world
      match res with
      | none => .ok ((false, none), ⟨⟨adopted⟩, world⟩)
      | some resp =>
        .ok ((true, some adopted.length), ⟨⟨adopted ++ [.released (.response resp)]⟩, world⟩) := by
  have hresp := run_fromRaw (cells ++ [.adopted]) [] (.response resp) world
  simp only [List.length_append, List.length_singleton, List.append_assoc, List.singleton_append]
    at hresp
  unfold ProcessFragmentResponseFn.manualbridgeCall
  rw [run_bind_of_ok (run_fromRaw cells [.released (.response resp)] (.request req) world),
    asRequest_request, pure_bind]
  rw [run_bind_of_ok hresp, asResponse_response, pure_bind]
  rcases hres : func.invoke req resp func.captured world with ⟨res, req', k, world'⟩
  have hcall : (func.call req resp).run ⟨⟨cells ++ [.adopted, .adopted]⟩, world⟩ =
      .ok (res, ⟨⟨cells ++ [.adopted, .adopted]⟩, world'⟩) := by
    simp only [ProcessFragmentResponseFn.call, StateT.run, hres]
  rw [run_bind_of_ok hcall]
  cases res with
  | none => rfl
  | some resp => rfl

theorem refines_shimProcessFragmentResponseFn (func : ProcessFragmentResponseFn F K W)
    (req : F.Request) (resp : F.Response) :
    Refines (some ∘ Stop.crash) Related (Sys.shimProcessFragmentResponseFn E func req resp)
      (func.direct E req resp) := by
  rintro ⟨⟨cells⟩, world⟩ s ⟨rfl, hsettled⟩
  have hadopted := hsettled.append_of_nil [.adopted, .adopted] rfl rfl
  have hdirect : (func.direct E req resp).run s = func.direct E req resp s := rfl
  unfold Sys.shimProcessFragmentResponseFn
  rcases hclone : E.cloneWithBody req with ⟨clone, req'⟩
  have hcall := run_manualbridgeCall_process func clone resp cells s.world
  rw [run_bind_of_ok (run_intoRaw (.request clone) _),
    run_bind_of_ok (run_intoRaw (.response resp) _)]
  simp only [List.length_append, List.length_singleton, List.append_assoc, List.singleton_append]
  rcases hres : func.invoke clone resp func.captured s.world with ⟨res, changed, k, world'⟩
  simp only [hres] at hcall
  simp only [ProcessFragmentResponseFn.direct, hclone, hres] at hdirect
  rw [hdirect]
  cases res with
  | none =>
      rw [run_bind_of_ok hcall]
      exact .ok _ ⟨rfl, hadopted⟩
  | some resp =>
      rw [run_bind_of_ok hcall]
      exact refines_read hadopted rfl

theorem refines_shims (dispatch : Option (DispatchFragmentRequestFn F K W))
    (process : Option (ProcessFragmentResponseFn F K' W))
    (c : Callback F dispatch.isSome process.isSome) :
    Refines (some ∘ Stop.crash) Related (Sys.shims E dispatch process c)
      (directly E dispatch process c) := by
  cases c with
  | dispatchFragmentRequest given req => exact refines_shimDispatchFragmentRequestFn _ req
  | processFragmentResponse given req resp => exact refines_shimProcessFragmentResponseFn _ req resp

/-! ## Processing -/

/-- What the caller gets for the result of the crate. -/
def reportedResult {α : Type} (E : EsiCrate F) (result : Except ExecutionError Unit) (a : α) :
    Except (RawPtr FastlyError) α :=
  ((into .esiError (result.mapError E.errorMsg)).map fun _ => a).mapError .box

section

variable {σ ε : Type} (E) (processor : E.Processor) {dispatch process : Bool} (panic : String → ε)
  (handle : (c : Callback F dispatch process) → StateT σ (Except ε) (c.Answer F))

/-- A document, with callbacks that are handled like this. -/
def documentWith (src : List UInt8) :
    StateT σ (Except ε) (Except (RawPtr FastlyError) (List UInt8)) :=
  match into .utf8Error (F.toStr src) with
  | .error e => pure (.error (.box e))
  | .ok doc => do
    let (result, out) ← (E.processDocument processor doc dispatch process).exec panic handle
    pure (reportedResult E result out)

def responseWith (metadata : Option F.Response) (doc : F.Response) :
    StateT σ (Except ε) (Except (RawPtr FastlyError) Unit × F.Response) := do
  let (result, doc) ← (E.processResponse processor metadata dispatch process doc).exec panic handle
  pure (reportedResult E result (), doc)

end

/-- What a bridged function does that starts with such a computation. -/
theorem call_during {τ σ ρ α : Type} (x : StateT σ (Except Crash) α)
    (k : α → Sys.ProcessM τ σ ρ ρ) (slots : Slots FastlyError τ) (obj : σ) :
    SlotM.call (Sys.during x >>= k) slots obj =
      (x.run obj >>= fun p => SlotM.call (k p.1) slots p.2) := by
  unfold SlotM.call Sys.during
  rw [ExceptT.run_bind_lift, StateT.run_bind]
  change ((x.run obj).map _ >>= _).map _ = _
  cases x.run obj with
  | error crash => rfl
  | ok p => rfl

section

variable (dispatch : Option (DispatchFragmentRequestFn F K W))
  (process : Option (ProcessFragmentResponseFn F K' W))

theorem run_processDocument (processor : E.Processor) (src : List UInt8) (m : Memory F W) :
    ((⟨some processor⟩ : Processor E).processDocument src dispatch process).run m =
      (documentWith E processor .panic (Sys.shims E dispatch process) src >>=
        fun result => pure (result, ⟨none⟩)).run m := by
  have hrun : ((⟨some processor⟩ : Processor E).processDocument src dispatch process).run m =
      ((Sys.mEsiProcessorProcessDocument E processor src dispatch process).call
        ⟨.null, []⟩ m).map fun p =>
          ((if p.1 then .ok p.2.2.out else .error p.2.2.err, ⟨none⟩), p.2.1) := by
    unfold Processor.processDocument Processor.take
    change ((Sys.mEsiProcessorProcessDocument E processor src dispatch process).call
      ⟨.null, []⟩ m >>= fun a => _) >>= _ = _
    generalize (Sys.mEsiProcessorProcessDocument E processor src dispatch process).call
      ⟨.null, []⟩ m = r
    cases r with
    | error crash => rfl
    | ok p => rfl
  rw [hrun]
  unfold Sys.mEsiProcessorProcessDocument documentWith
  cases into .utf8Error (F.toStr src) with
  | error e => rfl
  | ok doc =>
      change (SlotM.call (Sys.during _ >>= _) ⟨.null, []⟩ m).map _ = _
      rw [call_during, bind_assoc, StateT.run_bind]
      cases ((E.processDocument processor doc dispatch.isSome process.isSome).exec
          .panic (Sys.shims E dispatch process)).run m with
      | error crash => rfl
      | ok p =>
          obtain ⟨⟨result, out⟩, m'⟩ := p
          cases result with
          | error e => rfl
          | ok u => rfl

/-- An optional object crosses the bridge in a box that is adopted there. -/
theorem run_option {α : Type} {as : Boxed F → CallbackM F W α} {box : α → Boxed F}
    (has : ∀ a, as (box a) = pure a) (a : Option α) {m : Memory F W} {s : Direct F W}
    (h : Related m s) :
    ∃ p m₁ m₂, (orNull box a).run m = .ok (p, m₁) ∧
      (Sys.asOption as p).run m₁ = .ok (a, m₂) ∧ Related m₂ s := by
  obtain ⟨⟨cells⟩, world⟩ := m
  cases a with
  | none => exact ⟨none, _, _, rfl, rfl, h⟩
  | some a =>
      refine ⟨some cells.length, _, ⟨⟨cells ++ [.adopted]⟩, world⟩, run_intoRaw (box a) _, ?_,
        h.1, h.2.append_of_nil [.adopted] rfl rfl⟩
      unfold Sys.asOption
      rw [if_neg (by simp), run_bind_of_ok (run_fromRaw cells [] (box a) world), has]
      rfl

theorem run_processResponse (processor : E.Processor) (doc : F.Response)
    {metadata : Option F.Response} {p : RawBox} {m m₁ m₂ : Memory F W}
    (hraw : (orNull .response metadata).run m = .ok (p, m₁))
    (hadopt : (Sys.asOption asResponse p).run m₁ = .ok (metadata, m₂)) :
    ((⟨some processor⟩ : Processor E).processResponse doc metadata dispatch process).run m =
      (responseWith E processor .panic (Sys.shims E dispatch process) metadata doc >>=
        fun p => pure (p.1, p.2, ⟨none⟩)).run m₂ := by
  have hrun : ((⟨some processor⟩ : Processor E).processResponse doc metadata dispatch process).run
      m = ((Sys.mEsiProcessorProcessResponse E processor p dispatch process).call
        ⟨.null, ()⟩ (m₁, doc)).map fun p =>
          ((if p.1 then .ok () else .error p.2.2.err, p.2.1.2, ⟨none⟩), p.2.1.1) := by
    unfold Processor.processResponse Processor.take
    rw [run_bind_of_ok hraw]
    change ((Sys.mEsiProcessorProcessResponse E processor p dispatch process).call
      ⟨.null, ()⟩ (m₁, doc) >>= fun a => _) >>= _ = _
    generalize (Sys.mEsiProcessorProcessResponse E processor p dispatch process).call
      ⟨.null, ()⟩ (m₁, doc) = r
    cases r with
    | error crash => rfl
    | ok p => rfl
  rw [hrun]
  unfold Sys.mEsiProcessorProcessResponse responseWith
  rw [call_during]
  change ((((Sys.asOption asResponse p).run m₁).map _ >>= _) : Except Crash _).map _ = _
  rw [hadopt]
  change (SlotM.call (Sys.during _ >>= _) ⟨.null, ()⟩ (m₂, doc)).map _ = _
  rw [call_during, bind_assoc, StateT.run_bind]
  change ((((E.processResponse processor metadata dispatch.isSome process.isSome doc).exec
    .panic (Sys.shims E dispatch process)).run m₂).map _ >>= _).map _ = _
  cases ((E.processResponse processor metadata dispatch.isSome process.isSome doc).exec
      .panic (Sys.shims E dispatch process)).run m₂ with
  | error crash => rfl
  | ok p =>
      obtain ⟨⟨result, doc⟩, m'⟩ := p
      cases result with
      | error e => rfl
      | ok u => rfl

theorem refines_exec_shims {α : Type} (p : Processing F dispatch.isSome process.isSome α) :
    Refines (some ∘ Stop.crash) Related (p.exec .panic (Sys.shims E dispatch process))
      (p.exec .panic (directly E dispatch process)) := by
  refine refines_exec (refines_shims dispatch process) ?_ p
  exact fun message => rfl

theorem refines_documentWith (processor : E.Processor) (src : List UInt8) :
    Refines (some ∘ Stop.crash) Related
      (documentWith E processor .panic (Sys.shims E dispatch process) src)
      (documentWith E processor .panic (directly E dispatch process) src) := by
  unfold documentWith
  cases into .utf8Error (F.toStr src) with
  | error e => exact refines_pure _
  | ok doc =>
      exact (refines_exec_shims dispatch process _).bind fun _ => refines_pure _

theorem refines_responseWith (processor : E.Processor) (metadata : Option F.Response)
    (doc : F.Response) :
    Refines (some ∘ Stop.crash) Related
      (responseWith E processor .panic (Sys.shims E dispatch process) metadata doc)
      (responseWith E processor .panic (directly E dispatch process) metadata doc) :=
  (refines_exec_shims dispatch process _).bind fun _ => refines_pure _

end

/-! ## Processors -/

variable (F)

/-- What a processor is asked to process. -/
inductive Document where
  | text (src : List UInt8)
  | response (resp : F.Response) (metadata : Option F.Response)

/-- What comes of it. A response is changed in place. -/
inductive Processed where
  | text (result : Except (RawPtr FastlyError) (List UInt8))
  | response (result : Except (RawPtr FastlyError) Unit) (resp : F.Response)

/-- A document, with the callbacks for it. -/
structure Task (K K' W : Type) where
  dispatch : Option (DispatchFragmentRequestFn F K W) := none
  process : Option (ProcessFragmentResponseFn F K' W) := none
  document : Document F

/-- What a client does that has `n` processors: it makes one more, or has one of them process a
document. -/
inductive Client (K K' W : Type) : ℕ → Type where
  | done {n : ℕ} : Client K K' W n
  | make {n : ℕ} (originalRequestMetadata : Option F.Request) (config : Configuration)
      (rest : Client K K' W (n + 1)) : Client K K' W n
  | process {n : ℕ} (i : Fin n) (task : Task F K K' W) (rest : Client K K' W n) :
      Client K K' W n

variable {F} (E)

def Processor.process (self : Processor E) (task : Task F K K' W) :
    CallbackM F W (Processed F × Processor E) :=
  match task.document with
  | .text src => do
    let (result, self) ← self.processDocument src task.dispatch task.process
    pure (.text result, self)
  | .response resp metadata => do
    let (result, resp, self) ← self.processResponse resp metadata task.dispatch task.process
    pure (.response result resp, self)

/-- The crate on the objects themselves, with callbacks in place. -/
def Task.direct (task : Task F K K' W) (processor : E.Processor) : DirectM F W (Processed F) :=
  match task.document with
  | .text src => do
    let result ←
      documentWith E processor .panic (directly E task.dispatch task.process) src
    pure (.text result)
  | .response resp metadata => do
    let (result, resp) ←
      responseWith E processor .panic (directly E task.dispatch task.process) metadata resp
    pure (.response result resp)

def taken : Option E.Processor → DirectM F W E.Processor
  | some processor => pure processor
  | none => throw .emptied

namespace Client

/-- What comes of all documents. -/
def perform {n : ℕ} : Client F K K' W n → (Fin n → Processor E) → CallbackM F W (List (Processed F))
  | .done, _ => pure []
  | .make originalRequestMetadata config rest, processors => do
    let processor ← Processor.make E originalRequestMetadata config
    rest.perform (Fin.snoc processors processor)
  | .process i task rest, processors => do
    let (outcome, processor) ← (processors i).process E task
    let outcomes ← rest.perform (Function.update processors i processor)
    pure (outcome :: outcomes)

def direct {n : ℕ} :
    Client F K K' W n → (Fin n → Option E.Processor) → DirectM F W (List (Processed F))
  | .done, _ => pure []
  | .make originalRequestMetadata config rest, processors =>
    rest.direct (Fin.snoc processors (some (E.new originalRequestMetadata
      ⟨F.toStringLossy config.namespc, config.isEscapedContent⟩)))
  | .process i task rest, processors => do
    let processor ← taken E (processors i)
    let outcome ← task.direct E processor
    let outcomes ← rest.direct (Function.update processors i none)
    pure (outcome :: outcomes)

/-- The processors that are used, by their numbers. -/
def uses {n : ℕ} : Client F K K' W n → List ℕ
  | .done => []
  | .make _ _ rest => rest.uses
  | .process i _ rest => i :: rest.uses

end Client

/-- The original request crosses the bridge before any document is looked at. -/
theorem run_make (originalRequestMetadata : Option F.Request) (config : Configuration)
    {m : Memory F W} {s : Direct F W} (h : Related m s) :
    ∃ m', (Processor.make E originalRequestMetadata config).run m =
        .ok (⟨some (E.new originalRequestMetadata
          ⟨F.toStringLossy config.namespc, config.isEscapedContent⟩)⟩, m') ∧ Related m' s := by
  obtain ⟨p, m₁, m₂, hraw, hadopt, hrelated⟩ :=
    run_option asRequest_request originalRequestMetadata h
  refine ⟨m₂, ?_, hrelated⟩
  unfold Processor.make Sys.mStaticEsiProcessorNew
  rw [run_bind_of_ok hraw, bind_assoc, run_bind_of_ok hadopt]
  rfl

/-- Nothing is left in the box of a processor that processed a document. -/
theorem refines_process (task : Task F K K' W) (processor : E.Processor) :
    Refines (some ∘ Stop.crash) Related (Processor.process E ⟨some processor⟩ task)
      (task.direct E processor >>= fun outcome => pure (outcome, ⟨none⟩)) := by
  intro m s h
  unfold Processor.process Task.direct
  cases task.document with
  | text src =>
      dsimp only
      rw [run_bind_congr _ (run_processDocument _ _ _ _ _), bind_assoc, bind_assoc]
      have hrefines := refines_documentWith task.dispatch task.process processor src
      exact (hrefines.bind fun result =>
        refines_pure (Processed.text result, (⟨none⟩ : Processor E))) m s h
  | response resp metadata =>
      obtain ⟨p, m₁, m₂, hraw, hadopt, h₂⟩ := run_option asResponse_response metadata h
      dsimp only
      rw [run_bind_congr _ (run_processResponse _ _ _ _ hraw hadopt), bind_assoc, bind_assoc]
      have hrefines := refines_responseWith task.dispatch task.process processor metadata resp
      exact (hrefines.bind fun p =>
        refines_pure (Processed.response p.1 p.2, (⟨none⟩ : Processor E))) m₂ s h₂

/-- A processor that is used again is a null pointer. -/
theorem run_process_emptied (task : Task F K K' W) (m : Memory F W) :
    (Processor.process E ⟨none⟩ task).run m = .error (.badPointer .null) := by
  unfold Processor.process
  cases task.document with
  | text src => rfl
  | response resp metadata => cases metadata <;> rfl

/-- The clients are in lockstep, from any processors on. -/
theorem Client.refines_perform {n : ℕ} (client : Client F K K' W n)
    (processors : Fin n → Option E.Processor) :
    Refines (some ∘ Stop.crash) Related (client.perform E (Processor.mk ∘ processors))
      (client.direct E processors) := by
  induction client with
  | done => exact refines_pure []
  | make originalRequestMetadata config rest ih =>
      intro m s h
      obtain ⟨m', hmake, h'⟩ := run_make E originalRequestMetadata config h
      rw [perform, run_bind_of_ok hmake, ← Fin.comp_snoc]
      exact ih _ m' s h'
  | process i task rest ih =>
      rw [perform, direct, Function.comp_apply]
      cases processors i with
      | none =>
          intro m s h
          have hstop := run_process_emptied E task m
          rw [StateT.run_bind, hstop]
          exact .error (d := Stop.emptied) rfl
      | some processor =>
          have hrest : ∀ p : Processed F × Processor E, Refines (some ∘ Stop.crash) Related
              (rest.perform E (Function.update (Processor.mk ∘ processors) i p.2) >>=
                fun outcomes => pure (p.1 :: outcomes))
              (rest.direct E (Function.update processors i p.2.processor) >>=
                fun outcomes => pure (p.1 :: outcomes)) := by
            intro p
            have hbefore := ih (Function.update processors i p.2.processor)
            rw [Function.comp_update] at hbefore
            exact hbefore.bind fun outcomes => refines_pure _
          have hprocess := (refines_process E task processor).bind hrest
          simpa only [taken, bind_assoc, pure_bind] using hprocess

/-! ## Runs -/

/-- What a client sees that has no processor yet. -/
def performAll (client : Client F K K' W 0) (world : W) :
    Except Crash (List (Processed F) × Memory F W) :=
  (client.perform E Fin.elim0).run ⟨.empty, world⟩

def directAll (client : Client F K K' W 0) (world : W) :
    Except Stop (List (Processed F) × Direct F W) :=
  (client.direct E Fin.elim0).run ⟨world, []⟩

theorem performAll_lockstep (client : Client F K K' W 0) (world : W) :
    Lockstep (some ∘ Stop.crash) Related (performAll E client world)
      (directAll E client world) := by
  have hrefines := client.refines_perform E Fin.elim0
  rw [show (Processor.mk ∘ Fin.elim0 : Fin 0 → Processor E) = Fin.elim0 from
    funext fun i => i.elim0] at hrefines
  exact hrefines _ _ ⟨rfl, RawBoxes.settled_empty⟩

/-- The bridge is transparent. Whatever a processor asks of its callbacks, and in whatever order,
the results and the world are those of callbacks that the crate calls in place: each call of a
callback starts from what the callback had captured, and changes to the request are not seen. -/
theorem callbacks_transparent (client : Client F K K' W 0) (world : W) :
    (performAll E client world).map (fun p => (p.1, p.2.world)) =
      ((directAll E client world).mapError Stop.crash).map fun p => (p.1, p.2.world) := by
  have hlock := performAll_lockstep E client world
  revert hlock
  generalize performAll E client world = bridged
  generalize directAll E client world = direct
  intro hlock
  cases hlock with
  | ok outcomes h => exact congrArg (fun world => Except.ok (outcomes, world)) h.1
  | error h =>
      obtain rfl := Option.some.inj h
      rfl
  | free h => cases h

/-! ## Processors that are used again -/

namespace Client

end Client

end ComputeSdk.Esi
