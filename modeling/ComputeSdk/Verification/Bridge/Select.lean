import ComputeSdk.Model.Bridge.Plain
import ComputeSdk.Model.Bridge.Select
import ComputeSdk.Shared.Drain
import ComputeSdk.Verification.Bridge.Errors

/-! # Selection among pending requests

The boxes around the requests are full whenever they are opened, so `select` returns what the
crate does. -/

namespace ComputeSdk

open Shared SlotM Http

/-! ## Boxes -/

section

variable {P : Type}

/-- Every request in a box. -/
def fullBoxes (reqs : List P) : List (Sys.BoxPendingRequest P) := reqs.map fun req => ⟨some req⟩

theorem foldl_push (reqs : List P) (vec : List (Sys.BoxPendingRequest P)) :
    reqs.foldl Sys.fHttpPushBoxPendingRequestIntoVec vec = vec ++ fullBoxes reqs := by
  induction reqs generalizing vec with
  | nil => exact (List.append_nil vec).symm
  | cons req reqs ih => exact (ih (vec ++ [⟨some req⟩])).trans (List.append_assoc vec _ _)

theorem moveReqs_eq (reqs : List P) :
    moveReqs reqs = (fullBoxes reqs, reqs.map fun _ => none) := by
  have hfold : ∀ (vec : List (Sys.BoxPendingRequest P)) (moved : List (Option P)),
      reqs.foldl
          (fun p boxed => (Sys.fHttpPushBoxPendingRequestIntoVec p.1 boxed, p.2 ++ [none]))
          (vec, moved) = (vec ++ fullBoxes reqs, moved ++ reqs.map fun _ => none) := by
    induction reqs with
    | nil => simp [fullBoxes]
    | cons req reqs ih =>
        intro vec moved
        rw [List.foldl_cons, ih]
        simp [Sys.fHttpPushBoxPendingRequestIntoVec, fullBoxes]
  exact hfold [] []

/-- No box is empty before its request is extracted. -/
theorem extractReqs_fullBoxes (reqs : List P) :
    Sys.extractReqs (fullBoxes reqs) = .ok (reqs, reqs.map fun _ => ⟨none⟩) := by
  induction reqs with
  | nil => rfl
  | cons req reqs ih =>
      change (Sys.extractReqs (fullBoxes reqs) >>= _) = _
      rw [ih]
      rfl

end

/-! ## One selection -/

section

variable (F : Crates)

/-- What the caller gets for an outcome. -/
def reported (res : Except String F.Response) :
    Except (RawPtr FastlyError) (RawPtr F.Response) :=
  ((into .fastlySendError res).map .box).mapError .box

/-- What the crate selects, as the caller gets it. -/
def selected (reqs : List F.PendingRequest) :
    Except (RawPtr FastlyError) (RawPtr F.Response) × List F.PendingRequest :=
  (reported F (F.select reqs).1, (F.select reqs).2)

/-- The others are written before the macro looks at the outcome, and whatever it is. -/
theorem call_fHttpRequestSelectBoxes (reqs : List F.PendingRequest)
    (slots : Slots FastlyError (RawPtr F.Response)) :
    ∃ slots', (Sys.fHttpRequestSelectBoxes F (fullBoxes reqs)).call slots ⟨[], []⟩ =
        .ok ((), ⟨fullBoxes (F.select reqs).2, [reqs]⟩, slots') ∧
      (if slots'.err.isNull then .ok slots'.out else .error slots'.err) =
        reported F (F.select reqs).1 := by
  have hcall : (Sys.fHttpRequestSelectBoxes F (fullBoxes reqs)).call slots ⟨[], []⟩ =
      SlotM.call (tryFe .fastlySendError (F.select reqs).1 >>= fun res => SlotM.setOut (.box res))
        slots ⟨fullBoxes (F.select reqs).2, [reqs]⟩ := by
    unfold Sys.fHttpRequestSelectBoxes
    rw [extractReqs_fullBoxes, ← List.nil_append (fullBoxes (F.select reqs).2), ← foldl_push]
    rfl
  rw [hcall]
  cases (F.select reqs).1 with
  | ok res => exact ⟨⟨.null, .box res⟩, rfl, rfl⟩
  | error e => exact ⟨⟨.box ⟨.fastlySendError, e⟩, slots.out⟩, rfl, rfl⟩

theorem selectBoxes_eq (reqs : List F.PendingRequest)
    (slots : Slots FastlyError (RawPtr F.Response)) :
    selectBoxes F reqs slots =
      .ok ⟨(selected F reqs).1, (selected F reqs).2, reqs.map fun _ => none, [reqs]⟩ := by
  obtain ⟨slots', hcall, hresult⟩ := call_fHttpRequestSelectBoxes F reqs (initErr slots)
  unfold selectBoxes
  rw [moveReqs_eq]
  change (SlotM.call _ _ _ >>= _) = _
  rw [hcall]
  change (Sys.extractReqs (fullBoxes (F.select reqs).2) >>= _) = _
  rw [extractReqs_fullBoxes]
  change Except.ok (Selected.mk (ite _ _ _) _ _ _) = _
  rw [hresult]
  rfl

/-- Without the boxes, `select` is the same function. -/
theorem selectBoxes_refines (reqs : List F.PendingRequest)
    (slots : Slots FastlyError (RawPtr F.Response)) :
    (selectBoxes F reqs slots).map (fun s => (s.result, s.retOthers)) =
      Http.select F reqs slots := by
  have hagrees : Http.select F reqs slots = (Wrapper.select reqs).contract.expected :=
    (Wrapper.select reqs).agreesAt_of_not_inverted id slots
  rw [selectBoxes_eq, hagrees]
  change Except.ok (reported F (F.select reqs).1, (F.select reqs).2) =
    (inBox (into .fastlySendError (F.select reqs).1)).outcome (F.select reqs).2
  cases (F.select reqs).1 <;> rfl

/-! ## All requests -/

/-- A client that selects again from what the last selection left, as often as it has slots.
Each turn comes with the requests that the crate was given in it. -/
def selectAll : List (Slots FastlyError (RawPtr F.Response)) → List F.PendingRequest →
    Except Abort (List (List F.PendingRequest × Except (RawPtr FastlyError) (RawPtr F.Response)) ×
      List F.PendingRequest)
  | [], reqs => .ok ([], reqs)
  | slots :: later, reqs => do
    let s ← selectBoxes F reqs slots
    let (turns, rest) ← selectAll later s.retOthers
    pure ((s.given.flatten, s.result) :: turns, rest)

theorem selectAll_eq (slots : List (Slots FastlyError (RawPtr F.Response)))
    (reqs : List F.PendingRequest) :
    selectAll F slots reqs = .ok (drain (selected F) slots.length reqs) := by
  induction slots generalizing reqs with
  | nil => rfl
  | cons first later ih =>
      rw [selectAll, selectBoxes_eq]
      change (selectAll F later (selected F reqs).2 >>= _) = _
      rw [ih]
      change Except.ok (([reqs].flatten, _) :: _, _) = _
      rw [List.flatten_singleton]
      rfl

theorem selects_selected {outcome : F.PendingRequest → Except String F.Response}
    (hF : Selects F.select outcome) :
    Selects (selected F) fun req => reported F (outcome req) := by
  intro reqs hreqs
  obtain ⟨req, houtcome, hperm⟩ := hF reqs hreqs
  exact ⟨req, congrArg (reported F) houtcome, hperm⟩

end

/-- The crate was given the requests in one call. What it selected is returned, the outcome of
one request with all others, and the vector of the caller is empty of requests. -/
structure Conserves (F : Crates) (outcome : F.PendingRequest → Except String F.Response)
    (reqs : List F.PendingRequest) (s : Selected F) : Prop where
  given : s.given = [reqs]
  returned : (s.result, s.retOthers) = selected F reqs
  one : ∃ req, (F.select reqs).1 = outcome req ∧ s.result = reported F (outcome req) ∧
    (req :: s.retOthers).Perm reqs
  moved : s.reqs = reqs.map fun _ => none

/-- One selection, whatever was in the slots: no box is empty when it is opened, nothing is lost,
and without the boxes the result is the same. -/
def SelectsOne (F : Crates) (outcome : F.PendingRequest → Except String F.Response)
    (reqs : List F.PendingRequest) : Prop :=
  ∀ slots, ∃ s, selectBoxes F reqs slots = .ok s ∧ Conserves F outcome reqs s ∧
    Http.select F reqs slots = .ok (s.result, s.retOthers)

/-- As many selections as there are requests return the outcome of each of them once. They are
the ones of the crate, which is given what it left before. -/
def SelectsAll (F : Crates) (outcome : F.PendingRequest → Except String F.Response)
    (reqs : List F.PendingRequest) : Prop :=
  ∀ slots : List (Slots FastlyError (RawPtr F.Response)), slots.length = reqs.length →
    ∃ order turns, selectAll F slots reqs = .ok (turns, []) ∧
      (turns, []) = drain (selected F) reqs.length reqs ∧
      Drained (fun req => reported F (outcome req)) reqs order turns

theorem selectsOne_of_selects {F : Crates} {outcome : F.PendingRequest → Except String F.Response}
    (hF : Selects F.select outcome) {reqs : List F.PendingRequest} (hreqs : reqs ≠ []) :
    SelectsOne F outcome reqs := by
  intro slots
  have hboxes := selectBoxes_eq F reqs slots
  obtain ⟨req, houtcome, hperm⟩ := hF reqs hreqs
  refine ⟨_, hboxes, ⟨rfl, rfl, ⟨req, houtcome, congrArg (reported F) houtcome, hperm⟩, rfl⟩, ?_⟩
  rw [← selectBoxes_refines, hboxes]
  rfl

theorem selectsAll_of_selects {F : Crates} {outcome : F.PendingRequest → Except String F.Response}
    (hF : Selects F.select outcome) (reqs : List F.PendingRequest) :
    SelectsAll F outcome reqs := by
  intro slots hslots
  obtain ⟨order, hdrained, hempty⟩ := (selects_selected F hF).drained rfl
  have hturns : ((drain (selected F) reqs.length reqs).1, []) =
      drain (selected F) reqs.length reqs := Prod.ext rfl hempty.symm
  refine ⟨order, _, ?_, hturns, hdrained⟩
  rw [selectAll_eq, hslots, hturns]

/-- No request is lost or duplicated. It is passed again as long as it is pending, and not
after its outcome was returned. -/
theorem select_conserves {F : Crates} {outcome : F.PendingRequest → Except String F.Response}
    (hF : Selects F.select outcome) {reqs : List F.PendingRequest} (hreqs : reqs ≠ []) :
    SelectsOne F outcome reqs ∧ SelectsAll F outcome reqs :=
  ⟨selectsOne_of_selects hF hreqs, selectsAll_of_selects hF reqs⟩

/-- Plain crates whose pending requests are numbers, of which the first is ready. -/
def numbered : Crates :=
  { Plain.crates with
    PendingRequest := ℕ
    sendAsync := fun _ _ => .ok 0
    sendAsyncStreaming := fun req _ => .ok (req.body, 0)
    wait := fun _ => .ok Plain.message
    select := fun reqs => (.ok Plain.message, reqs.tail) }

theorem numbered_selects : Selects numbered.select fun _ => .ok Plain.message := by
  intro reqs hreqs
  cases reqs with
  | nil => exact absurd rfl hreqs
  | cons req reqs => exact ⟨req, rfl, .refl _⟩

theorem select_conserves_two :
    SelectsOne numbered (fun _ => .ok Plain.message) ([0, 1] : List ℕ) ∧
      SelectsAll numbered (fun _ => .ok Plain.message) ([0, 1] : List ℕ) :=
  select_conserves numbered_selects (List.cons_ne_nil _ _)

/-- Over all selections, no request is passed twice. -/
def PassedOnce (F : Crates) (reqs : List F.PendingRequest) : Prop :=
  reqs.Nodup → ∀ slots turns, slots.length = reqs.length →
    selectAll F slots reqs = .ok (turns, []) → (turns.flatMap Prod.fst).Nodup

/-- Of two requests, the second one is passed to both selections. -/
theorem not_passedOnce :
    ¬ ∀ (F : Crates) (outcome : F.PendingRequest → Except String F.Response),
      Selects F.select outcome → ∀ reqs : List F.PendingRequest, reqs ≠ [] →
        SelectsOne F outcome reqs ∧ SelectsAll F outcome reqs ∧ PassedOnce F reqs := by
  intro h
  have hpassed := (h numbered _ numbered_selects ([0, 1] : List ℕ) (List.cons_ne_nil _ _)).2.2
  have hnodup : ([0, 1, 1] : List ℕ).Nodup :=
    hpassed (show ([0, 1] : List ℕ).Nodup by decide) [⟨.null, .null⟩, ⟨.null, .null⟩] _ rfl
      (selectAll_eq numbered _ _)
  exact absurd hnodup (by decide)

end ComputeSdk
