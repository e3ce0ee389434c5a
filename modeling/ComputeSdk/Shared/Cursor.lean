import Mathlib.Data.List.ReduceOption
import Mathlib.Tactic.Common

/-! # Cursors

A cursor gives a next element or says that it is exhausted. What it was asked for so far is
said by a log. -/

namespace ComputeSdk.Shared

variable {σ α β κ ε : Type}

/-- What the cursor gives after `i` earlier calls. -/
def answer (step : σ → Option α × σ) : ℕ → σ → Option α
  | 0, s => (step s).1
  | i + 1, s => answer step i (step s).2

/-- The cursor gives these elements in order, and is exhausted from then on. -/
def Produces (step : σ → Option α × σ) (s : σ) (xs : List α) : Prop :=
  ∀ i, answer step i s = xs[i]?

section

variable {step : σ → Option α × σ} {s : σ} {xs : List α}

theorem Produces.head (h : Produces step s xs) : (step s).1 = xs.head? := by
  rw [List.head?_eq_getElem?]
  exact h 0

theorem Produces.tail (h : Produces step s xs) : Produces step (step s).2 xs.tail := by
  intro i
  rw [List.getElem?_tail]
  exact h (i + 1)

theorem answer_map (f : α → β) (i : ℕ) (s : σ) :
    answer (fun s => ((step s).1.map f, (step s).2)) i s = (answer step i s).map f := by
  induction i generalizing s with
  | zero => rfl
  | succ i ih => exact ih (step s).2

theorem Produces.map (h : Produces step s xs) (f : α → β) :
    Produces (fun s => ((step s).1.map f, (step s).2)) s (xs.map f) := by
  intro i
  rw [answer_map, h i, List.getElem?_map]

/-- Something that goes along with the cursor. -/
theorem Produces.prod (h : Produces step s xs) {τ : Type} (along : τ → τ) (t : τ) :
    Produces (fun p : σ × τ => ((step p.1).1, (step p.1).2, along p.2)) (s, t) xs := by
  intro i
  rw [← h i]
  induction i generalizing s t xs with
  | zero => rfl
  | succ i ih => exact ih h.tail (along t)

end

/-- The cursor that holds the elements still to come. -/
def uncons : List α → Option α × List α
  | [] => (none, [])
  | x :: xs => (some x, xs)

theorem produces_uncons (xs : List α) : Produces uncons xs xs := by
  intro i
  induction i generalizing xs with
  | zero => cases xs <;> rfl
  | succ i ih =>
      cases xs with
      | nil => exact ih []
      | cons x xs => exact ih xs

/-! ## Logs -/

/-- A call that may fail, with a log of who called and what it got. -/
def logged (who : κ) (next : StateT σ (Except ε) (Option α)) :
    StateT (σ × List (κ × Option α)) (Except ε) (Option α) :=
  fun s => (next s.1).map fun p => (p.1, p.2, s.2 ++ [(who, p.1)])

/-- The log of calls that got the elements in order, each once, and then only that the cursor is
exhausted. -/
def IsTrace (xs : List α) (log : List (κ × Option α)) : Prop :=
  log.map Prod.snd = (List.range log.length).map fun i => xs[i]?

/-- The elements in a log. -/
def obtained (log : List (κ × Option α)) : List α := (log.map Prod.snd).reduceOption

section

variable {xs : List α} {log : List (κ × Option α)} {who : κ} {a : Option α}

theorem isTrace_nil : IsTrace xs ([] : List (κ × Option α)) := rfl

theorem IsTrace.concat (h : IsTrace xs log) (ha : a = xs[log.length]?) :
    IsTrace xs (log ++ [(who, a)]) := by
  rw [IsTrace, List.map_append, h, List.length_append, List.length_singleton, List.range_succ,
    List.map_append, ha]
  rfl

theorem reduceOption_range (xs : List α) (n : ℕ) :
    ((List.range n).map fun i => xs[i]?).reduceOption = xs.take n := by
  induction n with
  | zero => rfl
  | succ n ih =>
      rw [List.range_succ, List.map_append, List.reduceOption_append, ih, List.take_add_one]
      cases h : xs[n]? <;> simp [h]

/-- What one caller got. -/
def fetchesOf [DecidableEq κ] (who : κ) (log : List (κ × Option α)) : List (Option α) :=
  (log.filter fun e => e.1 = who).map Prod.snd

theorem fetchesOf_concat_self [DecidableEq κ] :
    fetchesOf who (log ++ [(who, a)]) = fetchesOf who log ++ [a] := by
  simp [fetchesOf]

theorem fetchesOf_concat_of_ne [DecidableEq κ] {other : κ} (h : who ≠ other) :
    fetchesOf other (log ++ [(who, a)]) = fetchesOf other log := by
  simp [fetchesOf, h]

theorem IsTrace.obtained_eq (h : IsTrace xs log) : obtained log = xs.take log.length := by
  rw [obtained, h, reduceOption_range]

/-- The log is a trace, and the cursor goes on where it ends. -/
structure Tracks (step : σ → Option α × σ) (xs : List α) (s : σ × List (κ × Option α)) :
    Prop where
  trace : IsTrace xs s.2
  rest : Produces step s.1 (xs.drop s.2.length)

theorem tracks_start {step : σ → Option α × σ} {s : σ} (h : Produces step s xs) :
    Tracks step xs (s, ([] : List (κ × Option α))) := ⟨isTrace_nil, h⟩

section

variable {step : σ → Option α × σ} {s : σ × List (κ × Option α)}

theorem Tracks.head (h : Tracks step xs s) : (step s.1).1 = xs[s.2.length]? := by
  rw [h.rest.head, List.head?_drop]

theorem Tracks.concat (h : Tracks step xs s) (who : κ) :
    Tracks step xs ((step s.1).2, s.2 ++ [(who, xs[s.2.length]?)]) where
  trace := h.trace.concat rfl
  rest := by
    rw [List.length_append, List.length_singleton, ← List.tail_drop]
    exact h.rest.tail

/-- A call gets the element at the end of the log. -/
theorem Tracks.logged {next : StateT σ (Except ε) (Option α)}
    (hnext : ∀ s, next s = .ok (step s)) (h : Tracks step xs s) (who : κ) :
    logged who next s =
      .ok (xs[s.2.length]?, (step s.1).2, s.2 ++ [(who, xs[s.2.length]?)]) := by
  rw [Shared.logged, hnext, ← h.head]
  rfl

end

end

end ComputeSdk.Shared
