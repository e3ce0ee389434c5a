import Mathlib.Data.List.Forall2
import ComputeSdk.Shared.Handlers

/-! # Tables of objects

A program makes objects, uses them by their numbers and moves them away. Two programs are
compared where the second one succeeds: their results are related, and so are their tables. -/

namespace ComputeSdk.Shared

variable {δ ε σ τ α β α' β' : Type}

/-! ## Simulation -/

/-- From related states, where the second computation ends with a value, the first one ends
with a related one. -/
def Simulates (R : σ → τ → Prop) (V : α → β → Prop) (x : StateT σ (Except ε) α)
    (y : StateT τ (Except δ) β) : Prop :=
  ∀ s t, R s t → ∀ b t', y.run t = .ok (b, t') → ∃ a s', x.run s = .ok (a, s') ∧ V a b ∧ R s' t'

variable {R : σ → τ → Prop} {V : α → β → Prop} {V' : α' → β' → Prop}

theorem simulates_pure {a : α} {b : β} (h : V a b) :
    Simulates R V (pure a : StateT σ (Except ε) α) (pure b : StateT τ (Except δ) β) := by
  intro s t hR b' t' hrun
  obtain ⟨rfl, rfl⟩ := Prod.mk.inj (Except.ok.inj hrun)
  exact ⟨a, s, rfl, h, hR⟩

/-- Nothing is said where the second computation stops. -/
theorem simulates_throw (x : StateT σ (Except ε) α) (e : δ) :
    Simulates R V x (throw e : StateT τ (Except δ) β) :=
  fun _ _ _ _ _ hrun => nomatch hrun

theorem Simulates.bind {x : StateT σ (Except ε) α} {y : StateT τ (Except δ) β}
    {f : α → StateT σ (Except ε) α'} {g : β → StateT τ (Except δ) β'} (hx : Simulates R V x y)
    (hf : ∀ a b, V a b → Simulates R V' (f a) (g b)) : Simulates R V' (x >>= f) (y >>= g) := by
  intro s t hR b' t' hrun
  rw [StateT.run_bind] at hrun
  cases hy : y.run t with
  | error e =>
      rw [hy] at hrun
      cases hrun
  | ok p =>
      rw [hy] at hrun
      obtain ⟨a, s', hrun', hV, hR'⟩ := hx s t hR p.1 p.2 hy
      rw [run_bind_of_ok hrun']
      exact hf a p.1 hV s' p.2 hR' b' t' hrun

/-- A step that only the first computation makes. -/
theorem Simulates.bind_left {W : α → Prop} {x : StateT σ (Except ε) α}
    {f : α → StateT σ (Except ε) α'} {y : StateT τ (Except δ) β'}
    (hx : Simulates R (fun a (_ : Unit) => W a) x (pure () : StateT τ (Except δ) Unit))
    (hf : ∀ a, W a → Simulates R V' (f a) y) : Simulates R V' (x >>= f) y := by
  intro s t hR
  obtain ⟨a, s', hrun, hW, hR'⟩ := hx s t hR () t rfl
  rw [run_bind_of_ok hrun]
  exact hf a hW s' t hR'

theorem simulates_exec {C κ : Type} {A : C → Type} {stops : κ → ε} {stops' : κ → δ}
    {handle : (c : C) → StateT σ (Except ε) (A c)} {spec : (c : C) → StateT τ (Except δ) (A c)}
    (h : ∀ c, Simulates R Eq (handle c) (spec c)) (p : Prog A κ α) :
    Simulates R Eq (p.exec stops handle) (p.exec stops' spec) := by
  induction p with
  | ret a => exact simulates_pure rfl
  | stop e => exact simulates_throw _ _
  | call c next ih =>
      refine (h c).bind fun a b hab => ?_
      subst hab
      exact ih a

/-! ## Tables -/

/-- Objects by their numbers. One that was moved away is `none`. -/
abbrev Table (α : Type) := List (Option α)

namespace Table

def at? (l : Table α) (h : ℕ) : Option α := l[h]?.join

/-- The objects with the same number are related, and the same ones are there. -/
def Matches (V : α → β → Prop) : Table α → Table β → Prop := List.Forall₂ (Option.Rel V)

variable {l : Table α} {m : Table β}

theorem Matches.at? (hm : Matches V l m) {h : ℕ} {b : β} (hb : m.at? h = some b) :
    ∃ a, l.at? h = some a ∧ V a b := by
  induction hm generalizing h with
  | nil => cases hb
  | @cons x y l m hxy _ ih =>
      cases h with
      | zero =>
          cases hxy with
          | some hV =>
              cases hb
              exact ⟨_, rfl, hV⟩
          | none => cases hb
      | succ h => exact ih hb

theorem Matches.set (hm : Matches V l m) (h : ℕ) {x : Option α} {y : Option β}
    (hxy : Option.Rel V x y) : Matches V (l.set h x) (m.set h y) := by
  induction hm generalizing h with
  | nil => exact .nil
  | cons hab hm ih =>
      cases h with
      | zero => exact .cons hxy hm
      | succ h => exact .cons hab (ih h)

theorem Matches.concat (hm : Matches V l m) {a : α} {b : β} (hab : V a b) :
    Matches V (l ++ [some a]) (m ++ [some b]) :=
  List.rel_append hm (.cons (.some hab) .nil)

end Table

/-! ## Places -/

/-- Where a state keeps a table. -/
structure Place (σ α : Type) where
  get : σ → Table α
  set : Table α → σ → σ

namespace Place

variable (p : Place σ α) (q : Place τ β) (gone : ε)

/-- The object with this number. -/
def use (h : ℕ) : StateT σ (Except ε) α := fun s =>
  match (p.get s).at? h with
  | some a => .ok (a, s)
  | none => .error gone

/-- The same, and it is moved away. -/
def takeOut (h : ℕ) : StateT σ (Except ε) α := fun s =>
  match (p.get s).at? h with
  | some a => .ok (a, p.set ((p.get s).set h none) s)
  | none => .error gone

def putBack (h : ℕ) (a : α) : StateT σ (Except ε) Unit := fun s =>
  .ok ((), p.set ((p.get s).set h (some a)) s)

/-- A new object, by its number. -/
def make (a : α) : StateT σ (Except ε) ℕ := fun s =>
  .ok ((p.get s).length, p.set (p.get s ++ [some a]) s)

/-- Related states have related tables in these places, which may be changed alike. -/
structure Related (R : σ → τ → Prop) (V : α → β → Prop) (p : Place σ α) (q : Place τ β) :
    Prop where
  get : ∀ s t, R s t → Table.Matches V (p.get s) (q.get t)
  set : ∀ s t l m, R s t → Table.Matches V l m → R (p.set l s) (q.set m t)

variable {p q} {gone : ε} {gone' : δ}

theorem Related.use (hpq : Related R V p q) (h : ℕ) :
    Simulates R V (p.use gone h) (q.use gone' h) := by
  intro s t hR b t' hrun
  cases hb : (q.get t).at? h with
  | none => simp [Place.use, StateT.run, hb] at hrun
  | some y =>
      obtain ⟨a, ha, hV⟩ := (hpq.get s t hR).at? hb
      simp only [Place.use, StateT.run, hb, Except.ok.injEq, Prod.mk.injEq] at hrun
      obtain ⟨rfl, rfl⟩ := hrun
      exact ⟨a, s, by simp only [Place.use, StateT.run, ha], hV, hR⟩

theorem Related.takeOut (hpq : Related R V p q) (h : ℕ) :
    Simulates R V (p.takeOut gone h) (q.takeOut gone' h) := by
  intro s t hR b t' hrun
  cases hb : (q.get t).at? h with
  | none => simp [Place.takeOut, StateT.run, hb] at hrun
  | some y =>
      obtain ⟨a, ha, hV⟩ := (hpq.get s t hR).at? hb
      simp only [Place.takeOut, StateT.run, hb, Except.ok.injEq, Prod.mk.injEq] at hrun
      obtain ⟨rfl, rfl⟩ := hrun
      exact ⟨a, _, by simp only [Place.takeOut, StateT.run, ha], hV,
        hpq.set _ _ _ _ hR ((hpq.get s t hR).set h .none)⟩

theorem Related.putBack (hpq : Related R V p q) (h : ℕ) {a : α} {b : β} (hab : V a b) :
    Simulates R Eq (p.putBack h a : StateT σ (Except ε) Unit)
      (q.putBack h b : StateT τ (Except δ) Unit) := by
  intro s t hR u t' hrun
  obtain ⟨rfl, rfl⟩ := Prod.mk.inj (Except.ok.inj hrun)
  exact ⟨(), _, rfl, rfl, hpq.set _ _ _ _ hR ((hpq.get s t hR).set h (.some hab))⟩

theorem Related.make (hpq : Related R V p q) {a : α} {b : β} (hab : V a b) :
    Simulates R Eq (p.make a : StateT σ (Except ε) ℕ) (q.make b : StateT τ (Except δ) ℕ) := by
  intro s t hR n t' hrun
  obtain ⟨rfl, rfl⟩ := Prod.mk.inj (Except.ok.inj hrun)
  have hm := hpq.get s t hR
  exact ⟨_, _, rfl, List.Forall₂.length_eq hm, hpq.set _ _ _ _ hR (hm.concat hab)⟩

end Place

end ComputeSdk.Shared
