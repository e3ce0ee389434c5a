import ComputeSdk.Model.Bridge.Ranges
import ComputeSdk.Shared.Cursor
import ComputeSdk.Shared.Run
import ComputeSdk.Verification.Bridge.Errors

/-! # Traversal of ranges

Every element is fetched once and in order, by whichever iterator of a range asks for it. -/

namespace ComputeSdk

open Shared RustIteratorRange

/-! ## One range -/

namespace RustIteratorRange

section

variable {It α κ : Type} {next : RangeNext It α} {step : It → Option α × It} {xs : List α}
  {s : It × List (κ × Option α)} {i : Iterator α} {who : κ}

/-- An iterator as a fetch leaves it. -/
def Iterator.fetched (i : Iterator α) (a : Option α) : Iterator α := ⟨a.isSome, a.or i.cache⟩

theorem increment_of_ended (hi : i.hasRange = false) : i.increment next = pure i := by
  unfold Iterator.increment
  rw [hi]
  rfl

/-- An iterator that is not at the end fetches the element at the end of the log. -/
theorem increment_of_hasRange (hnext : ∀ it, next it = .ok (step it)) (h : Tracks step xs s)
    (hi : i.hasRange = true) :
    i.increment (logged who next) s =
      .ok (i.fetched xs[s.2.length]?, (step s.1).2, s.2 ++ [(who, xs[s.2.length]?)]) := by
  obtain ⟨hasRange, cache⟩ := i
  obtain rfl : hasRange = true := hi
  change (logged who next s >>= _) = _
  rw [h.logged hnext who]
  cases xs[s.2.length]? <;> rfl

theorem loop_of_ended (visited : List (Option α)) (fuel : ℕ) (hi : i.hasRange = false) :
    loop next (fuel + 1) i visited = pure (some visited) := by
  unfold loop Iterator.beq
  rw [hi]
  rfl

/-- One turn of the loop, on an iterator that is not at the end. -/
theorem loop_of_hasRange (visited : List (Option α)) (fuel : ℕ)
    (hnext : ∀ it, next it = .ok (step it)) (h : Tracks step xs s) (hi : i.hasRange = true) :
    loop (logged who next) (fuel + 1) i visited s =
      loop (logged who next) fuel (i.fetched xs[s.2.length]?) (visited ++ [i.cache])
        ((step s.1).2, s.2 ++ [(who, xs[s.2.length]?)]) := by
  have hturn : loop (logged who next) (fuel + 1) i visited =
      i.increment (logged who next) >>= fun j =>
        loop (logged who next) fuel j (visited ++ [i.cache]) := by
    rw [loop, Iterator.beq, hi]
    rfl
  rw [hturn]
  change (i.increment (logged who next) s >>= _) = _
  rw [increment_of_hasRange hnext h hi]
  rfl

/-- The loop visits what its iterator holds and then all elements `ys` that are left, with one
call for each of these and one more. -/
theorem loop_spec (hnext : ∀ it, next it = .ok (step it)) (h : Tracks step xs s)
    {ys : List α} (hys : xs.drop s.2.length = ys) (x : α) (visited : List (Option α))
    (fuel : ℕ) (hfuel : ys.length + 2 ≤ fuel) :
    ∃ t, loop (logged who next) fuel ⟨true, some x⟩ visited s =
        .ok (some (visited ++ some x :: ys.map some), t) ∧
      Tracks step xs t ∧ t.2.length = s.2.length + ys.length + 1 := by
  induction ys generalizing s x visited fuel with
  | nil =>
      obtain ⟨fuel, rfl⟩ := Nat.exists_eq_add_of_le' hfuel
      have hnone : xs[s.2.length]? = none :=
        List.getElem?_eq_none (List.drop_eq_nil_iff.mp hys)
      refine ⟨_, ?_, h.concat who, List.length_append⟩
      rw [List.length_nil, loop_of_hasRange visited _ hnext h rfl, hnone]
      exact congrFun (loop_of_ended _ _ rfl) _
  | cons y ys ih =>
      obtain ⟨fuel, rfl⟩ := Nat.exists_eq_add_of_le' hfuel
      have hsome : xs[s.2.length]? = some y := by
        rw [← List.head?_drop, hys]
        rfl
      have htail : xs.drop (s.2 ++ [(who, xs[s.2.length]?)]).length = ys := by
        rw [List.length_append, List.length_singleton, ← List.tail_drop, hys]
        rfl
      obtain ⟨t, hloop, htracks, hlength⟩ := ih (h.concat who) htail y
        (visited ++ [some x]) (fuel + ys.length + 2) (by omega)
      refine ⟨t, ?_, htracks, ?_⟩
      · change loop _ (fuel + ys.length + 2 + 1) _ _ _ = _
        rw [loop_of_hasRange visited _ hnext h rfl, hsome]
        rw [hsome] at hloop
        exact hloop.trans (by rw [List.append_assoc]; rfl)
      · rw [hlength, List.length_append, List.length_singleton, List.length_cons]
        omega

/-- A range-for visits all elements in order, with one call more than there are elements. -/
theorem rangeFor_spec (hnext : ∀ it, next it = .ok (step it)) {iter : It}
    (h : Produces step iter xs) {fuel : ℕ} (hfuel : xs.length < fuel) :
    ∃ t, rangeFor (logged who next) fuel (iter, []) = .ok (some (xs.map some), t) ∧
      IsTrace xs t.2 ∧ t.2.length = xs.length + 1 := by
  have htracks := (tracks_start h).concat who
  obtain ⟨fuel, rfl⟩ := Nat.exists_eq_add_of_lt hfuel
  have hbegin : rangeFor (logged who next) (xs.length + fuel + 1) (iter, []) =
      loop (logged who next) (xs.length + fuel + 1) (Iterator.fetched ⟨true, none⟩ xs[0]?) []
        ((step iter).2, [(who, xs[0]?)]) := by
    change (Iterator.increment (logged who next) ⟨true, none⟩ (iter, []) >>= _) = _
    rw [increment_of_hasRange hnext (tracks_start h) rfl]
    rfl
  rw [hbegin]
  cases xs with
  | nil => exact ⟨_, congrFun (loop_of_ended [] _ rfl) _, htracks.trace, rfl⟩
  | cons x xs =>
      obtain ⟨t, hloop, ht, hlength⟩ := loop_spec hnext htracks
        (rfl : (x :: xs).drop 1 = xs) x [] ((x :: xs).length + fuel + 1) (by simp)
      exact ⟨t, hloop, ht.trace, hlength.trans (by simp [Nat.add_comm])⟩

end

/-! ## Clients -/

/-- What a client may do with a range and the iterators that it obtained from it, in the order
of their `begin`. -/
inductive ClientCall where
  | begin_
  | increment (k : ℕ)
  | next

/-- The wrapped iterator with the log of its calls, each by an iterator of the range or by the
client itself, and the iterators that the client holds. -/
structure Client (It α : Type) where
  source : It × List (Option ℕ × Option α)
  iterators : List (Iterator α)

section

variable {It α : Type} (next : RangeNext It α)

def Client.step (c : Client It α) : ClientCall → Except Abort (Client It α)
  | .begin_ =>
    (begin_ (logged (some c.iterators.length) next) c.source).map fun p =>
      ⟨p.2, c.iterators ++ [p.1]⟩
  | .increment k =>
    match c.iterators[k]? with
    | none => .ok c
    | some i =>
      (i.increment (logged (some k) next) c.source).map fun p => ⟨p.2, c.iterators.set k p.1⟩
  | .next => (logged none next c.source).map fun p => ⟨p.2, c.iterators⟩

end

/-- The iterator holds the last element that it fetched, and is at the end if its last fetch
found no element. -/
structure Iterator.Agrees {α : Type} (log : List (Option ℕ × Option α)) (k : ℕ)
    (i : Iterator α) : Prop where
  beq_end : i.beq end_ ↔ (fetchesOf (some k) log).getLast? = some none
  cache : i.cache = (fetchesOf (some k) log).reduceOption.getLast?

/-- The log is a trace of the elements, which names no other than the iterators that the client
holds, and these agree with it. -/
structure Client.Inv {It α : Type} (step : It → Option α × It) (xs : List α)
    (c : Client It α) : Prop where
  tracks : Tracks step xs c.source
  named : ∀ e ∈ c.source.2, ∀ k, e.1 = some k → k < c.iterators.length
  agrees : ∀ (k : ℕ) (i : Iterator α), c.iterators[k]? = some i → i.Agrees c.source.2 k

section

variable {It α : Type} {next : RangeNext It α} {step : It → Option α × It} {xs : List α}
  {log : List (Option ℕ × Option α)} {i : Iterator α} {k : ℕ} {a : Option α}

theorem Iterator.beq_end_eq_not (i : Iterator α) : i.beq end_ = !i.hasRange := by
  unfold Iterator.beq end_
  cases i.hasRange <;> rfl

theorem Iterator.Agrees.fetched (h : i.Agrees log k) :
    (i.fetched a).Agrees (log ++ [(some k, a)]) k where
  beq_end := by
    rw [Iterator.beq_end_eq_not, fetchesOf_concat_self, List.getLast?_concat]
    cases a <;> simp [Iterator.fetched]
  cache := by
    rw [fetchesOf_concat_self, List.reduceOption_append]
    cases a <;> simp [Iterator.fetched, h.cache]

/-- A fetch for another iterator, or for the client. -/
theorem Iterator.Agrees.concat (h : i.Agrees log k) {who : Option ℕ} (hwho : who ≠ some k) :
    i.Agrees (log ++ [(who, a)]) k where
  beq_end := by rw [fetchesOf_concat_of_ne hwho, h.beq_end]
  cache := by rw [fetchesOf_concat_of_ne hwho, h.cache]

/-- An iterator that has not fetched yet. -/
theorem Iterator.agrees_new (h : ∀ e ∈ log, e.1 ≠ some k) :
    Iterator.Agrees log k ⟨true, none⟩ := by
  have hnone : fetchesOf (some k) log = [] := by
    rw [fetchesOf, List.filter_eq_nil_iff.mpr fun e he => by simp [h e he], List.map_nil]
  constructor <;> simp [hnone, Iterator.beq_end_eq_not]

namespace Client

variable {c : Client It α}

/-- The client after a fetch, with the iterators that it holds then. -/
def fetch (step : It → Option α × It) (xs : List α) (c : Client It α) (who : Option ℕ)
    (iterators : List (Iterator α)) : Client It α :=
  ⟨((step c.source.1).2, c.source.2 ++ [(who, xs[c.source.2.length]?)]), iterators⟩

theorem step_next (hnext : ∀ it, next it = .ok (step it)) (h : c.Inv step xs) :
    c.step next .next = .ok (c.fetch step xs none c.iterators) := by
  rw [Client.step, h.tracks.logged hnext none]
  rfl

theorem step_begin (hnext : ∀ it, next it = .ok (step it)) (h : c.Inv step xs) :
    c.step next .begin_ = .ok (c.fetch step xs (some c.iterators.length)
      (c.iterators ++ [Iterator.fetched ⟨true, none⟩ xs[c.source.2.length]?])) := by
  rw [Client.step, begin_, increment_of_hasRange hnext h.tracks rfl]
  rfl

theorem step_increment (hnext : ∀ it, next it = .ok (step it)) (h : c.Inv step xs)
    (hk : c.iterators[k]? = some i) (hi : i.hasRange = true) :
    c.step next (.increment k) = .ok (c.fetch step xs (some k)
      (c.iterators.set k (i.fetched xs[c.source.2.length]?))) := by
  simp only [Client.step, hk, increment_of_hasRange hnext h.tracks hi]
  rfl

/-- An iterator at the end does not fetch, nor does one that the client does not hold. -/
theorem step_increment_of_ended (hk : ∀ i, c.iterators[k]? = some i → i.hasRange = false) :
    c.step next (.increment k) = .ok c := by
  cases hi : c.iterators[k]? with
  | none => simp only [Client.step, hi]
  | some i =>
      simp only [Client.step, hi, increment_of_ended (hk i hi)]
      obtain ⟨hlt, rfl⟩ := List.getElem?_eq_some_iff.mp hi
      change Except.ok (⟨c.source, c.iterators.set k c.iterators[k]⟩ : Client It α) = _
      rw [List.set_getElem_self]

theorem inv_fetch (h : c.Inv step xs) {who : Option ℕ} {iterators : List (Iterator α)}
    (hlength : c.iterators.length ≤ iterators.length)
    (hwho : ∀ k, who = some k → k < iterators.length)
    (hagrees : ∀ (k : ℕ) (i : Iterator α), iterators[k]? = some i →
      i.Agrees (c.source.2 ++ [(who, xs[c.source.2.length]?)]) k) :
    (c.fetch step xs who iterators).Inv step xs where
  tracks := h.tracks.concat who
  named e he k hk := by
    rcases List.mem_append.mp he with he | he
    · exact Nat.lt_of_lt_of_le (h.named e he k hk) hlength
    · obtain rfl := List.mem_singleton.mp he
      exact hwho k hk
  agrees := hagrees

/-- One step of a client keeps the invariant. -/
theorem inv_step (hnext : ∀ it, next it = .ok (step it)) (h : c.Inv step xs) (call : ClientCall) :
    ∃ c', c.step next call = .ok c' ∧ c'.Inv step xs := by
  cases call with
  | begin_ =>
      refine ⟨_, step_begin hnext h, inv_fetch h (by simp) ?_ fun k i hi => ?_⟩
      · rintro k ⟨rfl⟩
        simp
      · by_cases hk : c.iterators.length = k
        · subst hk
          rw [List.getElem?_concat_length] at hi
          obtain rfl := Option.some.inj hi
          refine Iterator.Agrees.fetched (Iterator.agrees_new fun e he hnew => ?_)
          exact absurd (h.named e he _ hnew) (lt_irrefl _)
        · have hlt : k < c.iterators.length := by
            have hlength := (List.getElem?_eq_some_iff.mp hi).1
            rw [List.length_append, List.length_singleton] at hlength
            omega
          rw [List.getElem?_append_left hlt] at hi
          exact (h.agrees k i hi).concat fun he => hk (Option.some.inj he)
  | increment k =>
      by_cases hk : ∃ i, c.iterators[k]? = some i ∧ i.hasRange = true
      · obtain ⟨i, hki, hi⟩ := hk
        obtain ⟨hlt, -⟩ := List.getElem?_eq_some_iff.mp hki
        refine ⟨_, step_increment hnext h hki hi, inv_fetch h (by simp) ?_ fun k' i' hi' => ?_⟩
        · rintro k' ⟨rfl⟩
          simpa using hlt
        · by_cases hkk : k = k'
          · subst hkk
            rw [List.getElem?_set_self hlt] at hi'
            obtain rfl := Option.some.inj hi'
            exact (h.agrees k i hki).fetched
          · rw [List.getElem?_set_ne hkk] at hi'
            exact (h.agrees k' i' hi').concat fun he => hkk (Option.some.inj he)
      · refine ⟨c, step_increment_of_ended fun i hi => ?_, h⟩
        exact Bool.eq_false_iff.mpr fun hrange => hk ⟨i, hi, hrange⟩
  | next =>
      refine ⟨_, step_next hnext h, inv_fetch h le_rfl nofun fun k i hi => ?_⟩
      exact (h.agrees k i hi).concat nofun

theorem inv_start {iter : It} (h : Produces step iter xs) :
    Inv step xs (⟨(iter, []), []⟩ : Client It α) :=
  ⟨tracks_start h, nofun, nofun⟩

/-- Whatever a client does with a range. -/
theorem inv_run (hnext : ∀ it, next it = .ok (step it)) {iter : It}
    (h : Produces step iter xs) (calls : List ClientCall) :
    ∃ c, run (Client.step next) ⟨(iter, []), []⟩ calls = .ok c ∧ c.Inv step xs :=
  run_history (I := fun _ (c : Client It α) => c.Inv step xs) (inv_start h)
    (fun _ _ call hc => inv_step hnext hc call) calls

end Client

end

end RustIteratorRange

/-! ## The ranges of the interface -/

/-- What a range wraps: `next` in Rust, the state of a range over such an iterator, `next` of the
range, and an element of the first as one of the second. -/
structure Wrapping where
  It : Type
  State : Type
  Item : Type
  Elem : Type
  step : It → Option Item × It
  start : It → State
  next : RangeNext State Elem
  view : Item → Elem

/-- The ranges over iterators of any type, where `asStr` gives the bytes of a header name. The
calls of `next` for a listing each have their own slots. -/
inductive WrappedRange (F : Crates) where
  | headerValues {It : Type} (step : It → Option HeaderValue × It)
  | headers {It N : Type} (asStr : N → List UInt8) (step : It → Option (N × HeaderValue) × It)
  | headerNames {It N : Type} (asStr : N → List UInt8) (step : It → Option N × It)
  | originalHeaderNames {It : Type} (step : It → Option (List UInt8) × It)
  | listResponse (slots : Stream' (Slots KVStoreError (RawPtr F.ListPage)))

namespace WrappedRange

variable {F : Crates}

def wrapping : WrappedRange F → Wrapping
  | @headerValues _ It step =>
    ⟨It, It, HeaderValue, HeaderValue, step, id, HeaderValuesRange.next step, id⟩
  | @headers _ It N asStr step =>
    ⟨It, It, N × HeaderValue, List UInt8 × HeaderValue, step, id, HeadersRange.next asStr step,
      fun p => (asStr p.1, p.2)⟩
  | @headerNames _ It N asStr step =>
    ⟨It, It, N, List UInt8, step, id, HeaderNamesRange.next asStr step, asStr⟩
  | @originalHeaderNames _ It step =>
    ⟨It, It, List UInt8, List UInt8, step, id, OriginalHeaderNamesRange.next step, id⟩
  | listResponse slots =>
    ⟨F.ListResponse, F.ListResponse × Stream' (Slots KVStoreError (RawPtr F.ListPage)),
      Except KVStoreError F.ListPage, Except (RawPtr KVStoreError) (RawPtr F.ListPage),
      F.listNext, fun iter => (iter, slots), ListResponseRange.next F,
      fun page => (page.map .box).mapError .box⟩

/-- `next` of a range never fails, and gives what `next` in Rust gives. -/
theorem exists_produces (r : WrappedRange F) {iter : r.wrapping.It} {xs : List r.wrapping.Item}
    (h : Produces r.wrapping.step iter xs) :
    ∃ step, (∀ s, r.wrapping.next s = .ok (step s)) ∧
      Produces step (r.wrapping.start iter) (xs.map r.wrapping.view) := by
  cases r with
  | headerValues step =>
      refine ⟨_, fun iter => ?_, h.map id⟩
      change HeaderValuesRange.next step iter = .ok ((step iter).1.map id, (step iter).2)
      unfold HeaderValuesRange.next Sys.HeaderValuesIter.next
      cases (step iter).1 <;> simp [writeIfSome]
  | headers asStr step =>
      refine ⟨_, fun iter => ?_, h.map fun p => (asStr p.1, p.2)⟩
      change HeadersRange.next asStr step iter =
        .ok ((step iter).1.map fun p => (asStr p.1, p.2), (step iter).2)
      unfold HeadersRange.next Sys.HeadersIter.next
      rcases step iter with ⟨_ | ⟨name, value⟩, iter'⟩ <;> simp
  | headerNames asStr step =>
      refine ⟨_, fun iter => ?_, h.map asStr⟩
      change HeaderNamesRange.next asStr step iter = .ok ((step iter).1.map asStr, (step iter).2)
      unfold HeaderNamesRange.next Sys.HeaderNamesIter.next
      cases (step iter).1 <;> simp [writeIfSome]
  | originalHeaderNames step =>
      refine ⟨_, fun iter => ?_, h.map id⟩
      change OriginalHeaderNamesRange.next step iter = .ok ((step iter).1.map id, (step iter).2)
      unfold OriginalHeaderNamesRange.next Sys.OriginalHeaderNamesIter.next
      cases (step iter).1 <;> simp [writeIfSome]
  | listResponse slots =>
      refine ⟨_, fun iter => ?_, (h.map (wrapping (.listResponse slots)).view).prod
        Stream'.tail slots⟩
      have hnext : Kv.ListResponse.next F iter.2.head iter.1 = .ok _ :=
        Wrapper.agreesAt_listResponseNext iter.1 iter.2.head
      change (Kv.ListResponse.next F iter.2.head iter.1).map _ = _
      rw [hnext]
      rfl

end WrappedRange

/-- A range-for visits these elements in order, with one call of `next` more than there are
elements. Whatever a client does, its calls of `next` get the elements in order, each once, and
an iterator is equal to `end()` if its last call found none. -/
structure TraversedOnce {It α : Type} (next : RangeNext It α) (iter : It) (xs : List α) :
    Prop where
  rangeFor : ∀ fuel, xs.length < fuel →
    ∃ t, rangeFor (logged () next) fuel (iter, []) = .ok (some (xs.map some), t) ∧
      IsTrace xs t.2 ∧ t.2.length = xs.length + 1
  client : ∀ calls : List ClientCall,
    ∃ c, run (Client.step next) ⟨(iter, []), []⟩ calls = .ok c ∧ IsTrace xs c.source.2 ∧
      obtained c.source.2 <+: xs ∧
      ∀ (k : ℕ) (i : Iterator α), c.iterators[k]? = some i → i.Agrees c.source.2 k

theorem range_traversedOnce {F : Crates} (r : WrappedRange F) {iter : r.wrapping.It}
    {xs : List r.wrapping.Item} (h : Produces r.wrapping.step iter xs) :
    TraversedOnce r.wrapping.next (r.wrapping.start iter) (xs.map r.wrapping.view) := by
  obtain ⟨step, hnext, hstep⟩ := r.exists_produces h
  refine ⟨fun fuel hfuel => rangeFor_spec hnext hstep hfuel, fun calls => ?_⟩
  obtain ⟨c, hrun, hc⟩ := Client.inv_run hnext hstep calls
  refine ⟨c, hrun, hc.tracks.trace, ?_, hc.agrees⟩
  rw [hc.tracks.trace.obtained_eq]
  exact List.take_prefix _ _

/-- Two values of a header, the second of them sensitive. -/
theorem range_traversedOnce_two :
    TraversedOnce (HeaderValuesRange.next uncons) [⟨[97], false⟩, ⟨[98], true⟩]
      [⟨[97], false⟩, ⟨[98], true⟩] :=
  range_traversedOnce (F := Plain.crates) (.headerValues uncons) (produces_uncons _)

end ComputeSdk
