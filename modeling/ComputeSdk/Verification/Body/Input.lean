import ComputeSdk.Model.Message

/-! # Reading a body to its end

A refill returns the first byte of the new chunk as a signed `char`, so a chunk that begins
with the byte 255 looks like the end of the file. -/

namespace ComputeSdk

open Shared

namespace Schedule

/-- The position of the `i`th chunk that a reader with a buffer of `n` bytes is given. -/
def boundary (n : ℕ) : ℕ → Schedule → ℕ
  | 0, _ => 0
  | i + 1, s => min s.first n + boundary n i s.rest

end Schedule

namespace Body

/-- No chunk that the host is still to deliver begins with the byte 255. -/
def ChunksClear (host : HostBody) : Prop :=
  ∀ i, host.content[host.reads.boundary bufSize i]? ≠ some 255

theorem chunksClear_of_content_eq_nil {host : HostBody} (h : host.content = []) :
    ChunksClear host := by
  intro i
  simp [h]

/-- The chunks of a host body are its first chunk and those of what is left after it. -/
theorem chunksClear_iff (host : HostBody) :
    ChunksClear host ↔ host.content.head? ≠ some 255 ∧
      ChunksClear ⟨host.content.drop (min host.reads.first bufSize), host.reads.rest,
        host.writes⟩ := by
  constructor
  · intro h
    refine ⟨?_, fun i => ?_⟩
    · simpa [Schedule.boundary, List.head?_eq_getElem?] using h 0
    · simpa [Schedule.boundary, List.getElem?_drop] using h (i + 1)
  · rintro ⟨hhead, hrest⟩ i
    cases i with
    | zero => simpa [Schedule.boundary, List.head?_eq_getElem?] using hhead
    | succ i => simpa [Schedule.boundary, List.getElem?_drop] using hrest i

/-- Draining yields a prefix of what can be read, and all of it exactly if no chunk to
come begins with the byte 255. -/
structure DrainSpec (b : Body) (out : List UInt8) : Prop where
  isPrefix : out <+: b.readable
  complete_iff : out = b.readable ↔ ChunksClear b.bod

theorem DrainSpec.of_peek {b : Body} {c : UInt8} {out : List UInt8} (h : b.peek = some c)
    (spec : DrainSpec b.bump out) : DrainSpec b (c :: out) := by
  have hreadable : b.readable = c :: b.bump.readable := by
    simp only [readable, unread_eq_cons h, toWriter_bump, List.cons_append]
  refine ⟨?_, ?_⟩
  · rw [hreadable]
    exact (List.prefix_cons_inj c).mpr spec.isPrefix
  · rw [hreadable, List.cons.injEq, spec.complete_iff, toWriter_bump]
    simp only [true_and]

/-- A refill reports the end of file at the end, and before a byte 255. -/
theorem content_of_eof {b b' : Body} (h : b.peek = none) (hread : b.bod.reads.Accepting)
    (hu : b.underflow = .ok (eof, b')) :
    b.bod.content = [] ∨ b.bod.content.head? = some 255 := by
  obtain ⟨k, hk, hunread, -, heof⟩ := underflow_spec h hu
  obtain ⟨m, hm⟩ := hread 0
  have hpos : 0 < min k bufSize := by
    rw [hk] at hm
    have := Except.ok.inj hm
    have := bufSize_pos
    omega
  rw [hunread] at heof
  rcases heof.mp rfl with hnil | hhead
  · rcases List.take_eq_nil_iff.mp hnil with hz | hz
    · omega
    · exact .inl hz
  · rw [List.head?_take, if_neg (Nat.ne_of_gt hpos)] at hhead
    exact .inr hhead

theorem readable_of_peek_none {b : Body} (h : b.peek = none) : b.readable = b.bod.content := by
  rw [readable, unread_eq_nil h, List.nil_append]

theorem DrainSpec.of_eof {b b' : Body} (h : b.peek = none)
    (hread : b.bod.reads.Accepting) (hu : b.underflow = .ok (eof, b')) : DrainSpec b [] := by
  refine ⟨List.nil_prefix, ?_⟩
  rw [readable_of_peek_none h, eq_comm]
  refine ⟨fun hnil => chunksClear_of_content_eq_nil hnil, fun hclear => ?_⟩
  rcases content_of_eof h hread hu with hnil | hhead
  · exact hnil
  · exact absurd hhead ((chunksClear_iff b.bod).mp hclear).1

theorem chunksClear_of_underflow {b b' : Body} {r : ℤ} (h : b.peek = none)
    (hu : b.underflow = .ok (r, b')) (hr : r ≠ eof) :
    ChunksClear b'.bod ↔ ChunksClear b.bod := by
  obtain ⟨k, hk, hunread, hbod, heof⟩ := underflow_spec h hu
  rw [chunksClear_iff b.bod, hbod, Schedule.first, hk]
  refine ⟨fun hclear => ⟨?_, hclear⟩, fun hclear => hclear.2⟩
  intro hhead
  apply hr
  rw [heof, hunread]
  rcases Nat.eq_zero_or_pos (min k bufSize) with hz | hpos
  · exact .inl (by rw [hz, List.take_zero])
  · exact .inr (by rw [List.head?_take, if_neg (Nat.ne_of_gt hpos), hhead])

/-- A refill that is not mistaken for the end of file does not change what is drained. -/
theorem DrainSpec.of_underflow {b b' : Body} {r : ℤ} {out : List UInt8} (h : b.peek = none)
    (hu : b.underflow = .ok (r, b')) (hr : r ≠ eof) (spec : DrainSpec b' out) :
    DrainSpec b out := by
  have hsame := readable_of_underflow h hu
  exact ⟨hsame ▸ spec.isPrefix,
    by rw [← hsame, spec.complete_iff, chunksClear_of_underflow h hu hr]⟩

theorem accepting_of_underflow {b b' : Body} {r : ℤ} (hread : b.bod.reads.Accepting)
    (h : b.peek = none) (hu : b.underflow = .ok (r, b')) : b'.bod.reads.Accepting := by
  obtain ⟨k, -, -, hbod, -⟩ := underflow_spec h hu
  rw [hbod]
  exact hread.rest

theorem underflow_of_accepting {b : Body} (hread : b.bod.reads.Accepting) (h : b.peek = none) :
    ∃ p, b.underflow = .ok p := by
  obtain ⟨k, hk⟩ := hread 0
  rw [underflow_of_peek_none h, read_of_ok hk]
  split
  · rename_i heq
    cases (Prod.mk.inj heq).1
  · exact ⟨_, rfl⟩
  · exact ⟨_, rfl⟩

theorem drain_spec (b : Body) (hread : b.bod.reads.Accepting) (acc : List UInt8) :
    ∃ out rest, getSide.drain.run (b, acc) = .ok (acc ++ out, rest) ∧ DrainSpec b out := by
  -- along the loop, what a later turn drains comes after what this one takes
  refine getSide.drain_induction
    (motive := fun b acc result => b.bod.reads.Accepting → ∃ out rest,
      result = .ok (acc ++ out, rest) ∧ DrainSpec b out) ?take ?refill ?leave ?fail b acc hread
  case take =>
    intro b acc c result h ih hread
    obtain ⟨out, rest, hrun, hspec⟩ := ih (by simpa [getSide] using hread)
    exact ⟨c :: out, rest, by rw [hrun, List.append_assoc, List.singleton_append],
      .of_peek h hspec⟩
  case refill =>
    intro b acc r t c result h hu hr hc ih hread
    obtain ⟨out, rest, hrun, hspec⟩ :=
      ih (by simpa [getSide] using accepting_of_underflow hread h hu)
    exact ⟨c :: out, rest, by rw [hrun, List.append_assoc, List.singleton_append],
      .of_underflow h hu hr (.of_peek hc hspec)⟩
  case leave =>
    intro b acc t h hu hread
    exact ⟨[], t, by rw [List.append_nil], .of_eof h hread hu⟩
  case fail =>
    intro b acc e h hu hread
    obtain ⟨p, hp⟩ := underflow_of_accepting hread h
    cases hp.symm.trans hu

/-- Every way of turning a fresh body over `host` into a string ends, and yields exactly
the bytes of the host. -/
structure DrainsExactly (host : HostBody) : Prop where
  ends : ∃ turns rest,
    getSide.drain.within turns (ofBox host, []) = some (.ok (host.content, rest))
  takeBodyString : (ofBox host).takeBodyString.map Prod.fst = .ok host.content
  requestTakeBodyString : (Request.mk host).takeBodyString.map Prod.fst = .ok host.content
  requestIntoBodyString : (Request.mk host).intoBodyString = .ok host.content
  responseTakeBodyString : (Response.mk host).takeBodyString.map Prod.fst = .ok host.content
  responseIntoBodyString : (Response.mk host).intoBodyString = .ok host.content

theorem drainsExactly_of_run {host : HostBody} {rest : Body}
    (h : (ofBox host).takeBodyString = .ok (host.content, rest)) : DrainsExactly host where
  ends := ⟨_, rest, by rw [getSide.drain.within_run]; exact congrArg some h⟩
  takeBodyString := by rw [h]; rfl
  requestTakeBodyString := by
    simp only [Request.takeBodyString, Request.takeBody, h, Except.map]
  requestIntoBodyString := by
    simp only [Request.intoBodyString, Request.intoBody, h, Except.map]
  responseTakeBodyString := by
    simp only [Response.takeBodyString, Response.takeBody, h, Except.map]
  responseIntoBodyString := by
    simp only [Response.intoBodyString, Response.intoBody, h, Except.map]

/-- A fresh body is drained exactly where no chunk that the host hands out begins with the
byte 255. -/
theorem drainsExactly_iff (host : HostBody) (hread : host.reads.Accepting) :
    DrainsExactly host ↔ ∀ i, host.content[host.reads.boundary bufSize i]? ≠ some 255 := by
  obtain ⟨out, rest, hrun, hspec⟩ := drain_spec (ofBox host) hread []
  have hreadable : (ofBox host).readable = host.content := by
    simp only [readable, unread, ofBox, Area.ahead_blank, List.nil_append, Writer.ofBox]
  have hiff : out = host.content ↔ ChunksClear host := by
    rw [← hreadable]
    exact hspec.complete_iff
  rw [List.nil_append] at hrun
  constructor
  · intro h
    have hsame := h.takeBodyString
    rw [Body.takeBodyString, hrun] at hsame
    exact hiff.mp (Except.ok.inj hsame)
  · intro h
    obtain rfl := hiff.mpr h
    exact drainsExactly_of_run hrun

theorem drainsExactly_hello :
    (Schedule.atMost 3).Accepting ∧
      DrainsExactly ⟨[104, 101, 108, 108, 111], .atMost 3, .atMost 3⟩ := by
  refine ⟨Schedule.accepting_atMost 3, (drainsExactly_iff _ (Schedule.accepting_atMost 3)).mpr ?_⟩
  intro i h
  exact absurd (List.mem_of_getElem? h) (by decide)

/-- The body that holds the one byte 255 is drained to the empty string. -/
theorem not_drainsExactly_255 :
    (Schedule.atMost 0).Accepting ∧ ¬ DrainsExactly ⟨[255], .atMost 0, .atMost 0⟩ := by
  refine ⟨Schedule.accepting_atMost 0, fun h => ?_⟩
  have hempty : (ofBox ⟨[255], .atMost 0, .atMost 0⟩).takeBodyString.map Prod.fst = .ok [] := rfl
  have hsame := h.takeBodyString
  rw [hempty] at hsame
  cases hsame

end Body

end ComputeSdk
