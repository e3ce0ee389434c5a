import ComputeSdk.Verification.Body.Objects

/-! # Text through bodies and messages

What a program reads, and what its clients receive, are the strings that it wrote. -/

namespace ComputeSdk

open Shared

/-! ## Bodies -/

namespace Body

/-- The body shows the pipe. Nothing is in its get area unless it may be. -/
structure Holds (b : Body) (s : Conduit) : Prop extends Body.Shows b s.toPipe where
  unread : s.fetched = false → b.unread = []

variable {b b' other : Body} {s : Conduit} {xs : List UInt8}

theorem holds_ofBox (bod : HostBody) (hreads : bod.reads.Accepting)
    (hwrites : bod.writes.Accepting) (htext : 255 ∉ bod.content) :
    (ofBox bod).Holds (.of bod.content) :=
  ⟨shows_ofBox hreads hwrites htext, fun _ => rfl⟩

theorem holds_new {reads writes : Schedule} (hreads : reads.Accepting)
    (hwrites : writes.Accepting) : (ofBox (.new reads writes)).Holds (.of []) :=
  holds_ofBox (.new reads writes) hreads hwrites List.not_mem_nil

theorem Holds.content (h : b.Holds (.of xs)) : b.bod.content = xs := by
  have hreadable : b.unread ++ b.bod.content = xs := h.readable
  rwa [h.unread rfl, List.nil_append] at hreadable

theorem Holds.notMem (h : b.Holds (.of xs)) : 255 ∉ xs := fun hmem =>
  h.text (List.mem_append_left _ hmem)

/-- The box of a body that holds a string may go to another object. -/
theorem Holds.ofBox (h : b.Holds (.of xs)) : (Body.ofBox b.bod).Holds (.of xs) := by
  have hbox := holds_ofBox b.bod h.live.reads h.live.writes (by rw [h.content]; exact h.notMem)
  rwa [h.content] at hbox

/-- What changes the write side only leaves the get area. -/
theorem unread_of_map {x : Except Abort Writer}
    (h : (x.map fun w => { b with toWriter := w }) = .ok b') : b'.unread = b.unread := by
  cases x with
  | error e => cases h
  | ok w =>
      cases h
      rfl

theorem unread_of_move (h : b.move = .ok b') : b'.unread = b.unread := by
  unfold Body.move at h
  split at h
  · cases h
  · cases h
    rfl

theorem Holds.move (h : b.Holds s) (hfetched : s.fetched = false) :
    ∃ b', b.move = .ok b' ∧ b'.Holds (.of s.total) := by
  obtain ⟨b', hmove, hlooks⟩ := h.toLooks.move
  exact ⟨b', hmove, ⟨hlooks, by simpa [Pipe.total, Conduit.of] using h.text⟩,
    fun _ => (unread_of_move hmove).trans (h.unread hfetched)⟩

theorem Holds.flush (h : b.Holds (.of xs)) : ∃ b', b.flush = .ok b' ∧ b'.Holds (.of xs) := by
  obtain ⟨b', hflush, hlooks⟩ := h.toLooks.flush
  have hsame : (Conduit.of xs).toPipe.sync = (Conduit.of xs).toPipe := by
    simp [Conduit.of, Pipe.sync]
  rw [hsame, ite_self] at hlooks
  exact ⟨b', hflush, ⟨hlooks, h.text⟩, fun _ => (unread_of_map hflush).trans (h.unread rfl)⟩

theorem holds_ofString {reads writes : Schedule} (hreads : reads.Accepting)
    (hwrites : writes.Accepting) (htext : 255 ∉ xs) :
    ∃ b, ofString xs (.new reads writes) = .ok b ∧ b.Holds (.of xs) := by
  have hbox := holds_new hreads hwrites
  obtain ⟨b, hinsert, hlooks⟩ := hbox.toLooks.insert xs
  rw [if_pos (show (Conduit.of []).rdstate.good from rfl)] at hlooks
  obtain ⟨b', hflush, hlooks'⟩ := hlooks.flush
  have hunread : b'.unread = [] :=
    (unread_of_map hflush).trans ((unread_of_map hinsert).trans (hbox.unread rfl))
  have hpipe : (xs.foldl Pipe.put (Conduit.of []).toPipe).sync = (Conduit.of xs).toPipe := by
    change Pipe.mk (Pipe.total _) [] (Pipe.rdstate _) = _
    rw [Pipe.total_foldl_put, Pipe.rdstate_foldl_put]
    rfl
  have hgood : (xs.foldl Pipe.put (Conduit.of []).toPipe).rdstate.good = true := by
    rw [Pipe.rdstate_foldl_put]
    rfl
  rw [if_pos hgood, hpipe] at hlooks'
  refine ⟨b', ?_, ⟨hlooks', by simpa [Pipe.total, Conduit.of] using htext⟩, fun _ => hunread⟩
  change (Body.insert xs _).bind Body.flush = _
  rw [hinsert]
  exact hflush

/-- A body that is appended may have been read from, but is not lost. -/
theorem Holds.append (h : b.Holds s) (hother : other.Holds (.of xs)) :
    ∃ b', b.append other = .ok b' ∧ b'.Holds { s with queue := s.queue ++ xs } := by
  obtain ⟨flushed, hflush, hflushed⟩ := hother.flush
  refine ⟨{ b with bod := b.bod.append flushed.bod }, by simp only [Body.append, hflush],
    ⟨⟨⟨h.live.reads, h.live.writes⟩, h.room, ?_, h.pending, h.rdstate⟩, ?_⟩, h.unread⟩
  · change b.unread ++ (b.bod.content ++ flushed.bod.content) = s.queue ++ xs
    rw [hflushed.content, ← List.append_assoc, ← h.readable]
    rfl
  · intro hmem
    rcases List.mem_append.mp hmem with hqueue | hpending
    · rcases List.mem_append.mp hqueue with hold | hnew
      · exact h.text (List.mem_append_left _ hold)
      · exact hother.notMem hnew
    · exact h.text (List.mem_append_right _ hpending)

theorem eq_ok_of_map {x : Except Abort Body} {u : Unit}
    (h : (x.map fun b => ((), b)) = .ok (u, b')) : x = .ok b' := by
  cases x with
  | error e => cases h
  | ok b =>
      cases h
      rfl

/-- A call that does not read leaves the get area. -/
theorem unread_of_respond {reads writes : Schedule} {c : StreamCall} {a : c.Answer}
    (hc : c.reads = false) (h : (respond reads writes c).run b = .ok (a, b')) :
    b'.unread = b.unread := by
  cases c with
  | rdstate =>
      cases h
      rfl
  | clear =>
      cases h
      rfl
  | insert s => exact unread_of_map (eq_ok_of_map h)
  | flush => exact unread_of_map (eq_ok_of_map h)
  | move => exact unread_of_move (eq_ok_of_map h)
  | sync =>
      change b.sync = _ at h
      unfold Body.sync at h
      cases hsync : b.toWriter.sync with
      | error e =>
          rw [hsync] at h
          cases h
      | ok p =>
          rw [hsync] at h
          cases h
          rfl
  | append s =>
      change (ofString s.1 _).bind _ = _ at h
      cases hother : ofString s.1 (.new reads writes) with
      | error e =>
          rw [hother] at h
          cases h
      | ok other =>
          rw [hother] at h
          have happend := eq_ok_of_map h
          unfold Body.append at happend
          split at happend
          · cases happend
          · cases happend
            rfl
  | _ => cases hc

theorem Holds.respond (h : b.Holds s) (reads : Schedule) {writes : Schedule}
    (hwrites : writes.Accepting) {c : StreamCall} {q : c.Answer × Pipe}
    (hrun : (Pipe.respond c).run s.toPipe = .ok q) :
    ∃ p, (Body.respond reads writes c).run b = .ok p ∧ p.1 = q.1 ∧
      p.2.Holds ⟨q.2, if c.reads then !q.2.queue.isEmpty else s.fetched⟩ := by
  have hlock := refines_respond reads hwrites c b s.toPipe h.toShows
  rw [hrun] at hlock
  generalize hr : (Body.respond reads writes c).run b = r at hlock
  cases hlock with
  | ok a hshows =>
      rename_i b' t
      refine ⟨(a, b'), rfl, rfl, hshows, fun hfetched => ?_⟩
      cases hc : c.reads with
      | true =>
          simp only [hc, if_true, Bool.not_eq_false', List.isEmpty_iff] at hfetched
          have hempty := hshows.readable
          rw [hfetched] at hempty
          exact (List.append_eq_nil_iff.mp hempty).1
      | false =>
          simp only [hc] at hfetched
          exact (unread_of_respond hc hr).trans (h.unread hfetched)

end Body

/-! ## Messages -/

namespace MessageKind

/-- The body of the message is this string. -/
def Holds (k : MessageKind) (m : k.Object) (xs : List UInt8) : Prop :=
  (Body.ofBox (k.body m)).Holds (.of xs)

variable {k : MessageKind} {m : k.Object} {b : Body} {xs ys : List UInt8}

theorem holds_ofBox (h : b.Holds (.of xs)) : k.Holds (k.ofBox b.bod) xs := by
  cases k <;> exact h.ofBox

theorem Holds.takeBody (h : k.Holds m xs) :
    (k.takeBody m).1.Holds (.of xs) ∧ k.Holds (k.takeBody m).2 [] := by
  have hempty : (Body.ofBox (k.body m).taken).Holds (.of []) :=
    Body.holds_ofBox (k.body m).taken h.live.reads h.live.writes List.not_mem_nil
  cases k <;> exact ⟨h, hempty⟩

theorem Holds.intoBody (h : k.Holds m xs) : (k.intoBody m).Holds (.of xs) := by
  cases k <;> exact h

theorem Holds.takeBodyString (h : k.Holds m xs) :
    ∃ m', k.takeBodyString m = .ok (xs, m') ∧ k.Holds m' [] := by
  obtain ⟨b, hstring, -⟩ := Body.Shows.takeBodyString h.toShows
  have htaken := h.takeBody.2
  cases k with
  | request => exact ⟨_, congrArg (Except.map _) hstring, htaken⟩
  | response => exact ⟨_, congrArg (Except.map _) hstring, htaken⟩

theorem Holds.intoBodyString (h : k.Holds m xs) : k.intoBodyString m = .ok xs := by
  obtain ⟨b, hstring, -⟩ := Body.Shows.takeBodyString h.toShows
  cases k with
  | request => exact congrArg (Except.map _) hstring
  | response => exact congrArg (Except.map _) hstring

theorem holds_setBody (hb : b.Holds (.of xs)) (m : k.Object) :
    ∃ m', k.setBody b m = .ok m' ∧ k.Holds m' xs := by
  obtain ⟨flushed, hflush, hflushed⟩ := hb.flush
  cases k with
  | request => exact ⟨_, congrArg (Except.map _) hflush, hflushed.ofBox⟩
  | response => exact ⟨_, congrArg (Except.map _) hflush, hflushed.ofBox⟩

theorem holds_withBody (hb : b.Holds (.of xs)) (m : k.Object) :
    ∃ m', k.withBody b m = .ok m' ∧ k.Holds m' xs := by
  obtain ⟨moved, hmove, hmoved⟩ := hb.move rfl
  have htotal : (Conduit.of xs).total = xs := List.append_nil xs
  rw [htotal] at hmoved
  obtain ⟨m', hset, hm'⟩ := holds_setBody hmoved m
  refine ⟨m', ?_, hm'⟩
  cases k with
  | request =>
      change Request.withBody b m = _
      rw [Request.withBody, hmove]
      exact hset
  | response =>
      change Response.withBody b m = _
      rw [Response.withBody, hmove]
      exact hset

theorem Holds.appendBody {m : Response} (h : response.Holds m ys) (hb : b.Holds (.of xs)) :
    ∃ m', Response.appendBody b m = .ok m' ∧ response.Holds m' (ys ++ xs) := by
  obtain ⟨flushed, hflush, hflushed⟩ := hb.flush
  have hcontent : (m.body.append flushed.bod).content = ys ++ xs := by
    rw [HostBody.append, hflushed.content]
    exact congrArg (· ++ xs) h.content
  refine ⟨⟨m.body.append flushed.bod⟩, congrArg (Except.map _) hflush, ?_⟩
  have hbox := Body.holds_ofBox (m.body.append flushed.bod) h.live.reads h.live.writes
    (by
      rw [hcontent]
      exact fun hmem => (List.mem_append.mp hmem).elim h.notMem hb.notMem)
  rwa [hcontent] at hbox

end MessageKind

/-! ## Streaming bodies -/

namespace StreamingBody

/-- A body that writes as the streaming body does. -/
def asBody (stream : StreamingBody) : Body := ⟨stream.toWriter, Area.blank 0 bufSize⟩

def Looks (stream : StreamingBody) (s : Pipe) : Prop := stream.asBody.Looks s

variable {stream : StreamingBody} {s : Pipe} {b : Body} {xs : List UInt8}

theorem exists_of_map {x : Except Abort Writer}
    (h : (x.map fun w => { stream.asBody with toWriter := w }) = .ok b) :
    ∃ t, x.map StreamingBody.mk = .ok t ∧ t.asBody = b := by
  cases x with
  | error e => cases h
  | ok w =>
      cases h
      exact ⟨⟨w⟩, rfl, rfl⟩

theorem Looks.insert (h : stream.Looks s) (xs : List UInt8) :
    ∃ t, stream.insert xs = .ok t ∧
      t.Looks (if s.rdstate.good then xs.foldl Pipe.put s else s) := by
  obtain ⟨b, hinsert, hlooks⟩ := Body.Looks.insert h xs
  obtain ⟨t, ht, rfl⟩ := exists_of_map hinsert
  exact ⟨t, ht, hlooks⟩

theorem Looks.flush (h : stream.Looks s) :
    ∃ t, stream.flush = .ok t ∧ t.Looks (if s.rdstate.good then s.sync else s) := by
  obtain ⟨b, hflush, hlooks⟩ := Body.Looks.flush h
  obtain ⟨t, ht, rfl⟩ := exists_of_map hflush
  exact ⟨t, ht, hlooks⟩

theorem Looks.content (h : stream.Looks s) : stream.bod.content = s.queue :=
  (List.nil_append _).symm.trans h.readable

theorem Looks.append (h : stream.Looks s) (hb : b.Holds (.of xs)) :
    (stream.append b).Looks { s with queue := s.queue ++ xs } := by
  refine ⟨⟨h.live.reads, h.live.writes⟩, h.room, ?_, h.pending, h.rdstate⟩
  change [] ++ (stream.bod.content ++ b.bod.content) = s.queue ++ xs
  rw [List.nil_append, h.content, hb.content]

theorem Looks.finish (h : stream.Looks s) (answer : Except FastlyError Unit) :
    ∃ bod, stream.finish answer = .ok (answer, bod) ∧
      bod.content = (if s.rdstate.good then s.sync else s).queue := by
  obtain ⟨t, hflush, hlooks⟩ := h.flush
  exact ⟨t.bod, congrArg (Except.map _) hflush, hlooks.content⟩

end StreamingBody

/-! ## Programs -/

/-- The objects hold the strings, and the host refuses nothing. -/
structure Objects.Shows (o : Objects) (t : Strings) : Prop where
  bodies : Table.Matches Body.Holds o.bodies t.bodies
  messages : ∀ k : MessageKind, Table.Matches k.Holds (o.messages k) (t.messages k)
  streams : Table.Matches StreamingBody.Looks o.streams t.streams
  supply : ∀ n, (o.supply n).1.Accepting ∧ (o.supply n).2.Accepting
  sent : o.sent = t.sent

namespace Objects

theorem related_bodies :
    Place.Related Shows Body.Holds bodyPlace Strings.bodyPlace where
  get := fun _ _ h => h.bodies
  set := fun _ _ _ _ h hm => ⟨hm, h.messages, h.streams, h.supply, h.sent⟩

theorem related_messages (k : MessageKind) :
    Place.Related Shows k.Holds (messagePlace k) (Strings.messagePlace k) where
  get := fun _ _ h => h.messages k
  set := fun _ _ _ _ h hm => by
    refine ⟨h.bodies, fun j => ?_, h.streams, h.supply, h.sent⟩
    by_cases hj : j = k
    · subst hj
      simpa [messagePlace, Strings.messagePlace] using hm
    · simpa [messagePlace, Strings.messagePlace, hj] using h.messages j

theorem related_streams :
    Place.Related Shows StreamingBody.Looks streamPlace Strings.streamPlace where
  get := fun _ _ h => h.streams
  set := fun _ _ _ _ h hm => ⟨h.bodies, h.messages, hm, h.supply, h.sent⟩

theorem simulates_lift {α β : Type} {V : α → β → Prop} {x : Except Abort α} {a : α} {b : β}
    (hx : x = .ok a) (hV : V a b) :
    Simulates Shows V (lift x) (pure b : Strings.StringsM β) := by
  subst hx
  exact simulates_pure hV

/-- A computation that succeeds is not seen in the strings. -/
theorem simulates_lift_bind {α β γ : Type} {V : β → γ → Prop} {x : Except Abort α} {a : α}
    {f : α → ObjectsM β} {y : Strings.StringsM γ} (hx : x = .ok a)
    (h : Simulates Shows V (f a) y) : Simulates Shows V (lift x >>= f) y := by
  subst hx
  exact h

theorem simulates_lift_lift {α β : Type} {V : α → β → Prop} {x : Except Abort α}
    {y : Except PipeStop β} (h : ∀ b, y = .ok b → ∃ a, x = .ok a ∧ V a b) :
    Simulates Shows V (lift x) (Strings.lift y) := by
  cases y with
  | error stop => cases stop <;> exact simulates_throw _ _
  | ok b =>
      obtain ⟨a, rfl, hV⟩ := h b rfl
      exact simulates_pure hV

theorem simulates_schedules :
    Simulates Shows (fun p (_ : Unit) => p.1.Accepting ∧ p.2.Accepting) schedules
      (pure () : Strings.StringsM Unit) := by
  intro o t h u t' hrun
  obtain ⟨rfl, rfl⟩ := Prod.mk.inj (Except.ok.inj hrun)
  exact ⟨_, _, rfl, h.supply 0, h.bodies, h.messages, h.streams, fun n => h.supply (n + 1), h.sent⟩

theorem simulates_newBox :
    Simulates Shows
      (fun box (_ : Unit) => ∃ reads writes : Schedule, box = .new reads writes ∧
        reads.Accepting ∧ writes.Accepting)
      newBox (pure () : Strings.StringsM Unit) :=
  simulates_schedules.bind_left fun p hp => simulates_pure ⟨p.1, p.2, rfl, hp⟩

theorem simulates_send {bod : HostBody} {xs : List UInt8} (h : bod.content = xs) :
    Simulates Shows Eq (send bod) (Strings.send xs) := by
  intro o t hshows u t' hrun
  obtain ⟨rfl, rfl⟩ := Prod.mk.inj (Except.ok.inj hrun)
  exact ⟨(), _, rfl, rfl, hshows.bodies, hshows.messages, hshows.streams, hshows.supply, by
    rw [hshows.sent, h]⟩

theorem simulates_construct (arg : BodyArgument) :
    Simulates Shows (fun b xs => b.Holds (.of xs)) (construct arg) (Strings.construct arg) := by
  cases arg with
  | moved h =>
      refine (related_bodies.takeOut h).bind fun old s hold => ?_
      cases hfetched : s.fetched with
      | true => exact simulates_throw _ _
      | false =>
          obtain ⟨b, hmove, hb⟩ := hold.move hfetched
          exact simulates_lift hmove hb
  | text xs =>
      refine simulates_newBox.bind_left fun box hbox => ?_
      obtain ⟨reads, writes, rfl, hreads, hwrites⟩ := hbox
      obtain ⟨b, hb, hholds⟩ := Body.holds_ofString hreads hwrites xs.2
      exact simulates_lift hb hholds

theorem simulates_perform (c : ObjectCall) :
    Simulates Shows Eq (perform c) (Strings.perform c) := by
  cases c with
  | newBody =>
      refine simulates_newBox.bind_left fun box hbox => ?_
      obtain ⟨reads, writes, rfl, hreads, hwrites⟩ := hbox
      exact related_bodies.make (Body.holds_new hreads hwrites)
  | bodyOf xs =>
      exact (simulates_construct (.text xs)).bind fun b xs hb => related_bodies.make hb
  | stream h c =>
      refine (related_bodies.use h).bind fun b s hb => ?_
      refine simulates_schedules.bind_left fun p hp => ?_
      refine (simulates_lift_lift fun q hq => hb.respond p.1 hp.2 hq).bind ?_
      rintro ⟨a, b'⟩ ⟨-, t⟩ ⟨rfl, hb'⟩
      exact (related_bodies.putBack h hb').bind fun _ _ _ => simulates_pure rfl
  | append h other =>
      refine (simulates_construct (.moved other)).bind fun other xs hother => ?_
      refine (related_bodies.use h).bind fun b s hb => ?_
      obtain ⟨b', happend, hb'⟩ := hb.append hother
      exact simulates_lift_bind happend (related_bodies.putBack h hb')
  | newMessage k =>
      refine simulates_newBox.bind_left fun box hbox => ?_
      obtain ⟨reads, writes, rfl, hreads, hwrites⟩ := hbox
      exact (related_messages k).make (MessageKind.holds_ofBox (Body.holds_new hreads hwrites))
  | fromBody body =>
      exact (simulates_construct body).bind fun b xs hb =>
        (related_messages .response).make (MessageKind.holds_ofBox hb)
  | setBody k h body =>
      refine (simulates_construct body).bind fun b xs hb => ?_
      refine ((related_messages k).use h).bind fun m ys hm => ?_
      obtain ⟨m', hset, hm'⟩ := MessageKind.holds_setBody hb m
      exact simulates_lift_bind hset ((related_messages k).putBack h hm')
  | withBody k h body =>
      refine (simulates_construct body).bind fun b xs hb => ?_
      refine ((related_messages k).takeOut h).bind fun m ys hm => ?_
      obtain ⟨m', hset, hm'⟩ := MessageKind.holds_withBody hb m
      exact simulates_lift_bind hset ((related_messages k).make hm')
  | appendBody h other =>
      refine (simulates_construct other).bind fun b xs hb => ?_
      refine ((related_messages .response).use h).bind fun m ys hm => ?_
      obtain ⟨m', happend, hm'⟩ := hm.appendBody hb
      exact simulates_lift_bind happend ((related_messages .response).putBack h hm')
  | takeBody k h =>
      refine ((related_messages k).use h).bind fun m xs hm => ?_
      refine ((related_messages k).putBack h hm.takeBody.2).bind fun _ _ _ => ?_
      exact related_bodies.make hm.takeBody.1
  | takeBodyString k h =>
      refine ((related_messages k).use h).bind fun m xs hm => ?_
      obtain ⟨m', htake, hm'⟩ := hm.takeBodyString
      exact simulates_lift_bind htake
        (((related_messages k).putBack h hm').bind fun _ _ _ => simulates_pure rfl)
  | intoBody k h =>
      exact ((related_messages k).takeOut h).bind fun m xs hm => related_bodies.make hm.intoBody
  | intoBodyString k h =>
      rw [← bind_pure (Strings.perform (.intoBodyString k h))]
      exact ((related_messages k).takeOut h).bind fun m xs hm =>
        simulates_lift hm.intoBodyString rfl
  | sendToClient h =>
      exact ((related_messages .response).takeOut h).bind fun m xs hm =>
        simulates_send hm.content
  | streamToClient h =>
      exact ((related_messages .response).takeOut h).bind fun m xs hm =>
        related_streams.make hm.toLooks
  | insertStream h xs =>
      refine (related_streams.use h).bind fun stream s hs => ?_
      obtain ⟨t, hinsert, ht⟩ := hs.insert xs.1
      exact simulates_lift_bind hinsert (related_streams.putBack h ht)
  | flushStream h =>
      refine (related_streams.use h).bind fun stream s hs => ?_
      obtain ⟨t, hflush, ht⟩ := hs.flush
      exact simulates_lift_bind hflush (related_streams.putBack h ht)
  | appendStream h other =>
      refine (simulates_construct other).bind fun b xs hb => ?_
      exact (related_streams.use h).bind fun stream s hs =>
        related_streams.putBack h (hs.append hb)
  | finish h =>
      refine (related_streams.takeOut h).bind fun stream s hs => ?_
      obtain ⟨bod, hfinish, hcontent⟩ := hs.finish (.ok ())
      exact simulates_lift_bind hfinish (simulates_send hcontent)

end Objects

/-- However the host cuts the bytes, a program that makes bodies, requests and responses out
of text, moves bodies between them that it has not read a part of, and asks for the value of no
character that may have a sign, reads what it wrote, and its clients receive this. It gets the
answers that it would get from strings. -/
theorem text_delivered {α : Type} (program : Prog ObjectCall.Answer Abort α) {o : Objects}
    {t t' : Strings} {a : α} (h : o.Shows t)
    (hrun : (program.exec .stopped Strings.perform).run t = .ok (a, t')) :
    ∃ o', (program.exec .aborted Objects.perform).run o = .ok (a, o') ∧ o'.Shows t' := by
  obtain ⟨b, o', hrun', rfl, hshows⟩ :=
    simulates_exec Objects.simulates_perform program o t h a t' hrun
  exact ⟨o', hrun', hshows⟩

/-- Before a program has made any object. -/
def Objects.start (supply : ℕ → Schedule × Schedule) : Objects := ⟨[], fun _ => [], [], supply, []⟩

theorem Objects.shows_start (supply : ℕ → Schedule × Schedule)
    (h : ∀ n, (supply n).1.Accepting ∧ (supply n).2.Accepting) :
    (Objects.start supply).Shows ⟨[], fun _ => [], [], []⟩ :=
  ⟨.nil, fun _ => .nil, .nil, h, rfl⟩

/-- A response with a body that was not flushed, which is then streamed. -/
def streamedResponse : Prog ObjectCall.Answer Abort Unit := do
  let body ← Prog.perform (ObjectCall.bodyOf ⟨[104, 105], by decide⟩)
  Prog.perform (ObjectCall.stream body (.insert ⟨[44], by decide⟩))
  let response ← Prog.perform (ObjectCall.newMessage .response)
  let response ← Prog.perform (ObjectCall.withBody .response response (.moved body))
  let stream ← Prog.perform (ObjectCall.streamToClient response)
  Prog.perform (ObjectCall.insertStream stream ⟨[33], by decide⟩)
  Prog.perform (ObjectCall.finish stream)

theorem text_delivered_streamed :
    ∃ o, (streamedResponse.exec .aborted Objects.perform).run
        (Objects.start fun _ => (.atMost 0, .atMost 1)) = .ok ((), o) ∧
      o.sent = [[104, 105, 44, 33]] := by
  have hstart := Objects.shows_start (fun _ => (.atMost 0, .atMost 1)) fun _ =>
    ⟨Schedule.accepting_atMost 0, Schedule.accepting_atMost 1⟩
  obtain ⟨o, hrun, hshows⟩ := text_delivered streamedResponse hstart rfl
  exact ⟨o, hrun, hshows.sent⟩

end ComputeSdk
