import ComputeSdk.Model.Message
import ComputeSdk.Shared.Tables
import ComputeSdk.Verification.Body.Pipe

/-! # Bodies, requests and responses together

A program makes any number of them and moves bodies from one to another. As far as text goes,
a body is a pipe, and what a message has is a string. -/

namespace ComputeSdk

open Shared

/-! ## Messages -/

inductive MessageKind where
  | request
  | response
  deriving DecidableEq

namespace MessageKind

@[reducible] def Object : MessageKind → Type
  | request => Request
  | response => Response

variable (k : MessageKind)

def body : (k : MessageKind) → k.Object → HostBody
  | request => Request.body
  | response => Response.body

/-- A message that was just made, with an empty body. -/
def ofBox : (k : MessageKind) → HostBody → k.Object
  | request => Request.mk
  | response => Response.mk

def takeBody : (k : MessageKind) → k.Object → Body × k.Object
  | request => Request.takeBody
  | response => Response.takeBody

def intoBody : (k : MessageKind) → k.Object → Body
  | request => Request.intoBody
  | response => Response.intoBody

def takeBodyString : (k : MessageKind) → k.Object → Except Abort (List UInt8 × k.Object)
  | request => Request.takeBodyString
  | response => Response.takeBodyString

def intoBodyString : (k : MessageKind) → k.Object → Except Abort (List UInt8)
  | request => Request.intoBodyString
  | response => Response.intoBodyString

def setBody : (k : MessageKind) → Body → k.Object → Except Abort k.Object
  | request => Request.setBody
  | response => Response.setBody

def withBody : (k : MessageKind) → Body → k.Object → Except Abort k.Object
  | request => Request.withBody
  | response => Response.withBody

end MessageKind

/-! ## Calls -/

/-- The argument for a parameter of type `Body`: `std::move` of an object, or a string. -/
inductive BodyArgument where
  | moved (h : ℕ)
  | text (s : Text)

/-- The calls of a program, with the numbers of the objects. -/
inductive ObjectCall where
  | newBody
  | bodyOf (s : Text)
  | stream (h : ℕ) (c : StreamCall)
  | append (h other : ℕ)
  | newMessage (k : MessageKind)
  | fromBody (body : BodyArgument)
  | setBody (k : MessageKind) (h : ℕ) (body : BodyArgument)
  | withBody (k : MessageKind) (h : ℕ) (body : BodyArgument)
  | appendBody (h : ℕ) (other : BodyArgument)
  | takeBody (k : MessageKind) (h : ℕ)
  | takeBodyString (k : MessageKind) (h : ℕ)
  | intoBody (k : MessageKind) (h : ℕ)
  | intoBodyString (k : MessageKind) (h : ℕ)
  | sendToClient (h : ℕ)
  | streamToClient (h : ℕ)
  | insertStream (h : ℕ) (s : Text)
  | flushStream (h : ℕ)
  | appendStream (h : ℕ) (other : BodyArgument)
  | finish (h : ℕ)

/-- An object that is made is known by its number. -/
@[reducible] def ObjectCall.Answer : ObjectCall → Type
  | stream _ c => c.Answer
  | newBody => ℕ
  | bodyOf _ => ℕ
  | newMessage _ => ℕ
  | fromBody _ => ℕ
  | withBody _ _ _ => ℕ
  | takeBody _ _ => ℕ
  | intoBody _ _ => ℕ
  | streamToClient _ => ℕ
  | takeBodyString _ _ => List UInt8
  | intoBodyString _ _ => List UInt8
  | _ => Unit

/-! ## Objects -/

/-- What ends the process: an abort, or the use of a box that was moved away. -/
inductive Fault where
  | aborted (e : Abort)
  | movedFrom

/-- The objects of a program, the schedules of the host bodies that it will make, and the
bodies that were sent to clients. -/
structure Objects where
  bodies : Table Body
  messages : (k : MessageKind) → Table k.Object
  streams : Table StreamingBody
  supply : ℕ → Schedule × Schedule
  sent : List (List UInt8)

namespace Objects

abbrev ObjectsM := StateT Objects (Except Fault)

def bodyPlace : Place Objects Body := ⟨bodies, fun l o => { o with bodies := l }⟩

def messagePlace (k : MessageKind) : Place Objects k.Object :=
  ⟨fun o => o.messages k, fun l o => { o with messages := Function.update o.messages k l }⟩

def streamPlace : Place Objects StreamingBody := ⟨streams, fun l o => { o with streams := l }⟩

def lift {α : Type} (x : Except Abort α) : ObjectsM α := fun o =>
  match x with
  | .ok a => .ok (a, o)
  | .error e => .error (.aborted e)

def schedules : ObjectsM (Schedule × Schedule) := fun o =>
  .ok (o.supply 0, { o with supply := fun n => o.supply (n + 1) })

/-- An empty host body. -/
def newBox : ObjectsM HostBody := do
  let (reads, writes) ← schedules
  pure (.new reads writes)

/-- The parameter of a function that takes a `Body`. -/
def construct : BodyArgument → ObjectsM Body
  | .moved h => do
    let old ← bodyPlace.takeOut .movedFrom h
    lift old.move
  | .text s => do
    let box ← newBox
    lift (Body.ofString s.1 box)

/-- What the host sends. -/
def send (bod : HostBody) : ObjectsM Unit := fun o =>
  .ok ((), { o with sent := o.sent ++ [bod.content] })

def perform : (c : ObjectCall) → ObjectsM c.Answer
  | .newBody => do
    let box ← newBox
    bodyPlace.make (Body.ofBox box)
  | .bodyOf s => do
    let b ← construct (.text s)
    bodyPlace.make b
  | .stream h c => do
    let b ← bodyPlace.use .movedFrom h
    let (reads, writes) ← schedules
    let (a, b) ← lift ((Body.respond reads writes c).run b)
    bodyPlace.putBack h b
    pure a
  | .append h other => do
    let other ← construct (.moved other)
    let b ← bodyPlace.use .movedFrom h
    let b ← lift (b.append other)
    bodyPlace.putBack h b
  | .newMessage k => do
    let box ← newBox
    (messagePlace k).make (k.ofBox box)
  | .fromBody body => do
    let body ← construct body
    (messagePlace .response).make (Response.fromBody body)
  | .setBody k h body => do
    let body ← construct body
    let m ← (messagePlace k).use .movedFrom h
    let m ← lift (k.setBody body m)
    (messagePlace k).putBack h m
  | .withBody k h body => do
    let body ← construct body
    let m ← (messagePlace k).takeOut .movedFrom h
    let m ← lift (k.withBody body m)
    (messagePlace k).make m
  | .appendBody h other => do
    let other ← construct other
    let m ← (messagePlace .response).use .movedFrom h
    let m ← lift (Response.appendBody other m)
    (messagePlace .response).putBack h m
  | .takeBody k h => do
    let m ← (messagePlace k).use .movedFrom h
    (messagePlace k).putBack h (k.takeBody m).2
    bodyPlace.make (k.takeBody m).1
  | .takeBodyString k h => do
    let m ← (messagePlace k).use .movedFrom h
    let (string, m) ← lift (k.takeBodyString m)
    (messagePlace k).putBack h m
    pure string
  | .intoBody k h => do
    let m ← (messagePlace k).takeOut .movedFrom h
    bodyPlace.make (k.intoBody m)
  | .intoBodyString k h => do
    let m ← (messagePlace k).takeOut .movedFrom h
    lift (k.intoBodyString m)
  | .sendToClient h => do
    let m ← (messagePlace .response).takeOut .movedFrom h
    send (MessageKind.body .response m)
  | .streamToClient h => do
    let m ← (messagePlace .response).takeOut .movedFrom h
    streamPlace.make (StreamingBody.ofBox (MessageKind.body .response m))
  | .insertStream h s => do
    let stream ← streamPlace.use .movedFrom h
    let stream ← lift (stream.insert s.1)
    streamPlace.putBack h stream
  | .flushStream h => do
    let stream ← streamPlace.use .movedFrom h
    let stream ← lift stream.flush
    streamPlace.putBack h stream
  | .appendStream h other => do
    let other ← construct other
    let stream ← streamPlace.use .movedFrom h
    streamPlace.putBack h (stream.append other)
  | .finish h => do
    let stream ← streamPlace.takeOut .movedFrom h
    let (_, bod) ← lift (stream.finish (.ok ()))
    send bod

end Objects

/-! ## Strings -/

/-- A pipe, and whether bytes may have been fetched that are still to be read. How many these
are depends on the host. -/
structure Conduit extends Pipe where
  fetched : Bool

/-- A body that holds a string of which nothing was read. -/
def Conduit.of (xs : List UInt8) : Conduit := ⟨⟨xs, [], IoState.goodbit⟩, false⟩

/-- The call reads from the body. -/
def StreamCall.reads : StreamCall → Bool
  | sgetc => true
  | istreambufIterator => true
  | sbumpc => true
  | extract _ => true
  | takeBodyString => true
  | _ => false

/-- What a program must not do: use an object that was moved away, move a body of which it read
a part, or ask for the value of a character that may have a sign. -/
inductive Misuse where
  | stopped (e : Abort)
  | movedFrom
  | fetched
  | signed

structure Strings where
  bodies : Table Conduit
  messages : MessageKind → Table (List UInt8)
  streams : Table Pipe
  sent : List (List UInt8)

namespace Strings

abbrev StringsM := StateT Strings (Except Misuse)

def bodyPlace : Place Strings Conduit := ⟨bodies, fun l t => { t with bodies := l }⟩

def messagePlace (k : MessageKind) : Place Strings (List UInt8) :=
  ⟨fun t => t.messages k, fun l t => { t with messages := Function.update t.messages k l }⟩

def streamPlace : Place Strings Pipe := ⟨streams, fun l t => { t with streams := l }⟩

def lift {α : Type} : Except PipeStop α → StringsM α
  | .ok a => pure a
  | .error (.stopped e) => throw (.stopped e)
  | .error .signed => throw .signed

/-- What the parameter holds. -/
def construct : BodyArgument → StringsM (List UInt8)
  | .moved h => do
    let s ← bodyPlace.takeOut .movedFrom h
    if s.fetched then throw .fetched
    else pure s.total
  | .text s => pure s.1

def send (xs : List UInt8) : StringsM Unit := fun t => .ok ((), { t with sent := t.sent ++ [xs] })

def perform : (c : ObjectCall) → StringsM c.Answer
  | .newBody => bodyPlace.make (.of [])
  | .bodyOf s => bodyPlace.make (.of s.1)
  | .stream h c => do
    let s ← bodyPlace.use .movedFrom h
    let (a, t) ← lift ((Pipe.respond c).run s.toPipe)
    bodyPlace.putBack h ⟨t, if c.reads then !t.queue.isEmpty else s.fetched⟩
    pure a
  | .append h other => do
    let xs ← construct (.moved other)
    let s ← bodyPlace.use .movedFrom h
    bodyPlace.putBack h { s with queue := s.queue ++ xs }
  | .newMessage k => (messagePlace k).make []
  | .fromBody body => do
    let xs ← construct body
    (messagePlace .response).make xs
  | .setBody k h body => do
    let xs ← construct body
    let _ ← (messagePlace k).use .movedFrom h
    (messagePlace k).putBack h xs
  | .withBody k h body => do
    let xs ← construct body
    let _ ← (messagePlace k).takeOut .movedFrom h
    (messagePlace k).make xs
  | .appendBody h other => do
    let xs ← construct other
    let ys ← (messagePlace .response).use .movedFrom h
    (messagePlace .response).putBack h (ys ++ xs)
  | .takeBody k h => do
    let xs ← (messagePlace k).use .movedFrom h
    (messagePlace k).putBack h []
    bodyPlace.make (.of xs)
  | .takeBodyString k h => do
    let xs ← (messagePlace k).use .movedFrom h
    (messagePlace k).putBack h []
    pure xs
  | .intoBody k h => do
    let xs ← (messagePlace k).takeOut .movedFrom h
    bodyPlace.make (.of xs)
  | .intoBodyString k h => (messagePlace k).takeOut .movedFrom h
  | .sendToClient h => do
    let xs ← (messagePlace .response).takeOut .movedFrom h
    send xs
  | .streamToClient h => do
    let xs ← (messagePlace .response).takeOut .movedFrom h
    streamPlace.make ⟨xs, [], IoState.goodbit⟩
  | .insertStream h s => do
    let t ← streamPlace.use .movedFrom h
    streamPlace.putBack h (if t.rdstate.good then s.1.foldl Pipe.put t else t)
  | .flushStream h => do
    let t ← streamPlace.use .movedFrom h
    streamPlace.putBack h (if t.rdstate.good then t.sync else t)
  | .appendStream h other => do
    let xs ← construct other
    let t ← streamPlace.use .movedFrom h
    -- what is appended overtakes what is pending
    streamPlace.putBack h { t with queue := t.queue ++ xs }
  | .finish h => do
    let t ← streamPlace.takeOut .movedFrom h
    send (if t.rdstate.good then t.sync else t).queue

end Strings

end ComputeSdk
