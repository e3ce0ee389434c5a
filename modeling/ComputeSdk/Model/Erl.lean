import ComputeSdk.Model.Cache.Host
import ComputeSdk.Shared.Narrow

/-! # Edge rate limiting

Penalty boxes and rate counters, which are names at the host. -/

namespace ComputeSdk.Erl

open Shared

/-- The imported functions of `fastly_erl`. -/
inductive ErlCall where
  | checkRate (rc entry : List UInt8) (delta window limit : UInt32) (pb : List UInt8)
      (ttl : UInt32)
  | ratecounterIncrement (rc entry : List UInt8) (delta : UInt32)
  | ratecounterLookupRate (rc entry : List UInt8) (window : UInt32)
  | ratecounterLookupCount (rc entry : List UInt8) (duration : UInt32)
  | penaltyboxAdd (pb entry : List UInt8) (ttl : UInt32)
  | penaltyboxHas (pb entry : List UInt8)

/-- What the host answers: the status or, if it is `Ok`, the out parameter. -/
@[reducible] def ErlCall.Answer : ErlCall → Type
  | checkRate .. => Except Status Bool
  | ratecounterIncrement .. => Except Status Unit
  | ratecounterLookupRate .. => Except Status UInt32
  | ratecounterLookupCount .. => Except Status UInt32
  | penaltyboxAdd .. => Except Status Unit
  | penaltyboxHas .. => Except Status Bool

/-- `ERLError`, by its code. -/
inductive ERLError where
  | unexpected
  | unknown
  | invalidArgument
  deriving DecidableEq, Repr

def fromStatus : Status → ERLError
  | .invalidArgument => .invalidArgument
  | .genericError => .unexpected
  | _ => .unknown

/-- A program that calls the host and never aborts. -/
abbrev ErlProg := Prog ErlCall.Answer Empty

/-- `ERL_TRY`, and the value in the out parameter. -/
def erlTry {α : Type} (call : ErlProg (Except Status α)) : ErlProg (Except ERLError α) := do
  let result ← call
  pure (result.mapError fromStatus)

/-- `std::chrono::duration_cast<std::chrono::seconds>` of a count of minutes. -/
def durationCastSeconds (minutes : Int64) : Int64 := minutes * 60

inductive CounterDuration where
  | tenSec
  | twentySecs
  | thirtySecs
  | fortySecs
  | fiftySecs
  | sixtySecs
  deriving DecidableEq, Repr

def CounterDuration.value : CounterDuration → UInt32
  | tenSec => 10
  | twentySecs => 20
  | thirtySecs => 30
  | fortySecs => 40
  | fiftySecs => 50
  | sixtySecs => 60

inductive RateWindow where
  | oneSec
  | tenSecs
  | sixtySecs
  deriving DecidableEq, Repr

def RateWindow.value : RateWindow → UInt32
  | oneSec => 1
  | tenSecs => 10
  | sixtySecs => 60

structure PenaltyBox where
  name : List UInt8
  deriving DecidableEq

namespace PenaltyBox

/-- The count of seconds is narrowed to the parameter. -/
def add (entry : List UInt8) (ttl : Int64) (box : PenaltyBox) : ErlProg (Except ERLError Unit) :=
  let ttlSeconds := durationCastSeconds ttl
  erlTry (Prog.perform (ErlCall.penaltyboxAdd box.name entry (narrow ttlSeconds)))

def has (entry : List UInt8) (box : PenaltyBox) : ErlProg (Except ERLError Bool) :=
  erlTry (Prog.perform (ErlCall.penaltyboxHas box.name entry))

end PenaltyBox

structure RateCounter where
  name : List UInt8
  deriving DecidableEq

namespace RateCounter

def increment (entry : List UInt8) (delta : UInt32) (counter : RateCounter) :
    ErlProg (Except ERLError Unit) :=
  erlTry (Prog.perform (ErlCall.ratecounterIncrement counter.name entry delta))

def lookupRate (entry : List UInt8) (window : RateWindow) (counter : RateCounter) :
    ErlProg (Except ERLError UInt32) :=
  erlTry (Prog.perform (ErlCall.ratecounterLookupRate counter.name entry window.value))

def lookupCount (entry : List UInt8) (duration : CounterDuration) (counter : RateCounter) :
    ErlProg (Except ERLError UInt32) :=
  erlTry (Prog.perform (ErlCall.ratecounterLookupCount counter.name entry duration.value))

end RateCounter

structure ERL where
  rateCounter : RateCounter
  penaltyBox : PenaltyBox
  deriving DecidableEq

/-- The count of seconds is narrowed by a cast. -/
def ERL.checkRate (entry : List UInt8) (delta : UInt32) (window : RateWindow) (limit : UInt32)
    (ttl : Int64) (erl : ERL) : ErlProg (Except ERLError Bool) :=
  let ttlSeconds := durationCastSeconds ttl
  erlTry (Prog.perform (ErlCall.checkRate erl.rateCounter.name entry delta window.value limit
    erl.penaltyBox.name (narrow ttlSeconds)))

end ComputeSdk.Erl
