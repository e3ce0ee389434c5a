import ComputeSdk.Shared.Completion
import ComputeSdk.Verification.Cache.Collapse

/-! # Lookups that wait come to an end

A lookup waits as long as another client has the obligation. A client that has it never waits
itself, so the calls of `get_or_set_with` do not wait for each other in a circle. -/

namespace ComputeSdk

open Shared Guest ComputeSdk.Core

/-- The host does what it is asked for. -/
def HostCall.Granted (c : HostCall) (a : c.Answer) : Prop :=
  match c, a with
  | .cacheTransactionLookup _ _ _, .error _ => False
  | .cacheGetState _, .error _ => False
  | .cacheTransactionInsertAndStreamBack _ _ _, .error _ => False
  | .cacheGetBody _ _ _, .error _ => False
  | .cacheClose _, .error _ => False
  | .streamingBodyFinish _ _, .error _ => False
  | _, _ => True

namespace Region

variable {ι : Type} [DecidableEq ι]

/-- The answers of a host that refuses nothing. -/
def Grants (key : List UInt8) (e : Region ι) (i : ι) (c : HostCall) (a : c.Answer)
    (e' : Region ι) : Prop :=
  e.Answers key i c a e' ∧ c.Granted a

variable {key : List UInt8} {e : Region ι} {i : ι} {s : Session}

end Region

namespace GetOrSetPool

variable {ι : Type} [DecidableEq ι] {key : List UInt8} {p q : GetOrSetPool ι}

/-- The calls have ended and nobody has the obligation, or a client that aborted has it. -/
def Settled (p : GetOrSetPool ι) : Prop :=
  ((∀ i c next, p.prog i ≠ .call c next) ∧ p.env.holder = none) ∨
    ∃ i e h, p.prog i = .stop e ∧ p.env.holder = some (i, h)

end GetOrSetPool

end ComputeSdk
