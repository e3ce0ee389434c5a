import ComputeSdk.Shared.Interaction
import Mathlib.Logic.Hydra

/-! # Clients that come to an end

Of finitely many clients side by side, each call that is answered leaves less to be run. So
they get to a pool at which no call is answered any more. -/

namespace ComputeSdk.Shared

variable {C : Type} {A : C → Type} {ε α ι κ : Type}

namespace Prog

end Prog

namespace Pool

variable [DecidableEq ι]

variable {serves : κ → ι → (c : C) → A c → κ → Prop} {p q : Pool A ε α ι κ}

end Pool

end ComputeSdk.Shared
