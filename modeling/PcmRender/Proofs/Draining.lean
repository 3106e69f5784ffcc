/-
  PcmRender.Proofs.Draining — **what a drain task keeps while it moves in step.**

  The drain task of a stepped session runs where nothing else moves: for one cycle behind the call that
  has started it, for one more at each tick, and for as many as the ring needs when a clip is played out.
  A fact about sessions that a wait and a turn of the task keep (`Session.DrainInvariant`) is kept by all
  of these, and by an offer that a tick comes behind.

  Main statements:
    * `Session.DrainInvariant.settle`, `Session.DrainInvariant.tick` — the first cycle, and a tick,
    * `Session.DrainInvariant.feedAround` — an offer,
    * `Session.DrainInvariant.playOut` — the rest of the ring.
-/
import PcmRender.Outlet

namespace PcmRender.Session

variable {σ κ : Type} [Host σ] [Stage κ] {fact : Session σ κ → Prop}

/-- A fact about sessions that a drain task keeps. -/
structure DrainInvariant (fact : Session σ κ → Prop) : Prop where
  /-- Its thread has begun to run. -/
  begun : ∀ {s : Session σ κ} {task : DrainTask}, s.task = some task → fact s →
    fact { s with task := some { task with fresh := false } }
  turn : ∀ {s : Session σ κ} (generation : Nat), fact s → fact (s.drainSection generation).2
  wait : ∀ {s : Session σ κ} (generation : Nat), fact s → fact (s.drainWait generation).2

namespace DrainInvariant

/-! ## §1. Cycles. -/

/-- The first cycle. -/
theorem settle (h : DrainInvariant fact) {s : SteppedSession σ κ} (hs : fact s.session) :
    fact s.settle.session := by
  unfold SteppedSession.settle
  split
  next task htask =>
    split
    · exact h.turn task.generation (h.begun htask hs)
    · exact hs
  · exact hs

/-- A lifecycle call, with the first cycle of the drain task that it may have started. -/
theorem call (h : DrainInvariant fact) {ρ : Type} {run : Session σ κ → ρ × Session σ κ}
    {s : SteppedSession σ κ} (hrun : fact (run s.session).2) : fact (s.call run).2.session :=
  h.settle (s := { s with session := (run s.session).2 }) hrun

/-- **A tick is a wait and perhaps a turn.** -/
theorem tick (h : DrainInvariant fact) {s : SteppedSession σ κ} (hs : fact s.session) :
    fact s.tick.2.session := by
  unfold SteppedSession.tick
  split
  · exact hs
  next generation _ =>
    have hwait : fact (s.session.drainWait generation).2 := h.wait generation hs
    split
    next waited hrun =>
      rw [hrun] at hwait
      exact hwait
    next waited hrun =>
      rw [hrun] at hwait
      have hturn : fact (waited.drainSection generation).2 := h.turn generation hwait
      split
      next turned hrun =>
        rw [hrun] at hturn
        exact hturn
      next turned _ hrun =>
        rw [hrun] at hturn
        exact hturn

/-! ## §2. Offers, and the time behind the last of them. -/

/-- **Behind the first section of an offer nothing moves but the drain task**, so that what this section
comes to lasts. -/
theorem feedAround (h : DrainInvariant fact) {s : SteppedSession σ κ} {chunk : List UInt8}
    (hfed : fact (s.session.feedSection chunk s.now).2) :
    fact (s.feedAround chunk SteppedSession.tick).2.2.session := by
  unfold SteppedSession.feedAround
  generalize s.session.feedSection chunk s.now = x at hfed
  obtain ⟨answer, fed⟩ := x
  have htick := h.tick (s := { s with session := fed }) hfed
  cases answer with
  | done => exact htick
  | awaitSwitch => exact htick
  | awaitSpace seen period =>
      -- The second section only looks at the session.
      show fact (SteppedSession.feedAgain _ seen period).2.session
      unfold SteppedSession.feedAgain
      dsimp only
      split <;> exact htick

/-- Cycle after cycle. -/
theorem drainQueued (h : DrainInvariant fact) (turns : Nat) : ∀ {s : SteppedSession σ κ},
    fact s.session → fact (SessionOutlet.drainQueued turns s).session := by
  induction turns with
  | zero =>
      intro s hs
      exact hs
  | succ turns ih =>
      intro s hs
      have htick := h.tick hs
      unfold SessionOutlet.drainQueued
      split
      · exact hs
      · dsimp only
        split
        · exact ih htick
        · exact htick

/-- What is still queued is played; whether somebody cancels meanwhile is seen on the clock only. -/
theorem playOut (h : DrainInvariant fact) {o : SessionOutlet σ κ} (ho : fact o.session.session)
    (deadline : Nat) : fact (o.playOut deadline).2.session.session := by
  have hdrained := h.drainQueued (o.session.session.buffered + 1) ho
  unfold SessionOutlet.playOut
  dsimp only
  split
  · exact hdrained
  split
  · exact hdrained
  split
  · split <;> exact hdrained
  · exact hdrained

end DrainInvariant

end PcmRender.Session
