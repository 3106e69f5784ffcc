/-
  PcmRender.Proofs.Keeping — **what every gate section keeps, everything keeps.**

  Calls, drain tasks and producers do two things to a session: they go through its gate sections, and
  between them they keep books, which changes nothing that a section decided.  So a fact about sessions
  that every section keeps, and that no book says anything about, is kept by every call and by every
  move of anyone:

      sections    stop, close, open, start, undoing a start; feed; turn and wait of a drain task
      books       the log, the selection, the switch under way, drain tasks, progress

  What happens on the machine in between is no matter of the session, and has to be allowed for.

  Main statements:
    * `Invariant` — such a fact,
    * `Invariant.perform`, `Invariant.run` — one call after the other,
    * `Invariant.step`, `Invariant.runCrew` — everyone at the same time.
-/
import PcmRender.Proofs.Diagnostics

namespace PcmRender

variable {σ κ : Type}

namespace Session

/-! ## §1. Invariants. -/

/-- Only the books of the session have changed between `s` and `t`. -/
structure Silent (s t : Session σ κ) : Prop where
  host : t.host = s.host
  route : t.route = s.route
  phase : t.phase = s.phase
  published : t.published = s.published

theorem silent_drainExited (s : Session σ κ) (generation : Nat) :
    Silent s (s.drainExited generation) := by
  rw [drainExited_eq]
  exact ⟨rfl, rfl, rfl, rfl⟩

theorem silent_spawnRefused (s : Session σ κ) (generation : Nat) (reason : String) :
    Silent s (s.spawnRefused generation reason) := by
  obtain ⟨log, hlog⟩ := spawnRefused_eq s generation reason
  rw [hlog]
  exact ⟨rfl, rfl, rfl, rfl⟩

theorem silent_joinDrain (s : Session σ κ) : Silent s s.joinDrain := by
  obtain ⟨log, hlog⟩ := s.joinDrain_eq
  rw [hlog]
  exact ⟨rfl, rfl, rfl, rfl⟩

theorem silent_retireDrain (s : Session σ κ) : Silent s s.retireDrain := by
  obtain ⟨log, hlog⟩ := retireDrain_eq s
  rw [hlog]
  exact ⟨rfl, rfl, rfl, rfl⟩

theorem silent_setFormat (s : Session σ κ) (format : Format) : Silent s (s.setFormat format).2 := by
  unfold setFormat
  split
  · exact ⟨rfl, rfl, rfl, rfl⟩
  · split <;> exact ⟨rfl, rfl, rfl, rfl⟩

variable [Host σ] [Stage κ]

/-- A fact about sessions that the books say nothing about and that every gate section keeps, and
whatever is allowed to happen on the machine. -/
structure Invariant (allowed : (σ → σ) → Prop) (fact : Session σ κ → Prop) : Prop where
  silent : ∀ {s t : Session σ κ}, fact s → Silent s t → fact t
  elsewhere : ∀ {s : Session σ κ} {change : σ → σ}, allowed change → fact s →
    fact { s with host := change s.host }
  stopSection : ∀ {s : Session σ κ}, fact s → fact s.stopSection.2
  closeSection : ∀ {s : Session σ κ}, fact s → fact s.closeSection
  openSection : ∀ {s : Session σ κ}, fact s → fact s.openSection.2
  startSection : ∀ {s : Session σ κ}, fact s → fact s.startSection.2
  undoStart : ∀ {s : Session σ κ}, fact s → fact s.undoStart
  feedSection : ∀ {s : Session σ κ} (chunk : List UInt8) (now : Instant), fact s →
    fact (s.feedSection chunk now).2
  drainTurn : ∀ {s : Session σ κ} (generation : Nat), fact s → fact (s.drainTurn generation).2
  pause : ∀ {s : Session σ κ}, fact s → fact s.pause.2

namespace Invariant

variable {allowed : (σ → σ) → Prop} {fact : Session σ κ → Prop} {s : Session σ κ}

/-! ## §2. One call after the other. -/

theorem stop (inv : Invariant allowed fact) (h : fact s) : fact s.stop := by
  have hsection := inv.stopSection h
  unfold Session.stop
  generalize s.stopSection = x at hsection
  obtain ⟨stopped, t⟩ := x
  cases stopped with
  | false => exact hsection
  | true => exact inv.silent hsection (silent_retireDrain t)

theorem close (inv : Invariant allowed fact) (h : fact s) : fact s.close :=
  inv.closeSection (inv.stop h)

/-- A start that gets no thread is undone. -/
theorem start (inv : Invariant allowed fact) (h : fact s) : fact s.start.2 := by
  have hsection := inv.startSection h
  unfold Session.start
  generalize s.startSection = x at hsection
  obtain ⟨answer, t⟩ := x
  cases answer with
  | error fault => exact hsection
  | ok begun =>
      cases begun with
      | none => exact hsection
      | some generation =>
          have hforgot : fact t.forgetTask := inv.silent hsection ⟨rfl, rfl, rfl, rfl⟩
          dsimp only
          split
          · exact inv.silent hforgot ⟨rfl, rfl, rfl, rfl⟩
          next reason _ =>
            exact inv.undoStart (inv.silent hforgot (silent_spawnRefused _ generation reason))

theorem restart (inv : Invariant allowed fact) (h : fact s) : fact s.restart.2 := by
  have hstart := inv.start h
  unfold Session.restart
  generalize s.start = x at hstart
  obtain ⟨answer, t⟩ := x
  cases answer with
  | ok _ => exact hstart
  | error fault =>
      cases fault with
      | overflow => exact hstart
      | error e => exact inv.close (inv.silent hstart ⟨rfl, rfl, rfl, rfl⟩)

theorem resume (inv : Invariant allowed fact) (h : fact s) (before : Phase) :
    fact (s.resume before).2 := by
  have hopen : fact s.openRoute.2 := inv.openSection h
  unfold Session.resume
  generalize s.openRoute = x at hopen
  obtain ⟨answer, t⟩ := x
  cases answer with
  | error fault => exact hopen
  | ok _ =>
      dsimp only
      split
      · exact inv.restart hopen
      · exact hopen

/-- The old route is gone before the new one is opened. -/
theorem replaceRoute (inv : Invariant allowed fact) (h : fact s) (target : Option String) :
    fact (s.replaceRoute target).2 := by
  have hmarked : fact s.beginSwitch := inv.silent h ⟨rfl, rfl, rfl, rfl⟩
  have hselected : fact { s.beginSwitch.close with selected := target } :=
    inv.silent (inv.close hmarked) ⟨rfl, rfl, rfl, rfl⟩
  unfold Session.replaceRoute
  dsimp only
  exact inv.silent (inv.resume hselected s.phase) ⟨rfl, rfl, rfl, rfl⟩

theorem select (inv : Invariant allowed fact) (h : fact s) (target : Option String) :
    fact (s.select target).2 := by
  have hnote : fact (s.note .info
      s!"Switching render device to {target.getD select.placeholder} (was {s.phase.text})") :=
    inv.silent h ⟨rfl, rfl, rfl, rfl⟩
  unfold Session.select
  dsimp only
  split
  · exact inv.silent (inv.close hnote) ⟨rfl, rfl, rfl, rfl⟩
  · exact inv.replaceRoute hnote target

theorem drainSection (inv : Invariant allowed fact) (h : fact s) (generation : Nat) :
    fact (s.drainSection generation).2 := by
  have hturn := inv.drainTurn generation h
  unfold Session.drainSection
  generalize s.drainTurn generation = x at hturn
  obtain ⟨turn, t⟩ := x
  cases turn with
  | cycled => exact hturn
  | retired => exact inv.silent hturn (silent_drainExited t generation)
  | crashed => exact inv.silent hturn (silent_drainExited t generation)

theorem drainWait (inv : Invariant allowed fact) (h : fact s) (generation : Nat) :
    fact (s.drainWait generation).2 := by
  have hpause := inv.pause h
  unfold Session.drainWait
  generalize s.pause = x at hpause
  obtain ⟨ready, t⟩ := x
  cases ready with
  | true => exact hpause
  | false => exact inv.silent hpause (silent_drainExited t generation)

/-- **Every step of a life keeps it.** -/
theorem perform (inv : Invariant allowed fact) (h : fact s) {call : Call σ}
    (hallowed : ∀ change, call = .elsewhere change → allowed change) : fact (s.perform call) := by
  cases call with
  | openRoute => exact inv.openSection h
  | start => exact inv.start h
  | stop => exact inv.stop h
  | close => exact inv.close h
  | reopen => exact inv.select h s.selected
  | select target => exact inv.select h target
  | setFormat format => exact inv.silent h (silent_setFormat s format)
  | setGain gain => exact inv.silent h ⟨rfl, rfl, rfl, rfl⟩
  | feed chunk now => exact inv.feedSection chunk now h
  | turn generation => exact inv.drainSection h generation
  | wait generation => exact inv.drainWait h generation
  | elsewhere change => exact inv.elsewhere (hallowed change rfl) h

theorem run (inv : Invariant allowed fact) (calls : List (Call σ)) :
    ∀ {s : Session σ κ}, fact s → (∀ change, .elsewhere change ∈ calls → allowed change) →
      fact (s.run calls) := by
  induction calls with
  | nil =>
      intro s h _
      exact h
  | cons call rest ih =>
      intro s h hallowed
      refine ih (inv.perform h fun change heq => hallowed change ?_)
        fun change hchange => hallowed change (List.mem_cons_of_mem _ hchange)
      rw [← heq]
      exact List.mem_cons_self

end Invariant

end Session

/-! ## §3. Everyone at the same time. -/

open Session (Silent Invariant)

/-- Behind its section a move of a call keeps books. -/
theorem Errand.KeepsRendering.silent {s : Session σ κ} {done : Advance σ κ}
    (h : Errand.KeepsRendering s done) :
    Silent s done.session := ⟨h.host, h.route, h.phase, h.published⟩

namespace Session.Invariant

open Errand

variable [Host σ] [Stage κ] {allowed : (σ → σ) → Prop} {fact : Session σ κ → Prop}

/-- **A move of a lifecycle call keeps it**: its section does, and what follows are books. -/
theorem advance? (inv : Invariant allowed fact) {s : Session σ κ} (h : fact s) {e : Errand}
    {joined : Bool} {done : Advance σ κ} (hdone : e.advance? s joined = some done) :
    fact done.session := by
  obtain ⟨t, hacts, hrests⟩ := advance_acts hdone
  refine inv.silent ?_ hrests.silent
  cases hacts with
  | marked => exact inv.silent h ⟨rfl, rfl, rfl, rfl⟩
  | stopped => exact inv.stopSection h
  | awaited => exact h
  | halted => exact inv.silent h (Session.silent_joinDrain s)
  | closed => exact inv.closeSection h
  | opened => exact inv.openSection h
  | started => exact inv.startSection h
  | tidied => exact inv.silent h ⟨rfl, rfl, rfl, rfl⟩
  | hired => exact inv.silent h ⟨rfl, rfl, rfl, rfl⟩
  | unhired => exact h
  | retracted _ generation reason =>
      exact inv.silent h (Session.silent_spawnRefused s generation reason)
  | undone => exact inv.undoStart h
  | ended => exact inv.silent h ⟨rfl, rfl, rfl, rfl⟩

variable {c next : Crew σ κ} {events : List Event}

theorem begin (inv : Invariant allowed fact) (h : fact c.session) (request : Request) :
    fact (c.begin request).1.session := by
  have hselect : ∀ target, fact (c.beginSelect target).session :=
    fun _ => inv.silent h ⟨rfl, rfl, rfl, rfl⟩
  cases request with
  | openRoute => exact h
  | start => exact h
  | stop => exact h
  | close => exact h
  | reopen => exact hselect c.session.selected
  | select target => exact hselect target
  | setFormat format => exact inv.silent h (Session.silent_setFormat c.session format)

theorem drain (inv : Invariant allowed fact) (h : fact c.session) {index : Nat} {t : DrainThread}
    (hstep : c.drain index t = some (next, events)) : fact next.session := by
  have hsession := (Crew.drain_session hstep).1
  generalize next.session = s at hsession
  cases hsession with
  | same => exact h
  | turned => exact inv.drainTurn t.generation h
  | paused => exact inv.pause h
  | left => exact inv.silent h (Session.silent_drainExited c.session t.generation)

theorem produce (inv : Invariant allowed fact) (h : fact c.session) {producer : Nat}
    {now : Instant} (hstep : Crew.ProduceOutcome c producer now next events) :
    fact next.session := by
  cases hstep with
  | first chunk =>
      rw [Crew.session_feed]
      exact inv.feedSection chunk now h
  | second => exact h

/-- **Every move of anyone keeps it.** -/
theorem step (inv : Invariant allowed fact) (h : fact c.session) {move : Move σ}
    (hallowed : ∀ change, move = .elsewhere change → allowed change)
    (hstep : c.step move = some (next, events)) :
    fact next.session := by
  cases move with
  | call request =>
      obtain ⟨_, rfl, _⟩ := Crew.step_call hstep
      exact inv.begin h request
  | advance =>
      obtain ⟨done, hdone, rfl, _⟩ := Crew.advance_done hstep
      exact inv.advance? h hdone
  | drain index =>
      obtain ⟨t, _, hdrain⟩ := Crew.step_drain hstep
      exact inv.drain h hdrain
  | offer producer chunk =>
      obtain ⟨_, rfl, _⟩ := Crew.step_offer hstep
      exact h
  | produce producer now => exact inv.produce h (Crew.produce_outcome hstep)
  | gain gain =>
      obtain ⟨rfl, rfl⟩ := Prod.mk.inj (Option.some.inj hstep)
      exact inv.silent h ⟨rfl, rfl, rfl, rfl⟩
  | elsewhere change =>
      obtain ⟨rfl, rfl⟩ := Prod.mk.inj (Option.some.inj hstep)
      exact inv.elsewhere (hallowed change rfl) h

theorem runCrew (inv : Invariant allowed fact) (moves : List (Move σ)) :
    ∀ {c last : Crew σ κ} {trace : List Event}, fact c.session →
      (∀ change, .elsewhere change ∈ moves → allowed change) → c.run moves = some (last, trace) →
      fact last.session := by
  induction moves with
  | nil =>
      intro c last trace h _ hrun
      obtain ⟨rfl, rfl⟩ := Prod.mk.inj (Option.some.inj hrun)
      exact h
  | cons move rest ih =>
      intro c last trace h hallowed hrun
      obtain ⟨next, _, _, hstep, hrest, _⟩ := Crew.run_cons hrun
      refine ih (inv.step h (fun change heq => hallowed change ?_) hstep)
        (fun change hchange => hallowed change (List.mem_cons_of_mem _ hchange)) hrest
      rw [← heq]
      exact List.mem_cons_self

end Session.Invariant

end PcmRender
