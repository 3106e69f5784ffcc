/-
  PcmRender.Proofs.Errand — **a lifecycle call and its session agree at every point.**

  Between two gate sections of a lifecycle call the session is in a state that no caller ever sees:
  stopped with the mark of its drain task still set, or started with no thread for it yet.
  `Errand.Meets` says for each point of a call what the session is like there.  `Kept` joins this to
  three facts that hold at all points:

      route      there is none exactly in the closed phase
      switch     the session is marked exactly between the marks of a switch
      rendering  a device renders in the generation that was begun last and not stopped since

  What a move can come to is said once (`AdvanceOutcome`), with all that its gate section has checked
  and done; everything else about calls goes through its cases and opens no section again.  Facts
  about sections themselves are carried over to moves by the section that each of them goes through
  (`Acts`), as little happens behind it (`KeepsRendering`).
-/
import PcmRender.Proofs.Sections
import PcmRender.Session.Crew

namespace PcmRender

variable {σ κ : Type}

/-! ## §1. What a move of a call can come to. -/

namespace Errand

section Moves

variable [Host σ] [Stage κ]

/-- A move of a call: from a point, with a session, to how far it has come. -/
inductive AdvanceOutcome (s : Session σ κ) (joined : Bool) : Errand → Advance σ κ → Prop
  /-- A switch begins. -/
  | marked (target : Option String) (restart : Bool) :
      AdvanceOutcome s joined (marking target restart)
        { session := s.beginSwitch, errand := halting (some (.replace target restart)) }
  /-- Nothing renders. -/
  | unstopped (next : Option Purpose) (idle : s.phase ≠ .started) :
      AdvanceOutcome s joined (halting next) (proceed s next)
  /-- What rendered has ended. -/
  | stopped {t : Session σ κ} (next : Option Purpose) (started : s.phase = .started)
      (steady : s.Steady t) :
      AdvanceOutcome s joined (halting next)
        { session := t.endRendering, errand := awaiting next, events := [.stopped] }
  /-- The mark of the drain task is gone. -/
  | awaited (next : Option Purpose) (gone : s.draining = none) :
      AdvanceOutcome s joined (awaiting next) { session := s, errand := joining next }
  /-- So is its thread. -/
  | halted (next : Option Purpose) (log : List LogLine) (gone : joined = true) :
      AdvanceOutcome s joined (Errand.joining next)
        { proceed { s with task := none, log } next with
          events := .halted :: (proceed { s with task := none, log } next).events }
  /-- The route is given back, if there is one. -/
  | closed {t : Session σ κ} (purpose : Purpose) (outcome : s.CloseOutcome t) :
      AdvanceOutcome s joined (closing purpose) (released t purpose)
  /-- The route is opened, or is not. -/
  | opened {t : Session σ κ} {answer : Except Fault Unit} (restart : Option Bool)
      (outcome : s.OpenOutcome (answer, t)) :
      AdvanceOutcome s joined (opening restart) (Errand.opened t answer restart)
  /-- The route cannot be started. -/
  | refused {t : Session σ κ} (fault : Fault) (switching : Bool) (idle : s.phase ≠ .started)
      (steady : s.Steady t) :
      AdvanceOutcome s joined (starting switching) (failed t fault switching)
  /-- It was started before. -/
  | already (switching : Bool) (started : s.phase = .started) :
      AdvanceOutcome s joined (starting switching) (succeeded s switching)
  /-- The null sink is started. -/
  | null {t : Session σ κ} (switching : Bool) (idle : s.phase ≠ .started) (null : s.route = .null)
      (steady : Session.Steady { s with phase := .started } t) :
      AdvanceOutcome s joined (starting switching) (succeeded t switching)
  /-- A device renders in a new generation. -/
  | begun {t : Session σ κ} {r : DeviceRoute κ} (switching : Bool) (idle : s.phase ≠ .started)
      (steady : s.Steady t) (device : t.route = .device r) :
      AdvanceOutcome s joined (starting switching)
        { session := t.beginRendering
          errand := tidying switching (s.generation + 1)
          events := [.begun (s.generation + 1)] }
  /-- No thread of an earlier drain task is left. -/
  | tidied (switching : Bool) (generation : Nat) (gone : joined = true) :
      AdvanceOutcome s joined (tidying switching generation)
        { session := s.forgetTask, errand := spawning switching generation }
  /-- The drain task has a thread. -/
  | hired (switching : Bool) (generation : Nat) :
      AdvanceOutcome s joined (spawning switching generation)
        { succeeded (s.spawned generation) switching with
          events := .spawned generation :: (succeeded (s.spawned generation) switching).events
          spawned := some generation }
  /-- There is no thread for it. -/
  | unhired (switching : Bool) (generation : Nat) (reason : String) :
      AdvanceOutcome s joined (spawning switching generation)
        { session := s, errand := retracting switching generation reason }
  /-- Its mark is taken away. -/
  | retracted (switching : Bool) (generation : Nat) (reason : String) (log : List LogLine) :
      AdvanceOutcome s joined (retracting switching generation reason)
        { session := { s with
            draining := if s.draining = some generation then none else s.draining
            log }
          errand := undoing switching reason }
  /-- Its stream is stopped again. -/
  | undone {t : Session σ κ} (switching : Bool) (reason : String) (steady : s.Steady t) :
      AdvanceOutcome s joined (undoing switching reason)
        (failed { t with phase := .opened } (.error (.io reason)) switching)
  /-- A switch ends. -/
  | ended (answer : Except Fault Unit) :
      AdvanceOutcome s joined (ending answer) (reply s.endSwitch answer)

/-- **The cases of a move are all that a call can do.** -/
theorem advance_outcome {s : Session σ κ} {joined : Bool} {e : Errand}
    {done : Advance σ κ} (hdone : e.advance? s joined = some done) :
    AdvanceOutcome s joined e done := by
  unfold advance? at hdone
  cases e with
  | idle => exact absurd hdone (by simp)
  | marking target restart =>
      injection hdone with hdone
      rw [← hdone]
      exact .marked target restart
  | halting next =>
      dsimp only at hdone
      have hsection := s.stopSection_outcome
      generalize s.stopSection = x at hsection hdone
      cases hsection with
      | idle hidle =>
          injection hdone with hdone
          rw [← hdone]
          exact .unstopped next hidle
      | stopped hstarted hsteady =>
          injection hdone with hdone
          rw [← hdone]
          exact .stopped next hstarted hsteady
  | awaiting next =>
      dsimp only at hdone
      by_cases hgone : s.draining.isNone = true
      · rw [if_pos hgone] at hdone
        injection hdone with hdone
        rw [← hdone]
        exact .awaited next (Option.isNone_iff_eq_none.mp hgone)
      · rw [if_neg hgone] at hdone
        exact absurd hdone (by simp)
  | joining next =>
      dsimp only at hdone
      by_cases hover : joined = true
      · rw [if_pos hover] at hdone
        injection hdone with hdone
        obtain ⟨log, hlog⟩ := s.joinDrain_eq
        rw [← hdone, hlog]
        exact .halted next log hover
      · rw [if_neg hover] at hdone
        exact absurd hdone (by simp)
  | closing purpose =>
      injection hdone with hdone
      rw [← hdone]
      exact .closed purpose s.closeSection_outcome
  | opening restart =>
      injection hdone with hdone
      rw [← hdone]
      exact .opened restart s.openSection_outcome
  | starting switching =>
      dsimp only at hdone
      have hsection := s.startSection_outcome
      generalize s.startSection = x at hsection hdone
      cases hsection with
      | already hstarted =>
          injection hdone with hdone
          rw [← hdone]
          exact .already switching hstarted
      | refused fault hidle hsteady =>
          injection hdone with hdone
          rw [← hdone]
          exact .refused fault switching hidle hsteady
      | null hidle hnull hsteady =>
          injection hdone with hdone
          rw [← hdone]
          exact .null switching hidle hnull hsteady
      | device hidle hsteady hdevice =>
          injection hdone with hdone
          rw [← hdone]
          exact .begun switching hidle hsteady hdevice
  | tidying switching generation =>
      dsimp only at hdone
      by_cases hover : joined = true
      · rw [if_pos hover] at hdone
        injection hdone with hdone
        rw [← hdone]
        exact .tidied switching generation hover
      · rw [if_neg hover] at hdone
        exact absurd hdone (by simp)
  | spawning switching generation =>
      dsimp only at hdone
      cases hspawn : Host.spawn s.host with
      | ok _ =>
          rw [hspawn] at hdone
          injection hdone with hdone
          rw [← hdone]
          exact .hired switching generation
      | error reason =>
          rw [hspawn] at hdone
          injection hdone with hdone
          rw [← hdone]
          exact .unhired switching generation reason
  | retracting switching generation reason =>
      injection hdone with hdone
      obtain ⟨log, hlog⟩ := s.spawnRefused_eq generation reason
      rw [← hdone, hlog]
      exact .retracted switching generation reason log
  | undoing switching reason =>
      injection hdone with hdone
      obtain ⟨t, hsteady, ht⟩ := s.undoStart_outcome
      rw [← hdone, ht]
      exact .undone switching reason hsteady
  | ending answer =>
      injection hdone with hdone
      rw [← hdone]
      exact .ended answer

/-- What a call does to the session before it goes to its next point, or returns: a gate section, or
an entry in the books of its drain task or its switch. -/
inductive Acts (s : Session σ κ) : Errand → Session σ κ → Prop
  | marked (target : Option String) (restart : Bool) : Acts s (marking target restart) s.beginSwitch
  | stopped (next : Option Purpose) : Acts s (halting next) s.stopSection.2
  | awaited (next : Option Purpose) : Acts s (awaiting next) s
  | halted (next : Option Purpose) : Acts s (Errand.joining next) s.joinDrain
  | closed (purpose : Purpose) : Acts s (closing purpose) s.closeSection
  | opened (restart : Option Bool) : Acts s (opening restart) s.openSection.2
  | started (switching : Bool) : Acts s (starting switching) s.startSection.2
  | tidied (switching : Bool) (generation : Nat) :
      Acts s (tidying switching generation) s.forgetTask
  | hired (switching : Bool) (generation : Nat) :
      Acts s (spawning switching generation) (s.spawned generation)
  | unhired (switching : Bool) (generation : Nat) : Acts s (spawning switching generation) s
  | retracted (switching : Bool) (generation : Nat) (reason : String) :
      Acts s (retracting switching generation reason) (s.spawnRefused generation reason)
  | undone (switching : Bool) (reason : String) : Acts s (undoing switching reason) s.undoStart
  | ended (answer : Except Fault Unit) : Acts s (ending answer) s.endSwitch

/-- What going to the next point, or returning, leaves alone: a device is selected, or a failure is
written down. -/
structure KeepsRendering (s : Session σ κ) (done : Advance σ κ) : Prop where
  host : done.session.host = s.host
  route : done.session.route = s.route
  phase : done.session.phase = s.phase
  published : done.session.published = s.published
  progress : done.session.progress = s.progress
  switching : done.session.switching = s.switching

omit [Host σ] [Stage κ] in
theorem keepsRendering_refl {s : Session σ κ} {done : Advance σ κ} (h : done.session = s) :
    KeepsRendering s done := by
  rw [← h]
  exact ⟨rfl, rfl, rfl, rfl, rfl, rfl⟩

omit [Host σ] [Stage κ] in
theorem keepsRendering_proceed (s : Session σ κ) (next : Option Purpose) :
    KeepsRendering s (proceed s next) := by
  cases next <;> exact keepsRendering_refl rfl

omit [Host σ] [Stage κ] in
theorem keepsRendering_released (s : Session σ κ) (purpose : Purpose) :
    KeepsRendering s (released s purpose) := by
  cases purpose <;> exact ⟨rfl, rfl, rfl, rfl, rfl, rfl⟩

omit [Host σ] [Stage κ] in
theorem keepsRendering_opened (s : Session σ κ) (answer : Except Fault Unit) (restart : Option Bool) :
    KeepsRendering s (opened s answer restart) := by
  cases restart with
  | none => exact keepsRendering_refl rfl
  | some again => cases answer <;> exact keepsRendering_refl rfl

omit [Host σ] [Stage κ] in
theorem keepsRendering_succeeded (s : Session σ κ) (switching : Bool) :
    KeepsRendering s (succeeded s switching) := by
  cases switching <;> exact keepsRendering_refl rfl

omit [Host σ] [Stage κ] in
theorem keepsRendering_failed (s : Session σ κ) (fault : Fault) (switching : Bool) :
    KeepsRendering s (failed s fault switching) := by
  cases switching with
  | false => exact keepsRendering_refl rfl
  | true => cases fault <;> exact ⟨rfl, rfl, rfl, rfl, rfl, rfl⟩

/-- **A call that goes on does one thing to the session.** -/
theorem advance_acts {s : Session σ κ} {joined : Bool} {e : Errand} {done : Advance σ κ}
    (hdone : e.advance? s joined = some done) : ∃ t, Acts s e t ∧ KeepsRendering t done := by
  unfold advance? at hdone
  cases e with
  | idle => exact absurd hdone (by simp)
  | marking target restart =>
      obtain rfl := Option.some.inj hdone
      exact ⟨_, .marked target restart, keepsRendering_refl rfl⟩
  | halting next =>
      refine ⟨_, .stopped next, ?_⟩
      dsimp only at hdone
      generalize s.stopSection = x at hdone
      obtain ⟨stopped, t⟩ := x
      cases stopped with
      | true =>
          obtain rfl := Option.some.inj hdone
          exact keepsRendering_refl rfl
      | false =>
          obtain rfl := Option.some.inj hdone
          exact keepsRendering_proceed t next
  | awaiting next =>
      dsimp only at hdone
      split at hdone
      · obtain rfl := Option.some.inj hdone
        exact ⟨_, .awaited next, keepsRendering_refl rfl⟩
      · exact absurd hdone (by simp)
  | joining next =>
      dsimp only at hdone
      split at hdone
      · obtain rfl := Option.some.inj hdone
        have hrests := keepsRendering_proceed s.joinDrain next
        exact ⟨_, .halted next, hrests.host, hrests.route, hrests.phase, hrests.published,
          hrests.progress, hrests.switching⟩
      · exact absurd hdone (by simp)
  | closing purpose =>
      obtain rfl := Option.some.inj hdone
      exact ⟨_, .closed purpose, keepsRendering_released _ purpose⟩
  | opening restart =>
      obtain rfl := Option.some.inj hdone
      exact ⟨_, .opened restart, keepsRendering_opened _ _ restart⟩
  | starting switching =>
      refine ⟨_, .started switching, ?_⟩
      dsimp only at hdone
      generalize s.startSection = x at hdone
      obtain ⟨answer, t⟩ := x
      cases answer with
      | error fault =>
          obtain rfl := Option.some.inj hdone
          exact keepsRendering_failed t fault switching
      | ok begun =>
          cases begun with
          | none =>
              obtain rfl := Option.some.inj hdone
              exact keepsRendering_succeeded t switching
          | some generation =>
              obtain rfl := Option.some.inj hdone
              exact keepsRendering_refl rfl
  | tidying switching generation =>
      dsimp only at hdone
      split at hdone
      · obtain rfl := Option.some.inj hdone
        exact ⟨_, .tidied switching generation, keepsRendering_refl rfl⟩
      · exact absurd hdone (by simp)
  | spawning switching generation =>
      dsimp only at hdone
      split at hdone
      · obtain rfl := Option.some.inj hdone
        have hrests := keepsRendering_succeeded (s.spawned generation) switching
        exact ⟨_, .hired switching generation, hrests.host, hrests.route, hrests.phase,
          hrests.published, hrests.progress, hrests.switching⟩
      · obtain rfl := Option.some.inj hdone
        exact ⟨_, .unhired switching generation, keepsRendering_refl rfl⟩
  | retracting switching generation reason =>
      obtain rfl := Option.some.inj hdone
      exact ⟨_, .retracted switching generation reason, keepsRendering_refl rfl⟩
  | undoing switching reason =>
      obtain rfl := Option.some.inj hdone
      exact ⟨_, .undone switching reason, keepsRendering_failed _ _ switching⟩
  | ending answer =>
      obtain rfl := Option.some.inj hdone
      exact ⟨_, .ended answer, keepsRendering_refl rfl⟩

end Moves

end Errand

/-! ## §2. What renders, by what can be seen. -/

/-- What renders on a device after an event. -/
def Event.rendering (now : Option Nat) : Event → Option Nat
  | .begun generation => some generation
  | .stopped => none
  | _ => now

/-- The generation that renders on a device after some events: the last begun one, unless a stop has
ended it. -/
def rendering (trace : List Event) : Option Nat := trace.foldl Event.rendering none

theorem rendering_append (trace events : List Event) :
    rendering (trace ++ events) = events.foldl Event.rendering (rendering trace) :=
  List.foldl_append

/-- **After a stop nothing renders until a generation is begun.** -/
theorem begun_of_rendering {before since : List Event} {generation : Nat}
    (h : rendering (before ++ .stopped :: since) = some generation) :
    .begun generation ∈ since := by
  have hfold : ∀ (events : List Event) (now : Option Nat),
      events.foldl Event.rendering now = some generation →
        now = some generation ∨ .begun generation ∈ events := by
    intro events
    induction events with
    | nil => intro now hnow; exact .inl hnow
    | cons event rest ih =>
        intro now hnow
        rcases ih (event.rendering now) hnow with hevent | hrest
        · cases event with
          | begun g =>
              have hsame : g = generation := Option.some.inj hevent
              exact .inr (by rw [hsame]; exact List.mem_cons_self)
          | stopped => exact absurd hevent (by simp [Event.rendering])
          | spawned _ => exact .inl hevent
          | cycled _ => exact .inl hevent
          | left _ => exact .inl hevent
          | halted => exact .inl hevent
          | returned _ => exact .inl hevent
          | answered _ _ => exact .inl hevent
        · exact .inr (List.mem_cons_of_mem _ hrest)
  rw [rendering_append, List.foldl_cons] at h
  rcases hfold since none h with hnone | hsince
  · exact absurd hnone (by simp)
  · exact hsince

/-! ## §3. What the session is like at a point of a call. -/

/-- Whether a route is closed within a switch. -/
def Purpose.marked : Purpose → Bool
  | .forGood => false
  | .select _ => false
  | .replace _ _ => true
  | .giveUp _ => true

/-- Whether a call is between the marks of a switch. -/
def Errand.marked : Errand → Bool
  | .idle => false
  | .marking _ _ => false
  | .halting next => next.any Purpose.marked
  | .awaiting next => next.any Purpose.marked
  | .joining next => next.any Purpose.marked
  | .closing purpose => purpose.marked
  | .opening restart => restart.isSome
  | .starting switching => switching
  | .tidying switching _ => switching
  | .spawning switching _ => switching
  | .retracting switching _ _ => switching
  | .undoing switching _ => switching
  | .ending _ => true

namespace Session

/-- No drain task is known or marked. -/
def Free (s : Session σ κ) : Prop := s.task = none ∧ s.draining = none

/-- A session that does not render knows of no drain task. -/
def FreeUnlessStarted (s : Session σ κ) : Prop := s.phase ≠ .started → s.Free

/-- What every session keeps to, whatever call is under way: without a route it is closed, and what
it renders on a device is what was begun last. -/
structure PhaseFits (s : Session σ κ) (trace : List Event) : Prop where
  closed_iff : s.phase = .closed ↔ s.route = .closed
  rendering : s.phase = .started → (∃ r, s.route = .device r) →
    PcmRender.rendering trace = some s.generation

theorem Free.of_steady {s t : Session σ κ} (h : s.Free) (k : Steady s t) : t.Free := by
  obtain ⟨htask, hmark⟩ := h
  refine ⟨?_, k.draining.trans hmark⟩
  have hnone := k.task
  rw [htask, Option.map_none, Option.map_eq_none_iff] at hnone
  exact hnone

theorem FreeUnlessStarted.of_steady {s t : Session σ κ} (h : s.FreeUnlessStarted)
    (k : Steady s t) : t.FreeUnlessStarted :=
  fun hphase => (h (by rw [← k.phase]; exact hphase)).of_steady k

theorem PhaseFits.of_steady {s t : Session σ κ} {trace : List Event} (h : s.PhaseFits trace)
    (k : Steady s t) : t.PhaseFits trace where
  closed_iff := by rw [k.phase, k.route.closed_iff, h.closed_iff]
  rendering := fun hphase ⟨later, hlater⟩ => by
    obtain ⟨r, hr, _⟩ := (hlater ▸ k.route).of_device
    rw [k.generation]
    exact h.rendering (by rw [← k.phase]; exact hphase) ⟨r, hr⟩

/-- Events that begin and stop nothing leave a session phaseFits. -/
theorem PhaseFits.seeing {s : Session σ κ} {trace : List Event} (h : s.PhaseFits trace)
    {events : List Event} (hev : ∀ now, events.foldl Event.rendering now = now) :
    s.PhaseFits (trace ++ events) where
  closed_iff := h.closed_iff
  rendering := by
    rw [rendering_append, hev]
    exact h.rendering

/-- What leaves phase, route and generation alone leaves a session phaseFits. -/
theorem PhaseFits.of_same {s t : Session σ κ} {trace : List Event} (h : s.PhaseFits trace)
    (hphase : t.phase = s.phase) (hroute : t.route = s.route)
    (hgeneration : t.generation = s.generation) : t.PhaseFits trace where
  closed_iff := by rw [hphase, hroute, h.closed_iff]
  rendering := by
    rw [hphase, hroute, hgeneration]
    exact h.rendering

/-- What is started has a route. -/
theorem PhaseFits.open_of_started {s : Session σ κ} {trace : List Event} (h : s.PhaseFits trace)
    (hstarted : s.phase = .started) : s.route ≠ .closed := by
  intro hclosed
  rw [← h.closed_iff, hstarted] at hclosed
  exact absurd hclosed (by simp)

/-- A session that does not render is phaseFits wherever it has a route or is closed. -/
theorem PhaseFits.of_stopped {s : Session σ κ} (hphase : s.phase ≠ .started)
    (hclosed : s.phase = .closed ↔ s.route = .closed) (trace : List Event) : s.PhaseFits trace :=
  ⟨hclosed, fun hstarted => absurd hstarted hphase⟩

end Session

/-- What the session is like where a call is. -/
def Errand.Meets (s : Session σ κ) : Errand → Prop
  | .awaiting _ => s.phase ≠ .started
  | .joining _ => s.phase ≠ .started ∧ s.draining = none
  | .closing _ => s.phase ≠ .started ∧ s.Free
  | .tidying _ generation => s.phase = .started ∧ s.task = none ∧ s.draining = some generation
  | .spawning _ generation => s.phase = .started ∧ s.task = none ∧ s.draining = some generation
  | .retracting _ generation _ =>
    s.phase = .started ∧ s.task = none ∧ s.draining = some generation
  | .undoing _ _ => s.phase = .started ∧ s.Free
  | _ => s.FreeUnlessStarted

theorem Errand.Meets.of_steady {s t : Session σ κ} {e : Errand} (h : e.Meets s)
    (k : s.Steady t) : e.Meets t := by
  have hnone : s.task = none → t.task = none := fun htask => by
    have hmap := k.task
    rw [htask, Option.map_none, Option.map_eq_none_iff] at hmap
    exact hmap
  cases e with
  | awaiting _ =>
      intro hstarted
      exact h (by rw [← k.phase]; exact hstarted)
  | joining _ =>
      obtain ⟨hphase, hmark⟩ := h
      exact ⟨by rw [k.phase]; exact hphase, k.draining.trans hmark⟩
  | closing _ =>
      obtain ⟨hphase, hfree⟩ := h
      exact ⟨by rw [k.phase]; exact hphase, hfree.of_steady k⟩
  | tidying _ _ =>
      obtain ⟨hphase, htask, hmark⟩ := h
      exact ⟨k.phase.trans hphase, hnone htask, k.draining.trans hmark⟩
  | spawning _ _ =>
      obtain ⟨hphase, htask, hmark⟩ := h
      exact ⟨k.phase.trans hphase, hnone htask, k.draining.trans hmark⟩
  | retracting _ _ _ =>
      obtain ⟨hphase, htask, hmark⟩ := h
      exact ⟨k.phase.trans hphase, hnone htask, k.draining.trans hmark⟩
  | undoing _ _ =>
      obtain ⟨hphase, hfree⟩ := h
      exact ⟨k.phase.trans hphase, hfree.of_steady k⟩
  | idle => exact Session.FreeUnlessStarted.of_steady h k
  | marking _ _ => exact Session.FreeUnlessStarted.of_steady h k
  | halting _ => exact Session.FreeUnlessStarted.of_steady h k
  | opening _ => exact Session.FreeUnlessStarted.of_steady h k
  | starting _ => exact Session.FreeUnlessStarted.of_steady h k
  | ending _ => exact Session.FreeUnlessStarted.of_steady h k

/-! ## §4. One move of a call. -/

/-- The session and the call agree. -/
structure Kept (s : Session σ κ) (e : Errand) (trace : List Event) : Prop where
  phaseFits : s.PhaseFits trace
  marked : s.switching = e.marked
  meets : e.Meets s

theorem Kept.of_steady {s t : Session σ κ} {e : Errand} {trace : List Event} (h : Kept s e trace)
    (k : s.Steady t) : Kept t e trace :=
  ⟨h.phaseFits.of_steady k, k.switching.trans h.marked, h.meets.of_steady k⟩

/-- They agree still after a move of the call. -/
abbrev KeptBy (done : Advance σ κ) (trace : List Event) : Prop :=
  Kept done.session done.errand (trace ++ done.events)

namespace Errand

variable {s : Session σ κ} {trace : List Event}

theorem kept_reply (h : s.PhaseFits trace) (hswitch : s.switching = false)
    (hunless : s.FreeUnlessStarted) (answer : Except Fault Unit) : KeptBy (reply s answer) trace :=
  ⟨h.seeing fun _ => rfl, hswitch, hunless⟩

/-- A move that nothing is seen of. -/
theorem kept_silent (h : s.PhaseFits trace) {e : Errand} (hswitch : s.switching = e.marked)
    (hmeets : e.Meets s) : KeptBy { session := s, errand := e } trace := by
  refine ⟨?_, hswitch, hmeets⟩
  show s.PhaseFits (trace ++ [])
  rw [List.append_nil]
  exact h

/-- A move that shows one event, and then what the rest of it shows. -/
theorem kept_after {done : Advance σ κ} {event : Event} (h : KeptBy done (trace ++ [event])) :
    Kept done.session done.errand (trace ++ event :: done.events) := by
  have hkept : Kept done.session done.errand (trace ++ [event] ++ done.events) := h
  rw [List.append_assoc] at hkept
  exact hkept

theorem kept_proceed (h : s.PhaseFits trace) {next : Option Purpose}
    (hswitch : s.switching = next.any Purpose.marked) (hphase : s.phase ≠ .started)
    (hfree : s.Free) : KeptBy (proceed s next) trace := by
  cases next with
  | none => exact kept_reply h hswitch (fun _ => hfree) (.ok ())
  | some purpose => exact kept_silent h hswitch ⟨hphase, hfree⟩

theorem kept_released (h : s.PhaseFits trace) {purpose : Purpose}
    (hswitch : s.switching = purpose.marked) (hfree : s.Free) :
    KeptBy (released s purpose) trace := by
  cases purpose with
  | forGood => exact kept_reply h hswitch (fun _ => hfree) (.ok ())
  | select target =>
      have hselected : Session.PhaseFits { s with selected := target } trace := h.of_same rfl rfl rfl
      exact kept_reply hselected hswitch (fun _ => hfree) (.ok ())
  | replace target restart =>
      have hselected : Session.PhaseFits { s with selected := target } trace := h.of_same rfl rfl rfl
      exact kept_silent hselected hswitch (fun _ => hfree)
  | giveUp fault => exact kept_silent h hswitch (fun _ => hfree)

theorem kept_opened (h : s.PhaseFits trace) {restart : Option Bool}
    (hswitch : s.switching = restart.isSome) (hunless : s.FreeUnlessStarted)
    (answer : Except Fault Unit) :
    KeptBy (opened s answer restart) trace := by
  cases restart with
  | none => exact kept_reply h hswitch hunless answer
  | some restart =>
      cases answer with
      | error fault => exact kept_silent h hswitch hunless
      | ok _ =>
          cases restart with
          | true => exact kept_silent h hswitch hunless
          | false => exact kept_silent h hswitch hunless

theorem kept_succeeded (h : s.PhaseFits trace) {switching : Bool} (hswitch : s.switching = switching)
    (hunless : s.FreeUnlessStarted) : KeptBy (succeeded s switching) trace := by
  cases switching with
  | false => exact kept_reply h hswitch hunless (.ok ())
  | true => exact kept_silent h hswitch hunless

theorem kept_failed (h : s.PhaseFits trace) {switching : Bool} (hswitch : s.switching = switching)
    (hunless : s.FreeUnlessStarted) (fault : Fault) : KeptBy (failed s fault switching) trace := by
  cases switching with
  | false => exact kept_reply h hswitch hunless (.error fault)
  | true =>
      cases fault with
      | overflow => exact kept_silent h hswitch hunless
      | error e =>
          have hnote := s.steady_note .warn
            s!"Restart after device switch failed, closing: {e.message}"
          exact kept_silent (h.of_steady hnote) (hnote.switching.trans hswitch)
            (hunless.of_steady hnote)

theorem kept_closed {t : Session σ κ} {purpose : Purpose} (h : Kept s (closing purpose) trace)
    (houtcome : s.CloseOutcome t) : KeptBy (released t purpose) trace := by
  obtain ⟨hidle, hfree⟩ := h.meets
  cases houtcome with
  | idle => exact kept_released h.phaseFits h.marked hfree
  | closed _ hsteady =>
      have hgone : t.route = .closed := hsteady.route.closed_iff.mpr rfl
      have hphase : t.phase = .closed := hsteady.phase
      have hphaseFits : t.PhaseFits trace := Session.PhaseFits.of_stopped (by simp [hphase])
        (by simp [hphase, hgone]) trace
      have hleft : s.withoutRoute.Free := hfree
      exact kept_released hphaseFits (hsteady.switching.trans h.marked) (hleft.of_steady hsteady)

variable [Host σ] [Stage κ]

theorem kept_openOutcome {t : Session σ κ} {answer : Except Fault Unit} {restart : Option Bool}
    (h : Kept s (opening restart) trace) (houtcome : s.OpenOutcome (answer, t)) :
    KeptBy (opened t answer restart) trace := by
  -- Only a closed session is opened, and a closed session knows of no drain task.
  have hfree : s.route = .closed → s.Free := fun hclosed => by
    have hphase := h.phaseFits.closed_iff.mpr hclosed
    exact h.meets (by simp [hphase])
  cases houtcome with
  | refused fault _ hsteady =>
      exact kept_opened (h.phaseFits.of_steady hsteady) (hsteady.switching.trans h.marked)
        (Session.FreeUnlessStarted.of_steady h.meets hsteady) _
  | already => exact kept_opened h.phaseFits h.marked h.meets _
  | null hclosed _ =>
      have hphaseFits : s.openNull.PhaseFits trace := Session.PhaseFits.of_stopped
        (by simp [Session.openNull, Session.note]) (by simp [Session.openNull, Session.note]) trace
      exact kept_opened hphaseFits h.marked (fun _ => hfree hclosed) _
  | @device u _ _ r hclosed _ _ _ _ hsteady =>
      have hphaseFits : (u.adopt r).PhaseFits trace := Session.PhaseFits.of_stopped
        (by simp [Session.adopt, Session.note]) (by simp [Session.adopt, Session.note]) trace
      have hgone : u.Free := (hfree hclosed).of_steady hsteady
      exact kept_opened hphaseFits (hsteady.switching.trans h.marked) (fun _ => hgone) _

/-- **Every move of a call leaves the session and the call in agreement.** -/
theorem kept_advance? {e : Errand} (h : Kept s e trace) {joined : Bool} {done : Advance σ κ}
    (hdone : e.advance? s joined = some done) : KeptBy done trace := by
  cases advance_outcome hdone with
  | marked target restart =>
      have hphaseFits : s.beginSwitch.PhaseFits trace := h.phaseFits.of_same rfl rfl rfl
      exact kept_silent hphaseFits rfl h.meets
  | unstopped next hidle => exact kept_proceed h.phaseFits h.marked hidle (h.meets hidle)
  | @stopped t next hstarted hsteady =>
      have hopen : t.route ≠ .closed :=
        (h.phaseFits.of_steady hsteady).open_of_started (hsteady.phase.trans hstarted)
      have hphase : t.endRendering.phase ≠ .started := by simp [Session.endRendering]
      refine ⟨Session.PhaseFits.of_stopped hphase ?_ _, hsteady.switching.trans h.marked, hphase⟩
      simp [Session.endRendering, hopen]
  | awaited next hgone => exact kept_silent h.phaseFits h.marked ⟨h.meets, hgone⟩
  | halted next log =>
      -- The mark went away before the thread was joined, and joining it forgets the task.
      obtain ⟨hidle, hmark⟩ := h.meets
      have hphaseFits : Session.PhaseFits { s with task := none, log } trace :=
        h.phaseFits.of_same rfl rfl rfl
      exact kept_after (kept_proceed (hphaseFits.seeing fun _ => rfl) h.marked hidle ⟨rfl, hmark⟩)
  | closed purpose houtcome => exact kept_closed h houtcome
  | opened restart houtcome => exact kept_openOutcome h houtcome
  | refused fault switching _ hsteady =>
      exact kept_failed (h.phaseFits.of_steady hsteady) (hsteady.switching.trans h.marked)
        (Session.FreeUnlessStarted.of_steady h.meets hsteady) fault
  | already switching => exact kept_succeeded h.phaseFits h.marked h.meets
  | @null t switching _ hnull hsteady =>
      have hstarted : t.phase = .started := hsteady.phase
      have hroute : t.route = .null := hsteady.route.null_iff.mpr hnull
      have hphaseFits : t.PhaseFits trace :=
        ⟨by simp [hstarted, hroute], fun _ ⟨r, hr⟩ => by
          rw [hroute] at hr
          exact absurd hr (by simp)⟩
      exact kept_succeeded hphaseFits (hsteady.switching.trans h.marked)
        fun hidle => absurd hstarted hidle
  | @begun t r switching hidle hsteady hr =>
      -- Nothing rendered, so no task was known; now one is marked that has no thread yet.
      have hfree : t.Free := (h.meets hidle).of_steady hsteady
      have hgeneration : t.generation + 1 = s.generation + 1 := by rw [hsteady.generation]
      refine ⟨⟨?_, fun _ _ => ?_⟩, hsteady.switching.trans h.marked, rfl, hfree.1, ?_⟩
      · simp [Session.beginRendering, hr]
      · show rendering (trace ++ [.begun (s.generation + 1)]) = some (t.generation + 1)
        rw [rendering_append, hgeneration]
        rfl
      · show some (t.generation + 1) = _
        rw [hgeneration]
  | tidied switching generation =>
      obtain ⟨hstarted, _, hmark⟩ := h.meets
      have hphaseFits : s.forgetTask.PhaseFits trace := h.phaseFits.of_same rfl rfl rfl
      exact kept_silent hphaseFits h.marked ⟨hstarted, rfl, hmark⟩
  | hired switching generation =>
      have hstarted : (s.spawned generation).phase = .started := h.meets.1
      have hphaseFits : (s.spawned generation).PhaseFits trace := h.phaseFits.of_same rfl rfl rfl
      exact kept_after (kept_succeeded (hphaseFits.seeing fun _ => rfl) h.marked
        fun hidle => absurd hstarted hidle)
  | unhired switching generation reason => exact kept_silent h.phaseFits h.marked h.meets
  | retracted switching generation reason log =>
      obtain ⟨hstarted, htask, hmark⟩ := h.meets
      have hphaseFits : Session.PhaseFits { s with
          draining := if s.draining = some generation then none else s.draining, log } trace :=
        h.phaseFits.of_same rfl rfl rfl
      exact kept_silent hphaseFits h.marked ⟨hstarted, htask, if_pos hmark⟩
  | @undone t switching reason hsteady =>
      obtain ⟨hstarted, hfree⟩ := h.meets
      have hopen : t.route ≠ .closed :=
        (h.phaseFits.of_steady hsteady).open_of_started (hsteady.phase.trans hstarted)
      have hphaseFits : Session.PhaseFits { t with phase := .opened } trace :=
        Session.PhaseFits.of_stopped (by simp) (by simp [hopen]) trace
      have hgone : t.Free := hfree.of_steady hsteady
      exact kept_failed hphaseFits (hsteady.switching.trans h.marked) (fun _ => hgone) _
  | ended answer =>
      have hphaseFits : s.endSwitch.PhaseFits trace := h.phaseFits.of_same rfl rfl rfl
      exact kept_reply hphaseFits rfl h.meets answer

end Errand

/-- **A drain task that leaves disturbs no call**: where a call counts on a mark, no task is left. -/
theorem Kept.drainExited {s : Session σ κ} {e : Errand} {trace : List Event} (h : Kept s e trace)
    (hbusy : s.task ≠ none) (generation : Nat) : Kept (s.drainExited generation) e trace := by
  rw [Session.drainExited_eq]
  refine ⟨⟨h.phaseFits.closed_iff, h.phaseFits.rendering⟩, h.marked, ?_⟩
  -- A session that knows of a task is free only if it renders, so that nothing is asked of its mark.
  have hunless : s.FreeUnlessStarted → Session.FreeUnlessStarted { s with
      draining := if s.draining = some generation then none else s.draining } :=
    fun hs hstopped => absurd (hs hstopped).1 hbusy
  have hmeets := h.meets
  cases e with
  | awaiting _ => exact hmeets
  | joining _ =>
      obtain ⟨hphase, hmark⟩ := hmeets
      refine ⟨hphase, ?_⟩
      show (if s.draining = some generation then none else s.draining) = none
      rw [hmark]
      rfl
  | closing _ => exact absurd hmeets.2.1 hbusy
  | tidying _ _ => exact absurd hmeets.2.1 hbusy
  | spawning _ _ => exact absurd hmeets.2.1 hbusy
  | retracting _ _ _ => exact absurd hmeets.2.1 hbusy
  | undoing _ _ => exact absurd hmeets.2.1 hbusy
  | idle => exact hunless hmeets
  | marking _ _ => exact hunless hmeets
  | halting _ => exact hunless hmeets
  | opening _ => exact hunless hmeets
  | starting _ => exact hunless hmeets
  | ending _ => exact hunless hmeets

end PcmRender
