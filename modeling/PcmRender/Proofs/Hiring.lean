/-
  PcmRender.Proofs.Hiring — **what a call does to drain tasks, and what it shows of it.**

  A session knows of one drain task at most.  A call gives a thread only when it knows of none, and
  forgets one only when its thread has ended (`TaskOutcome`).  What can be seen of a move says what the
  move has done (`Shows`), so that a trace can be read as the history of what rendered.

  Behind its gate section a move only chooses where the call goes next.  None of these choices
  touches a drain task or a mark (`TouchesNoTask`).
-/
import PcmRender.Proofs.Errand

namespace PcmRender.Errand

variable {σ κ : Type}

/-! ## §1. Choices. -/

/-- The end of a move after all sections: it touches no drain task, gives no thread, and what it
shows is at most that the call returns. -/
structure TouchesNoTask (s : Session σ κ) (done : Advance σ κ) : Prop where
  spawned : done.spawned = none
  task : done.session.task = s.task
  draining : done.session.draining = s.draining
  phase : done.session.phase = s.phase
  events : ∀ event ∈ done.events, done.errand = .idle ∧ ∃ answer, event = .returned answer

theorem quiet_reply (s : Session σ κ) (answer : Except Fault Unit) :
    TouchesNoTask s (reply s answer) :=
  ⟨rfl, rfl, rfl, rfl, fun _ hevent => ⟨rfl, answer, List.mem_singleton.mp hevent⟩⟩

theorem quiet_silent (s : Session σ κ) (e : Errand) :
    TouchesNoTask s { session := s, errand := e } :=
  ⟨rfl, rfl, rfl, rfl, fun _ hevent => absurd hevent (by simp)⟩

/-- What changes neither drain task, mark nor phase can be done before. -/
theorem TouchesNoTask.after {s t : Session σ κ} {done : Advance σ κ} (h : TouchesNoTask t done)
    (htask : t.task = s.task) (hmark : t.draining = s.draining) (hphase : t.phase = s.phase) :
    TouchesNoTask s done :=
  ⟨h.spawned, h.task.trans htask, h.draining.trans hmark, h.phase.trans hphase, h.events⟩

theorem quiet_proceed (s : Session σ κ) (next : Option Purpose) :
    TouchesNoTask s (proceed s next) := by
  cases next with
  | none => exact quiet_reply s _
  | some purpose => exact quiet_silent s _

theorem quiet_released (s : Session σ κ) (purpose : Purpose) :
    TouchesNoTask s (released s purpose) := by
  cases purpose with
  | forGood => exact quiet_reply s _
  | select target => exact (quiet_reply { s with selected := target } _).after rfl rfl rfl
  | replace target restart =>
      exact (quiet_silent { s with selected := target } _).after rfl rfl rfl
  | giveUp fault => exact quiet_silent s _

theorem quiet_opened (s : Session σ κ) (answer : Except Fault Unit) (restart : Option Bool) :
    TouchesNoTask s (opened s answer restart) := by
  cases restart with
  | none => exact quiet_reply s answer
  | some restart =>
      cases answer with
      | error fault => exact quiet_silent s _
      | ok _ => exact quiet_silent s _

theorem quiet_succeeded (s : Session σ κ) (switching : Bool) :
    TouchesNoTask s (succeeded s switching) := by
  cases switching with
  | false => exact quiet_reply s _
  | true => exact quiet_silent s _

theorem quiet_failed (s : Session σ κ) (fault : Fault) (switching : Bool) :
    TouchesNoTask s (failed s fault switching) := by
  cases switching with
  | false => exact quiet_reply s _
  | true =>
      cases fault with
      | overflow => exact quiet_silent s _
      | error e => exact (quiet_silent (s.note _ _) _).after rfl rfl rfl

/-! ## §2. The drain task that the session knows of. -/

/-- What a move of a call does to the drain task that the session knows of. -/
inductive TaskOutcome (s : Session σ κ) (joined : Bool) (done : Advance σ κ) : Prop
  /-- It stays the same. -/
  | same (spawned : done.spawned = none)
      (task : done.session.task.map DrainTask.generation = s.task.map DrainTask.generation)
  /-- Its thread has ended. -/
  | ended (spawned : done.spawned = none) (gone : joined = true)
  /-- There was none, and now there is one. -/
  | hired (generation : Nat) (spawned : done.spawned = some generation) (free : s.task = none)
      (task : done.session.task.map DrainTask.generation = some generation)

/-- A quiet end keeps the drain task that the section before it has left. -/
theorem TouchesNoTask.taskOutcome {s t : Session σ κ} {done : Advance σ κ} (h : TouchesNoTask t done)
    (htask : t.task.map DrainTask.generation = s.task.map DrainTask.generation) {joined : Bool} :
    TaskOutcome s joined done := by
  refine .same h.spawned ?_
  rw [h.task]
  exact htask

variable [Host σ] [Stage κ] {s : Session σ κ} {trace : List Event}

/-- **A call gives a thread only where no drain task is known**, and forgets one only when its
thread has ended. -/
theorem taskOutcome_advance? {e : Errand} (h : Kept s e trace) {joined : Bool} {done : Advance σ κ}
    (hdone : e.advance? s joined = some done) : TaskOutcome s joined done := by
  cases advance_outcome hdone with
  | marked target restart => exact .same rfl rfl
  | unstopped next => exact (quiet_proceed s next).taskOutcome rfl
  | stopped next _ hsteady => exact .same rfl hsteady.task
  | awaited next => exact .same rfl rfl
  | halted next log hover => exact .ended (quiet_proceed _ next).spawned hover
  | @closed t purpose houtcome =>
      refine (quiet_released t purpose).taskOutcome ?_
      cases houtcome with
      | idle => rfl
      | closed _ hsteady => exact hsteady.task
  | @opened t answer restart houtcome =>
      refine (quiet_opened t answer restart).taskOutcome ?_
      cases houtcome with
      | refused _ _ hsteady => exact hsteady.task
      | already => rfl
      | null => rfl
      | device _ _ _ _ _ hsteady => exact hsteady.task
  | @refused t fault switching _ hsteady =>
      exact (quiet_failed t fault switching).taskOutcome hsteady.task
  | already switching => exact (quiet_succeeded s switching).taskOutcome rfl
  | @null t switching _ _ hsteady =>
      have htask : t.task.map DrainTask.generation = s.task.map DrainTask.generation := hsteady.task
      exact (quiet_succeeded t switching).taskOutcome htask
  | begun switching _ hsteady => exact .same rfl hsteady.task
  | tidied switching generation hover => exact .ended rfl hover
  | hired switching generation =>
      -- The one that was begun has no thread yet, and there is no other one.
      obtain ⟨_, hfree, _⟩ := h.meets
      refine .hired generation rfl hfree ?_
      show (succeeded (s.spawned generation) switching).session.task.map _ = _
      rw [(quiet_succeeded _ _).task]
      rfl
  | unhired switching generation reason => exact .same rfl rfl
  | retracted switching generation reason log => exact .same rfl rfl
  | @undone t switching reason hsteady =>
      exact (quiet_failed { t with phase := .opened } _ switching).taskOutcome hsteady.task
  | ended answer => exact .same rfl rfl

/-! ## §3. What can be seen of a call. -/

/-- What is true of a move of a call if it shows an event. -/
def Shows (joined : Bool) (done : Advance σ κ) : Event → Prop
  | .stopped => done.session.phase ≠ .started
  | .begun generation => done.session.generation = generation
  | .spawned generation => done.spawned = some generation
  | .halted => joined = true ∧ done.spawned = none ∧ done.session.draining = none
  | .returned _ => done.errand = .idle
  | .cycled _ => False
  | .left _ => False
  | .answered _ _ => False

omit [Host σ] [Stage κ] in
theorem TouchesNoTask.shows {t : Session σ κ} {done after : Advance σ κ} (h : TouchesNoTask t done)
    (herrand : after.errand = done.errand) {joined : Bool} :
    ∀ event ∈ done.events, Shows joined after event := by
  intro event hevent
  obtain ⟨hidle, answer, rfl⟩ := h.events event hevent
  exact herrand.trans hidle

/-- **What a move shows is what it does.** -/
theorem shows_advance? {e : Errand} (h : Kept s e trace) {joined : Bool} {done : Advance σ κ}
    (hdone : e.advance? s joined = some done) : ∀ event ∈ done.events, Shows joined done event := by
  cases advance_outcome hdone with
  | marked => exact (quiet_silent s.beginSwitch _).shows rfl
  | unstopped next => exact (quiet_proceed s next).shows rfl
  | stopped =>
      intro event hevent
      rw [List.mem_singleton.mp hevent]
      simp [Shows, Session.endRendering]
  | awaited => exact (quiet_silent s _).shows rfl
  | halted next log hover =>
      have hquiet := quiet_proceed { s with task := none, log } next
      intro event hevent
      rcases List.mem_cons.mp hevent with hhalted | hrest
      · obtain ⟨_, hmark⟩ := h.meets
        rw [hhalted]
        exact ⟨hover, hquiet.spawned, hquiet.draining.trans hmark⟩
      · exact hquiet.shows rfl event hrest
  | @closed t purpose => exact (quiet_released t purpose).shows rfl
  | @opened t answer restart => exact (quiet_opened t answer restart).shows rfl
  | @refused t fault switching => exact (quiet_failed t fault switching).shows rfl
  | already switching => exact (quiet_succeeded s switching).shows rfl
  | @null t switching => exact (quiet_succeeded t switching).shows rfl
  | @begun t _ switching _ hsteady =>
      intro event hevent
      rw [List.mem_singleton.mp hevent]
      show t.generation + 1 = s.generation + 1
      rw [hsteady.generation]
  | tidied => exact (quiet_silent s.forgetTask _).shows rfl
  | hired switching generation =>
      have hquiet := quiet_succeeded (s.spawned generation) switching
      intro event hevent
      rcases List.mem_cons.mp hevent with hspawned | hrest
      · rw [hspawned]
        rfl
      · refine hquiet.shows ?_ event hrest
        rfl
  | unhired => exact (quiet_silent s _).shows rfl
  | retracted => exact (quiet_silent _ _).shows rfl
  | @undone t switching => exact (quiet_failed { t with phase := .opened } _ switching).shows rfl
  | ended answer => exact (quiet_reply s.endSwitch answer).shows rfl

end PcmRender.Errand
