/-
  PcmRender.Proofs.Undisturbed — **a call that nobody disturbs is the call.**

  A lifecycle call is there twice: as one function of a session, and as the points that it goes
  through while others move.  Both are made of the same gate sections, and where nobody else moves
  they get to the same session with the same answer:

      openRoute, start, stop, close, select, reopen   undisturbed_begin

  The only other party that has to move is the drain task, which takes its mark away when the call
  waits for that.
-/
import PcmRender.Session.Crew

namespace PcmRender

variable {σ κ : Type} [Host σ] [Stage κ]

/-! ## §1. A call on its own. -/

/-- A call at a point, with a session, returns an answer and leaves a session if nobody else moves
but the drain task that it waits for. -/
inductive Undisturbed : Session σ κ → Errand → Except Fault Unit → Session σ κ → Prop
  /-- It returns. -/
  | returned {s : Session σ κ} {e : Errand} {answer : Except Fault Unit} {done : Advance σ κ}
      (advance : e.advance? s true = some done) (idle : done.errand = .idle)
      (returned : .returned answer ∈ done.events) : Undisturbed s e answer done.session
  /-- It goes on. -/
  | onward {s t : Session σ κ} {e : Errand} {answer : Except Fault Unit} {done : Advance σ κ}
      (advance : e.advance? s true = some done)
      (rest : Undisturbed done.session done.errand answer t) : Undisturbed s e answer t
  /-- The drain task takes its mark away. -/
  | retired {s t : Session σ κ} {next : Option Purpose} {answer : Except Fault Unit}
      (rest : Undisturbed { s with draining := none } (.awaiting next) answer t) :
      Undisturbed s (.awaiting next) answer t

/-- A move is the last one, or leads on to the answer. -/
def Advance.Leads (done : Advance σ κ) (answer : Except Fault Unit) (t : Session σ κ) : Prop :=
  (done.errand = .idle ∧ .returned answer ∈ done.events ∧ done.session = t)
    ∨ Undisturbed done.session done.errand answer t

namespace Undisturbed

variable {s t : Session σ κ} {e : Errand} {answer : Except Fault Unit}

theorem of_leads {done : Advance σ κ} (hdone : e.advance? s true = some done)
    (h : done.Leads answer t) : Undisturbed s e answer t := by
  rcases h with ⟨hidle, hreturned, hsession⟩ | hrest
  · rw [← hsession]
    exact .returned hdone hidle hreturned
  · exact .onward hdone hrest

theorem leads_reply (s : Session σ κ) (answer : Except Fault Unit) :
    (Errand.reply s answer).Leads answer s :=
  .inl ⟨rfl, List.mem_singleton.mpr rfl, rfl⟩

/-- What is seen before does not change where a move leads. -/
theorem leads_after {done : Advance σ κ} (h : done.Leads answer t) (event : Event)
    {spawned : Option Nat} :
    Advance.Leads { done with events := event :: done.events, spawned } answer t := by
  rcases h with ⟨hidle, hreturned, hsession⟩ | hrest
  · exact .inl ⟨hidle, List.mem_cons_of_mem _ hreturned, hsession⟩
  · exact .inr hrest

/-! ## §2. Stopping and closing. -/

/-- A stop within a call stops the session, and goes on. -/
theorem halting (s : Session σ κ) {next : Option Purpose}
    (h : (Errand.proceed s.stop next).Leads answer t) : Undisturbed s (.halting next) answer t := by
  unfold Session.stop at h
  cases hsection : s.stopSection with
  | mk stopped u =>
      rw [hsection] at h
      cases stopped with
      | false =>
          have hadvance : (Errand.halting next).advance? s true = some (Errand.proceed u next) := by
            unfold Errand.advance?
            dsimp only
            rw [hsection]
          exact of_leads hadvance h
      | true =>
          have hadvance : (Errand.halting next).advance? s true = some
              { session := u, errand := .awaiting next, events := [.stopped] } := by
            unfold Errand.advance?
            dsimp only
            rw [hsection]
          -- The drain task has to leave before the call finds its mark gone.
          have hjoining : Undisturbed { u with draining := none } (.joining next) answer t :=
            of_leads rfl (leads_after h .halted)
          exact .onward hadvance (.retired (.onward rfl hjoining))

/-- A call that closes the session for good, for a selection, or to give a switch up. -/
theorem closing (s : Session σ κ) {purpose : Purpose}
    (h : (Errand.released s.close purpose).Leads answer t) :
    Undisturbed s (.halting (some purpose)) answer t :=
  halting s (.inr (of_leads rfl h))

theorem ending (s : Session σ κ) (answer : Except Fault Unit) :
    Undisturbed s (.ending answer) answer s.endSwitch :=
  of_leads rfl (leads_reply s.endSwitch answer)

/-! ## §3. Starting. -/

/-- The end of a start, within a switch or on its own. -/
def finished (switching : Bool) : Except Fault Unit × Session σ κ → Advance σ κ
  | (.ok (), s) => Errand.succeeded s switching
  | (.error fault, s) => Errand.failed s fault switching

/-- A start that has begun a generation gets a thread for it, or is undone. -/
theorem spawning (s : Session σ κ) {switching : Bool} {generation : Nat}
    (h : (finished switching (match Host.spawn s.host with
      | .ok () => (.ok (), s.spawned generation)
      | .error reason =>
        (.error (.error (.io reason)), s.spawnFailedSection generation reason))).Leads answer t) :
    Undisturbed s (.spawning switching generation) answer t := by
  cases hspawn : Host.spawn s.host with
  | ok _ =>
      rw [hspawn] at h
      have hadvance : (Errand.spawning switching generation).advance? s true = some
          { Errand.succeeded (s.spawned generation) switching with
            events := .spawned generation
              :: (Errand.succeeded (s.spawned generation) switching).events
            spawned := some generation } := by
        unfold Errand.advance?
        dsimp only
        rw [hspawn]
      exact of_leads hadvance (leads_after h (.spawned generation))
  | error reason =>
      rw [hspawn] at h
      have hadvance : (Errand.spawning switching generation).advance? s true
          = some { session := s, errand := .retracting switching generation reason } := by
        unfold Errand.advance?
        dsimp only
        rw [hspawn]
      have hundoing : Undisturbed (s.spawnRefused generation reason) (.undoing switching reason)
          answer t := of_leads rfl h
      exact .onward hadvance (.onward rfl hundoing)

/-- A start within a call starts the session, and goes on. -/
theorem starting (s : Session σ κ) {switching : Bool}
    (h : (finished switching s.start).Leads answer t) :
    Undisturbed s (.starting switching) answer t := by
  unfold Session.start at h
  cases hsection : s.startSection with
  | mk begun u =>
      rw [hsection] at h
      cases begun with
      | error fault =>
          have hadvance : (Errand.starting switching).advance? s true
              = some (Errand.failed u fault switching) := by
            unfold Errand.advance?
            dsimp only
            rw [hsection]
          exact of_leads hadvance h
      | ok generation =>
          cases generation with
          | none =>
              have hadvance : (Errand.starting switching).advance? s true
                  = some (Errand.succeeded u switching) := by
                unfold Errand.advance?
                dsimp only
                rw [hsection]
              exact of_leads hadvance h
          | some generation =>
              have hadvance : (Errand.starting switching).advance? s true = some
                  { session := u
                    errand := .tidying switching generation
                    events := [.begun generation] } := by
                unfold Errand.advance?
                dsimp only
                rw [hsection]
              -- There is no thread of an earlier task to wait for.
              exact .onward hadvance (.onward rfl (spawning u.forgetTask h))

theorem start (s : Session σ κ) : Undisturbed s (.starting false) s.start.1 s.start.2 := by
  refine starting s ?_
  cases s.start with
  | mk answer t =>
      cases answer with
      | ok _ => exact leads_reply t (.ok ())
      | error fault => exact leads_reply t (.error fault)

/-- The start at the end of a switch. -/
theorem restart (s : Session σ κ) :
    Undisturbed s (.starting true) s.restart.1 s.restart.2.endSwitch := by
  refine starting s ?_
  unfold Session.restart
  cases s.start with
  | mk answer t =>
      cases answer with
      | ok _ => exact .inr (ending t (.ok ()))
      | error fault =>
          cases fault with
          | overflow => exact .inr (ending t (.error .overflow))
          | error e => exact .inr (closing _ (.inr (ending _ (.error (.error e)))))

/-! ## §4. Opening and switching. -/

theorem opening (s : Session σ κ) :
    Undisturbed s (.opening none) s.openRoute.1 s.openRoute.2 :=
  of_leads rfl (leads_reply s.openRoute.2 s.openRoute.1)

/-- The new route of a switch, up to where the old one was. -/
theorem resume (s : Session σ κ) (before : Phase) :
    Undisturbed s (.opening (some (decide (before = .started)))) (s.resume before).1
      (s.resume before).2.endSwitch := by
  have hadvance : (Errand.opening (some (decide (before = .started)))).advance? s true
      = some (Errand.opened s.openRoute.2 s.openRoute.1 (some (decide (before = .started)))) := rfl
  unfold Session.resume
  generalize s.openRoute = x at hadvance
  obtain ⟨opened, t⟩ := x
  cases opened with
  | error fault => exact .onward hadvance (ending t (.error fault))
  | ok _ =>
      by_cases hstarted : before = .started
      · rw [decide_eq_true hstarted] at hadvance ⊢
        dsimp only
        rw [if_pos hstarted]
        exact .onward hadvance (restart t)
      · rw [decide_eq_false hstarted] at hadvance ⊢
        dsimp only
        rw [if_neg hstarted]
        exact .onward hadvance (ending t (.ok ()))

theorem replaceRoute (s : Session σ κ) (target : Option String) :
    Undisturbed s (.marking target (decide (s.phase = .started))) (s.replaceRoute target).1
      (s.replaceRoute target).2 :=
  .onward rfl (closing s.beginSwitch (.inr (resume { s.beginSwitch.close with selected := target }
    s.phase)))

end Undisturbed

/-! ## §5. Every call. -/

/-- What a call does and answers as one function of the session. -/
def Request.alone (s : Session σ κ) : Request → Except Fault Unit × Session σ κ
  | .openRoute => s.openRoute
  | .start => s.start
  | .stop => (.ok (), s.stop)
  | .close => (.ok (), s.close)
  | .reopen => s.reopen
  | .select target => s.select target
  | .setFormat format => ((s.setFormat format).1.mapError Fault.error, (s.setFormat format).2)

namespace Crew

/-- A switch that begins is undisturbed up to its end. -/
theorem undisturbed_beginSelect (c : Crew σ κ) (target : Option String) :
    Undisturbed (c.beginSelect target).session (c.beginSelect target).errand
      (c.session.select target).1 (c.session.select target).2 := by
  unfold beginSelect Session.select
  dsimp only
  generalize hnoted : c.session.note .info _ = s
  have hphase : s.phase = c.session.phase := by rw [← hnoted]; rfl
  rw [← hphase]
  by_cases hclosed : s.phase = .closed
  · rw [if_pos hclosed, if_pos hclosed]
    exact Undisturbed.closing s (Undisturbed.leads_reply _ (.ok ()))
  · rw [if_neg hclosed, if_neg hclosed]
    exact Undisturbed.replaceRoute s target

/-- **Undisturbed, every call does and answers what the session's own function says**: it returns at
once, or goes through its points to the same end. -/
theorem undisturbed_begin (c : Crew σ κ) (request : Request) :
    ((c.begin request).2 = [.returned (request.alone c.session).1]
        ∧ (c.begin request).1.session = (request.alone c.session).2)
      ∨ Undisturbed (c.begin request).1.session (c.begin request).1.errand
          (request.alone c.session).1 (request.alone c.session).2 := by
  cases request with
  | openRoute => exact .inr (Undisturbed.opening c.session)
  | start => exact .inr (Undisturbed.start c.session)
  | stop =>
      exact .inr (Undisturbed.halting c.session (Undisturbed.leads_reply c.session.stop (.ok ())))
  | close =>
      exact .inr (Undisturbed.closing c.session (Undisturbed.leads_reply c.session.close (.ok ())))
  | reopen => exact .inr (undisturbed_beginSelect c c.session.selected)
  | select target => exact .inr (undisturbed_beginSelect c target)
  | setFormat format => exact .inl ⟨rfl, rfl⟩

end Crew

end PcmRender
