/-
  PcmRender.Proofs.Releasing — **a clip leaves no device running.**

  A player makes a session for each clip, and closes it behind the clip whatever has happened.  So all
  that lasts while a session lives holds of it when the clip is over (`ClipPlayer.closes_render`):

      started none     no device runs that did not run before, the one of an open route apart
      no task          a session that does not render has no drain task
      nothing asked    a session on the null sink has asked its machine for nothing

  A closed session has no route and does not render, and so it has left nothing.

  Main statements:
    * `Session.ClipInvariant`, `Session.clipInvariant_leavesMachine` — what the steps of a session
      keep,
    * `Clip.stream_lasts` — what the calls of an outlet keep, a clip keeps,
    * `ClipPlayer.closes_render` — clips to their end,
    * `ClipPlayer.releases_on_every_path` — clips as they are played and checked.
-/
import PcmRender.Proofs.Confining
import PcmRender.Proofs.Draining
import PcmRender.Proofs.Failing
import PcmRender.Proofs.Generations
import PcmRender.Proofs.Replacing

namespace PcmRender

/-! ## §1. The session of a clip. -/

namespace Session

section ClipInvariant

variable {σ κ : Type} [Host σ] [Stage κ] {fact other : Session σ κ → Prop} {s : Session σ κ}

/-- The steps in the life of the session of a clip. -/
inductive Call.OfClip : Call σ → Prop
  | openRoute : Call.OfClip .openRoute
  | start : Call.OfClip .start
  | stop : Call.OfClip .stop
  | close : Call.OfClip .close
  | feed (chunk : List UInt8) (now : Instant) : Call.OfClip (.feed chunk now)
  | turn (generation : Nat) : Call.OfClip (.turn generation)
  | wait (generation : Nat) : Call.OfClip (.wait generation)

/-- A fact about the session of a clip that lasts as long as the session. -/
structure ClipInvariant (fact : Session σ κ → Prop) : Prop where
  /-- Every step of its life keeps it, -/
  perform : ∀ {s : Session σ κ} {call : Call σ}, call.OfClip → fact s → fact (s.perform call)
  /-- and so does writing down that a drain task has begun to run, -/
  begun : ∀ {s : Session σ κ} {task : DrainTask}, s.task = some task → fact s →
    fact { s with task := some { task with fresh := false } }
  /-- and whatever is reported. -/
  reported : ∀ {s : Session σ κ} (log : List LogLine), fact s → fact { s with log }

/-- So drain tasks keep it. -/
theorem ClipInvariant.drains (h : ClipInvariant fact) : DrainInvariant fact where
  begun := h.begun
  turn := fun generation => h.perform (.turn generation)
  wait := fun generation => h.perform (.wait generation)

theorem ClipInvariant.and (h : ClipInvariant fact) (k : ClipInvariant other) :
    ClipInvariant fun s => fact s ∧ other s where
  perform := fun hcall ⟨hfact, hother⟩ => ⟨h.perform hcall hfact, k.perform hcall hother⟩
  begun := fun htask ⟨hfact, hother⟩ => ⟨h.begun htask hfact, k.begun htask hother⟩
  reported := fun log ⟨hfact, hother⟩ => ⟨h.reported log hfact, k.reported log hother⟩

/-- What all gate sections keep lasts: a clip does nothing to its machine from outside. -/
theorem Invariant.clipInvariant {allowed : (σ → σ) → Prop} (inv : Invariant allowed fact) :
    ClipInvariant fact where
  perform := fun hcall h => inv.perform h fun change hchange => by
    rw [hchange] at hcall
    exact absurd hcall nofun
  begun := fun _ h => inv.silent h ⟨rfl, rfl, rfl, rfl⟩
  reported := fun _ h => inv.silent h ⟨rfl, rfl, rfl, rfl⟩

/-- What holds of a session between two calls. -/
theorem clipInvariant_betweenCalls :
    ClipInvariant fun s : Session σ κ => Coherent s ∧ s.BetweenCalls where
  perform := fun _ ⟨hcoherent, h⟩ => ⟨coherent_perform hcoherent _, betweenCalls_perform hcoherent h _⟩
  begun := fun htask ⟨hcoherent, h⟩ => by
    -- A session that knows of a task renders, so that it may know of any other as well.
    refine ⟨⟨hcoherent.toLinked.withTask _, hcoherent.settled⟩, h.closed_iff, fun hstopped => ?_,
      h.tells, h.settled⟩
    have hnone := (h.freeUnlessStarted hstopped).1
    rw [htask] at hnone
    exact absurd hnone (by simp)
  reported := fun _ ⟨hcoherent, h⟩ =>
    ⟨hcoherent.of_steady ⟨rfl, rfl, rfl, rfl, rfl, rfl, rfl, rfl, Route.Continues.refl _⟩,
      h.closed_iff, h.freeUnlessStarted, h.tells, h.settled⟩

/-- A session without a device that leaves its machine as it was. -/
structure LeavesMachine (machine : σ) (s : Session σ κ) : Prop where
  host : s.host = machine
  selected : s.selected = none
  nowhere : ∀ r, s.route ≠ .device r

variable {machine : σ}

omit [Host σ] [Stage κ] in
theorem LeavesMachine.of_same {t : Session σ κ} (h : s.LeavesMachine machine) (hhost : t.host = s.host)
    (hselected : t.selected = s.selected) (hroute : ∀ r, t.route = .device r → s.route = .device r) :
    t.LeavesMachine machine where
  host := hhost.trans h.host
  selected := hselected.trans h.selected
  nowhere := fun r hr => h.nowhere r (hroute r hr)

omit [Stage κ] in
theorem LeavesMachine.stop (h : s.LeavesMachine machine) : s.stop.LeavesMachine machine := by
  unfold Session.stop stopSection
  split
  next hstop =>
    have hstream : s.stopStream = s := by
      unfold stopStream
      split
      next r hr => exact absurd hr (h.nowhere r)
      · rfl
    split at hstop
    · obtain ⟨_, rfl⟩ := Prod.mk.inj hstop
      obtain ⟨log, hlog⟩ := retireDrain_eq s.stopStream.endRendering
      rw [hlog, hstream]
      exact h.of_same rfl rfl fun _ hr => hr
    · exact absurd (congrArg Prod.fst hstop) (by simp)
  next hstop =>
    split at hstop
    · exact absurd (congrArg Prod.fst hstop) (by simp)
    · obtain ⟨_, rfl⟩ := Prod.mk.inj hstop
      exact h

omit [Stage κ] in
theorem LeavesMachine.close (h : s.LeavesMachine machine) : s.close.LeavesMachine machine := by
  have hstop := h.stop
  unfold Session.close closeSection
  split
  · exact hstop
  · exact ⟨hstop.host, hstop.selected, by simp [withoutRoute]⟩
  next r hr => exact absurd hr (hstop.nowhere r)

theorem LeavesMachine.openSection (h : s.LeavesMachine machine) :
    s.openSection.2.LeavesMachine machine := by
  unfold Session.openSection
  split
  · exact ⟨h.host, h.selected, by simp [openNull, note]⟩
  next hselected =>
    rw [h.selected] at hselected
    exact absurd hselected (by simp)
  · exact h

theorem LeavesMachine.start (h : s.LeavesMachine machine) : s.start.2.LeavesMachine machine := by
  unfold Session.start startSection
  by_cases hstarted : s.phase = .started
  · rw [if_pos hstarted]
    exact h
  rw [if_neg hstarted]
  cases hr : s.route with
  | closed => exact h
  | null => exact ⟨h.host, h.selected, by simp [note]⟩
  | device r => exact absurd hr (h.nowhere r)

theorem LeavesMachine.drainSection (h : s.LeavesMachine machine) (generation : Nat) :
    (s.drainSection generation).2.LeavesMachine machine := by
  have hturn : s.drainTurn generation = (.retired, s) := by
    unfold drainTurn
    cases hcycle : s.cycle? generation with
    | none => rfl
    | some found => exact absurd (cycle?_eq_some hcycle).2.2.1 (h.nowhere found.1)
  unfold Session.drainSection
  rw [hturn]
  show (s.drainExited generation).LeavesMachine machine
  rw [drainExited_eq]
  exact h.of_same rfl rfl fun _ hr => hr

omit [Stage κ] in
theorem LeavesMachine.drainWait (h : s.LeavesMachine machine) (generation : Nat) :
    (s.drainWait generation).2.LeavesMachine machine := by
  have hpause : s.pause = (true, s) := by
    unfold pause
    split
    next r hr => exact absurd hr (h.nowhere r)
    · rfl
  unfold Session.drainWait
  rw [hpause]
  exact h

/-- **A session on the null sink asks its machine for nothing.** -/
theorem clipInvariant_leavesMachine (machine : σ) : ClipInvariant (@LeavesMachine σ κ machine) where
  perform := by
    intro s call hcall h
    cases hcall with
    | openRoute => exact h.openSection
    | start => exact h.start
    | stop => exact h.stop
    | close => exact h.close
    | feed chunk now =>
        have hfed := steady_feedSection s chunk now
        refine h.of_same (host_feedSection s chunk now) hfed.selected fun later hlater => ?_
        obtain ⟨r, hr, _⟩ := (hlater ▸ hfed.route).of_device
        exact absurd hr (h.nowhere r)
    | turn generation => exact h.drainSection generation
    | wait generation => exact h.drainWait generation
  begun := fun _ h => h.of_same rfl rfl fun _ hr => hr
  reported := fun _ h => h.of_same rfl rfl fun _ hr => hr

end ClipInvariant

end Session

/-! ## §2. Clips. -/

/-- A fact about an outlet that lasts while a clip is played on it, whoever cancels it and when. -/
structure Outlet.Invariant {ω : Type} [Outlet ω] (fact : ω → Prop) : Prop where
  feed : ∀ {outlet : ω} (chunk : List UInt8), fact outlet → fact (Outlet.feed outlet chunk).2
  checkCancel : ∀ {outlet : ω}, fact outlet → fact (Outlet.checkCancel outlet).2
  requestCancel : ∀ {outlet : ω}, fact outlet → fact (Outlet.requestCancel outlet)
  playOut : ∀ {outlet : ω} (deadline : Nat), fact outlet → fact (Outlet.playOut outlet deadline).2

theorem Outlet.Invariant.stays {ω : Type} [Outlet ω] {fact : ω → Prop} (h : Outlet.Invariant fact) :
    Outlet.Stays fact := ⟨h.feed, h.checkCancel, h.requestCancel⟩

/-- What lasts for a session lasts for it as an outlet. -/
theorem SessionOutlet.invariant {σ κ : Type} [Host σ] [Stage κ] {fact : Session σ κ → Prop}
    (h : Session.ClipInvariant fact) :
    Outlet.Invariant fun o : SessionOutlet σ κ => fact o.session.session where
  feed := fun {o} chunk ho => h.drains.feedAround (h.perform (.feed chunk o.session.now) ho)
  checkCancel := id
  requestCancel := id
  playOut := fun deadline ho => h.drains.playOut ho deadline

namespace Clip

variable {ω : Type} [Outlet ω] {fact : ω → Prop}

/-- **What lasts on an outlet lasts to the end of a clip**, however the clip ends. -/
theorem stream_lasts (h : Outlet.Invariant fact) (format : Format) (chunk : Nat)
    (tail : Option Duration) {outlet : ω} (events : List ReadEvent) (ho : fact outlet) :
    fact (stream format chunk tail outlet events).2 := by
  have hpushed := pushAll_stays h.stays format.align (chunkSize chunk format.align)
    (inputLength events + 1) events {} ho
  unfold stream
  dsimp only
  split
  · exact ho
  generalize pushAll _ _ _ outlet events {} = pushed at hpushed
  obtain ⟨result, after⟩ := pushed
  cases result with
  | none => exact hpushed
  | some result =>
      cases result with
      | error => exact hpushed
      | ok progress =>
          dsimp only at hpushed ⊢
          split
          · exact hpushed
          cases tail with
          | none => exact hpushed
          | some tail =>
              dsimp only
              unfold awaitPlayout
              split
              · exact h.playOut _ hpushed
              · exact hpushed

end Clip

/-! ## §3. What is left behind. -/

/-- Nothing is open in a session, and no drain task is alive. -/
structure Session.Released {σ κ : Type} (s : Session σ κ) : Prop where
  route : s.route = .closed
  free : s.Free

/-- The session of an input, if it came to have one, is closed and is left as `fact` says. -/
def Rendered.Closes {σ κ ρ : Type} (fact : Session σ κ → Prop) (done : Rendered σ κ ρ) : Prop :=
  ∀ s, done.session = some s → s.session.Released ∧ fact s.session

theorem Rendered.Closes.mono {σ κ ρ : Type} {fact other : Session σ κ → Prop}
    {done : Rendered σ κ ρ} (h : done.Closes fact) (hother : ∀ s, s.Released → fact s → other s) :
    done.Closes other := by
  intro s hs
  obtain ⟨hreleased, hfact⟩ := h s hs
  exact ⟨hreleased, hother _ hreleased hfact⟩

section Clips

open Session (Coherent ClipInvariant)

variable {σ κ : Type} [Host σ] [Stage κ] {fact : Session σ κ → Prop} {s : SteppedSession σ κ}

/-- **Closing a session leaves nothing of it**, not even a first cycle. -/
theorem SteppedSession.close_released (h : s.session.FreeUnlessStarted) :
    s.close.2 = { s with session := s.session.close } ∧ s.session.close.Released := by
  have hfree : s.session.close.Free := (Session.free_stop h).closeSection
  refine ⟨?_, Session.close_route s.session, hfree⟩
  show settle { s with session := s.session.close } = _
  unfold settle
  split
  next task htask =>
    rw [show s.session.close.task = none from hfree.1] at htask
    exact absurd htask (by simp)
  · rfl

theorem Session.ClipInvariant.close (h : ClipInvariant fact)
    (hunless : ∀ s, fact s → s.FreeUnlessStarted)
    (hs : fact s.session) : s.close.2.session.Released ∧ fact s.close.2.session := by
  obtain ⟨hclosed, hreleased⟩ := SteppedSession.close_released (hunless _ hs)
  rw [hclosed]
  exact ⟨hreleased, h.perform .close hs⟩

/-- A session that could not be opened or started is closed, -/
theorem closes_notRendered {ρ : Type} (h : ClipInvariant fact)
    (hunless : ∀ s, fact s → s.FreeUnlessStarted)
    (hs : fact s.session) (fault : Fault) :
    (notRendered fault s : Rendered σ κ ρ).Closes fact := by
  intro d hd
  obtain rfl := Option.some.inj hd
  exact h.close hunless hs

/-- and so is one that a clip was streamed into. -/
theorem ClipPlayer.closes_renderOn (p : ClipPlayer) (h : ClipInvariant fact)
    (hunless : ∀ s, fact s → s.FreeUnlessStarted) (hs : fact s.session) (format : Format)
    (tail : Option Duration) (inputAfter : List LogLine → Input) :
    (p.renderOn format tail inputAfter s).Closes fact := by
  intro d hd
  -- The input may depend on what was reported, and ask for cancelling at any moment.
  unfold renderOn at hd
  generalize inputAfter s.session.log = input at hd
  have hoffered : fact (SessionOutlet.mk s input.cancelled input.cancelAt).session.session := hs
  have hstreamed :=
    Clip.stream_lasts (SessionOutlet.invariant h) format p.chunk tail input.events hoffered
  dsimp only at hd
  generalize Clip.stream format p.chunk tail (SessionOutlet.mk s input.cancelled input.cancelAt)
    input.events = streamed at hd hstreamed
  obtain ⟨result, after⟩ := streamed
  have hstopped : fact after.session.stop.2.session := h.drains.call (h.perform .stop hstreamed)
  obtain ⟨hreleased, hfact⟩ := h.close hunless hstopped
  dsimp only at hd hreleased hfact
  generalize after.session.stop.2.close.2 = closed at hd hreleased hfact
  obtain rfl := Option.some.inj hd
  exact ⟨⟨hreleased.route, hreleased.free⟩, h.reported _ hfact⟩

theorem closes_withSession {ρ : Type} (h : ClipInvariant fact)
    (hunless : ∀ s, fact s → s.FreeUnlessStarted) {host : σ} {format : Format}
    {device : Option String} {config : SessionConfig} {gain : Single}
    (hcreate : ∀ s, Session.create host format device config = .ok s → fact (s.setGain gain))
    {body : SteppedSession σ κ → Rendered σ κ ρ}
    (hbody : ∀ s : SteppedSession σ κ, fact s.session → (body s).Closes fact) :
    (withSession host format device config gain body).Closes fact := by
  unfold withSession
  split
  · exact fun d hd => absurd hd (by simp)
  next s hs =>
    have hopened : fact (SteppedSession.mk (s.setGain gain) 0).openRoute.2.session :=
      h.drains.call (h.perform .openRoute (hcreate s hs))
    generalize (SteppedSession.mk (s.setGain gain) 0).openRoute = opened at hopened
    obtain ⟨answer, t⟩ := opened
    cases answer with
    | error fault => exact closes_notRendered h hunless hopened fault
    | ok =>
        have hstarted : fact t.start.2.session := h.drains.call (h.perform .start hopened)
        dsimp only
        generalize t.start = started at hstarted
        obtain ⟨answer, u⟩ := started
        cases answer with
        | error fault => exact closes_notRendered h hunless hstarted fault
        | ok => exact hbody u hstarted

/-- **A player closes its session behind every clip**, and what lasts for the session holds of it
then. -/
theorem ClipPlayer.closes_render (p : ClipPlayer) (h : ClipInvariant fact)
    (hunless : ∀ s, fact s → s.FreeUnlessStarted) {host : σ} {device : Option String} {format : Format}
    (hcreate : ∀ s, Session.create host format device p.config = .ok s → fact (s.setGain p.gain))
    (tail : Option Duration) (inputAfter : List LogLine → Input) :
    (p.render host device tail format inputAfter : Rendered σ κ ClipReport).Closes fact := by
  unfold render
  split
  · exact fun d hd => absurd hd (by simp)
  · exact closes_withSession h hunless hcreate
      fun s hs => p.closes_renderOn h hunless hs format tail inputAfter

/-- Only a clip whose format nobody renders has no session to be closed. -/
theorem ClipPlayer.session_eq_none (p : ClipPlayer) (host : σ) (device : Option String)
    (tail : Option Duration) (format : Format) (inputAfter : List LogLine → Input) :
    (p.render host device tail format inputAfter : Rendered σ κ ClipReport).session = none
      ↔ Clip.maxRate < format.rate ∨ format.isSupported = false := by
  unfold render
  by_cases hfast : Clip.maxRate < format.rate
  · simp [hfast]
  rw [if_neg hfast]
  unfold withSession Session.create
  by_cases hsupported : format.isSupported = true
  · rw [if_pos hsupported]
    dsimp only
    -- However far such a clip comes, its session is handed back.
    refine iff_of_false ?_ (by simp [hfast, hsupported])
    split
    · exact Option.some_ne_none _
    · split <;> exact Option.some_ne_none _
  · rw [if_neg hsupported]
    exact iff_of_true rfl (.inr (Bool.eq_false_iff.mpr hsupported))

/-- What holds of a session that was just created, besides any fact of its own. -/
theorem betweenCalls_created {host : σ} {source : Format} {selected : Option String}
    {config : SessionConfig} {s : Session σ κ}
    (h : Session.create host source selected config = .ok s) (gain : Single) :
    Coherent (s.setGain gain) ∧ (s.setGain gain).BetweenCalls :=
  have hcoherent := Session.coherent_create h
  ⟨Session.coherent_perform hcoherent (.setGain gain),
    Session.betweenCalls_perform hcoherent (Session.betweenCalls_create h) (.setGain gain)⟩

/-- **A clip that is played starts no device beyond its end.** -/
theorem ClipPlayer.play_closes (p : ClipPlayer) (host : DeviceBank) (format : Format)
    (input : Input) : (p.play host format input : Rendered DeviceBank κ ClipReport).Closes
      fun s => host.StartsNone s.host := by
  have hcreate : ∀ s : Session DeviceBank κ,
      Session.create host format p.device p.config = .ok s →
        (s.setGain p.gain).StartsOnlyOwn host.runStates
          ∧ Coherent (s.setGain p.gain) ∧ (s.setGain p.gain).BetweenCalls := by
    intro s hs
    refine ⟨?_, betweenCalls_created hs p.gain⟩
    obtain ⟨_, rfl⟩ := Session.create_ok hs
    exact RunStates.Within.refl host.runStates
  have hclosed := p.closes_render
    (Session.invariant_startsOnlyOwn.clipInvariant.and Session.clipInvariant_betweenCalls)
    (fun _ h => h.2.2.freeUnlessStarted) hcreate (some p.tail) fun _ => input
  exact hclosed.mono fun s hreleased h => h.1.startsNone hreleased.route

/-- **A clip that is checked asks nothing of its machine.** -/
theorem ClipPlayer.check_closes (p : ClipPlayer) (machine : σ) (format : Format)
    (events : List ReadEvent) : (p.check machine format events : Rendered σ κ ClipReport).Closes
      fun s => s.host = machine := by
  have hcreate : ∀ s : Session σ κ, Session.create machine format none p.config = .ok s →
      (s.setGain p.gain).LeavesMachine machine
        ∧ Coherent (s.setGain p.gain) ∧ (s.setGain p.gain).BetweenCalls := by
    intro s hs
    refine ⟨?_, betweenCalls_created hs p.gain⟩
    obtain ⟨_, rfl⟩ := Session.create_ok hs
    exact ⟨rfl, rfl, by simp [Session.setGain]⟩
  have hclosed := p.closes_render
    ((Session.clipInvariant_leavesMachine machine).and Session.clipInvariant_betweenCalls)
    (fun _ h => h.2.2.freeUnlessStarted) hcreate none
    fun _ => { events := events.filter (· != .cancelled) }
  exact hclosed.mono fun _ _ h => h.1.host

end Clips

section Crews

variable {σ κ : Type} [Host σ] [Stage κ]

/-- **A close that comes to its end has left nothing**, whoever else is at work. -/
theorem Crew.released_of_closing {c next : Crew σ κ} {trace events : List Event} (h : c.Sound trace)
    (hclosing : c.errand = .closing .forGood) (hstep : c.step .advance = some (next, events)) :
    next.session.Released ∧ next.AllThreadsOver := by
  have hnext := Crew.sound_step h hstep
  obtain ⟨done, hdone, rfl, _⟩ := Crew.advance_done hstep
  have hmeets := h.kept.meets
  rw [hclosing] at hdone hmeets
  obtain rfl := Option.some.inj hdone
  have hfree : c.session.closeSection.Free := hmeets.2.closeSection
  exact ⟨⟨Session.closeSection_route c.session, hfree⟩, Crew.allThreadsOver_of_free hnext hfree.1⟩

/-- It has left no device running either that did not run before the session. -/
theorem Crew.startsNone_of_closing {host : DeviceBank} {source : Format} {selected : Option String}
    {config : SessionConfig} {s : Session DeviceBank κ}
    (hcreate : Session.create host source selected config = .ok s) {moves : List (Move DeviceBank)}
    (hmoves : ∀ change, .elsewhere change ∈ moves → ∀ b, DeviceBank.StartsNone b (change b))
    {c next : Crew DeviceBank κ} {trace events : List Event}
    (hrun : Crew.run { session := s } moves = some (c, trace))
    (hstep : c.step .advance = some (next, events)) (hclosed : next.session.route = .closed) :
    host.StartsNone next.session.host := by
  have hfresh : s.StartsOnlyOwn host.runStates := by
    obtain ⟨_, rfl⟩ := Session.create_ok hcreate
    exact RunStates.Within.refl host.runStates
  have hbefore :=
    Session.invariant_startsOnlyOwn.runCrew moves (c := { session := s }) hfresh hmoves hrun
  have hnext :=
    Session.invariant_startsOnlyOwn.step hbefore (fun _ hmove => absurd hmove (by simp)) hstep
  exact hnext.startsNone hclosed

end Crews

/-- **A clip releases its device on every path.**  Whatever the format, the reads, the requests to
cancel and the failures of the machine, starting and stopping among them: behind a clip that was
played, with or without success, its session is closed, no drain task of it is known or marked, and no
device runs that did not run before; only where nobody renders its format it had no session at all.  A
clip that is checked leaves its machine as it was, whatever machine it is.  An error is the first
failure that the clip has met, and none of the clean-up.

Both are independent of how the steps of a clip interleave with anything else.  The loop over the
input, on any outlet and with cancelling asked for at any moment, ends with the first failure; and
where drain tasks, producers and calls move at the same time, all is released as soon as the session
is closed, if nothing else on the machine starts a device. -/
theorem ClipPlayer.releases_on_every_path {κ : Type} [Stage κ] (p : ClipPlayer) (format : Format) :
    (∀ (host : DeviceBank) (input : Input),
      ((p.play host format input : Rendered DeviceBank κ ClipReport).session = none
        ↔ Clip.maxRate < format.rate ∨ format.isSupported = false)
      ∧ (p.play host format input : Rendered DeviceBank κ ClipReport).Closes
        (fun s => host.StartsNone s.host)
      ∧ ∀ e, (p.play host format input : Rendered DeviceBank κ ClipReport).result
          = some (.error (.error e)) →
        p.MeetsFirst κ host p.device (some p.tail) format input e)
    ∧ (∀ (σ : Type) [Host σ] (machine : σ) (events : List ReadEvent),
      ((p.check machine format events : Rendered σ κ ClipReport).session = none
        ↔ Clip.maxRate < format.rate ∨ format.isSupported = false)
      ∧ (p.check machine format events : Rendered σ κ ClipReport).Closes (fun s => s.host = machine)
      ∧ ∀ e, (p.check machine format events : Rendered σ κ ClipReport).result
          = some (.error (.error e)) →
        p.MeetsFirst κ machine none none format { events := events.filter (· != .cancelled) } e)
    ∧ (∀ (ω : Type) [Outlet ω] (outlet : ω) (tail : Option Duration) (events : List ReadEvent),
      format.isSupported = true →
        (Clip.stream format p.chunk tail ({ outlet } : Minuted ω) events).1
          = (Clip.stream format p.chunk tail outlet events).1
        ∧ Clip.First events { outlet } ClipReport.cancelled
          (Clip.stream format p.chunk tail ({ outlet } : Minuted ω) events))
    ∧ ∀ (host : DeviceBank) (device : Option String) (s : Session DeviceBank κ),
      Session.create host format device p.config = .ok s →
      ∀ (moves : List (Move DeviceBank)),
        (∀ change, .elsewhere change ∈ moves → ∀ b, DeviceBank.StartsNone b (change b)) →
      ∀ (c next : Crew DeviceBank κ) (trace events : List Event),
        Crew.run { session := s } moves = some (c, trace) → c.errand = .closing .forGood →
        c.step .advance = some (next, events) →
          next.session.Released ∧ next.AllThreadsOver ∧ host.StartsNone next.session.host := by
  refine ⟨fun host input => ⟨?_, p.play_closes host format input, fun e => ?_⟩,
    fun σ _ machine events => ⟨?_, p.check_closes machine format events, fun e => ?_⟩,
    fun ω _ outlet tail events hsupported => ⟨?_, ?_⟩, ?_⟩
  · exact p.session_eq_none host p.device (some p.tail) format fun _ => input
  · exact p.render_first host p.device (some p.tail) format input
  · exact p.session_eq_none machine none none format _
  · exact p.render_first machine none none format _
  · have hview := Clip.stream_sees Minuted.sees format p.chunk tail ({ outlet } : Minuted ω) events
    exact (congrArg Prod.fst hview).symm
  · exact Clip.stream_first (format.align_pos hsupported) p.chunk tail _ events
  · intro host device s hcreate moves hmoves c next trace events hrun hclosing hstep
    have hsound := Crew.sound_run moves (Crew.sound_create hcreate) hrun
    obtain ⟨hreleased, hover⟩ := Crew.released_of_closing hsound hclosing hstep
    exact ⟨hreleased, hover, Crew.startsNone_of_closing hcreate hmoves hrun hstep hreleased.route⟩

/-- A speaker that does not stop. -/
def stubbornSpeaker : DeviceBank where
  devices := [{ id := "speaker", name := "Speaker", bufferFrames := 4, free := 4, faults := [.stop] }]

/-- A player that reads one sample at a time for it, -/
def ClipPlayer.onStubborn : ClipPlayer where
  device := some "speaker"
  chunk := 3

/-- a file of which two samples can be read, -/
def tornFile : List ReadEvent := [.bytes [1, 2], .interrupted, .bytes [3, 4], .failed "disk"]

/-- a session of such a player, -/
def Session.onStubborn : Session DeviceBank (LinearResampler Double Single) where
  host := stubbornSpeaker
  config := {}
  source := Format.pcm 8000 16 1
  selected := some "speaker"
  period := Timing.defaultPeriod

/-- and its life, in which it is closed while a producer is at work and its drain task waits. -/
def closedWhileFed : List (Move DeviceBank) :=
  [.call .openRoute, .advance, .call .start, .advance, .advance, .advance, .drain 0, .drain 0,
    .offer 0 [1, 2], .call .close, .advance, .produce 0 ⟨0, 0⟩, .drain 0, .drain 0, .advance,
    .drain 0, .advance]

/-- That the file is torn is reported, and not that the speaker does not stop; it is released.  Offered
to a closed session, nothing of the file is read behind the first sample. -/
theorem ClipPlayer.releases_on_every_path_tornFile :
    (∃ (done : Rendered DeviceBank (LinearResampler Double Single) ClipReport)
        (s : SteppedSession DeviceBank (LinearResampler Double Single)),
      onStubborn.play stubbornSpeaker (Format.pcm 8000 16 1) { events := tornFile } = done
        ∧ done.result = some (.error (.error (.io "disk"))) ∧ done.session = some s
        ∧ (s.session.log.filter (·.level == .error)).map LogLine.message
          = ["Failed to stop render stream on speaker: Device 'speaker' error: stop fault",
            "Clip playback failed: I/O error: disk"]
        ∧ s.session.host.anyRunning = false
        ∧ s.session.Released ∧ stubbornSpeaker.StartsNone s.session.host)
    ∧ onStubborn.MeetsFirst (LinearResampler Double Single) stubbornSpeaker (some "speaker")
      (some onStubborn.tail) (Format.pcm 8000 16 1) { events := tornFile } (.io "disk")
    ∧ onStubborn.MeetsFirst (LinearResampler Double Single) stubbornSpeaker none none
      (Format.pcm 8000 16 1) { events := tornFile } (.io "disk")
    ∧ (∃ m : Minuted (SessionOutlet DeviceBank (LinearResampler Double Single)),
      Clip.stream (Format.pcm 8000 16 1) 3 none { outlet := { session := ⟨Session.onStubborn, 0⟩ } }
          tornFile = (some (.error (.error .notStarted)), m)
        ∧ m.faults = [.error .notStarted])
    ∧ ∃ (c next : Crew DeviceBank (LinearResampler Double Single)) (trace events : List Event),
      Session.create stubbornSpeaker (Format.pcm 8000 16 1) (some "speaker") {}
          = .ok Session.onStubborn
        ∧ Crew.run { session := Session.onStubborn } closedWhileFed = some (c, trace)
        ∧ c.errand = .closing .forGood ∧ c.step .advance = some (next, events)
        ∧ next.session.Released ∧ next.AllThreadsOver
        ∧ stubbornSpeaker.StartsNone next.session.host := by
  obtain ⟨hplay, hcheck, hstream, hcrew⟩ := releases_on_every_path (κ := LinearResampler Double Single)
    onStubborn (Format.pcm 8000 16 1)
  obtain ⟨_, hcloses, hfirst⟩ := hplay stubbornSpeaker { events := tornFile }
  refine ⟨?_, hfirst _ rfl, (hcheck DeviceBank stubbornSpeaker tornFile).2.2 _ rfl, ?_, ?_⟩
  · obtain ⟨hreleased, hstarts⟩ := hcloses _ rfl
    exact ⟨_, _, rfl, rfl, rfl, by decide +kernel, by decide +kernel, hreleased, hstarts⟩
  · obtain ⟨_, hmet⟩ := hstream (SessionOutlet DeviceBank (LinearResampler Double Single))
      { session := ⟨Session.onStubborn, 0⟩ } none tornFile rfl
    exact ⟨_, rfl, (hmet.failed _ rfl).resolve_right (by simp [tornFile, readFault?])⟩
  · have hreleased := hcrew stubbornSpeaker (some "speaker") Session.onStubborn rfl closedWhileFed
      (by simp [closedWhileFed]) _ _ _ _ rfl rfl rfl
    exact ⟨_, _, _, _, rfl, rfl, rfl, rfl, hreleased⟩

end PcmRender
