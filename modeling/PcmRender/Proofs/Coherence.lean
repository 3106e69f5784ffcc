/-
  PcmRender.Proofs.Coherence — **the parts of a session always agree.**

  A session keeps one and the same fact in several places: how far it has come, its route, what is
  selected, the mark of its drain task, the name that it shows.  `Session.Linked` says how these
  hang together, and `Session.Coherent` adds that no switch is under way:

      closed phase    exactly without a route
      null sink       nothing is selected
      device route    on the selected device, fitting the format that producers feed
      drain task      only of the generation that renders, and only on a device
      shown name      empty without a device

  Steady sections keep all of it because they keep each part.  The sections of the lifecycle are
  taken one by one from what they can come to; a call passes through moments in which the parts do
  not agree (a stop leaves the mark of its drain task until that task has retired), so the calls are
  what is shown to be safe, and not each of their sections.
-/
import PcmRender.DeviceBank
import PcmRender.Proofs.Sections
import PcmRender.Stage.Linear

namespace PcmRender.Session

variable {σ κ : Type}

/-! ## §1. How the parts hang together. -/

/-- The parts of a session agree. -/
structure Linked (s : Session σ κ) : Prop where
  /-- What producers feed can be decoded. -/
  supported : s.source.isSupported = true
  /-- The session is closed exactly when it has no route. -/
  closed_iff : s.phase = .closed ↔ s.route = .closed
  /-- On the null sink nothing is selected. -/
  null : s.route = .null → s.selected = none
  /-- A device route is on the selected device, -/
  device : ∀ r, s.route = .device r → s.selected = some r.device
  /-- and fits what producers feed. -/
  fits : ∀ r, s.route = .device r → r.Fits s.source
  /-- A drain task that has not retired serves the generation that renders, on a device. -/
  draining : ∀ g, s.draining = some g →
    g = s.generation ∧ s.phase = .started ∧ ∃ r, s.route = .device r
  /-- Without a device no name is shown. -/
  name : (∀ r, s.route ≠ .device r) → s.deviceName = ""

/-- The parts of a session agree, and nothing is being replaced. -/
structure Coherent (s : Session σ κ) : Prop extends Linked s where
  /-- No switch is under way. -/
  settled : s.switching = false

/-- **Steady sections keep the parts together.** -/
theorem Linked.of_steady {s t : Session σ κ} (h : Linked s) (k : Steady s t) : Linked t where
  supported := by rw [k.source]; exact h.supported
  closed_iff := by rw [k.phase, h.closed_iff, k.route.closed_iff]
  null := fun ht => by rw [k.selected]; exact h.null (k.route.null_iff.mp ht)
  device := fun later ht => by
    obtain ⟨r, hr, hcont⟩ := (ht ▸ k.route).of_device
    rw [k.selected, h.device r hr, hcont.device]
  fits := fun later ht => by
    obtain ⟨r, hr, hcont⟩ := (ht ▸ k.route).of_device
    rw [k.source]
    exact (h.fits r hr).of_continues hcont
  draining := fun g hg => by
    rw [k.draining] at hg
    obtain ⟨hgen, hphase, r, hr⟩ := h.draining g hg
    obtain ⟨later, hlater, _⟩ := (hr ▸ k.route).device_of
    exact ⟨by rw [k.generation]; exact hgen, by rw [k.phase]; exact hphase, later, hlater⟩
  name := fun ht => by
    rw [k.deviceName]
    refine h.name (fun r hr => ?_)
    obtain ⟨later, hlater, _⟩ := (hr ▸ k.route).device_of
    exact ht later hlater

/-- **A steady section leaves a coherent session coherent.** -/
theorem Coherent.of_steady {s t : Session σ κ} (h : Coherent s) (k : Steady s t) : Coherent t :=
  ⟨h.toLinked.of_steady k, k.switching.trans h.settled⟩

/-- Without a route no drain task is left. -/
theorem Linked.draining_of_closed {s : Session σ κ} (h : Linked s) (hclosed : s.route = .closed) :
    s.draining = none := by
  cases hd : s.draining with
  | none => rfl
  | some g =>
      obtain ⟨_, _, r, hr⟩ := h.draining g hd
      rw [hclosed] at hr
      exact absurd hr (by simp)

/-- Nor is one left in a session that does not render. -/
theorem Linked.draining_of_stopped {s : Session σ κ} (h : Linked s) (hstopped : s.phase ≠ .started) :
    s.draining = none := by
  cases hd : s.draining with
  | none => rfl
  | some g => exact absurd (h.draining g hd).2.1 hstopped

/-- Without a route the name shown is empty, and so it stays whatever is selected then. -/
theorem Linked.selecting {s : Session σ κ} (h : Linked s) (hclosed : s.route = .closed)
    (target : Option String) : Linked { s with selected := target } where
  supported := h.supported
  closed_iff := h.closed_iff
  null := fun hr => by rw [show s.route = .null from hr] at hclosed; exact absurd hclosed (by simp)
  device := fun r hr => by
    rw [show s.route = .device r from hr] at hclosed
    exact absurd hclosed (by simp)
  fits := h.fits
  draining := h.draining
  name := h.name

/-- A session whose route has stopped to render, and whose drain task is gone. -/
theorem Linked.halting {s t : Session σ κ} (h : Linked s) (hopen : s.route ≠ .closed)
    (hsource : t.source = s.source) (hselected : t.selected = s.selected)
    (hroute : t.route = s.route) (hname : t.deviceName = s.deviceName)
    (hphase : t.phase = .opened) (hdraining : t.draining = none) : Linked t where
  supported := by rw [hsource]; exact h.supported
  closed_iff := by simp [hphase, hroute, hopen]
  null := by rw [hroute, hselected]; exact h.null
  device := by rw [hroute, hselected]; exact h.device
  fits := by rw [hroute, hsource]; exact h.fits
  draining := fun g hg => by rw [hdraining] at hg; exact absurd hg (by simp)
  name := by rw [hroute, hname]; exact h.name

/-- What lifecycle calls remember of a drain task is not linked to anything. -/
theorem Linked.withTask {s : Session σ κ} (h : Linked s) (task : Option DrainTask) :
    Linked { s with task } :=
  ⟨h.supported, h.closed_iff, h.null, h.device, h.fits, h.draining, h.name⟩

theorem Linked.withSwitching {s : Session σ κ} (h : Linked s) (switching : Bool) :
    Linked { s with switching } :=
  ⟨h.supported, h.closed_iff, h.null, h.device, h.fits, h.draining, h.name⟩

/-- A drain task may retire at any time. -/
theorem Linked.drainExited {s : Session σ κ} (h : Linked s) (generation : Nat) :
    Linked (s.drainExited generation) := by
  rw [drainExited_eq]
  refine ⟨h.supported, h.closed_iff, h.null, h.device, h.fits, fun g hg => ?_, h.name⟩
  by_cases hmark : s.draining = some generation
  · exact absurd hg (by simp [hmark])
  · exact h.draining g (by simpa [hmark] using hg)

/-! ## §2. Creation, settings and waiting drain tasks. -/

theorem coherent_create {host : σ} {source : Format} {selected : Option String}
    {config : SessionConfig} {s : Session σ κ} (h : create host source selected config = .ok s) :
    Coherent s := by
  obtain ⟨hsupported, rfl⟩ := create_ok h
  exact
    { supported := hsupported
      closed_iff := ⟨fun _ => rfl, fun _ => rfl⟩
      null := fun hr => absurd hr (by simp)
      device := fun r hr => absurd hr (by simp)
      fits := fun r hr => absurd hr (by simp)
      draining := fun g hg => absurd hg (by simp)
      name := fun _ => rfl
      settled := rfl }

/-- The format changes only where no route depends on it. -/
theorem coherent_setFormat {s : Session σ κ} (h : Coherent s) (format : Format) :
    Coherent (s.setFormat format).2 := by
  unfold setFormat
  by_cases hphase : s.phase = .closed
  · have hclosed := h.closed_iff.mp hphase
    rw [if_neg (by simp [hphase])]
    by_cases hs : format.isSupported = true
    · rw [if_pos hs]
      exact
        { supported := hs
          closed_iff := h.closed_iff
          null := h.null
          device := h.device
          fits := fun r hr => by
            rw [show s.route = .device r from hr] at hclosed
            exact absurd hclosed (by simp)
          draining := h.draining
          name := h.name
          settled := h.settled }
    · rw [if_neg hs]
      exact h
  · rw [if_pos hphase]
    exact h

theorem Coherent.drainExited {s : Session σ κ} (h : Coherent s) (generation : Nat) :
    Coherent (s.drainExited generation) :=
  ⟨h.toLinked.drainExited generation, by
    rw [drainExited_eq]
    exact h.settled⟩

/-- A device that renders in a new generation, whose drain task is expected. -/
theorem Linked.beginRendering {s : Session σ κ} (h : Linked s) {r : DeviceRoute κ}
    (hr : s.route = .device r) : Linked s.beginRendering where
  supported := h.supported
  closed_iff := by simp [Session.beginRendering, hr]
  null := h.null
  device := h.device
  fits := h.fits
  draining := fun g hg => ⟨(Option.some.inj hg).symm, rfl, r, hr⟩
  name := h.name

/-- The null sink opened without a selection. -/
theorem Linked.openNull {s : Session σ κ} (h : Linked s) (hclosed : s.route = .closed)
    (hselected : s.selected = none) : Linked s.openNull := by
  refine Linked.of_steady (s := { s with route := .null, deviceName := "", phase := .opened })
    ?_ (steady_note _ _ _)
  have hgone := h.draining_of_closed hclosed
  exact
    { supported := h.supported
      closed_iff := by simp
      null := fun _ => hselected
      device := fun r hr => absurd hr (by simp)
      fits := fun r hr => absurd hr (by simp)
      draining := fun g hg => by
        rw [show s.draining = some g from hg] at hgone
        exact absurd hgone (by simp)
      name := fun _ => rfl }

variable [Host σ]

theorem coherent_drainWait {s : Session σ κ} (h : Coherent s) (generation : Nat) :
    Coherent (s.drainWait generation).2 := by
  have hpause := h.of_steady (steady_pause s)
  unfold drainWait
  split
  next t hp =>
    rw [hp] at hpause
    exact hpause
  next t hp =>
    rw [hp] at hpause
    exact hpause.drainExited generation

/-! ## §3. Stop and close. -/

/-- **A stop leaves the parts linked**: its drain task has retired when it returns. -/
theorem Linked.stop {s : Session σ κ} (h : Linked s) : Linked s.stop := by
  unfold Session.stop
  have hsection := stopSection_outcome s
  generalize s.stopSection = x at hsection
  cases hsection with
  | idle => exact h
  | @stopped t hstarted hsteady =>
      have ht := h.of_steady hsteady
      -- What was started has a route, so that it can be open now.
      have hopen : t.route ≠ .closed := fun hr => by
        have hphase := ht.closed_iff.mpr hr
        rw [hsteady.phase, hstarted] at hphase
        exact absurd hphase (by simp)
      show Linked t.endRendering.retireDrain
      obtain ⟨log, hlog⟩ := retireDrain_eq t.endRendering
      rw [hlog]
      exact ht.halting hopen rfl rfl rfl rfl rfl rfl

/-- A stopped session does not render, and a stop moves neither its selection nor its switch. -/
theorem stop_frame (s : Session σ κ) :
    s.stop.phase ≠ .started ∧ s.stop.switching = s.switching := by
  unfold Session.stop
  have hsection := stopSection_outcome s
  generalize s.stopSection = x at hsection
  cases hsection with
  | idle hstopped => exact ⟨hstopped, rfl⟩
  | @stopped t _ hsteady =>
      obtain ⟨log, hlog⟩ := retireDrain_eq t.endRendering
      dsimp only
      rw [hlog]
      exact ⟨by simp [endRendering], hsteady.switching⟩

/-- Giving the route back keeps the parts linked where nothing renders. -/
theorem Linked.closeSection {s : Session σ κ} (h : Linked s) (hstopped : s.phase ≠ .started) :
    Linked s.closeSection := by
  have hsection := closeSection_outcome s
  generalize s.closeSection = t at hsection
  cases hsection with
  | idle => exact h
  | closed _ hsteady =>
      refine Linked.of_steady ?_ hsteady
      exact
        { supported := h.supported
          closed_iff := ⟨fun _ => rfl, fun _ => rfl⟩
          null := fun hr => absurd hr (by simp [withoutRoute])
          device := fun r hr => absurd hr (by simp [withoutRoute])
          fits := fun r hr => absurd hr (by simp [withoutRoute])
          draining := fun g hg => by
            rw [show s.withoutRoute.draining = s.draining from rfl,
              h.draining_of_stopped hstopped] at hg
            exact absurd hg (by simp)
          name := fun _ => rfl }

theorem switching_closeSection (s : Session σ κ) : s.closeSection.switching = s.switching := by
  have hsection := closeSection_outcome s
  generalize s.closeSection = t at hsection
  cases hsection with
  | idle => rfl
  | closed _ hsteady => exact hsteady.switching

theorem Linked.close {s : Session σ κ} (h : Linked s) : Linked s.close :=
  h.stop.closeSection (stop_frame s).1

theorem switching_close (s : Session σ κ) : s.close.switching = s.switching :=
  (switching_closeSection s.stop).trans (stop_frame s).2

theorem close_route (s : Session σ κ) : s.close.route = .closed := closeSection_route s.stop

/-! ## §4. Open and start. -/

/-- A route that was built for the selected device is taken. -/
theorem Linked.adopt {s : Session σ κ} (h : Linked s) (hclosed : s.draining = none)
    {r : DeviceRoute κ} (hselected : s.selected = some r.device) (hfits : r.Fits s.source) :
    Linked (s.adopt r) := by
  refine Linked.of_steady ?_ (steady_note _ _ _)
  exact
    { supported := h.supported
      closed_iff := by simp
      null := fun hr => absurd hr (by simp)
      device := fun r' hr => by
        injection hr with hr
        rw [← hr]
        exact hselected
      fits := fun r' hr => by
        injection hr with hr
        rw [← hr]
        exact hfits
      draining := fun g hg => by
        rw [show s.draining = some g from hg] at hclosed
        exact absurd hclosed (by simp)
      name := fun hr => absurd rfl (hr r) }

/-- A start that gets no thread takes the mark of its drain task away, and renders no more. -/
theorem Linked.spawnFailed {s : Session σ κ} (h : Linked s) (hopen : s.route ≠ .closed)
    {generation : Nat} (hmark : s.draining = some generation) (reason : String) :
    Linked (s.spawnFailedSection generation reason) := by
  have hgone : Linked (s.drainExited generation) := h.drainExited generation
  rw [drainExited_eq] at hgone
  obtain ⟨t, hsteady, ht⟩ := spawnFailed_outcome s generation reason
  rw [ht]
  refine (hgone.of_steady hsteady).halting ?_ rfl rfl rfl rfl rfl ?_
  · rw [Ne, hsteady.route.closed_iff]
    exact hopen
  · show t.draining = none
    rw [hsteady.draining]
    exact if_pos hmark

variable [Stage κ]

/-- **Opening keeps the parts linked**, whether the device comes up or not. -/
theorem Linked.openRoute {s : Session σ κ} (h : Linked s) : Linked s.openRoute.2 := by
  show Linked s.openSection.2
  have hsection := openSection_outcome s
  generalize s.openSection = x at hsection
  cases hsection with
  | refused _ _ hsteady => exact h.of_steady hsteady
  | already => exact h
  | null hclosed hselected => exact h.openNull hclosed hselected
  | @device t device endpoint r hclosed hselected _ hchannels hbuilt hsteady =>
      have hfits : r.Fits s.source := DeviceRoute.fits_of_build hchannels hbuilt
      have hdevice : r.device = device := (DeviceRoute.build_ok hbuilt).1
      refine (h.of_steady hsteady).adopt ?_ ?_ ?_
      · rw [hsteady.draining]
        exact h.draining_of_closed hclosed
      · rw [hsteady.selected, hselected, hdevice]
      · rw [hsteady.source]
        exact hfits

theorem switching_openRoute (s : Session σ κ) : s.openRoute.2.switching = s.switching := by
  show s.openSection.2.switching = _
  have hsection := openSection_outcome s
  generalize s.openSection = x at hsection
  cases hsection with
  | refused _ _ hsteady => exact hsteady.switching
  | already => rfl
  | null => rfl
  | device _ _ _ _ _ hsteady => exact hsteady.switching

/-- **Starting keeps the parts linked**, whether the device runs or not and whether its drain task
gets a thread or not. -/
theorem Linked.start {s : Session σ κ} (h : Linked s) : Linked s.start.2 := by
  unfold Session.start
  have hsection := startSection_outcome s
  generalize s.startSection = x at hsection
  cases hsection with
  | already => exact h
  | refused _ _ hsteady => exact h.of_steady hsteady
  | null _ hnull hsteady =>
      refine Linked.of_steady ?_ hsteady
      exact
        { supported := h.supported
          closed_iff := by simp [hnull]
          null := h.null
          device := h.device
          fits := h.fits
          draining := fun g hg => by
            obtain ⟨_, _, r, hr⟩ := h.draining g hg
            rw [hnull] at hr
            exact absurd hr (by simp)
          name := h.name }
  | @device t r _ hsteady hr =>
      -- The mark of the new drain task is set before its thread is asked for.
      have hbegun := ((h.of_steady hsteady).beginRendering hr).withTask none
      have hmark : t.beginRendering.draining = some (s.generation + 1) := by
        rw [← hsteady.generation]
        rfl
      have hopen : t.beginRendering.route ≠ .closed := by
        rw [show t.beginRendering.route = t.route from rfl, hr]
        simp
      dsimp only
      split
      · exact (hbegun.withTask _).of_steady (steady_note _ _ _)
      · exact hbegun.spawnFailed hopen hmark _

theorem switching_start (s : Session σ κ) : s.start.2.switching = s.switching := by
  unfold Session.start
  have hsection := startSection_outcome s
  generalize s.startSection = x at hsection
  cases hsection with
  | already => rfl
  | refused _ _ hsteady => exact hsteady.switching
  | null _ _ hsteady => exact hsteady.switching
  | @device t r _ hsteady hr =>
      dsimp only
      split
      · exact hsteady.switching
      next reason _ =>
        obtain ⟨u, hu, heq⟩ := spawnFailed_outcome t.beginRendering.forgetTask (s.generation + 1)
          reason
        rw [heq]
        exact hu.switching.trans hsteady.switching

/-! ## §5. Switch. -/

theorem Linked.restart {s : Session σ κ} (h : Linked s) : Linked s.restart.2 := by
  have hstart := h.start
  unfold Session.restart
  split
  next t ht =>
    rw [ht] at hstart
    exact hstart
  next e t ht =>
    rw [ht] at hstart
    exact (hstart.of_steady (steady_note _ _ _)).close
  next t ht =>
    rw [ht] at hstart
    exact hstart

theorem Linked.resume {s : Session σ κ} (h : Linked s) (before : Phase) :
    Linked (s.resume before).2 := by
  have hopen := h.openRoute
  unfold Session.resume
  split
  next e t ht =>
    rw [ht] at hopen
    exact hopen
  next t ht =>
    rw [ht] at hopen
    split
    · exact hopen.restart
    · exact hopen

/-- **A switch leaves the session coherent**, whether its target comes up or not. -/
theorem coherent_select {s : Session σ κ} (h : Coherent s) (target : Option String) :
    Coherent (s.select target).2 := by
  have hnote := h.of_steady (steady_note s .info
    s!"Switching render device to {target.getD select.placeholder} (was {s.phase.text})")
  unfold Session.select
  dsimp only
  split
  · exact ⟨hnote.toLinked.close.selecting (close_route _) target,
      (switching_close _).trans hnote.settled⟩
  · -- While the mark is set the session is linked and not coherent; the end takes the mark away.
    have hmarked := (hnote.toLinked.withSwitching true).close.selecting (close_route _) target
    have hresumed := hmarked.resume s.phase
    unfold replaceRoute
    dsimp only
    exact ⟨hresumed.withSwitching false |>.of_steady
      ⟨rfl, rfl, rfl, rfl, rfl, rfl, rfl, rfl, Route.Continues.refl _⟩, rfl⟩

/-! ## §6. Every life of a session. -/

theorem coherent_drainSection {s : Session σ κ} (h : Coherent s) (generation : Nat) :
    Coherent (s.drainSection generation).2 := by
  have hturn := h.of_steady (steady_drainTurn s generation)
  unfold drainSection
  split
  next t hp =>
    rw [hp] at hturn
    exact hturn
  next turn t _ hp =>
    rw [hp] at hturn
    exact hturn.drainExited generation

/-- **Every step of a life leaves the session coherent.** -/
theorem coherent_perform {s : Session σ κ} (h : Coherent s) (call : Call σ) :
    Coherent (s.perform call) := by
  cases call with
  | openRoute => exact ⟨h.toLinked.openRoute, (switching_openRoute s).trans h.settled⟩
  | start => exact ⟨h.toLinked.start, (switching_start s).trans h.settled⟩
  | stop => exact ⟨h.toLinked.stop, (stop_frame s).2.trans h.settled⟩
  | close => exact ⟨h.toLinked.close, (switching_close s).trans h.settled⟩
  | reopen => exact coherent_select h s.selected
  | select target => exact coherent_select h target
  | setFormat format => exact coherent_setFormat h format
  | setGain gain => exact h.of_steady (steady_setGain s gain)
  | feed chunk now => exact h.of_steady (steady_feedSection s chunk now)
  | turn generation => exact coherent_drainSection h generation
  | wait generation => exact coherent_drainWait h generation
  | elsewhere change => exact h.of_steady (steady_host s (change s.host))

theorem coherent_run (calls : List (Call σ)) :
    ∀ {s : Session σ κ}, Coherent s → Coherent (s.run calls) := by
  induction calls with
  | nil =>
      intro s h
      exact h
  | cons call rest ih =>
      intro s h
      exact ih (coherent_perform h call)

/-- **The parts of a session agree for all its life**: whatever calls are made on a session from
its creation on, whatever its drain tasks do between them and whatever the machine answers. -/
theorem created_run_coherent {host : σ} {source : Format} {selected : Option String}
    {config : SessionConfig} {s : Session σ κ} (h : create host source selected config = .ok s)
    (calls : List (Call σ)) : Coherent (s.run calls) :=
  coherent_run calls (coherent_create h)

/-- Two devices, the second of which cannot be started. -/
def halfBrokenBank : DeviceBank where
  devices := [{ id := "left", name := "Left", bufferFrames := 8 },
    { id := "right", name := "Right", bufferFrames := 4, faults := [.start] }]

/-- A life in which the session renders on the left device, is fed, and then has to be closed
because the right one does not start. -/
def brokenSwitch : List (Call DeviceBank) :=
  [.openRoute, .start, .turn 1, .elsewhere (·.setFree "left" 3), .turn 1, .feed [1, 2, 3, 4] ⟨0, 0⟩,
    .select (some "right"), .start]

/-- The session that lives through a broken switch stays coherent, closed with the right device
selected. -/
theorem created_run_coherent_brokenSwitch :
    ∃ s : Session DeviceBank (LinearResampler Double Single),
      create halfBrokenBank (Format.pcm 8000 16 1) (some "left") {} = .ok s
        ∧ Coherent (s.run brokenSwitch)
        ∧ (s.run (brokenSwitch.take 6)).phase = .started ∧ (s.run brokenSwitch).phase = .closed :=
  ⟨_, rfl,
    created_run_coherent
      (show create halfBrokenBank (Format.pcm 8000 16 1) (some "left") {} = _ from rfl) brokenSwitch,
    by decide +kernel, by decide +kernel⟩

end PcmRender.Session
