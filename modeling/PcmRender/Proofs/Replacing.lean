/-
  PcmRender.Proofs.Replacing — **a switch succeeds as a whole, or leaves nothing open.**

  A switch closes what is open, opens its target and, if the session rendered before, starts it.  Each of
  the three can stop half way: a device is opened and its stage cannot be made, it is ready and its stream
  does not start, its stream runs and there is no thread for its drain task.  What comes of it is one of
  two things all the same:

      answer   phase         route                       drain task         published
      ok       as before     the target, fresh           if it renders      nothing
                                                         on a device
      error    closed        none                        none               nothing

  In between the session passes through moments in which neither holds.  They are left behind because
  closing clears away whatever it finds (`vacant_close`), as long as the session knows of no drain task
  unless it renders, and tells of a stall only on a device.  Every session does so between two calls
  (`BetweenCalls`), also where everyone moves at the same time.

  Main definitions:
    * `BetweenCalls` — what a switch relies on,
    * `Vacant`, `Switched`, `AllOrClosed` — what it comes to.

  Main statements:
    * `vacant_close`, `vacant_restart`, `switched_resume` — the pieces of a switch,
    * `allOrClosed_select` — a switch,
    * `switches_are_all_or_closed` — every life and every interleaving.
-/
import PcmRender.Proofs.Keeping
import PcmRender.Proofs.Stranding

namespace PcmRender

variable {σ κ : Type}

/-! ## §1. Fresh routes. -/

namespace DeviceRoute

variable [Stage κ]

/-- A route that was just built on a device, and perhaps made ready to render: nothing of an earlier
route is in it. -/
structure Fresh (source : Format) (usual : Duration) (id : String) (r : DeviceRoute κ) : Prop where
  device : r.device = id
  fits : r.Fits source
  timing : r.timing = Timing.derive r.endpoint.format r.endpoint.bufferFrames r.endpoint.period usual
  /-- The ring is full of silence. -/
  silent : r.ring.content = List.replicate r.ring.capacity 0
  /-- The stage was just made. -/
  stage : ∃ made, Stage.between κ source r.endpoint.format = .ok made
    ∧ (r.stage = made ∨ r.stage = made.map Stage.reset)
  unmarked : r.onset = none

variable {source : Format} {usual : Duration} {id : String} {r : DeviceRoute κ}

theorem fresh_of_build {endpoint : Endpoint} (hchannels : endpoint.format.channels = source.channels)
    (h : build id source endpoint usual = .ok r) : r.Fresh source usual id := by
  obtain ⟨hdevice, rfl, _, htiming, hring, _, _, honset⟩ := build_ok h
  refine ⟨hdevice, fits_of_build hchannels h, htiming, ?_, ⟨_, between_of_build h, .inl rfl⟩, honset⟩
  rw [hring, Ring.content_silent, Ring.capacity_silent]

/-- It stays fresh when it is made ready to render. -/
theorem fresh_rewound {endpoint : Endpoint} (hchannels : endpoint.format.channels = source.channels)
    (h : build id source endpoint usual = .ok r) : (Session.rewound r).Fresh source usual id := by
  have hfresh := fresh_of_build hchannels h
  have hfull : r.ring.free = 0 := by
    have hlength := congrArg List.length hfresh.silent
    have hsum := r.ring.len_add_free
    rw [Ring.length_content, List.length_replicate] at hlength
    omega
  obtain ⟨_, rfl, _⟩ := build_ok h
  refine ⟨hfresh.device, hfresh.fits.of_continues (Session.continues_rewound r), hfresh.timing, ?_,
    ⟨_, between_of_build h, .inr rfl⟩, hfresh.unmarked⟩
  show r.ring.shiftToTail.content = List.replicate r.ring.shiftToTail.capacity 0
  rw [Ring.content_shiftToTail, Ring.capacity_shiftToTail, hfull]
  exact hfresh.silent

end DeviceRoute

namespace Session

/-! ## §2. What a switch relies on. -/

/-- Observers are told of a stall only on a device. -/
def TellsOfDevice (s : Session σ κ) : Prop := s.published ≠ none → ∃ r, s.route = .device r

/-- What holds between two calls, whatever becomes of them. -/
structure BetweenCalls (s : Session σ κ) : Prop where
  closed_iff : s.phase = .closed ↔ s.route = .closed
  freeUnlessStarted : s.FreeUnlessStarted
  tells : s.TellsOfDevice
  settled : s.switching = false

theorem TellsOfDevice.of_same {s t : Session σ κ} (h : s.TellsOfDevice) (hroute : t.route = s.route)
    (hpublished : t.published = s.published) : t.TellsOfDevice := by
  unfold TellsOfDevice
  rw [hroute, hpublished]
  exact h

theorem tells_clearWatchdog (s : Session σ κ) (r : DeviceRoute κ) :
    (s.clearWatchdog r).TellsOfDevice := fun _ => ⟨r.clear, rfl⟩

theorem tells_feedSection {s : Session σ κ} (h : s.TellsOfDevice) (chunk : List UInt8)
    (now : Instant) : (s.feedSection chunk now).2.TellsOfDevice := by
  unfold feedSection
  split
  · exact h
  split
  · exact h
  split
  · exact h
  · split
    · unfold feedRoute
      dsimp only
      split
      · exact tells_clearWatchdog s _
      · exact fun _ => ⟨_, rfl⟩
    · exact h
  · exact h

section Sections

variable [Host σ]

theorem tells_stopSection {s : Session σ κ} (h : s.TellsOfDevice) : s.stopSection.2.TellsOfDevice := by
  unfold stopSection
  split
  · show s.stopStream.TellsOfDevice
    unfold stopStream
    split
    · split
      · exact tells_clearWatchdog _ _
      · exact tells_clearWatchdog _ _
    · exact h
  · exact h

theorem tells_closeSection {s : Session σ κ} (h : s.TellsOfDevice) : s.closeSection.TellsOfDevice := by
  unfold closeSection
  split
  · exact h
  next hnull =>
    intro hsome
    obtain ⟨r, hr⟩ := h hsome
    rw [hnull] at hr
    exact absurd hr (by simp)
  · exact fun hsome => absurd rfl hsome

variable [Stage κ]

theorem tells_openSection {s : Session σ κ} (h : s.TellsOfDevice) : s.openSection.2.TellsOfDevice := by
  cases hopen : s.openSection with
  | mk answer t =>
      cases answer with
      | error fault =>
          obtain ⟨device, _, _, hfailed⟩ := openRoute_error hopen
          obtain ⟨host, log, rfl⟩ := openDevice_error hfailed
          exact h
      | ok _ =>
          have houtcome := openSection_outcome s
          rw [hopen] at houtcome
          cases houtcome with
          | already => exact h
          | null hclosed _ =>
              intro hsome
              obtain ⟨r, hr⟩ := h hsome
              rw [hclosed] at hr
              exact absurd hr (by simp)
          | device => exact fun hsome => absurd rfl hsome

/-- **A device begins to render** from the start of its ring, or it does not and nothing else has
changed. -/
theorem startDevice_eq (s : Session σ κ) (r : DeviceRoute κ) : ∃ host log,
    s.startDevice r = (.ok (some (s.generation + 1)),
        ({ s.withRoute (rewound r) with host, log } : Session σ κ).beginRendering)
      ∨ ∃ e, s.startDevice r = (.error (.error e), { s.withRoute (rewound r) with host, log }) := by
  unfold startDevice
  dsimp only
  split
  · exact ⟨_, _, .inl rfl⟩
  · exact ⟨_, _, .inl rfl⟩
  · exact ⟨_, _, .inr ⟨_, rfl⟩⟩

theorem tells_startSection {s : Session σ κ} (h : s.TellsOfDevice) :
    s.startSection.2.TellsOfDevice := by
  unfold startSection
  split
  · exact h
  split
  · exact h
  · exact h
  next r _ =>
    obtain ⟨host, log, hbegun | ⟨e, hfailed⟩⟩ := startDevice_eq s r
    · rw [hbegun]
      exact fun _ => ⟨_, rfl⟩
    · rw [hfailed]
      exact fun _ => ⟨_, rfl⟩

omit [Stage κ] in
theorem tells_pause {s : Session σ κ} (h : s.TellsOfDevice) : s.pause.2.TellsOfDevice := by
  unfold pause
  split
  · split <;> exact h
  · exact h

theorem tells_drainTurn {s : Session σ κ} (h : s.TellsOfDevice) (generation : Nat) :
    (s.drainTurn generation).2.TellsOfDevice := by
  unfold drainTurn
  split
  · dsimp only
    split
    · unfold drained
      split <;> exact fun _ => ⟨_, rfl⟩
    · exact fun _ => ⟨_, rfl⟩
  · exact h

/-- **Every section tells of stalls only on a device**, whatever happens on the machine. -/
theorem invariant_tellsOfDevice : Invariant (fun _ => True) (@TellsOfDevice σ κ) where
  silent := fun h hbooks => h.of_same hbooks.route hbooks.published
  elsewhere := fun _ h => h
  stopSection := tells_stopSection
  closeSection := tells_closeSection
  openSection := tells_openSection
  startSection := tells_startSection
  undoStart := fun h => h
  feedSection := fun chunk now h => tells_feedSection h chunk now
  drainTurn := fun generation h => tells_drainTurn h generation
  pause := tells_pause

end Sections

/-! ## §3. Calls that leave a session free unless it renders. -/

section Calls

variable {s : Session σ κ}

/-- What leaves phase and drain task alone does so. -/
theorem FreeUnlessStarted.of_same {t : Session σ κ} (h : s.FreeUnlessStarted)
    (hphase : t.phase = s.phase) (htask : t.task = s.task) (hdraining : t.draining = s.draining) :
    t.FreeUnlessStarted := by
  unfold FreeUnlessStarted Free
  rw [hphase, htask, hdraining]
  exact h

theorem FreeUnlessStarted.drainExited (h : s.FreeUnlessStarted) (generation : Nat) :
    (s.drainExited generation).FreeUnlessStarted := by
  rw [drainExited_eq]
  intro hstopped
  obtain ⟨htask, hmark⟩ := h hstopped
  refine ⟨htask, ?_⟩
  show (if s.draining = some generation then none else s.draining) = none
  rw [hmark, ite_self]

variable [Host σ]

/-- After a stop no drain task is left. -/
theorem free_stop (h : s.FreeUnlessStarted) : s.stop.Free := by
  have hsection := stopSection_outcome s
  unfold stop
  generalize s.stopSection = x at hsection
  cases hsection with
  | idle hstopped => exact h hstopped
  | @stopped t _ _ =>
      obtain ⟨log, hlog⟩ := retireDrain_eq t.endRendering
      dsimp only
      rw [hlog]
      exact ⟨rfl, rfl⟩

theorem Free.closeSection (h : s.Free) : s.closeSection.Free := by
  have hsection := closeSection_outcome s
  generalize s.closeSection = t at hsection
  cases hsection with
  | idle => exact h
  | closed _ hsteady => exact Free.of_steady (s := s.withoutRoute) h hsteady

variable [Stage κ]

/-- A session that is opened has been closed before. -/
theorem freeUnlessStarted_openRoute (h : s.FreeUnlessStarted)
    (hclosed : s.phase = .closed ↔ s.route = .closed) :
    s.openRoute.2.FreeUnlessStarted := by
  have hfree : s.route = .closed → s.Free := fun hroute => h (by rw [hclosed.mpr hroute]; simp)
  show s.openSection.2.FreeUnlessStarted
  have hsection := openSection_outcome s
  generalize s.openSection = x at hsection
  cases hsection with
  | refused _ _ hsteady => exact h.of_steady hsteady
  | already => exact h
  | null hroute _ => exact fun _ => hfree hroute
  | device hroute _ _ _ _ hsteady =>
      have hkept := (hfree hroute).of_steady hsteady
      exact fun _ => hkept

/-- **A start leaves a session with its drain task, or without any.** -/
theorem freeUnlessStarted_start (h : s.FreeUnlessStarted) : s.start.2.FreeUnlessStarted := by
  have hsection := startSection_outcome s
  unfold start
  generalize s.startSection = x at hsection
  cases hsection with
  | already => exact h
  | refused _ _ hsteady => exact h.of_steady hsteady
  | null _ _ hsteady => exact fun hstopped => absurd hsteady.phase hstopped
  | @device t r _ hsteady _ =>
      dsimp only
      split
      · exact fun hstopped => absurd rfl hstopped
      next reason _ =>
        intro _
        obtain ⟨u, hu, heq⟩ := spawnFailed_outcome t.beginRendering.forgetTask (s.generation + 1)
          reason
        have hmark : t.beginRendering.forgetTask.draining = some (s.generation + 1) := by
          rw [← hsteady.generation]
          rfl
        have hgone : u.Free := Free.of_steady ⟨rfl, if_pos hmark⟩ hu
        rw [heq]
        exact hgone

end Calls

/-! ## §4. The pieces of a switch. -/

/-- Nothing is open, and nothing is left of what was. -/
structure Vacant (s : Session σ κ) : Prop where
  phase : s.phase = .closed
  route : s.route = .closed
  free : s.Free
  name : s.deviceName = ""
  published : s.published = none

theorem Vacant.of_steady {s t : Session σ κ} (h : s.Vacant) (k : Steady s t)
    (hpublished : t.published = s.published) : t.Vacant where
  phase := k.phase.trans h.phase
  route := k.route.closed_iff.mpr h.route
  free := h.free.of_steady k
  name := k.deviceName.trans h.name
  published := hpublished.trans h.published

/-- The route of a target that was just opened. -/
inductive FreshRoute [Stage κ] (source : Format) (usual : Duration) : Option String → Route κ → Prop
  | null : FreshRoute source usual none .null
  | device {id : String} {r : DeviceRoute κ} (fresh : r.Fresh source usual id) :
      FreshRoute source usual (some id) (.device r)

/-- A session that was brought to a target, in the phase that it had before. -/
structure Switched [Stage κ] (source : Format) (usual : Duration) (target : Option String)
    (before : Phase) (s : Session σ κ) : Prop where
  phase : s.phase = before
  route : FreshRoute source usual target s.route
  /-- There is a drain task if the session renders on a device. -/
  task : s.task = if before = .started ∧ target.isSome then some { generation := s.generation } else none
  draining : s.draining = s.task.map DrainTask.generation
  published : s.published = none

section Pieces

variable [Host σ] {s : Session σ κ}

/-- A stop leaves a session where it is. -/
theorem continues_stop (s : Session σ κ) : s.route.Continues s.stop.route := by
  have hsection := stopSection_outcome s
  unfold stop
  generalize s.stopSection = x at hsection
  cases hsection with
  | idle => exact Route.Continues.refl _
  | @stopped t _ hsteady =>
      obtain ⟨log, hlog⟩ := retireDrain_eq t.endRendering
      dsimp only
      rw [hlog]
      exact hsteady.route

variable [Stage κ]

/-- **Closing clears away whatever is open.** -/
theorem vacant_close (hopen : s.route ≠ .closed) (hunless : s.FreeUnlessStarted)
    (htells : s.TellsOfDevice) :
    s.close.Vacant := by
  have hfree : s.stop.Free := free_stop hunless
  have hstop : s.stop.TellsOfDevice := invariant_tellsOfDevice.stop htells
  have hstill : s.stop.route ≠ .closed := by
    rw [Ne, (continues_stop s).closed_iff]
    exact hopen
  unfold close
  generalize s.stop = t at hfree hstop hstill
  unfold closeSection
  cases hr : t.route with
  | closed => exact absurd hr hstill
  | null =>
      refine ⟨rfl, rfl, hfree, rfl, ?_⟩
      by_contra hsome
      obtain ⟨r, hdevice⟩ := hstop hsome
      rw [hr] at hdevice
      exact absurd hdevice (by simp)
  | device r => exact ⟨rfl, rfl, hfree, rfl, rfl⟩

omit [Stage κ] in
theorem config_close (s : Session σ κ) : s.close.config = s.config := by
  have hstream : s.stopStream.config = s.config := by
    unfold stopStream
    split
    · split <;> rfl
    · rfl
  have hstop : s.stop.config = s.config := by
    unfold stop stopSection
    by_cases hstarted : s.phase = .started
    · obtain ⟨log, hlog⟩ := retireDrain_eq s.stopStream.endRendering
      rw [if_pos hstarted]
      dsimp only
      rw [hlog]
      exact hstream
    · rw [if_neg hstarted]
  rw [← hstop]
  unfold close closeSection
  split <;> rfl

/-- The session in which a switch opens its target is vacant. -/
theorem vacant_vacated (hopen : s.route ≠ .closed) (hunless : s.FreeUnlessStarted)
    (htells : s.TellsOfDevice)
    (target : Option String) : (s.vacated target).Vacant := by
  have hclose := vacant_close (s := (s.note .info
    s!"Switching render device to {target.getD select.placeholder} (was {s.phase.text})").beginSwitch)
    hopen hunless htells
  exact ⟨hclose.phase, hclose.route, hclose.free, hclose.name, hclose.published⟩

/-- The route of a target as an open makes it. -/
inductive Built (source : Format) (usual : Duration) : Option String → Route κ → Prop
  | null : Built source usual none .null
  | device {id : String} {r : DeviceRoute κ} {endpoint : Endpoint}
      (channels : endpoint.format.channels = source.channels)
      (built : DeviceRoute.build id source endpoint usual = .ok r) :
      Built source usual (some id) (.device r)

omit [Host σ] in
theorem Built.fresh {source : Format} {usual : Duration} {target : Option String} {route : Route κ}
    (h : Built source usual target route) : FreshRoute source usual target route := by
  cases h with
  | null => exact .null
  | device hchannels hbuilt => exact .device (DeviceRoute.fresh_of_build hchannels hbuilt)

omit [Host σ] in
theorem Built.ne_closed {source : Format} {usual : Duration} {target : Option String} {route : Route κ}
    (h : Built source usual target route) : route ≠ .closed := by
  cases h <;> exact nofun

/-- What opening a vacant session comes to. -/
inductive VacantOpenOutcome (v : Session σ κ) : Except Fault Unit × Session σ κ → Prop
  /-- It is as vacant as before. -/
  | refused {t : Session σ κ} (fault : Fault) (vacant : t.Vacant) :
      VacantOpenOutcome v (.error fault, t)
  /-- Its target is open. -/
  | opened {t : Session σ κ} (phase : t.phase = .opened) (free : t.Free)
      (published : t.published = none) (route : Built v.source v.config.period v.selected t.route) :
      VacantOpenOutcome v (.ok (), t)

/-- **Opening a vacant session** opens its target, or nothing. -/
theorem occupied_openRoute (h : s.Vacant) : VacantOpenOutcome s s.openRoute := by
  cases hopen : s.openRoute with
  | mk answer t =>
      have houtcome := openSection_outcome s
      rw [show s.openSection = (answer, t) from hopen] at houtcome
      cases houtcome with
      | refused fault _ hsteady =>
          obtain ⟨device, _, _, hfailed⟩ := openRoute_error hopen
          obtain ⟨host, log, rfl⟩ := openDevice_error hfailed
          exact .refused fault (h.of_steady hsteady rfl)
      | already hopened => exact absurd h.route hopened
      | null _ hselected => exact .opened rfl h.free h.published (hselected ▸ .null)
      | device _ hselected _ hchannels hbuilt hsteady =>
          have hkept := h.free.of_steady hsteady
          exact .opened rfl hkept rfl (hselected ▸ .device hchannels hbuilt)

/-- A start leaves a session where it is. -/
theorem continues_start (s : Session σ κ) : s.route.Continues s.start.2.route := by
  have hsection := startSection_outcome s
  unfold start
  generalize s.startSection = x at hsection
  cases hsection with
  | already => exact Route.Continues.refl _
  | refused _ _ hsteady => exact hsteady.route
  | null _ _ hsteady => exact hsteady.route
  | @device t r _ hsteady _ =>
      dsimp only
      split
      · exact hsteady.route
      next reason _ =>
        obtain ⟨u, hu, heq⟩ := spawnFailed_outcome t.beginRendering.forgetTask (s.generation + 1)
          reason
        rw [heq]
        exact hsteady.route.trans hu.route

/-- **A restart that fails clears away what was opened**, whatever has begun already. -/
theorem vacant_restart (hopen : s.route ≠ .closed) (hunless : s.FreeUnlessStarted)
    (htells : s.TellsOfDevice)
    {fault : Fault} {t : Session σ κ} (h : s.restart = (.error fault, t)) : t.Vacant := by
  have hnever := start_ne_overflow s
  have hstill : s.start.2.route ≠ .closed := by
    rw [Ne, (continues_start s).closed_iff]
    exact hopen
  have hstart := freeUnlessStarted_start hunless
  have htold : s.start.2.TellsOfDevice := invariant_tellsOfDevice.start htells
  unfold restart at h
  generalize s.start = x at hnever hstill hstart htold h
  obtain ⟨answer, u⟩ := x
  cases answer with
  | ok _ => exact absurd (Prod.mk.inj h).1 (by simp)
  | error cause =>
      cases cause with
      | overflow => exact absurd rfl hnever
      | error e =>
          obtain ⟨_, rfl⟩ := Prod.mk.inj h
          exact vacant_close (s := u.note .warn _) hstill hstart htold

/-- What a start of an open session comes to. -/
structure Rendering (s t : Session σ κ) : Prop where
  phase : t.phase = .started
  published : t.published = s.published
  /-- The null sink needs no drain task, -/
  null : s.route = .null → t.route = .null ∧ t.task = s.task ∧ t.draining = s.draining
  /-- and a device has one for a new generation, and begins with the start of its ring. -/
  device : ∀ r, s.route = .device r → t.route = .device (rewound r)
    ∧ t.task = some { generation := t.generation } ∧ t.draining = some t.generation

theorem rendering_start (hopened : s.phase = .opened) {t : Session σ κ} (h : s.start = (.ok (), t)) :
    Rendering s t := by
  unfold start startSection at h
  rw [if_neg (by simp [hopened])] at h
  cases hr : s.route with
  | closed =>
      rw [hr] at h
      exact absurd (Prod.mk.inj h).1 (by simp)
  | null =>
      rw [hr] at h
      obtain ⟨_, rfl⟩ := Prod.mk.inj h
      exact ⟨rfl, rfl, fun _ => ⟨rfl, rfl, rfl⟩, fun r hdevice => absurd hdevice (by simp [hr])⟩
  | device r =>
      rw [hr] at h
      dsimp only at h
      obtain ⟨host, log, hbegun | ⟨e, hfailed⟩⟩ := startDevice_eq s r
      · rw [hbegun] at h
        dsimp only at h
        split at h
        · obtain ⟨_, rfl⟩ := Prod.mk.inj h
          refine ⟨rfl, rfl, fun hnull => absurd hnull (by simp [hr]), fun r' hdevice => ?_⟩
          obtain rfl := Route.device.inj (hr.symm.trans hdevice)
          exact ⟨rfl, rfl, rfl⟩
        · exact absurd (Prod.mk.inj h).1 (by simp)
      · rw [hfailed] at h
        exact absurd (Prod.mk.inj h).1 (by simp)

theorem restart_ok {t : Session σ κ} (h : s.restart = (.ok (), t)) : s.start = (.ok (), t) := by
  unfold restart at h
  split at h
  next u hu =>
    obtain ⟨_, rfl⟩ := Prod.mk.inj h
    exact hu
  · exact absurd (Prod.mk.inj h).1 (by simp)
  · exact absurd (Prod.mk.inj h).1 (by simp)

/-- A target that was opened and has started. -/
theorem switched_start {source : Format} {usual : Duration} {target : Option String}
    (hphase : s.phase = .opened) (hfree : s.Free) (hpublished : s.published = none)
    (hroute : Built source usual target s.route) {t : Session σ κ} (h : s.start = (.ok (), t)) :
    Switched source usual target .started t := by
  obtain ⟨hstarted, hsame, hnull, hdevice⟩ := rendering_start hphase h
  generalize hr : s.route = route at hroute hnull hdevice
  cases hroute with
  | null =>
      obtain ⟨hroute, htask, hdraining⟩ := hnull rfl
      refine ⟨hstarted, by rw [hroute]; exact .null, ?_, ?_, hsame.trans hpublished⟩
      · rw [if_neg (by simp), htask, hfree.1]
      · rw [hdraining, htask, hfree.1, hfree.2]
        rfl
  | @device id r endpoint hchannels hbuilt =>
      obtain ⟨hroute, htask, hdraining⟩ := hdevice r rfl
      refine ⟨hstarted, ?_, ?_, ?_, hsame.trans hpublished⟩
      · rw [hroute]
        exact .device (DeviceRoute.fresh_rewound hchannels hbuilt)
      · rw [if_pos ⟨rfl, rfl⟩, htask]
      · rw [hdraining, htask]
        rfl

/-- **A vacant session is brought to its target**, in the phase that is asked for, or is vacant again. -/
theorem switched_resume (h : s.Vacant) {before : Phase} (hbefore : before ≠ .closed)
    {answer : Except Fault Unit} {t : Session σ κ} (hresume : s.resume before = (answer, t)) :
    (∀ fault, answer = .error fault → t.Vacant)
      ∧ (answer = .ok () → Switched s.source s.config.period s.selected before t) := by
  have hoccupied := occupied_openRoute h
  unfold resume at hresume
  generalize s.openRoute = x at hoccupied hresume
  cases hoccupied with
  | refused fault hvacant =>
      obtain ⟨rfl, rfl⟩ := Prod.mk.inj hresume
      exact ⟨fun _ _ => hvacant, nofun⟩
  | @opened u hphase hfree hpublished hroute =>
      dsimp only at hresume
      split at hresume
      · -- What was opened renders now, or was closed again.
        next hstarted =>
        refine ⟨fun fault hfault => ?_, fun hok => ?_⟩
        · rw [hfault] at hresume
          exact vacant_restart hroute.ne_closed (fun _ => hfree) (fun hsome => absurd hpublished hsome) hresume
        · rw [hok] at hresume
          rw [hstarted]
          exact switched_start hphase hfree hpublished hroute (restart_ok hresume)
      · next hstopped =>
        obtain ⟨rfl, rfl⟩ := Prod.mk.inj hresume
        refine ⟨nofun, fun _ => ⟨?_, hroute.fresh, ?_, ?_, hpublished⟩⟩
        · cases before with
          | closed => exact absurd rfl hbefore
          | opened => exact hphase
          | started => exact absurd rfl hstopped
        · rw [if_neg fun hboth => hstopped hboth.1]
          exact hfree.1
        · rw [hfree.1]
          exact hfree.2

/-! ## §5. A switch. -/

/-- What a switch to a target comes to. -/
structure AllOrClosed (s : Session σ κ) (target : Option String)
    (done : Except Fault Unit × Session σ κ) : Prop where
  /-- The target is selected, -/
  selected : done.2.selected = target
  /-- and no switch is under way any more. -/
  settled : done.2.switching = false
  /-- The null sink is always there. -/
  null : target = none → done.1 = .ok ()
  /-- A closed session is left closed: nothing else changes, but for the log. -/
  closed : s.phase = .closed → done.1 = .ok () ∧ ∃ log, done.2 = { s with selected := target, log }
  /-- An open one has the target as its route, -/
  ok : s.phase ≠ .closed → done.1 = .ok () →
    Switched s.source s.config.period target s.phase done.2
  /-- or nothing is open. -/
  error : ∀ fault, done.1 = .error fault → Vacant done.2

/-- **A switch succeeds as a whole, or leaves nothing open.** -/
theorem allOrClosed_select (h : s.BetweenCalls) (target : Option String) :
    AllOrClosed s target (s.select target) := by
  have hsettled : (s.select target).2.switching = false := by
    rw [select_eq]
    split
    · exact (switching_close _).trans h.settled
    · rfl
  by_cases hclosed : s.phase = .closed
  · have hroute := h.closed_iff.mp hclosed
    have hselect : (s.select target).1 = .ok () := (select_closed hclosed target).1
    refine ⟨selected_select s target, hsettled, fun _ => hselect, fun _ => ⟨hselect, ?_⟩,
      fun hopen => absurd hclosed hopen, fun fault hfault => ?_⟩
    · -- There is nothing to stop and nothing to give back.
      rw [select_eq, if_pos hclosed]
      unfold close stop stopSection closeSection note
      dsimp only
      rw [if_neg (by simp [hclosed]), hroute]
      exact ⟨_, rfl⟩
    · exact absurd (hselect.symm.trans hfault) nofun
  · have hopen : s.route ≠ .closed := fun hroute => hclosed (h.closed_iff.mpr hroute)
    have hvacant := vacant_vacated hopen h.freeUnlessStarted h.tells target
    have hconfig : (s.vacated target).config = s.config := config_close _
    have hsource : (s.vacated target).source = s.source := source_vacated s target
    have hnull : target = none → (s.select target).1 = .ok () := by
      rintro rfl
      exact select_none_ok s
    have hselected := selected_select s target
    cases hresume : (s.vacated target).resume s.phase with
    | mk answer t =>
        obtain ⟨herror, hok⟩ := switched_resume hvacant hclosed hresume
        rw [hconfig, hsource] at hok
        -- The end of the switch wakes producers and takes its mark away, and no more.
        have hselect : s.select target = (answer, t.endSwitch) := by
          rw [select_eq, if_neg hclosed, hresume]
        rw [hselect] at hsettled hnull hselected ⊢
        refine ⟨hselected, hsettled, hnull, fun hphase => absurd hphase hclosed, fun _ hanswer => ?_,
          fun fault hfault => ?_⟩
        · obtain ⟨hphase, hroute, htask, hdraining, hpublished⟩ := hok hanswer
          exact ⟨hphase, hroute, htask, hdraining, hpublished⟩
        · obtain ⟨hphase, hroute, hfree, hname, hpublished⟩ := herror fault hfault
          exact ⟨hphase, hroute, hfree, hname, hpublished⟩

omit [Host σ] in
/-- A switch leaves a session with a drain task where it renders on a device, or without any. -/
theorem AllOrClosed.freeUnlessStarted (hunless : s.FreeUnlessStarted) {target : Option String}
    {done : Except Fault Unit × Session σ κ} (h : AllOrClosed s target done) :
    done.2.FreeUnlessStarted := by
  intro hstopped
  by_cases hclosed : s.phase = .closed
  · obtain ⟨_, log, hsame⟩ := h.closed hclosed
    rw [hsame]
    exact hunless (by simp [hclosed])
  · cases hanswer : done.1 with
    | error fault => exact (h.error fault hanswer).free
    | ok _ =>
        obtain ⟨hphase, _, htask, hdraining, _⟩ := h.ok hclosed hanswer
        rw [if_neg fun hboth => hstopped (hphase.trans hboth.1)] at htask
        exact ⟨htask, by rw [hdraining, htask]; rfl⟩

end Pieces

/-! ## §6. Every session. -/

section Lives

variable [Host σ] [Stage κ] {s : Session σ κ}

omit [Stage κ] in
theorem freeUnlessStarted_close (h : s.FreeUnlessStarted) : s.close.FreeUnlessStarted :=
  fun _ => (free_stop h).closeSection

theorem freeUnlessStarted_drainSection (h : s.FreeUnlessStarted) (generation : Nat) :
    (s.drainSection generation).2.FreeUnlessStarted := by
  have hturn := h.of_steady (steady_drainTurn s generation)
  unfold drainSection
  generalize s.drainTurn generation = x at hturn
  obtain ⟨turn, t⟩ := x
  cases turn with
  | cycled => exact hturn
  | retired => exact hturn.drainExited generation
  | crashed => exact hturn.drainExited generation

omit [Stage κ] in
theorem freeUnlessStarted_drainWait (h : s.FreeUnlessStarted) (generation : Nat) :
    (s.drainWait generation).2.FreeUnlessStarted := by
  have hpause := h.of_steady (steady_pause s)
  unfold drainWait
  generalize s.pause = x at hpause
  obtain ⟨ready, t⟩ := x
  cases ready with
  | true => exact hpause
  | false => exact hpause.drainExited generation

/-- **Every step of a life leaves what holds between two calls.** -/
theorem betweenCalls_perform (hcoherent : Coherent s) (h : s.BetweenCalls) (call : Call σ) :
    (s.perform call).BetweenCalls := by
  have hnext := coherent_perform hcoherent call
  refine ⟨hnext.closed_iff, ?_, invariant_tellsOfDevice.perform h.tells (fun _ _ => trivial),
    hnext.settled⟩
  cases call with
  | openRoute => exact freeUnlessStarted_openRoute h.freeUnlessStarted h.closed_iff
  | start => exact freeUnlessStarted_start h.freeUnlessStarted
  | stop => exact fun _ => free_stop h.freeUnlessStarted
  | close => exact freeUnlessStarted_close h.freeUnlessStarted
  | reopen => exact (allOrClosed_select h s.selected).freeUnlessStarted h.freeUnlessStarted
  | select target => exact (allOrClosed_select h target).freeUnlessStarted h.freeUnlessStarted
  | setFormat format =>
      show (s.setFormat format).2.FreeUnlessStarted
      unfold setFormat
      split
      · exact h.freeUnlessStarted
      · split <;> exact h.freeUnlessStarted
  | setGain gain => exact h.freeUnlessStarted
  | feed chunk now => exact h.freeUnlessStarted.of_steady (steady_feedSection s chunk now)
  | turn generation => exact freeUnlessStarted_drainSection h.freeUnlessStarted generation
  | wait generation => exact freeUnlessStarted_drainWait h.freeUnlessStarted generation
  | elsewhere change => exact h.freeUnlessStarted

omit [Host σ] [Stage κ] in
theorem betweenCalls_create {host : σ} {source : Format} {selected : Option String}
    {config : SessionConfig} (h : create host source selected config = .ok s) : s.BetweenCalls := by
  have hcoherent := coherent_create h
  obtain ⟨_, rfl⟩ := create_ok h
  exact ⟨hcoherent.closed_iff, fun _ => ⟨rfl, rfl⟩, fun hsome => absurd rfl hsome, rfl⟩

theorem betweenCalls_run (calls : List (Call σ)) :
    ∀ {s : Session σ κ}, Coherent s → s.BetweenCalls → (s.run calls).BetweenCalls := by
  induction calls with
  | nil =>
      intro s _ h
      exact h
  | cons call rest ih =>
      intro s hcoherent h
      exact ih (coherent_perform hcoherent call) (betweenCalls_perform hcoherent h call)

end Lives

end Session

/-- Where everyone moves at the same time, it holds while no call is under way. -/
theorem Crew.betweenCalls_idle [Host σ] [Stage κ] {host : σ} {source : Format}
    {selected : Option String} {config : SessionConfig} {s : Session σ κ}
    (hcreate : Session.create host source selected config = .ok s) {moves : List (Move σ)}
    {c : Crew σ κ} {trace : List Event} (hrun : Crew.run { session := s } moves = some (c, trace))
    (hidle : c.errand = .idle) : c.session.BetweenCalls := by
  have hsound := sound_run moves (sound_create hcreate) hrun
  have htells : c.session.TellsOfDevice := Session.invariant_tellsOfDevice.runCrew moves
    (c := { session := s }) (Session.betweenCalls_create hcreate).tells (fun _ _ => trivial) hrun
  obtain ⟨hphaseFits, hmarked, hmeets⟩ := hsound.kept
  rw [hidle] at hmarked hmeets
  exact ⟨hphaseFits.closed_iff, hmeets, htells, hmarked⟩

namespace Session

variable [Host σ] [Stage κ]

/-- **Every switch of every session succeeds as a whole, or leaves nothing open.**  Whatever calls are
made on a session from its creation on, and whatever its drain tasks and the machine do; and also where
calls, drain tasks and producers move at the same time, at any moment at which no call is under way: a
switch to any target leaves this target selected and no switch marked.

A closed session stays as it is otherwise.  An open one is in the phase that it was in before, over a
fresh route to the target and with a drain task exactly if it renders on a device; or, if the device
cannot be opened or started or gets no thread, it holds nothing any more.  Opening the selected device
once more is a switch to it. -/
theorem switches_are_all_or_closed {host : σ} {source : Format} {selected : Option String}
    {config : SessionConfig} {s : Session σ κ}
    (hcreate : Session.create host source selected config = .ok s) :
    (∀ (calls : List (Call σ)),
      (∀ target, AllOrClosed (s.run calls) target ((s.run calls).select target))
      ∧ AllOrClosed (s.run calls) (s.run calls).selected (s.run calls).reopen)
    ∧ ∀ (moves : List (Move σ)) (c : Crew σ κ) (trace : List Event),
      Crew.run { session := s } moves = some (c, trace) → c.errand = .idle →
      (∀ target, AllOrClosed c.session target (c.session.select target))
      ∧ AllOrClosed c.session c.session.selected c.session.reopen := by
  refine ⟨fun calls => ?_, fun moves c trace hrun hidle => ?_⟩
  · have hstanding := betweenCalls_run calls (coherent_create hcreate) (betweenCalls_create hcreate)
    exact ⟨allOrClosed_select hstanding, allOrClosed_select hstanding _⟩
  · have hstanding := Crew.betweenCalls_idle hcreate hrun hidle
    exact ⟨allOrClosed_select hstanding, allOrClosed_select hstanding _⟩

/-- A session on the left device, which is to break at the right one. -/
def leftToBreak : Session DeviceBank (LinearResampler Double Single) where
  host := halfBrokenBank
  config := {}
  source := Format.pcm 8000 16 1
  selected := some "left"
  period := Timing.defaultPeriod

/-- While it renders it is opened once more, and switched to the null sink, and to the right device,
whose stream does not start. -/
theorem switches_are_all_or_closed_leftToBreak :
    create halfBrokenBank (Format.pcm 8000 16 1) (some "left") {} = .ok leftToBreak
      ∧ (leftToBreak.run (brokenSwitch.take 6)).phase = .started
      ∧ Switched (Format.pcm 8000 16 1) Timing.defaultPeriod (some "left") .started
        (leftToBreak.run (brokenSwitch.take 6)).reopen.2
      ∧ (leftToBreak.run (brokenSwitch.take 6)).reopen.2.draining = some 3
      ∧ Switched (Format.pcm 8000 16 1) Timing.defaultPeriod none .started
        ((leftToBreak.run (brokenSwitch.take 6)).select none).2
      ∧ Vacant ((leftToBreak.run (brokenSwitch.take 6)).select (some "right")).2 := by
  have hcreate : create halfBrokenBank (Format.pcm 8000 16 1) (some "left") {} = .ok leftToBreak := rfl
  obtain ⟨hselect, hreopen⟩ := (switches_are_all_or_closed hcreate).1 (brokenSwitch.take 6)
  have hstarted : (leftToBreak.run (brokenSwitch.take 6)).phase = .started := by decide +kernel
  have hleft : (leftToBreak.run (brokenSwitch.take 6)).reopen.1 = .ok () := rfl
  have hnull : ((leftToBreak.run (brokenSwitch.take 6)).select none).1 = .ok () := rfl
  have hopen : (leftToBreak.run (brokenSwitch.take 6)).phase ≠ .closed := by rw [hstarted]; simp
  have hreopened := hreopen.ok hopen hleft
  have hnulled := (hselect none).ok hopen hnull
  rw [hstarted] at hreopened hnulled
  exact ⟨hcreate, hstarted, hreopened, rfl, hnulled, (hselect (some "right")).error _ rfl⟩

end Session

end PcmRender
