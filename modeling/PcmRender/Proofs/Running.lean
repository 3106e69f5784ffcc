/-
  PcmRender.Proofs.Running — **the device that runs is the one that the session renders on.**

  A bank on which one session works is in one of two states: no device runs, or none but the one that
  the session renders on.  `Session.RunsItsDevice` says that it is in the state that belongs to the
  session:

      closed, open, null sink    no device runs
      started on a device        this device runs, and no other

  Every gate section keeps it, because it moves the device and the phase together.  So it holds also
  between the sections of a switch, where the old device is stopped before the new one is asked for,
  and between a start and the thread that it does not get.

  Main statements:
    * `runsItsDevice_stopSection`, `runsItsDevice_startSection`, … — one section,
    * `invariant_runsItsDevice` — so every call, and every move of anyone,
    * `exactly_the_started_runs` — every life and every interleaving.
-/
import PcmRender.Proofs.Keeping
import PcmRender.Proofs.RunStates
import PcmRender.Proofs.Selection

namespace PcmRender

variable {κ : Type}

/-! ## §1. Cycles. -/

namespace DeviceRoute

open DeviceBank (KeepsRunStates)

theorem keepsRunStates_deliverPlain (b : DeviceBank) (r : DeviceRoute κ) (staged : List UInt8) :
    b.KeepsRunStates (deliverPlain b r staged).host := by
  have hwrite := b.keepsRunStates_write r.endpoint staged
  unfold deliverPlain
  split
  next host hasked =>
    rw [hasked] at hwrite
    exact hwrite
  next host hasked =>
    rw [hasked] at hwrite
    exact hwrite
  next taken host hasked =>
    rw [hasked] at hwrite
    exact hwrite

variable [Stage κ]

theorem keepsRunStates_deliverConverted (b : DeviceBank) (r : DeviceRoute κ) (stage : κ)
    (staged : List UInt8) : b.KeepsRunStates (deliverConverted b r stage staged).host := by
  unfold deliverConverted
  split
  · exact KeepsRunStates.refl b
  next conversion _ =>
    have hwrite := b.keepsRunStates_write r.endpoint conversion.output
    dsimp only
    split
    · split
      next host hasked =>
        rw [hasked] at hwrite
        exact hwrite
      next answer host _ hasked =>
        rw [hasked] at hwrite
        exact hwrite
    · exact KeepsRunStates.refl b

/-- **A cycle starts no device and stops none.** -/
theorem keepsRunStates_cycle (b : DeviceBank) (r : DeviceRoute κ) (gain : Single) :
    b.KeepsRunStates (r.cycle b gain).host := by
  have hfree := b.keepsRunStates_freeFrames r.endpoint
  have houtcome := cycle_outcome b r gain
  generalize r.cycle b gain = done at houtcome
  cases houtcome with
  | idle hroom =>
      rw [hroom] at hfree
      exact hfree
  | unscaled hasks =>
      rw [hasks.room] at hfree
      exact hfree
  | plain hasks =>
      rw [hasks.room] at hfree
      exact hfree.trans (keepsRunStates_deliverPlain _ _ _)
  | converted hasks =>
      rw [hasks.room] at hfree
      exact hfree.trans (keepsRunStates_deliverConverted _ _ _ _)

end DeviceRoute

namespace Session

/-! ## §2. What runs for a session. -/

section Rendering

variable {σ : Type} {s t : Session σ κ}

/-- The device that a session renders on, if it renders on one. -/
def rendering? (s : Session σ κ) : Option String :=
  if s.phase = .started then s.deviceRoute?.map DeviceRoute.device else none

theorem rendering?_stopped (h : s.phase ≠ .started) : s.rendering? = none := if_neg h

theorem rendering?_nowhere (h : ∀ r, s.route ≠ .device r) : s.rendering? = none := by
  unfold rendering? deviceRoute?
  cases hr : s.route with
  | closed => exact ite_self none
  | null => exact ite_self none
  | device r => exact absurd hr (h r)

theorem rendering?_device {r : DeviceRoute κ} (hr : s.route = .device r) :
    s.rendering? = none ∨ s.rendering? = some r.device := by
  unfold rendering? deviceRoute?
  rw [hr]
  by_cases hstarted : s.phase = .started
  · exact .inr (if_pos hstarted)
  · exact .inl (if_neg hstarted)

theorem rendering?_eq_some {id : String} :
    s.rendering? = some id ↔ s.phase = .started ∧ ∃ r, s.route = .device r ∧ r.device = id := by
  unfold rendering? deviceRoute?
  by_cases hstarted : s.phase = .started
  · rw [if_pos hstarted]
    cases s.route <;> simp [hstarted]
  · rw [if_neg hstarted]
    simp [hstarted]

theorem rendering?_congr (hroute : t.route = s.route) (hphase : t.phase = s.phase) :
    t.rendering? = s.rendering? := by
  unfold rendering? deviceRoute?
  rw [hroute, hphase]

/-- A steady section leaves a session on its device. -/
theorem Steady.rendering? (h : Steady s t) : t.rendering? = s.rendering? := by
  unfold Session.rendering? deviceRoute?
  rw [h.phase]
  cases hr : s.route with
  | closed => rw [h.route.closed_iff.mpr hr]
  | null => rw [h.route.null_iff.mpr hr]
  | device r =>
      obtain ⟨later, hlater, hcont⟩ := (hr ▸ h.route).device_of
      rw [hlater]
      simp only [Option.map_some, hcont.device]

end Rendering

/-- Exactly the device that the session renders on runs. -/
structure RunsItsDevice (s : Session DeviceBank κ) : Prop where
  /-- Starting and stopping work. -/
  startsAndStops : s.host.StartsAndStops
  /-- No device runs but the one that the session renders on, -/
  runStates : s.host.runStates = s.host.runStates.onlyRunning s.rendering?
  /-- and this device is there. -/
  found : ∀ id, s.rendering? = some id → (s.host.find? id).isSome = true
  /-- What the session calls its device is the device of its stream. -/
  stream : ∀ r, s.route = .device r → r.endpoint.device = r.device

variable {s t : Session DeviceBank κ}

/-- Where nothing renders on a device none runs. -/
theorem RunsItsDevice.allStopped (h : RunsItsDevice s) (hnone : s.rendering? = none) :
    s.host.runStates = s.host.runStates.allStopped := by
  have hstates := h.runStates
  rw [hnone] at hstates
  exact hstates

/-- Devices that are stopped fit every session that renders on no device. -/
theorem runsItsDevice_of_allStopped (hworks : t.host.StartsAndStops)
    (hidle : t.host.runStates = t.host.runStates.allStopped) (hnone : t.rendering? = none)
    (hstream : ∀ r, t.route = .device r → r.endpoint.device = r.device) :
    RunsItsDevice t where
  startsAndStops := hworks
  runStates := by rw [hnone]; exact hidle
  found := fun id hid => by rw [hnone] at hid; exact absurd hid (by simp)
  stream := hstream

/-- **Steady sections that start no device and stop none keep it.** -/
theorem RunsItsDevice.of_steady (h : RunsItsDevice s) (k : Steady s t)
    (hhost : s.host.KeepsRunStates t.host) : RunsItsDevice t where
  startsAndStops := hhost.startsAndStops h.startsAndStops
  runStates := by rw [k.rendering?, hhost.runStates]; exact h.runStates
  found := fun id hid => by
    rw [DeviceBank.isSome_find?_congr (congrArg _ hhost.runStates)]
    exact h.found id (k.rendering?.symm.trans hid)
  stream := fun later hlater => by
    obtain ⟨r, hr, hcont⟩ := (hlater ▸ k.route).of_device
    rw [hcont.endpoint, hcont.device]
    exact h.stream r hr

/-- So does whatever changes neither the host nor the route nor the phase. -/
theorem RunsItsDevice.of_same (h : RunsItsDevice s) (hhost : t.host = s.host)
    (hroute : t.route = s.route) (hphase : t.phase = s.phase) : RunsItsDevice t where
  startsAndStops := by rw [hhost]; exact h.startsAndStops
  runStates := by rw [hhost, rendering?_congr hroute hphase]; exact h.runStates
  found := by rw [hhost, rendering?_congr hroute hphase]; exact h.found
  stream := by rw [hroute]; exact h.stream

/-- **Once the stream of its route is stopped or given back, no device runs**, whether the session
rendered on it or not. -/
theorem RunsItsDevice.of_stopsDevice (h : RunsItsDevice s) {r : DeviceRoute κ}
    (hr : s.route = .device r) {after : DeviceBank}
    (hout : DeviceBank.StopsDevice r.endpoint.device s.host after)
    (hhost : t.host = after) (hnone : t.rendering? = none)
    (hstream : ∀ r, t.route = .device r → r.endpoint.device = r.device) : RunsItsDevice t := by
  have hstates : after.runStates = s.host.runStates.allStopped := by
    rw [hout.runStates, h.runStates, h.stream r hr, RunStates.put_onlyRunning (rendering?_device hr),
      RunStates.allStopped_onlyRunning]
  refine runsItsDevice_of_allStopped (by rw [hhost]; exact hout.startsAndStops) ?_ hnone hstream
  rw [hhost, hstates, RunStates.allStopped_allStopped]

/-! ## §3. Stopping and closing. -/

theorem runsItsDevice_stopStream (h : RunsItsDevice s) :
    RunsItsDevice s.stopStream.endRendering := by
  have hended : ∀ u : Session DeviceBank κ, u.endRendering.rendering? = none := fun u =>
    rendering?_stopped (by simp [endRendering])
  unfold stopStream
  cases hr : s.route with
  | closed =>
      exact runsItsDevice_of_allStopped h.startsAndStops
        (h.allStopped (rendering?_nowhere (by simp [hr]))) (hended _) h.stream
  | null =>
      exact runsItsDevice_of_allStopped h.startsAndStops
        (h.allStopped (rendering?_nowhere (by simp [hr]))) (hended _) h.stream
  | device r =>
      have hstop := DeviceBank.stopsDevice_stop h.startsAndStops r.endpoint
      have hstream : ∀ u : DeviceRoute κ, Route.device r.clear = .device u →
          u.endpoint.device = u.device := fun u hu => by
        rw [← Route.device.inj hu]
        exact h.stream r hr
      dsimp only
      split
      next host hasked =>
        rw [hasked] at hstop
        exact h.of_stopsDevice hr hstop rfl (hended _) hstream
      next e host hasked =>
        rw [hasked] at hstop
        exact h.of_stopsDevice hr hstop rfl (hended _) hstream

/-- **What a stop ends does not run any more.** -/
theorem runsItsDevice_stopSection (h : RunsItsDevice s) : RunsItsDevice s.stopSection.2 := by
  unfold stopSection
  split
  · exact runsItsDevice_stopStream h
  · exact h

theorem runsItsDevice_closeSection (h : RunsItsDevice s) : RunsItsDevice s.closeSection := by
  unfold closeSection
  cases hr : s.route with
  | closed => exact h
  | null =>
      exact runsItsDevice_of_allStopped h.startsAndStops
        (h.allStopped (rendering?_nowhere (by simp [hr])))
        (rendering?_nowhere (by simp [withoutRoute])) (by simp [withoutRoute])
  | device r =>
      exact h.of_stopsDevice hr (DeviceBank.stopsDevice_release h.startsAndStops r.endpoint) rfl
        (rendering?_nowhere (by simp [withoutRoute, note])) (by simp [withoutRoute, note])

theorem host_undoStart {r : DeviceRoute κ} (hr : s.route = .device r) :
    s.undoStart.host = (Host.stop s.host r.endpoint).2 := by
  unfold undoStart
  rw [hr]

theorem host_undoStart_nowhere (h : ∀ r, s.route ≠ .device r) : s.undoStart.host = s.host := by
  unfold undoStart
  cases hr : s.route with
  | closed => rfl
  | null => rfl
  | device r => exact absurd hr (h r)

/-- The stream of a start that gets no thread is stopped. -/
theorem runsItsDevice_undoStart (h : RunsItsDevice s) : RunsItsDevice s.undoStart := by
  have hended : s.undoStart.rendering? = none := rendering?_stopped (by simp [undoStart])
  have hstream : ∀ r, s.undoStart.route = .device r → r.endpoint.device = r.device := h.stream
  by_cases hdevice : ∃ r, s.route = .device r
  · obtain ⟨r, hr⟩ := hdevice
    exact h.of_stopsDevice hr (DeviceBank.stopsDevice_stop h.startsAndStops r.endpoint)
      (host_undoStart hr) hended hstream
  · have hnowhere : ∀ r, s.route ≠ .device r := fun r hr => hdevice ⟨r, hr⟩
    have hhost := host_undoStart_nowhere hnowhere
    exact runsItsDevice_of_allStopped (by rw [hhost]; exact h.startsAndStops)
      (by rw [hhost]; exact h.allStopped (rendering?_nowhere hnowhere)) hended hstream

/-! ## §4. Producers and drain tasks. -/

/-- A producer asks the machine for nothing. -/
theorem host_feedSection {σ : Type} (s : Session σ κ) (chunk : List UInt8) (now : Instant) :
    (s.feedSection chunk now).2.host = s.host := by
  unfold feedSection
  split
  · rfl
  · split
    · rfl
    · split
      · rfl
      next r hr =>
        split
        · unfold feedRoute
          dsimp only
          split <;> rfl
        · rfl
      · rfl

theorem runsItsDevice_feedSection (h : RunsItsDevice s) (chunk : List UInt8) (now : Instant) :
    RunsItsDevice (s.feedSection chunk now).2 := by
  refine h.of_steady (s.steady_feedSection chunk now) ?_
  rw [host_feedSection]
  exact DeviceBank.KeepsRunStates.refl s.host

/-- A wait of a drain task starts no device and stops none. -/
theorem keepsRunStates_pause (s : Session DeviceBank κ) : s.host.KeepsRunStates s.pause.2.host := by
  unfold pause
  split
  next r hr =>
    have hwait := s.host.keepsRunStates_waitReady r.endpoint
    split
    next host hasked =>
      rw [hasked] at hwait
      exact hwait
    next host hasked =>
      rw [hasked] at hwait
      exact hwait
  · exact DeviceBank.KeepsRunStates.refl s.host

theorem runsItsDevice_pause (h : RunsItsDevice s) : RunsItsDevice s.pause.2 :=
  h.of_steady s.steady_pause s.keepsRunStates_pause

variable [Stage κ]

/-- So does a turn of it. -/
theorem keepsRunStates_drainTurn (s : Session DeviceBank κ) (generation : Nat) :
    s.host.KeepsRunStates (s.drainTurn generation).2.host := by
  unfold drainTurn
  cases hcycle : s.cycle? generation with
  | none => exact DeviceBank.KeepsRunStates.refl s.host
  | some found =>
      obtain ⟨r, done⟩ := found
      obtain ⟨_, _, _, hdone⟩ := cycle?_eq_some hcycle
      have hkeeps := r.keepsRunStates_cycle s.host s.gain
      rw [← hdone] at hkeeps
      dsimp only
      split
      · unfold drained
        split <;> exact hkeeps
      · exact hkeeps

theorem runsItsDevice_drainTurn (h : RunsItsDevice s) (generation : Nat) :
    RunsItsDevice (s.drainTurn generation).2 :=
  h.of_steady (s.steady_drainTurn generation) (s.keepsRunStates_drainTurn generation)

/-! ## §5. Opening and starting. -/

/-- Opening a device asks for streams and gives streams back, and does nothing else to the bank. -/
theorem openDevice_relates {R : DeviceBank → DeviceBank → Prop} (hrefl : ∀ b, R b b)
    (htrans : ∀ a b c, R a b → R b c → R a c)
    (hactivate : ∀ b id f d, R b (Host.activate b id f d).2)
    (hrelease : ∀ b e, R b (Host.release b e)) (s : Session DeviceBank κ) (device : String) :
    R s.host (s.openDevice device).2.host := by
  have hasked : R s.host (Negotiation.negotiate s.host device s.source s.config.buffer).host :=
    Negotiation.negotiate_relates hrefl htrans hactivate hrelease s.host
  unfold openDevice
  generalize Negotiation.negotiate s.host device s.source s.config.buffer = asked at hasked
  dsimp only
  split
  · unfold openEndpoint
    dsimp only
    split
    · exact hasked
    · exact htrans _ _ _ hasked (hrelease _ _)
    · exact htrans _ _ _ hasked (hrelease _ _)
  · exact hasked
  · exact hasked

theorem keepsAllStopped_openDevice (s : Session DeviceBank κ) (device : String) :
    s.host.KeepsAllStopped (s.openDevice device).2.host :=
  s.openDevice_relates DeviceBank.KeepsAllStopped.refl (fun _ _ _ => DeviceBank.KeepsAllStopped.trans)
    DeviceBank.keepsAllStopped_activate DeviceBank.keepsAllStopped_release device

/-- A route that was opened calls its device what its stream calls it. -/
theorem stream_openDevice {device : String} (hclosed : s.route = .closed) {r : DeviceRoute κ}
    (hr : (s.openDevice device).2.route = .device r) : r.endpoint.device = r.device := by
  have hasked : ∀ endpoint,
      (Negotiation.negotiate s.host device s.source s.config.buffer).result = .ok endpoint →
        endpoint.device = device := by
    intro endpoint hresult
    obtain ⟨before, f, hactivated⟩ := Negotiation.negotiate_activated hresult
    exact DeviceBank.device_of_activate hactivated
  have hnone : ∀ t : Session DeviceBank κ, t.route = s.route → t.route ≠ .device r := by
    intro t ht hdevice
    rw [ht, hclosed] at hdevice
    exact absurd hdevice (by simp)
  unfold openDevice at hr
  generalize Negotiation.negotiate s.host device s.source s.config.buffer = asked at hasked hr
  dsimp only at hr
  split at hr
  next endpoint hresult =>
    unfold openEndpoint at hr
    dsimp only at hr
    split at hr
    next built hbuilt =>
      obtain rfl := Route.device.inj hr
      obtain ⟨hdevice, hendpoint, _⟩ := DeviceRoute.build_ok hbuilt
      rw [hendpoint, hdevice, hasked endpoint hresult]
    · exact absurd hr (hnone _ rfl)
    · exact absurd hr (hnone _ rfl)
  · exact absurd hr (hnone _ rfl)
  · exact absurd hr (hnone _ rfl)

theorem runsItsDevice_openDevice (h : RunsItsDevice s) (hclosed : s.route = .closed) {device : String}
    (hselected : s.selected = some device) : RunsItsDevice (s.openDevice device).2 := by
  have hnone : s.rendering? = none := rendering?_nowhere (by simp [hclosed])
  have hopened := keepsAllStopped_openDevice s device
  have hstates := hopened.stays h.startsAndStops (h.allStopped hnone)
  have houtcome := openDevice_outcome s device hclosed hselected
  refine runsItsDevice_of_allStopped (hopened.startsAndStops h.startsAndStops) ?_ ?_ fun r hr =>
    stream_openDevice hclosed hr
  · rw [hstates]
    exact h.allStopped hnone
  · generalize s.openDevice device = x at houtcome
    cases houtcome with
    | refused _ _ hsteady => exact hsteady.rendering?.trans hnone
    | already hopened => exact absurd hclosed hopened
    | null => exact rendering?_nowhere (by simp [openNull, note])
    | device => exact rendering?_stopped (by simp [adopt, note])

/-- **Opening starts no device.** -/
theorem runsItsDevice_openSection (h : RunsItsDevice s) : RunsItsDevice s.openSection.2 := by
  unfold openSection
  split
  next hclosed _ =>
    exact runsItsDevice_of_allStopped h.startsAndStops
      (h.allStopped (rendering?_nowhere (by simp [hclosed])))
      (rendering?_nowhere (by simp [openNull, note])) (by simp [openNull, note])
  next device hclosed hselected => exact runsItsDevice_openDevice h hclosed hselected
  · exact h

omit [Stage κ] in
/-- A session begins to render on a device that has just been started. -/
theorem runsItsDevice_beginRendering {r : DeviceRoute κ} (hr : t.route = .device r)
    (hstream : r.endpoint.device = r.device) {before : RunStates}
    (hstates : t.host.runStates = before.allStopped.put r.endpoint.device true)
    (hworks : t.host.StartsAndStops)
    (hfound : (t.host.find? r.endpoint.device).isSome = true) : RunsItsDevice t.beginRendering := by
  have hrendering : t.beginRendering.rendering? = some r.device :=
    rendering?_eq_some.mpr ⟨rfl, r, hr, rfl⟩
  rw [hstream] at hstates hfound
  refine ⟨hworks, ?_, fun id hid => ?_, fun later hlater => ?_⟩
  · show t.host.runStates = t.host.runStates.onlyRunning t.beginRendering.rendering?
    rw [hrendering]
    show t.host.runStates = t.host.runStates.allStopped.put r.device true
    rw [hstates, RunStates.allStopped_put, RunStates.allStopped_allStopped]
  · rw [hrendering] at hid
    rw [← Option.some.inj hid]
    exact hfound
  · rw [show t.route = .device later from hlater] at hr
    obtain rfl := Route.device.inj hr
    exact hstream

/-- **A start makes one device run**, and from then on the session renders on its device. -/
theorem runsItsDevice_startDevice (h : RunsItsDevice s) {r : DeviceRoute κ} (hr : s.route = .device r)
    (hstopped : s.phase ≠ .started) : RunsItsDevice (s.startDevice r).2 := by
  have hrewound : RunsItsDevice (s.withRoute (rewound r)) :=
    h.of_steady (steady_route hr (continues_rewound r) rfl) (DeviceBank.KeepsRunStates.refl _)
  have hidle := h.allStopped (rendering?_stopped hstopped)
  have hbegun : ∀ t : Session DeviceBank κ, t.route = .device (rewound r) →
      t.host.runStates = s.host.runStates.put r.endpoint.device true → t.host.StartsAndStops →
      (t.host.find? r.endpoint.device).isSome = true → RunsItsDevice t.beginRendering := by
    intro t ht hstates hworks hfound
    rw [hidle] at hstates
    exact runsItsDevice_beginRendering ht (h.stream r hr) hstates hworks hfound
  have houtcome := DeviceBank.start_outcome h.startsAndStops r.endpoint
  unfold startDevice
  dsimp only
  rw [show (s.withRoute (rewound r)).host = s.host from rfl,
    show (rewound r).endpoint = r.endpoint from rfl]
  generalize Host.start s.host r.endpoint = x at houtcome
  cases houtcome with
  | absent => exact hrewound.of_same rfl rfl rfl
  | running hruns hstates hworks hfound =>
      rcases hruns with rfl | rfl
      · exact hbegun _ rfl hstates hworks hfound
      · exact hbegun _ rfl hstates hworks hfound

theorem runsItsDevice_startSection (h : RunsItsDevice s) : RunsItsDevice s.startSection.2 := by
  unfold startSection
  split
  · exact h
  next hstopped =>
    cases hr : s.route with
    | closed => exact h
    | null =>
        exact runsItsDevice_of_allStopped h.startsAndStops (h.allStopped (rendering?_stopped hstopped))
          (rendering?_nowhere (by simp [note])) (by simp [note])
    | device r => exact runsItsDevice_startDevice h hr hstopped

/-! ## §6. Everything. -/

/-- **Every section moves the device and the phase together**, whatever happens on the machine, so long
as nothing else starts a device or stops one. -/
theorem invariant_runsItsDevice :
    Invariant (fun change => ∀ b, DeviceBank.KeepsRunStates b (change b)) (@RunsItsDevice κ) where
  silent := fun h hbooks => h.of_same hbooks.host hbooks.route hbooks.phase
  elsewhere := fun {s change} hkeeps h =>
    h.of_steady (steady_host s (change s.host)) (hkeeps s.host)
  stopSection := runsItsDevice_stopSection
  closeSection := runsItsDevice_closeSection
  openSection := runsItsDevice_openSection
  startSection := runsItsDevice_startSection
  undoStart := runsItsDevice_undoStart
  feedSection := fun chunk now h => runsItsDevice_feedSection h chunk now
  drainTurn := fun generation h => runsItsDevice_drainTurn h generation
  pause := runsItsDevice_pause

/-- What happens on the machine in this step starts no device, and stops none. -/
def Call.KeepsRunStates : Call DeviceBank → Prop
  | .elsewhere change => ∀ b, DeviceBank.KeepsRunStates b (change b)
  | _ => True

end Session

/-- What happens on the machine in this move starts no device, and stops none. -/
def Move.KeepsRunStates : Move DeviceBank → Prop
  | .elsewhere change => ∀ b, DeviceBank.KeepsRunStates b (change b)
  | _ => True

/-! ## §7. What runs. -/

namespace Session

/-- The devices of a bank run for nobody but a session. -/
structure OnlyStartedRuns (s : Session DeviceBank κ) : Prop where
  /-- A device runs exactly if the session is started on it. -/
  runs : ∀ id, (∃ d ∈ s.host.devices, d.id = id ∧ d.running = true)
    ↔ s.phase = .started ∧ ∃ r, s.route = .device r ∧ r.device = id
  /-- No two run. -/
  single : s.host.devices.countP Device.running ≤ 1
  /-- What runs is the device that its identifier names, also if there is another one of that name. -/
  named : ∀ d ∈ s.host.devices, d.running = true → s.host.find? d.id = some d

theorem RunsItsDevice.single {s : Session DeviceBank κ} (h : RunsItsDevice s) :
    s.host.devices.countP Device.running ≤ 1 := by
  have hcount : s.host.devices.countP Device.running = s.host.runStates.countP Prod.snd := by
    unfold DeviceBank.runStates
    rw [List.countP_map]
    rfl
  rw [hcount, h.runStates]
  exact RunStates.countP_onlyRunning _ _

/-- What runs is what the session renders on. -/
theorem RunsItsDevice.rendering_of_running {s : Session DeviceBank κ} (h : RunsItsDevice s)
    {d : Device} (hd : d ∈ s.host.devices) (hrunning : d.running = true) :
    s.rendering? = some d.id := by
  have hstate : (d.id, true) ∈ s.host.runStates := by
    rw [← hrunning]
    exact List.mem_map.mpr ⟨d, hd, rfl⟩
  rw [h.runStates] at hstate
  exact RunStates.eq_of_mem_onlyRunning hstate

/-- What the session renders on runs. -/
theorem RunsItsDevice.running_of_rendering {s : Session DeviceBank κ} (h : RunsItsDevice s)
    {id : String} (hid : s.rendering? = some id) :
    ∃ d, s.host.find? id = some d ∧ d.running = true := by
  obtain ⟨d, hd⟩ := Option.isSome_iff_exists.mp (h.found id hid)
  refine ⟨d, hd, ?_⟩
  have hstate : s.host.runStates.find? (·.1 == id) = some (d.id, d.running) := by
    rw [DeviceBank.find?_runStates, hd]
    rfl
  rw [h.runStates, hid] at hstate
  obtain ⟨state, _, heq⟩ :=
    Option.map_eq_some_iff.mp ((RunStates.find?_put id true _).symm.trans hstate)
  exact (Prod.mk.inj heq).2.symm

theorem RunsItsDevice.onlyStartedRuns {s : Session DeviceBank κ} (h : RunsItsDevice s) :
    OnlyStartedRuns s where
  runs := fun id => by
    rw [← rendering?_eq_some]
    constructor
    · rintro ⟨d, hd, rfl, hrunning⟩
      exact h.rendering_of_running hd hrunning
    · intro hid
      obtain ⟨d, hd, hrunning⟩ := h.running_of_rendering hid
      exact ⟨d, List.mem_of_find?_eq_some hd, DeviceBank.id_of_find? hd, hrunning⟩
  single := h.single
  named := fun d hd hrunning => by
    obtain ⟨e, he, hlit⟩ := h.running_of_rendering (h.rendering_of_running hd hrunning)
    -- Two that run are one.
    have hcount := h.single
    rw [List.countP_eq_length_filter] at hcount
    have hfirst : e ∈ s.host.devices.filter Device.running :=
      List.mem_filter.mpr ⟨List.mem_of_find?_eq_some he, hlit⟩
    have hsecond : d ∈ s.host.devices.filter Device.running := List.mem_filter.mpr ⟨hd, hrunning⟩
    obtain ⟨only, honly⟩ := List.length_eq_one_iff.mp
      (Nat.le_antisymm hcount (List.length_pos_of_mem hfirst))
    rw [honly, List.mem_singleton] at hfirst hsecond
    rw [he, hfirst, hsecond]

theorem runsItsDevice_create {bank : DeviceBank} {source : Format} {selected : Option String}
    {config : SessionConfig} {s : Session DeviceBank κ}
    (h : Session.create bank source selected config = .ok s) (hworks : bank.StartsAndStops)
    (hidle : ∀ d ∈ bank.devices, d.running = false) : RunsItsDevice s := by
  have hstates : bank.runStates = bank.runStates.allStopped := by
    unfold DeviceBank.runStates RunStates.allStopped
    rw [List.map_map]
    exact List.map_congr_left fun d hd => by rw [hidle d hd]; rfl
  obtain ⟨_, rfl⟩ := create_ok h
  exact runsItsDevice_of_allStopped hworks hstates (rendering?_nowhere (by simp)) (by simp)

theorem RunsItsDevice.stopped_devices {s : Session DeviceBank κ} (h : RunsItsDevice s)
    (hstopped : s.phase ≠ .started) : ∀ d ∈ s.host.devices, d.running = false := by
  intro d hd
  by_contra hrunning
  have hid := h.rendering_of_running hd (by simpa using hrunning)
  exact absurd ((rendering?_stopped hstopped).symm.trans hid) (by simp)

/-- At the end of a call the device of the route is the selected one. -/
theorem RunsItsDevice.runs_selected {s : Session DeviceBank κ} (h : RunsItsDevice s)
    (hcoherent : Coherent s) (id : String) : (∃ d ∈ s.host.devices, d.id = id ∧ d.running = true)
      ↔ s.phase = .started ∧ s.selected = some id := by
  rw [h.onlyStartedRuns.runs]
  refine and_congr_right fun hstarted => ⟨?_, fun hselected => ?_⟩
  · rintro ⟨r, hr, rfl⟩
    exact hcoherent.device r hr
  · cases hr : s.route with
    | closed =>
        rw [hcoherent.closed_iff.mpr hr] at hstarted
        exact absurd hstarted (by simp)
    | null =>
        rw [hcoherent.null hr] at hselected
        exact absurd hselected (by simp)
    | device r =>
        rw [hcoherent.device r hr] at hselected
        exact ⟨r, rfl, Option.some.inj hselected⟩

variable [Stage κ]

/-- **Exactly the started device runs.**  On devices that start and stop when they are told to, that
do not run when the session is created, and that nobody else starts or stops: whatever calls are made
from then on, with opens and switches that fail and with starts that get no thread, a device runs
exactly if the session is started on it, and then it is the selected one.  So no two run; when a
switch returns none but its target does; and none runs after a stop or a close, which is all that
dropping a session does.

The same holds between any two gate sections when everyone moves at the same time, so that within a
switch the old device is stopped before the new one is started. -/
theorem exactly_the_started_runs {bank : DeviceBank} {source : Format} {selected : Option String}
    {config : SessionConfig} {s : Session DeviceBank κ}
    (hcreate : Session.create bank source selected config = .ok s) (hworks : bank.StartsAndStops)
    (hidle : ∀ d ∈ bank.devices, d.running = false) :
    (∀ calls : List (Call DeviceBank), (∀ call ∈ calls, call.KeepsRunStates) →
      (s.run calls).OnlyStartedRuns
      ∧ (∀ id, (∃ d ∈ (s.run calls).host.devices, d.id = id ∧ d.running = true)
          ↔ (s.run calls).phase = .started ∧ (s.run calls).selected = some id)
      ∧ (∀ target, ∀ d ∈ ((s.run calls).select target).2.host.devices,
          d.running = true → target = some d.id)
      ∧ (∀ d ∈ (s.run calls).reopen.2.host.devices,
          d.running = true → (s.run calls).selected = some d.id)
      ∧ (∀ d ∈ (s.run calls).stop.host.devices, d.running = false)
      ∧ ∀ d ∈ (s.run calls).close.host.devices, d.running = false)
    ∧ ∀ (moves : List (Move DeviceBank)) (c : Crew DeviceBank κ) (trace : List Event),
      Crew.run { session := s } moves = some (c, trace) → (∀ move ∈ moves, move.KeepsRunStates) →
        c.session.OnlyStartedRuns := by
  have hfresh : RunsItsDevice s := runsItsDevice_create hcreate hworks hidle
  refine ⟨fun calls hkeeps => ?_, fun moves c trace hrun hkeeps =>
    (invariant_runsItsDevice.runCrew moves hfresh (fun _ => hkeeps _) hrun).onlyStartedRuns⟩
  have hours := invariant_runsItsDevice.run calls hfresh fun _ => hkeeps _
  have hcoherent := coherent_run calls (coherent_create hcreate)
  have htarget : ∀ target, ∀ d ∈ ((s.run calls).select target).2.host.devices,
      d.running = true → target = some d.id := by
    intro target d hd hrunning
    have hruns := (invariant_runsItsDevice.select hours target).runs_selected
      (coherent_select hcoherent target) d.id
    rw [selected_select] at hruns
    exact (hruns.mp ⟨d, hd, rfl, hrunning⟩).2
  have hstopped : (s.run calls).close.phase ≠ .started := by
    rw [hcoherent.toLinked.close.closed_iff.mpr (close_route _)]
    simp
  exact ⟨hours.onlyStartedRuns, hours.runs_selected hcoherent, htarget, htarget _,
    (invariant_runsItsDevice.stop hours).stopped_devices (stop_frame _).1,
    (invariant_runsItsDevice.close hours).stopped_devices hstopped⟩

/-- A switch to a device that is unplugged, an open without it, and a start without a thread. -/
def mishaps : List (Call DeviceBank) :=
  [.openRoute, .start, .elsewhere (·.setUnavailable "right" true), .select (some "right"), .openRoute,
    .elsewhere (·.setUnavailable "right" false), .openRoute,
    .elsewhere fun b => { b with threads := false }, .start]

/-- A session that renders on the left device loses it to a switch that fails; it cannot be opened
and cannot be started, and nothing runs.  With a thread to be had the right device runs, and within a
switch back to the left one neither does. -/
theorem exactly_the_started_runs_mishaps :
    Session.create Crew.twoDevices (Format.pcm 8000 16 1) (some "left") {} = .ok Crew.leftSession
      ∧ Crew.twoDevices.StartsAndStops ∧ (∀ d ∈ Crew.twoDevices.devices, d.running = false)
      ∧ (∀ call ∈ mishaps, call.KeepsRunStates)
      ∧ (∃ d ∈ (Crew.leftSession.run (mishaps.take 2)).host.devices, d.id = "left" ∧ d.running = true)
      ∧ (∀ d ∈ (Crew.leftSession.run (mishaps.take 4)).host.devices, d.running = false)
      ∧ (∀ d ∈ (Crew.leftSession.run mishaps).host.devices, d.running = false)
      ∧ (∃ d ∈ (Crew.leftSession.run (mishaps
          ++ [.elsewhere fun b => { b with threads := true }, .start])).host.devices,
          d.id = "right" ∧ d.running = true)
      ∧ ∃ c trace, Crew.run { session := Crew.leftSession } (Crew.rendering
          ++ [.call (.select (some "right")), .advance, .advance]) = some (c, trace)
        ∧ c.session.phase ≠ .started ∧ c.session.OnlyStartedRuns := by
  have hcreate : Session.create Crew.twoDevices (Format.pcm 8000 16 1) (some "left") {}
      = .ok Crew.leftSession := rfl
  have hworks : Crew.twoDevices.StartsAndStops := by
    unfold DeviceBank.StartsAndStops
    decide
  have hidle : ∀ d ∈ Crew.twoDevices.devices, d.running = false := by decide
  have hplug : ∀ unavailable,
      (Call.elsewhere (DeviceBank.setUnavailable · "right" unavailable)).KeepsRunStates :=
    fun unavailable b => b.keepsRunStates_setUnavailable "right" unavailable
  have hthreads : ∀ threads,
      (Call.elsewhere fun b : DeviceBank => { b with threads }).KeepsRunStates :=
    fun threads b => b.keepsRunStates_threads threads
  have hkeeps : ∀ call ∈ mishaps, call.KeepsRunStates := by
    unfold mishaps
    simp only [List.forall_mem_cons]
    exact ⟨trivial, trivial, hplug true, trivial, trivial, hplug false, trivial, hthreads false,
      trivial, by simp⟩
  have hmended : ∀ call ∈ mishaps ++ [.elsewhere fun b => { b with threads := true }, .start],
      call.KeepsRunStates := by
    intro call hcall
    rcases List.mem_append.mp hcall with hfirst | hlast
    · exact hkeeps call hfirst
    · simp only [List.mem_cons, List.not_mem_nil, or_false] at hlast
      rcases hlast with rfl | rfl
      · exact hthreads true
      · trivial
  obtain ⟨hlife, hcrew⟩ := exactly_the_started_runs hcreate hworks hidle
  obtain ⟨c, trace, hrun⟩ : ∃ c trace, Crew.run { session := Crew.leftSession } (Crew.rendering
      ++ [.call (.select (some "right")), .advance, .advance]) = some (c, trace) := ⟨_, _, rfl⟩
  have hphase : (Crew.run { session := Crew.leftSession } (Crew.rendering
      ++ [.call (.select (some "right")), .advance, .advance])).map (fun p => p.1.session.phase)
      = some .opened := by decide +kernel
  rw [hrun] at hphase
  refine ⟨hcreate, hworks, hidle, hkeeps, ?_, ?_, ?_, ?_, c, trace, hrun, ?_, ?_⟩
  · exact ((hlife (mishaps.take 2) fun call h => hkeeps call (List.mem_of_mem_take h)).2.1 "left").mpr
      (by decide +kernel)
  · decide +kernel
  · decide +kernel
  · exact ((hlife _ hmended).2.1 "right").mpr (by decide +kernel)
  · rw [show c.session.phase = .opened from Option.some.inj hphase]
    simp
  · refine hcrew _ c trace hrun fun move hmove => ?_
    simp only [Crew.rendering, List.mem_append, List.mem_cons, List.not_mem_nil, or_false] at hmove
    rcases hmove with (rfl | rfl | rfl | rfl | rfl | rfl) | rfl | rfl | rfl <;> trivial

end Session

end PcmRender
