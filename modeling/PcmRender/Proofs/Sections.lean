/-
  PcmRender.Proofs.Sections — **what each gate section can do to a session.**

  The sections of producers and drain tasks are *steady*: they move audio and report, but how far the
  session has come, what it has selected and which route it is on stays as it is.  Only a lifecycle
  section changes these, and each of those in one way, or in none:

      open    nothing, the null sink, or a route that was just built
      start   nothing, the null sink rendering, or a device rendering in a new generation
      stop    nothing, or the generation ended
      close   nothing, or no route any more

  Every section is analysed here once.  What the lifecycle keeps is then shown from these cases, and
  no section is opened again.
-/
import PcmRender.Proofs.Cycle
import PcmRender.Proofs.Negotiation
import PcmRender.Session.Calls

namespace PcmRender

/-! ## §1. Steady sections. -/

/-- The same route later, or the same lack of one. -/
inductive Route.Continues {κ : Type} : Route κ → Route κ → Prop
  | closed : Route.Continues .closed .closed
  | null : Route.Continues .null .null
  | device {r later : DeviceRoute κ} (h : r.Continues later) :
      Route.Continues (.device r) (.device later)

namespace Route.Continues

variable {κ : Type} {a b c : Route κ}

theorem refl : ∀ route : Route κ, Route.Continues route route
  | .closed => .closed
  | .null => .null
  | .device r => .device (DeviceRoute.Continues.refl r)

theorem trans (h : Route.Continues a b) (k : Route.Continues b c) : Route.Continues a c := by
  cases h with
  | closed => exact k
  | null => exact k
  | device h =>
      cases k with
      | device k => exact .device (h.trans k)

theorem closed_iff (h : Route.Continues a b) : b = .closed ↔ a = .closed := by
  cases h <;> simp

theorem null_iff (h : Route.Continues a b) : b = .null ↔ a = .null := by
  cases h <;> simp

/-- What a device route was before. -/
theorem of_device {later : DeviceRoute κ} (h : Route.Continues a (.device later)) :
    ∃ r, a = .device r ∧ r.Continues later := by
  cases h with
  | device h => exact ⟨_, rfl, h⟩

/-- What becomes of a device route. -/
theorem device_of {r : DeviceRoute κ} (h : Route.Continues (.device r) b) :
    ∃ later, b = .device later ∧ r.Continues later := by
  cases h with
  | device h => exact ⟨_, rfl, h⟩

end Route.Continues

namespace Session

variable {σ κ : Type}

/-- **A session that was just created** has a source that can be decoded, and nothing else. -/
theorem create_ok {host : σ} {source : Format} {selected : Option String} {config : SessionConfig}
    {s : Session σ κ} (h : create host source selected config = .ok s) :
    source.isSupported = true
      ∧ s = { host, config, source, selected, period := config.period.kept } := by
  unfold create at h
  split at h
  next hsupported =>
    injection h with h
    exact ⟨hsupported, h.symm⟩
  · exact absurd h (by simp)

/-- `t` is as far as `s` in all that lifecycle calls decide. -/
structure Steady (s t : Session σ κ) : Prop where
  source : t.source = s.source
  selected : t.selected = s.selected
  phase : t.phase = s.phase
  generation : t.generation = s.generation
  switching : t.switching = s.switching
  draining : t.draining = s.draining
  task : t.task.map DrainTask.generation = s.task.map DrainTask.generation
  deviceName : t.deviceName = s.deviceName
  route : s.route.Continues t.route

theorem Steady.refl (s : Session σ κ) : Steady s s :=
  ⟨rfl, rfl, rfl, rfl, rfl, rfl, rfl, rfl, Route.Continues.refl _⟩

theorem Steady.trans {s t u : Session σ κ} (h : Steady s t) (k : Steady t u) : Steady s u :=
  ⟨k.source.trans h.source, k.selected.trans h.selected, k.phase.trans h.phase,
    k.generation.trans h.generation, k.switching.trans h.switching, k.draining.trans h.draining,
    k.task.trans h.task, k.deviceName.trans h.deviceName, h.route.trans k.route⟩

theorem steady_note (s : Session σ κ) (level : LogLevel) (message : String) :
    Steady s (s.note level message) :=
  ⟨rfl, rfl, rfl, rfl, rfl, rfl, rfl, rfl, Route.Continues.refl _⟩

theorem steady_host (s : Session σ κ) (host : σ) : Steady s { s with host } :=
  ⟨rfl, rfl, rfl, rfl, rfl, rfl, rfl, rfl, Route.Continues.refl _⟩

theorem steady_setGain (s : Session σ κ) (gain : Single) : Steady s (s.setGain gain) :=
  ⟨rfl, rfl, rfl, rfl, rfl, rfl, rfl, rfl, Route.Continues.refl _⟩

/-- A device route that goes on, whatever observers and waiting producers are told. -/
theorem steady_route {s t : Session σ κ} {r later : DeviceRoute κ} (hr : s.route = .device r)
    (k : r.Continues later)
    (ht : t = { s with route := .device later, published := t.published, progress := t.progress }) :
    Steady s t := by
  rw [ht]
  refine ⟨rfl, rfl, rfl, rfl, rfl, rfl, rfl, rfl, ?_⟩
  show s.route.Continues (.device later)
  rw [hr]
  exact .device k

/-! ## §2. Producers. -/

theorem steady_feedRoute (s : Session σ κ) (r : DeviceRoute κ) (hr : s.route = .device r)
    (chunk : List UInt8) (now : Instant) : Steady s (s.feedRoute r chunk now).2 := by
  unfold feedRoute
  dsimp only
  split
  · have hring := r.continues_ring (r.ring.append chunk).2 (Ring.capacity_append r.ring chunk)
    exact steady_route hr (hring.trans (DeviceRoute.continues_clear _)) rfl
  · exact steady_route hr (DeviceRoute.continues_mark r now.nanos) rfl

/-- **The first section of a feed is steady.** -/
theorem steady_feedSection (s : Session σ κ) (chunk : List UInt8) (now : Instant) :
    Steady s (s.feedSection chunk now).2 := by
  unfold feedSection
  by_cases hempty : chunk.isEmpty = true
  · rw [if_pos hempty]
    exact Steady.refl s
  · rw [if_neg hempty]
    by_cases hswitch : s.switching = true
    · rw [if_pos hswitch]
      exact Steady.refl s
    · rw [if_neg hswitch]
      split
      · exact Steady.refl s
      next r hr =>
        split
        · exact steady_feedRoute s r hr chunk now
        · exact Steady.refl s
      · exact Steady.refl s

/-! ## §3. Pieces of a drain task. -/

/-- **A drain task that leaves takes its own mark away and no other.** -/
theorem drainExited_eq (s : Session σ κ) (generation : Nat) :
    s.drainExited generation
      = { s with draining := if s.draining = some generation then none else s.draining } := by
  unfold drainExited
  by_cases hmark : s.draining = some generation
  · rw [if_pos hmark, if_pos hmark]
  · rw [if_neg hmark, if_neg hmark]

/-- So does one that never had a thread, and reports it. -/
theorem spawnRefused_eq (s : Session σ κ) (generation : Nat) (reason : String) :
    ∃ log, s.spawnRefused generation reason
      = { s with
          draining := if s.draining = some generation then none else s.draining
          log } := by
  unfold spawnRefused
  rw [drainExited_eq]
  exact ⟨_, rfl⟩

theorem steady_drained {s : Session σ κ} {r after : DeviceRoute κ} (hr : s.route = .device r)
    (k : r.Continues after) (removed : Nat) : Steady s (s.drained r after removed) := by
  unfold drained
  split
  · exact steady_route hr k rfl
  · exact steady_route hr k rfl

theorem steady_drainCrashed (s : Session σ κ) : Steady s s.drainCrashed := by
  refine ⟨rfl, rfl, rfl, rfl, rfl, rfl, ?_, rfl, Route.Continues.refl _⟩
  show (s.task.map _).map DrainTask.generation = _
  rw [Option.map_map]
  rfl

/-- A joined drain task is forgotten, which shows in the log alone. -/
theorem joinDrain_eq (s : Session σ κ) : ∃ log, s.joinDrain = { s with task := none, log } := by
  unfold joinDrain
  dsimp only
  split <;> exact ⟨_, rfl⟩

/-- So is one that has retired before. -/
theorem retireDrain_eq (s : Session σ κ) :
    ∃ log, s.retireDrain = { s with draining := none, task := none, log } :=
  joinDrain_eq { s with draining := none }

variable [Host σ]

/-- A wait for the device changes the host alone. -/
theorem steady_pause (s : Session σ κ) : Steady s s.pause.2 := by
  unfold pause
  split
  · split
    · exact steady_host s _
    · exact steady_host s _
  · exact Steady.refl s

/-! ## §4. Stopping and closing. -/

/-- A stream whose thread could not be had is stopped, and no more. -/
theorem undoStart_outcome (s : Session σ κ) :
    ∃ t, Steady s t ∧ s.undoStart = { t with phase := .opened } := by
  unfold undoStart
  exact ⟨_, steady_host s _, rfl⟩

/-- **A start that gets no thread** takes the mark of its drain task away and its stream back. -/
theorem spawnFailed_outcome (s : Session σ κ) (generation : Nat) (reason : String) :
    ∃ t, Steady { s with
        draining := if s.draining = some generation then none else s.draining } t
      ∧ s.spawnFailedSection generation reason = { t with phase := .opened } := by
  obtain ⟨log, hlog⟩ := spawnRefused_eq s generation reason
  obtain ⟨t, hsteady, ht⟩ := undoStart_outcome (s.spawnRefused generation reason)
  rw [hlog] at hsteady
  exact ⟨t, ⟨hsteady.source, hsteady.selected, hsteady.phase, hsteady.generation,
    hsteady.switching, hsteady.draining, hsteady.task, hsteady.deviceName, hsteady.route⟩, ht⟩

theorem steady_stopStream (s : Session σ κ) : Steady s s.stopStream := by
  -- Whether the stream could be stopped or not, the watchdog is cleared behind it.
  have hclear : ∀ (t : Session σ κ) (r : DeviceRoute κ), t.route = .device r →
      Steady t (t.clearWatchdog r) :=
    fun t r hr => steady_route hr (DeviceRoute.continues_clear r) rfl
  unfold stopStream
  split
  next r hr =>
    split
    · exact (steady_host s _).trans (hclear _ r hr)
    · exact (steady_host s _).trans ((steady_note _ _ _).trans (hclear _ r hr))
  · exact Steady.refl s

/-- What the gate section of a stop can come to. -/
inductive StopOutcome (s : Session σ κ) : Bool × Session σ κ → Prop
  /-- Nothing renders. -/
  | idle (stopped : s.phase ≠ .started) : StopOutcome s (false, s)
  /-- What rendered has ended. -/
  | stopped {t : Session σ κ} (started : s.phase = .started) (steady : Steady s t) :
      StopOutcome s (true, t.endRendering)

theorem stopSection_outcome (s : Session σ κ) : StopOutcome s s.stopSection := by
  unfold stopSection
  by_cases hstarted : s.phase = .started
  · rw [if_pos hstarted]
    exact .stopped hstarted (steady_stopStream s)
  · rw [if_neg hstarted]
    exact .idle hstarted

/-- What giving the route back can come to. -/
inductive CloseOutcome (s : Session σ κ) : Session σ κ → Prop
  /-- There is none. -/
  | idle (closed : s.route = .closed) : CloseOutcome s s
  /-- It is gone. -/
  | closed {t : Session σ κ} (opened : s.route ≠ .closed)
      (steady : Steady s.withoutRoute t) : CloseOutcome s t

theorem closeSection_outcome (s : Session σ κ) : CloseOutcome s s.closeSection := by
  unfold closeSection
  split
  next hclosed => exact .idle hclosed
  next hnull => exact .closed (by rw [hnull]; simp) (Steady.refl _)
  next r hr =>
    exact .closed (by rw [hr]; simp)
      ⟨rfl, rfl, rfl, rfl, rfl, rfl, rfl, rfl, Route.Continues.refl _⟩

/-- **After closing there is no route**, whatever there was. -/
theorem closeSection_route (s : Session σ κ) : s.closeSection.route = .closed := by
  have h := closeSection_outcome s
  generalize s.closeSection = t at h
  cases h with
  | idle hclosed => exact hclosed
  | closed _ hsteady => exact hsteady.route.closed_iff.mpr rfl

/-! ## §5. Turns of a drain task. -/

variable [Stage κ]

omit [Host σ] [Stage κ] in
/-- The device route of a session is its route. -/
theorem deviceRoute?_eq_some {s : Session σ κ} {r : DeviceRoute κ} (h : s.deviceRoute? = some r) :
    s.route = .device r := by
  unfold deviceRoute? at h
  split at h
  next other hother => rw [hother, Option.some.inj h]
  · exact absurd h (by simp)

/-- The cycle of a turn runs on the device route of a session that renders its generation. -/
theorem cycle?_eq_some {s : Session σ κ} {generation : Nat} {r : DeviceRoute κ}
    {done : Cycled σ κ} (h : s.cycle? generation = some (r, done)) :
    s.generation = generation ∧ s.phase = .started ∧ s.route = .device r
      ∧ done = r.cycle s.host s.gain := by
  unfold cycle? at h
  by_cases hcur : s.isCurrent generation = true
  · rw [if_pos hcur] at h
    unfold isCurrent at hcur
    rw [Bool.and_eq_true, beq_iff_eq, decide_eq_true_eq] at hcur
    obtain ⟨r', hr, heq⟩ := Option.map_eq_some_iff.mp h
    obtain ⟨rfl, hdone⟩ := Prod.mk.inj heq
    exact ⟨hcur.1, hcur.2, deviceRoute?_eq_some hr, hdone.symm⟩
  · rw [if_neg hcur] at h
    exact absurd h (by simp)

/-- **A turn of a drain task is steady**, whether its cycle runs to the end or not. -/
theorem steady_drainTurn (s : Session σ κ) (generation : Nat) :
    Steady s (s.drainTurn generation).2 := by
  unfold drainTurn
  split
  next r done hcycle =>
    obtain ⟨_, _, hr, hdone⟩ := cycle?_eq_some hcycle
    have hcont : r.Continues done.route := by
      rw [hdone]
      exact (DeviceRoute.accounts_cycle s.host r s.gain).continues
    have hhost := steady_host s done.host
    have hr' : ({ s with host := done.host } : Session σ κ).route = .device r := hr
    dsimp only
    -- A cycle that took its task down has left the route as any other cycle leaves it.
    split
    · exact hhost.trans (steady_drained hr' hcont _)
    · have hroute : Steady { s with host := done.host }
          ({ s with host := done.host }.withRoute done.route) := steady_route hr' hcont rfl
      exact hhost.trans (hroute.trans (steady_drainCrashed _))
  · exact Steady.refl s

/-! ## §6. Opening. -/

/-- What opening a session can come to. -/
inductive OpenOutcome (s : Session σ κ) : Except Fault Unit × Session σ κ → Prop
  /-- It fails, and nothing is open as before. -/
  | refused {t : Session σ κ} (fault : Fault) (closed : s.route = .closed) (steady : Steady s t) :
      OpenOutcome s (.error fault, t)
  /-- Something is open already. -/
  | already (opened : s.route ≠ .closed) : OpenOutcome s (.ok (), s)
  /-- The null sink is open. -/
  | null (closed : s.route = .closed) (selected : s.selected = none) :
      OpenOutcome s (.ok (), s.openNull)
  /-- A device is open. -/
  | device {t : Session σ κ} {device : String} {endpoint : Endpoint} {r : DeviceRoute κ}
      (closed : s.route = .closed) (selected : s.selected = some device)
      (supported : s.source.isSupported = true)
      (channels : endpoint.format.channels = s.source.channels)
      (built : DeviceRoute.build device s.source endpoint s.config.period = .ok r)
      (steady : Steady s t) : OpenOutcome s (.ok (), t.adopt r)

theorem openDevice_outcome (s : Session σ κ) (device : String) (hclosed : s.route = .closed)
    (hsel : s.selected = some device) : OpenOutcome s (s.openDevice device) := by
  have hasked : ∀ endpoint,
      (Negotiation.negotiate s.host device s.source s.config.buffer).result = .ok endpoint →
        s.source.isSupported = true ∧ endpoint.format.channels = s.source.channels :=
    fun _ h => Negotiation.negotiate_ok h
  unfold openDevice
  generalize Negotiation.negotiate s.host device s.source s.config.buffer = asked at hasked ⊢
  have hlog : Steady s { s with host := asked.host, log := s.log ++ asked.log } :=
    ⟨rfl, rfl, rfl, rfl, rfl, rfl, rfl, rfl, Route.Continues.refl _⟩
  dsimp only
  split
  next endpoint hok =>
    obtain ⟨hsupp, hch⟩ := hasked endpoint hok
    unfold openEndpoint
    split
    next r hbuilt => exact .device hclosed hsel hsupp hch hbuilt hlog
    · exact .refused _ hclosed (hlog.trans ((steady_host _ _).trans (steady_note _ _ _)))
    · exact .refused _ hclosed (hlog.trans (steady_host _ _))
  · exact .refused _ hclosed (hlog.trans (steady_note _ _ _))
  · exact .refused _ hclosed hlog

theorem openSection_outcome (s : Session σ κ) : OpenOutcome s s.openSection := by
  unfold openSection
  split
  next hroute hsel => exact .null hroute hsel
  next device hroute hsel => exact openDevice_outcome s device hroute hsel
  next hnull hdevice =>
    refine .already (fun hroute => ?_)
    cases hsel : s.selected with
    | none => exact hnull hroute hsel
    | some device => exact hdevice device hroute hsel

/-- A device that a closed session has opened is a route that was built for its source. -/
theorem opened_built {s t : Session σ κ} {r : DeviceRoute κ} (hclosed : s.route = .closed)
    (hopen : s.openSection = (.ok (), t)) (hr : t.route = .device r) :
    s.source.isSupported = true ∧ ∃ device endpoint,
      endpoint.format.channels = s.source.channels
        ∧ DeviceRoute.build device s.source endpoint s.config.period = .ok r := by
  have hsection := openSection_outcome s
  rw [hopen] at hsection
  cases hsection with
  | already hopened => exact absurd hclosed hopened
  | null => exact absurd hr (by simp [openNull, note])
  | device _ _ hsupported hchannels hbuilt _ =>
      obtain rfl := Route.device.inj hr
      exact ⟨hsupported, _, _, hchannels, hbuilt⟩

/-- Opening leaves the gain as it was set. -/
theorem gain_openSection (s : Session σ κ) : s.openSection.2.gain = s.gain := by
  unfold openSection
  split
  · rfl
  · unfold openDevice
    dsimp only
    split
    · unfold openEndpoint
      split <;> rfl
    · rfl
    · rfl
  · rfl

/-- It starts no drain task. -/
theorem task_openSection (s : Session σ κ) : s.openSection.2.task = s.task := by
  unfold openSection
  split
  · rfl
  · unfold openDevice
    dsimp only
    split
    · unfold openEndpoint
      split <;> rfl
    · rfl
    · rfl
  · rfl

/-! ## §7. Starting. -/

/-- What the gate section of a start can come to. -/
inductive StartOutcome (s : Session σ κ) : Except Fault (Option Nat) × Session σ κ → Prop
  /-- The session renders already. -/
  | already (started : s.phase = .started) : StartOutcome s (.ok none, s)
  /-- It fails; the ring may be full now, but nothing renders as before. -/
  | refused {t : Session σ κ} (fault : Fault) (stopped : s.phase ≠ .started)
      (steady : Steady s t) : StartOutcome s (.error fault, t)
  /-- The null sink renders. -/
  | null {t : Session σ κ} (stopped : s.phase ≠ .started) (null : s.route = .null)
      (steady : Steady { s with phase := .started } t) : StartOutcome s (.ok none, t)
  /-- A device renders in a new generation. -/
  | device {t : Session σ κ} {r : DeviceRoute κ} (stopped : s.phase ≠ .started)
      (steady : Steady s t) (device : t.route = .device r) :
      StartOutcome s (.ok (some (s.generation + 1)), t.beginRendering)

omit [Host σ] in
theorem continues_rewound (r : DeviceRoute κ) : r.Continues (rewound r) :=
  ⟨rfl, rfl, rfl, rfl, by show (r.stage.map Stage.reset).isSome = _; exact Option.isSome_map,
    Ring.capacity_shiftToTail r.ring⟩

theorem startDevice_outcome (s : Session σ κ) (r : DeviceRoute κ) (hr : s.route = .device r)
    (hstopped : s.phase ≠ .started) : StartOutcome s (s.startDevice r) := by
  -- The ring is shifted before the stream is asked to run, and stays so if it does not.
  have hrew : Steady s (s.withRoute (rewound r)) := steady_route hr (continues_rewound r) rfl
  unfold startDevice
  dsimp only
  split
  next host _ =>
    have hsteady := hrew.trans (steady_host (s.withRoute (rewound r)) host)
    exact .device hstopped hsteady rfl
  next host _ =>
    have hsteady := hrew.trans ((steady_host (s.withRoute (rewound r)) host).trans
      (steady_note _ .debug s!"Render stream on {(rewound r).device} already running"))
    exact .device hstopped hsteady rfl
  · exact .refused _ hstopped (hrew.trans ((steady_host _ _).trans (steady_note _ _ _)))

theorem startSection_outcome (s : Session σ κ) : StartOutcome s s.startSection := by
  unfold startSection
  by_cases hstarted : s.phase = .started
  · rw [if_pos hstarted]
    exact .already hstarted
  · rw [if_neg hstarted]
    split
    · exact .refused _ hstarted (Steady.refl s)
    next hnull => exact .null hstarted hnull (steady_note _ _ _)
    next r hr => exact startDevice_outcome s r hr hstarted

end Session

end PcmRender
