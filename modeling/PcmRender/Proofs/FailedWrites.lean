/-
  PcmRender.Proofs.FailedWrites — **what a write costs that fails.**

  A cycle fills up the ring before it writes, and nothing takes the silence out again.  Whether it
  counts a write that failed depends on the stage in front of it:

                      returns          leaves the ring       watchdog
      no stage        0                nothing               as it was
      a stage         what was staged  what was staged       cleared

  A stage has moved past the bytes that it was given, so these are gone whatever the stream says.
  Without one they stay in front of the ring and are offered again (`Fronts`), and a stream to which
  every write fails (`Endpoint.Down`) keeps a full ring full: nothing clears the watchdog, and the
  stall is reported in the end (`jammedOutcome_flow`).
-/
import PcmRender.Proofs.Delivery
import PcmRender.Proofs.Diagnostics
import PcmRender.Proofs.Offering

namespace PcmRender

variable {σ κ : Type}

/-! ## §1. One cycle. -/

namespace DeviceRoute

/-- Bytes that are the first ones of the ring, with silence behind them as far as it is needed,
scaled. -/
def Fronts (r : DeviceRoute κ) (gain : Single) (data : List UInt8) : Prop :=
  ∃ amount silence,
    Gain.scaleBytes? r.source gain ((r.ring.content ++ List.replicate silence 0).take amount)
      = some data

/-- What a failed write leaves where there is no stage. -/
structure Unharmed (r : DeviceRoute κ) (silence : Nat) (done : Cycled σ κ) : Prop where
  /-- The cycle says that it has moved nothing, -/
  outcome : done.outcome = .ok 0
  /-- and it has not. -/
  popped : done.popped = []
  /-- The ring has what it had, and the silence of this cycle behind it. -/
  content : done.route.ring.content = r.ring.content ++ List.replicate silence 0
  /-- The watchdog is as it was. -/
  onset : done.route.onset = r.onset

/-- What a failed write leaves where the bytes went through a stage. -/
structure Counted (r : DeviceRoute κ) (silence amount : Nat) (done : Cycled σ κ) : Prop where
  /-- The cycle counts them as written. -/
  outcome : done.outcome = .ok amount
  /-- They have left the ring. -/
  popped : done.popped = (r.ring.content ++ List.replicate silence 0).take amount
  /-- The others have not. -/
  content : done.route.ring.content = (r.ring.content ++ List.replicate silence 0).drop amount
  /-- The watchdog is cleared if there were any. -/
  onset : 0 < amount → done.route.onset = none

theorem fronts_of_staged {r : DeviceRoute κ} {gain : Single} {requested : Nat} {data : List UInt8}
    (h : r.staged? gain requested = some data) : r.Fronts gain data := by
  unfold staged? at h
  rw [content_padded] at h
  exact ⟨_, _, h⟩

variable [Host σ] [Stage κ]

omit [Stage κ] in
/-- **Without a stage a failed write moves nothing.** -/
theorem unharmed_deliverPlain {host after : σ} {r : DeviceRoute κ} {data : List UInt8}
    {cause : RenderError}
    (hfailed : Host.write host r.endpoint data = (.error (.failed cause), after)) :
    deliverPlain host r data = unmoved after r (.ok 0) data := by
  unfold deliverPlain
  rw [hfailed]

/-- **Behind a stage it is counted.** -/
theorem counted_deliverConverted {host after : σ} {r : DeviceRoute κ} {stage : κ}
    {staged : List UInt8} {conversion : Conversion κ} {cause : RenderError}
    (hprocess : Stage.process? stage staged = some conversion)
    (hwhole : conversion.consumed = staged.length)
    (hfailed : Host.write host r.endpoint conversion.output = (.error (.failed cause), after)) :
    deliverConverted host r stage staged
      = moved after { r with stage := some conversion.next } conversion.output staged.length := by
  unfold deliverConverted
  rw [hprocess]
  dsimp only
  rw [if_pos hwhole, hfailed]

/-- **What a cycle leaves whose write has failed.** -/
theorem failed_cycle {host after : σ} {r : DeviceRoute κ} {gain : Single} {data : List UInt8}
    {cause : RenderError} (hoffered : (r.cycle host gain).offered = some data)
    (hfailed : Host.write (Host.freeFrames host r.endpoint).2 r.endpoint data
      = (.error (.failed cause), after)) :
    ∃ free requested room, Asks host r free requested room
      ∧ ((r.stage = none ∧ r.Fronts gain data
          ∧ Unharmed r (r.amount requested - r.ring.len) (r.cycle host gain))
        ∨ ∃ stage staged, r.stage = some stage ∧ r.staged? gain requested = some staged
          ∧ Counted r (r.amount requested - r.ring.len) staged.length (r.cycle host gain)) := by
  have hoffers := offers_cycle hoffered
  generalize r.cycle host gain = done at hoffers
  cases hoffers with
  | plain hasks hscaled hdirect =>
      rw [hasks.room] at hfailed
      refine ⟨_, _, _, hasks, .inl ⟨hdirect, fronts_of_staged hscaled, ?_⟩⟩
      rw [unharmed_deliverPlain (show Host.write _ (r.padded _).endpoint data = _ from hfailed)]
      exact ⟨rfl, rfl, content_padded r _, rfl⟩
  | converted hasks hscaled hthrough hprocess hwhole houtput =>
      rw [hasks.room, ← houtput] at hfailed
      refine ⟨_, _, _, hasks, .inr ⟨_, _, hthrough, hscaled, ?_⟩⟩
      rw [counted_deliverConverted (r := r.padded _) hprocess hwhole hfailed]
      refine ⟨rfl, ?_, ?_, fun hsome => ?_⟩
      · show (r.padded _).ring.content.take _ = _
        rw [content_padded]
      · show (advance _ _).ring.content = _
        rw [content_advance, ← content_padded]
      · show (advance _ _).onset = none
        unfold advance
        rw [if_pos hsome]

/-- **The same audio is offered again** by whatever cycle comes next: what stood in front of the
ring stands there still. -/
theorem Unharmed.again {host later : σ} {r : DeviceRoute κ} {gain now : Single} {silence : Nat}
    (h : Unharmed r silence (r.cycle host gain)) (hdirect : r.stage = none) {data : List UInt8}
    (hoffered : ((r.cycle host gain).route.cycle later now).offered = some data) :
    r.Fronts now data := by
  have hcont := (accounts_cycle host r gain).continues
  have hcontent := h.content
  generalize (r.cycle host gain).route = left at hoffered hcont hcontent
  have hoffers := offers_cycle hoffered
  generalize left.cycle later now = done at hoffers
  cases hoffers with
  | plain hasks hscaled =>
      obtain ⟨amount, more, hfront⟩ := fronts_of_staged hscaled
      rw [hcont.source, hcontent, List.append_assoc, List.replicate_append_replicate] at hfront
      exact ⟨amount, silence + more, hfront⟩
  | converted hasks hscaled hthrough =>
      rw [hcont.plain hdirect] at hthrough
      exact absurd hthrough (by simp)

end DeviceRoute

/-! ## §2. A stream to which every write fails. -/

/-- `down` tells of hosts to whose stream `e` every write fails, and nothing changes that which the
session does to its host while it renders. -/
structure Endpoint.Down [Host σ] (e : Endpoint) (down : σ → Prop) : Prop where
  /-- Every write fails. -/
  fails : ∀ host data, down host → ∃ cause, (Host.write host e data).1 = .error (.failed cause)
  /-- It goes on to fail after that, -/
  write : ∀ host data, down host → down (Host.write host e data).2
  /-- after the stream was asked for its room, -/
  freeFrames : ∀ host, down host → down (Host.freeFrames host e).2
  /-- and after it was waited for. -/
  waitReady : ∀ host, down host → down (Host.waitReady host e).2

/-- A section of a session that goes on to render, and outside of which the stream stays down. -/
def Session.Passing.Stays (down : σ → Prop) : Session.Passing σ → Prop
  | .stop => False
  | .undo => False
  | .elsewhere change => ∀ host, down host → down (change host)
  | _ => True

namespace DeviceRoute

variable [Host σ] [Stage κ] {r : DeviceRoute κ} {down : σ → Prop}

/-- **A cycle on a full ring in front of such a stream does nothing.** -/
theorem down_cycle (h : r.endpoint.Down down) (hdirect : r.stage = none) (hfull : r.ring.free = 0)
    {host : σ} (hdown : down host) (gain : Single) :
    ∃ after outcome offered, r.cycle host gain = unmoved after r outcome offered ∧ down after
      ∧ ∀ n, outcome = .ok n → n = 0 := by
  have houtcome := cycle_outcome host r gain
  have hasked := h.freeFrames host hdown
  generalize r.cycle host gain = done at houtcome
  cases houtcome with
  | idle hroom outcome hnothing =>
      rw [hroom] at hasked
      exact ⟨_, _, _, rfl, hasked, hnothing⟩
  | unscaled hasks fault =>
      rw [hasks.room] at hasked
      exact ⟨_, _, _, by rw [padded_full hfull], hasked, by simp⟩
  | @plain _ _ room staged hasks =>
      rw [hasks.room] at hasked
      obtain ⟨cause, hcause⟩ := h.fails room staged hasked
      have hafter := h.write room staged hasked
      rw [padded_full hfull]
      exact ⟨_, _, _, unharmed_deliverPlain (Prod.ext hcause rfl), hafter, by simp⟩
  | converted _ _ hthrough =>
      rw [hdirect] at hthrough
      exact absurd hthrough (by simp)

end DeviceRoute

namespace Session

/-- A session that renders on a route whose stream is down; all that can change about the route is
its mark. -/
structure Jammed (down : σ → Prop) (r : DeviceRoute κ) (mark : Option Nat) (s : Session σ κ) :
    Prop where
  /-- It renders. -/
  started : s.phase = .started
  /-- The stream is down. -/
  down : down s.host
  /-- The route. -/
  route : s.route = .device { r with onset := mark }

variable {r : DeviceRoute κ} {down : σ → Prop} {mark : Option Nat} {s : Session σ κ}

/-- What a section of a jammed session comes to: nothing is accepted, nothing leaves the ring, and a
mark that is set stays. -/
structure JammedOutcome (down : σ → Prop) (r : DeviceRoute κ) (mark : Option Nat) (t : Session σ κ)
    (l : Ledger) : Prop where
  /-- The session stays jammed. -/
  still : ∃ later, Jammed down r later t ∧ (mark ≠ none → later = mark)
  /-- No producer is told that a byte is taken, -/
  accepted : l.accepted = []
  /-- and no cycle takes one out. -/
  popped : l.popped = []

theorem Jammed.outcome {t : Session σ κ} (h : Jammed down r mark t) : JammedOutcome down r mark t {} :=
  ⟨⟨mark, h, fun _ => rfl⟩, rfl, rfl⟩

/-- What leaves the phase, the machine and the route alone leaves a session jammed. -/
theorem Jammed.jammedOutcome_same {t : Session σ κ} (h : Jammed down r mark s)
    (hphase : t.phase = s.phase)
    (hhost : t.host = s.host) (hroute : t.route = s.route) : JammedOutcome down r mark t {} := by
  refine Jammed.outcome ⟨hphase.trans h.started, ?_, hroute.trans h.route⟩
  rw [hhost]
  exact h.down

/-- **A feed finds the ring full**, and sets the mark if there is none. -/
theorem jammedOutcome_feedSection (h : Jammed down r mark s) (hfull : r.ring.free = 0)
    (chunk : List UInt8) (now : Instant) :
    JammedOutcome down r mark (s.feedSection chunk now).2
        { accepted := (s.feedSection chunk now).1.taken chunk }
      ∧ (chunk ≠ [] → s.switching = false →
        Jammed down r (some (mark.getD now.nanos)) (s.feedSection chunk now).2) := by
  unfold feedSection
  by_cases hempty : chunk.isEmpty = true
  · rw [if_pos hempty]
    have hchunk := List.isEmpty_iff.mp hempty
    exact ⟨⟨h.outcome.still, hchunk, rfl⟩, fun hsome => absurd hchunk hsome⟩
  · rw [if_neg hempty]
    by_cases hswitch : s.switching = true
    · rw [if_pos hswitch]
      refine ⟨⟨h.outcome.still, rfl, rfl⟩, fun _ hunmarked => ?_⟩
      rw [hswitch] at hunmarked
      exact absurd hunmarked (by simp)
    · rw [if_neg hswitch, h.route]
      dsimp only
      rw [if_pos h.started]
      have hnothing : ¬ 0 < (r.ring.append chunk).1 := by
        rw [Ring.append_count, hfull, Nat.min_zero]
        exact Nat.lt_irrefl 0
      unfold feedRoute
      dsimp only
      rw [if_neg hnothing]
      have hmarked : ∀ published, Jammed down r (some (mark.getD now.nanos))
          { s.withRoute ({ r with onset := mark }.mark now.nanos) with published } :=
        fun _ => ⟨h.started, h.down, rfl⟩
      refine ⟨⟨⟨_, hmarked _, fun hset => ?_⟩, rfl, rfl⟩, fun _ _ => hmarked _⟩
      obtain ⟨since, hsince⟩ := Option.ne_none_iff_exists'.mp hset
      rw [hsince]
      rfl

variable [Host σ] [Stage κ]

/-- **A turn of a drain task moves nothing.** -/
theorem jammedOutcome_drainTurn (h : Jammed down r mark s) (hdown : r.endpoint.Down down)
    (hdirect : r.stage = none) (hfull : r.ring.free = 0) (generation : Nat) :
    JammedOutcome down r mark (s.drainTurn generation).2 (s.entry (.turn generation)) := by
  unfold drainTurn entry
  dsimp only
  cases hcycle : s.cycle? generation with
  | none => exact h.outcome
  | some found =>
      obtain ⟨before, done⟩ := found
      obtain ⟨_, _, hr, hdone⟩ := cycle?_eq_some hcycle
      obtain rfl := Route.device.inj (h.route.symm.trans hr)
      obtain ⟨after, outcome, offered, hunmoved, hafter, hzero⟩ :=
        DeviceRoute.down_cycle (r := { r with onset := mark }) hdown hdirect hfull h.down s.gain
      obtain rfl := hdone.trans hunmoved
      refine ⟨⟨mark, ?_, fun _ => rfl⟩, rfl, rfl⟩
      dsimp only [DeviceRoute.unmoved]
      cases outcome with
      | error fault => exact ⟨h.started, hafter, rfl⟩
      | ok n =>
          obtain rfl := hzero n rfl
          exact ⟨h.started, hafter, rfl⟩

/-- **Every section leaves a jammed session jammed.** -/
theorem jammedOutcome_passing (h : Jammed down r mark s) (hdown : r.endpoint.Down down)
    (hdirect : r.stage = none) (hfull : r.ring.free = 0) {passing : Passing σ}
    (hstays : passing.Stays down) :
    JammedOutcome down r mark (s.passing passing) (s.entry passing) := by
  cases passing with
  | feed chunk now => exact (jammedOutcome_feedSection h hfull chunk now).1
  | turn generation => exact jammedOutcome_drainTurn h hdown hdirect hfull generation
  | pause =>
      have hwaited := hdown.waitReady s.host h.down
      show JammedOutcome down r mark s.pause.2 {}
      unfold pause
      rw [h.route]
      dsimp only
      split
      next hwait =>
        rw [hwait] at hwaited
        exact Jammed.outcome ⟨h.started, hwaited, rfl⟩
      next hwait =>
        rw [hwait] at hwaited
        exact Jammed.outcome ⟨h.started, hwaited, rfl⟩
  | leave generation =>
      show JammedOutcome down r mark (s.drainExited generation) {}
      rw [drainExited_eq]
      exact h.jammedOutcome_same rfl rfl rfl
  | stop => exact absurd hstays id
  | join =>
      obtain ⟨log, hlog⟩ := joinDrain_eq s
      show JammedOutcome down r mark s.joinDrain {}
      rw [hlog]
      exact h.jammedOutcome_same rfl rfl rfl
  | start =>
      show JammedOutcome down r mark s.startSection.2 {}
      unfold startSection
      rw [if_pos h.started]
      exact h.outcome
  | forget => exact h.jammedOutcome_same rfl rfl rfl
  | spawned generation => exact h.jammedOutcome_same rfl rfl rfl
  | refused generation reason =>
      obtain ⟨log, hlog⟩ := spawnRefused_eq s generation reason
      show JammedOutcome down r mark (s.spawnRefused generation reason) {}
      rw [hlog]
      exact h.jammedOutcome_same rfl rfl rfl
  | undo => exact absurd hstays id
  | switching => exact h.jammedOutcome_same rfl rfl rfl
  | switched => exact h.jammedOutcome_same rfl rfl rfl
  | gain gain => exact h.jammedOutcome_same rfl rfl rfl
  | elsewhere change => exact Jammed.outcome ⟨h.started, hstays s.host h.down, h.route⟩

/-- **And so does every run.** -/
theorem jammedOutcome_flow (hdown : r.endpoint.Down down) (hdirect : r.stage = none)
    (hfull : r.ring.free = 0) (run : List (Passing σ)) : ∀ {s : Session σ κ} {mark : Option Nat},
    Jammed down r mark s → (∀ passing ∈ run, passing.Stays down) →
      JammedOutcome down r mark (s.flow run).2 (s.flow run).1 := by
  induction run with
  | nil =>
      intro s mark h _
      exact h.outcome
  | cons passing rest ih =>
      intro s mark h hstays
      obtain ⟨⟨later, hlater, hkept⟩, haccepted, hpopped⟩ :=
        jammedOutcome_passing h hdown hdirect hfull (hstays passing List.mem_cons_self)
      obtain ⟨⟨last, hlast, hkept'⟩, haccepted', hpopped'⟩ :=
        ih hlater fun p hp => hstays p (List.mem_cons_of_mem _ hp)
      refine ⟨⟨last, hlast, fun hset => ?_⟩, ?_, ?_⟩
      · rw [hkept' (by rw [hkept hset]; exact hset), hkept hset]
      · show (s.entry passing).accepted ++ _ = []
        rw [haccepted, haccepted']
        rfl
      · unfold Ledger.popped at hpopped hpopped'
        show ((s.entry passing).movements ++ _).flatMap Movement.popped = []
        rw [List.flatMap_append, hpopped, hpopped']
        rfl

omit [Host σ] [Stage κ] in
/-- **A jammed session reports its stall** once the mark is old enough. -/
theorem Jammed.stalled {since : Nat} (h : Jammed down r (some since) s) {now : Instant}
    (hlate : 2 * max r.timing.bufferDuration.nanos r.timing.period.nanos < now.nanos - since) :
    s.feedAgain now = .error (.writeStalled ⟨now.nanos - since⟩) := by
  rcases s.feedAgain_cases now with ⟨other, hexpired, hagain⟩ | ⟨hnone, _⟩
  · obtain ⟨_, hr, honset, _⟩ := hexpired
    obtain rfl := Route.device.inj (h.route.symm.trans hr)
    rw [hagain, Option.some.inj honset]
  · exact absurd ⟨_, h.route, rfl, hlate⟩ (hnone since)

/-- **Failed writes cost no audio where there is no stage.**  Take any route, and a cycle on it
whose write fails.  Without a stage the cycle returns zero, the watchdog is as it was, and the ring
has what it had, with the silence behind it that it was filled up with, if any was missing; so
whatever cycle comes next offers the same audio from its beginning.  Behind a stage the cycle counts
what it has staged as written: these bytes have left the front of the ring, and the watchdog is
cleared.

Where every write fails and there is no stage, a feed on a full ring marks the watchdog unless it is
marked already, and however the session goes on to render from then on, its stall is reported once
the mark is old enough. -/
theorem failed_writes_keep_audio :
    (∀ (host after : σ) (r : DeviceRoute κ) (gain : Single) (data : List UInt8)
        (cause : RenderError), (r.cycle host gain).offered = some data →
      Host.write (Host.freeFrames host r.endpoint).2 r.endpoint data
          = (.error (.failed cause), after) →
        ∃ free requested room, DeviceRoute.Asks host r free requested room
          ∧ (r.stage = none →
            r.Fronts gain data
              ∧ r.Unharmed (r.amount requested - r.ring.len) (r.cycle host gain)
              ∧ ∀ (later : σ) (now : Single) (again : List UInt8),
                ((r.cycle host gain).route.cycle later now).offered = some again →
                  r.Fronts now again)
          ∧ ∀ stage, r.stage = some stage → ∃ staged, r.staged? gain requested = some staged
            ∧ (r.source.isSupported = true → staged.length = r.amount requested)
            ∧ r.Counted (r.amount requested - r.ring.len) staged.length (r.cycle host gain))
      ∧ ∀ (down : σ → Prop) (s : Session σ κ) (r : DeviceRoute κ) (chunk : List UInt8)
          (start now : Instant) (run : List (Passing σ)), s.route = .device r → r.stage = none →
        s.phase = .started → s.switching = false → r.ring.free = 0 → r.endpoint.Down down →
        down s.host → chunk ≠ [] → (∀ passing ∈ run, passing.Stays down) →
        2 * max r.timing.bufferDuration.nanos r.timing.period.nanos
            < now.nanos - r.onset.getD start.nanos →
          (s.flow (.feed chunk start :: run)).2.feedAgain now
            = .error (.writeStalled ⟨now.nanos - r.onset.getD start.nanos⟩) := by
  refine ⟨?_, ?_⟩
  · intro host after r gain data cause hoffered hfailed
    obtain ⟨free, requested, room, hasks, hcases⟩ := DeviceRoute.failed_cycle hoffered hfailed
    refine ⟨free, requested, room, hasks, fun hdirect => ?_, fun stage hthrough => ?_⟩
    · rcases hcases with ⟨_, hfronts, hunharmed⟩ | ⟨stage, _, hthrough, _⟩
      · exact ⟨hfronts, hunharmed, fun later now again hagain => hunharmed.again hdirect hagain⟩
      · rw [hdirect] at hthrough
        exact absurd hthrough (by simp)
    · rcases hcases with ⟨hdirect, _⟩ | ⟨_, staged, _, hstaged, hcounted⟩
      · rw [hdirect] at hthrough
        exact absurd hthrough (by simp)
      · exact ⟨staged, hstaged, fun h => DeviceRoute.length_staged? h hstaged, hcounted⟩
  · intro down s r chunk start now run hr hdirect hstarted hunmarked hfull hdown hhost hchunk
      hstays hlate
    have hjammed : Jammed down r r.onset s := ⟨hstarted, hhost, hr⟩
    have hmarked := (jammedOutcome_feedSection hjammed hfull chunk start).2 hchunk hunmarked
    obtain ⟨last, hlast, hkept⟩ := (jammedOutcome_flow hdown hdirect hfull run hmarked hstays).still
    obtain rfl := hkept (by simp)
    exact hlast.stalled hlate

/-- The speaker has taken the silence of the ring and fails from then on, with room for two frames.
One frame is queued. -/
def deafened : List (Passing DeviceBank) :=
  [.start, .spawned 1, .turn 1, .feed [0xe8, 0x03] ⟨0, 0⟩, .elsewhere (·.setFree "speaker" 2),
    .elsewhere (·.setFault "speaker" .write true)]

end Session

namespace DeviceBank

/-- The device of an identifier, if it is there, fails every write. -/
def FailsWrites (id : String) (b : DeviceBank) : Prop := ∀ d, b.find? id = some d → d.has .write = true

/-- Calls that leave the faults of a device leave it deaf. -/
theorem failsWrites_on {ρ : Type} {b : DeviceBank} {id : String} (h : b.FailsWrites id) (absent : ρ)
    {call : Device → ρ × Device}
    (hcall : ∀ d, (call d).2.id = d.id ∧ (call d).2.faults = d.faults) :
    (b.on id absent call).2.FailsWrites id := by
  unfold on
  cases hd : b.find? id with
  | none => exact h
  | some d =>
      intro later hlater
      obtain ⟨hid, hfaults⟩ := hcall d
      rw [find?_put hd (hid.trans (id_of_find? hd))] at hlater
      obtain rfl := Option.some.inj hlater
      show decide _ = true
      rw [hfaults]
      exact h d hd

/-- **Every write to a device fails once its writes were made to fail.** -/
theorem down_deaf (e : Endpoint) : e.Down (FailsWrites e.device) where
  fails host data h := by
    cases hd : host.find? e.device with
    | none => exact ⟨missing e.device, by simp only [Host.write, on, hd]⟩
    | some d =>
        refine ⟨d.faultError "write", ?_⟩
        simp only [Host.write, on, hd]
        unfold Device.write
        rw [if_pos (h d hd)]
  write host data h := by
    refine failsWrites_on h _ fun d => ?_
    unfold Device.write
    split
    · exact ⟨rfl, rfl⟩
    · split <;> exact ⟨rfl, rfl⟩
  freeFrames host h := by
    refine failsWrites_on h _ fun d => ?_
    unfold Device.freeFrames
    split
    · exact ⟨rfl, rfl⟩
    · dsimp only
      split <;> split <;> exact ⟨rfl, rfl⟩
  waitReady host h := by
    refine failsWrites_on h _ fun d => ?_
    unfold Device.waitReady
    split <;> exact ⟨rfl, rfl⟩

end DeviceBank

namespace Session

/-- The queued frame is offered with silence behind it and stays in front of the ring; and a speaker
that fails before it has taken anything is reported after twice its period. -/
theorem failed_writes_keep_audio_deafened :
    ∃ t u r, quietSpeaker.openSection = (.ok (), t) ∧ (t.flow deafened).2 = u
      ∧ u.route = .device r ∧ r.stage = none ∧ r.ring.content = [0xe8, 0x03]
      ∧ (r.cycle u.host u.gain).offered = some [0xe8, 0x03, 0, 0]
      ∧ (∃ silence, r.Unharmed silence (r.cycle u.host u.gain))
      ∧ ((t.flow [.start, .spawned 1, .elsewhere (·.setFault "speaker" .write true)]).2.flow
          [.feed [1, 2] ⟨5, 0⟩, .turn 1, .pause, .turn 1]).2.feedAgain ⟨20000006, 0⟩
        = .error (.writeStalled ⟨20000001⟩) := by
  have hopen : quietSpeaker.openSection = (.ok (), quietSpeaker.openSection.2) := rfl
  obtain ⟨hcycle, hstall⟩ :=
    failed_writes_keep_audio (σ := DeviceBank) (κ := LinearResampler Double Single)
  have hoffered : ((quietSpeaker.openSection.2.flow deafened).2.deviceRoute?.bind fun r =>
      (r.cycle (quietSpeaker.openSection.2.flow deafened).2.host
        (quietSpeaker.openSection.2.flow deafened).2.gain).offered) = some [0xe8, 0x03, 0, 0] := by
    decide +kernel
  have hdeaf : DeviceBank.FailsWrites "speaker" (quietSpeaker.openSection.2.flow
      [.start, .spawned 1, .elsewhere (·.setFault "speaker" .write true)]).2.host := by
    intro d hd
    have hfault : ((quietSpeaker.openSection.2.flow [.start, .spawned 1,
        .elsewhere (·.setFault "speaker" .write true)]).2.host.find? "speaker").all (·.has .write)
        = true := by decide +kernel
    rw [hd] at hfault
    exact hfault
  refine ⟨_, (quietSpeaker.openSection.2.flow deafened).2, _, hopen, rfl, rfl, rfl,
    by decide +kernel, hoffered, ?_, ?_⟩
  · obtain ⟨_, _, _, _, hplain, _⟩ := hcycle _ _ _ _ _ _ hoffered rfl
    exact ⟨_, (hplain rfl).2.1⟩
  · exact hstall (DeviceBank.FailsWrites "speaker") _ _ [1, 2] ⟨5, 0⟩ ⟨20000006, 0⟩
      [.turn 1, .pause, .turn 1] rfl rfl rfl rfl (by decide +kernel) (DeviceBank.down_deaf _) hdeaf
      (by simp) (by simp [Passing.Stays]) (by decide +kernel)

/-- A session over a speaker that takes wider samples only. -/
def wideSpeaker : Session DeviceBank (LinearResampler Double Single) where
  host := { devices := [{ id := "speaker", name := "Speaker", bufferFrames := 4, free := 4,
                          accepted := some [Format.pcm 8000 24 1] }] }
  config := {}
  source := Format.pcm 8000 16 1
  selected := some "speaker"
  period := Timing.defaultPeriod

/-- **A failed write can cost something.**  In front of the first speaker the ring is left with
silence that it did not have; in front of the second one the queued frame is lost, and the cycle
says that it has moved it and the silence behind it. -/
theorem failed_writes_are_not_free :
    (∃ u r cause after, (quietSpeaker.openSection.2.flow deafened).2 = u ∧ u.route = .device r
      ∧ (r.cycle u.host u.gain).offered = some [0xe8, 0x03, 0, 0]
      ∧ Host.write (Host.freeFrames u.host r.endpoint).2 r.endpoint [0xe8, 0x03, 0, 0]
        = (.error (.failed cause), after)
      ∧ r.ring.content = [0xe8, 0x03]
      ∧ (r.cycle u.host u.gain).route.ring.content = [0xe8, 0x03, 0, 0])
    ∧ ∃ u r cause after, (wideSpeaker.openSection.2.flow deafened).2 = u ∧ u.route = .device r
      ∧ (r.cycle u.host u.gain).offered = some [0, 0xe8, 0x03, 0, 0, 0]
      ∧ Host.write (Host.freeFrames u.host r.endpoint).2 r.endpoint [0, 0xe8, 0x03, 0, 0, 0]
        = (.error (.failed cause), after)
      ∧ r.ring.content = [0xe8, 0x03]
      ∧ (r.cycle u.host u.gain).outcome = .ok 4
      ∧ (r.cycle u.host u.gain).route.ring.content = [] :=
  ⟨⟨_, _, _, _, rfl, rfl, by decide +kernel, rfl, by decide +kernel, by decide +kernel⟩,
    ⟨_, _, _, _, rfl, rfl, by decide +kernel, rfl, by decide +kernel, rfl, by decide +kernel⟩⟩

end Session

end PcmRender
