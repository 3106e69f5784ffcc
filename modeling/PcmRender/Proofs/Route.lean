/-
  PcmRender.Proofs.Route — **what stays of a device route for as long as it is open.**

  While a route is open its ring, the inside of its conversion stage and its watchdog change.  Its
  device, endpoint, formats and pace do not, nor does the size of the ring or whether there is a
  stage.  `DeviceRoute.Continues` says that one route is another one at a later time in this sense,
  and `DeviceRoute.Fits` what a route that was just built is like:

      source    the format that the session feeds
      channels  the same on both sides
      stage     present exactly where the formats differ
      ring      one device buffer of source frames, and not empty

  A route that continues a fitting one fits, so `Fits` is proved once, of `DeviceRoute.build`.  What
  can come of building one is listed in `BuildOutcome`.
-/
import PcmRender.Proofs.Ring
import PcmRender.Route

namespace PcmRender

/-! ## §1. Paces. -/

namespace Timing

variable {device : Format} {bufferFrames : Nat} {reported : Option Duration} {usual : Duration}

/-- A count that is cut to its field can only become smaller. -/
theorem periodFrames_le :
    (derive device bufferFrames reported usual).periodFrames
      ≤ (derive device bufferFrames reported usual).period.millis * device.rate / 1000 :=
  Nat.le_trans (Nat.mod_le _ _) (Nat.div_le_div_right (Nat.mul_le_mul_right _ (Nat.mod_le _ _)))

/-- The pace of a device keeps to the widths that it is reckoned in: the milliseconds of its period
times its rate to 64 bits, and twice its period or its buffer, whichever is longer, to a duration. -/
def Countable (device : Format) (bufferFrames : Nat) (reported : Option Duration)
    (usual : Duration) : Prop :=
  Format.word64 (derive device bufferFrames reported usual).period.millis * device.rate < Nat.pow 2 64
    ∧ (derive device bufferFrames reported usual).watchdog < Duration.limit

instance (device : Format) (bufferFrames : Nat) (reported : Option Duration) (usual : Duration) :
    Decidable (Countable device bufferFrames reported usual) :=
  inferInstanceAs (Decidable (_ ∧ _))

theorem watchdog?_eq_none_iff {t : Timing} : t.watchdog? = none ↔ Duration.limit ≤ t.watchdog := by
  unfold watchdog?
  split
  next hshort => exact iff_of_false (by simp) (Nat.not_le.mpr hshort)
  next hlong => exact iff_of_true rfl (Nat.not_lt.mp hlong)

theorem derive?_eq_none_iff : derive? device bufferFrames reported usual = none
    ↔ Nat.pow 2 64
      ≤ Format.word64 (derive device bufferFrames reported usual).period.millis * device.rate := by
  unfold derive?
  dsimp only
  split
  next hcounted => exact iff_of_false (by simp) (Nat.not_le.mpr hcounted)
  next hlong => exact iff_of_true rfl (Nat.not_lt.mp hlong)

/-- A pace is what was derived, if its frames are counted. -/
theorem derive?_eq_some {t : Timing} (h : derive? device bufferFrames reported usual = some t) :
    t = derive device bufferFrames reported usual
      ∧ Format.word64 t.period.millis * device.rate < Nat.pow 2 64 := by
  unfold derive? at h
  dsimp only at h
  split at h
  next hcounted =>
    obtain rfl := Option.some.inj h
    exact ⟨rfl, hcounted⟩
  · exact absurd h (by simp)

end Timing

namespace DeviceRoute

variable {κ : Type}

/-! ## §2. The same route later. -/

/-- `later` is the route `r` at a later time. -/
structure Continues (r later : DeviceRoute κ) : Prop where
  /-- The device is the same. -/
  device : later.device = r.device
  /-- So is its stream, -/
  endpoint : later.endpoint = r.endpoint
  /-- the format of the bytes in the ring, -/
  source : later.source = r.source
  /-- the pace, -/
  timing : later.timing = r.timing
  /-- whether there is a conversion, -/
  stage : later.stage.isSome = r.stage.isSome
  /-- and the size of the ring. -/
  capacity : later.ring.capacity = r.ring.capacity

theorem Continues.refl (r : DeviceRoute κ) : Continues r r := ⟨rfl, rfl, rfl, rfl, rfl, rfl⟩

theorem Continues.trans {a b c : DeviceRoute κ} (h : Continues a b) (k : Continues b c) :
    Continues a c :=
  ⟨k.device.trans h.device, k.endpoint.trans h.endpoint, k.source.trans h.source,
    k.timing.trans h.timing, k.stage.trans h.stage, k.capacity.trans h.capacity⟩

/-- A route that continues one without a conversion has none. -/
theorem Continues.plain {r later : DeviceRoute κ} (h : Continues r later) (hr : r.stage = none) :
    later.stage = none := by
  rw [← Option.not_isSome_iff_eq_none, h.stage, hr]
  exact Bool.false_ne_true

/-- Another ring of the same size. -/
theorem continues_ring (r : DeviceRoute κ) (ring : Ring) (h : ring.capacity = r.ring.capacity) :
    Continues r { r with ring := ring } := ⟨rfl, rfl, rfl, rfl, rfl, h⟩

theorem continues_clear (r : DeviceRoute κ) : Continues r r.clear := ⟨rfl, rfl, rfl, rfl, rfl, rfl⟩

theorem continues_mark (r : DeviceRoute κ) (now : Nat) : Continues r (r.mark now) :=
  ⟨rfl, rfl, rfl, rfl, rfl, rfl⟩

/-! ## §3. A route that was just built. -/

/-- What a device route of a session that feeds `fed` is like. -/
structure Fits (fed : Format) (r : DeviceRoute κ) : Prop where
  /-- The ring holds what the session feeds. -/
  source : r.source = fed
  /-- The device renders as many channels. -/
  channels : r.endpoint.format.channels = fed.channels
  /-- There is a conversion exactly where the formats differ. -/
  stage : r.stage.isSome = needsConversion fed r.endpoint.format
  /-- The pace is that of the endpoint. -/
  frames : r.timing.bufferFrames = r.endpoint.bufferFrames
  /-- The ring holds one device buffer of source frames. -/
  capacity : r.ring.capacity = r.timing.bufferFrames * fed.align
  /-- That is something. -/
  capacity_pos : 0 < r.ring.capacity
  /-- No more is valid than there are cells. -/
  len_le : r.ring.len ≤ r.ring.capacity

theorem Fits.of_continues {fed : Format} {r later : DeviceRoute κ} (h : Fits fed r)
    (k : Continues r later) : Fits fed later where
  source := k.source.trans h.source
  channels := by rw [k.endpoint, h.channels]
  stage := by rw [k.stage, k.endpoint, h.stage]
  frames := by rw [k.timing, k.endpoint, h.frames]
  capacity := by rw [k.capacity, k.timing, h.capacity]
  capacity_pos := by rw [k.capacity]; exact h.capacity_pos
  len_le := later.ring.len_le_capacity

variable [Stage κ]

/-- Whether there is a conversion, by the formats alone. -/
theorem isSome_of_between {source device : Format} {stage : Option κ}
    (h : Stage.between κ source device = .ok stage) :
    stage.isSome = needsConversion source device := by
  unfold Stage.between at h
  cases hc : needsConversion source device with
  | false =>
      rw [hc] at h
      injection h with h
      rw [← h]
      rfl
  | true =>
      rw [hc, if_pos rfl] at h
      cases hs : Stage.create (κ := κ) source (Stage.outputFormat source device) with
      | error e => rw [hs] at h; exact absurd h (by simp [Except.map])
      | ok k =>
          rw [hs] at h
          injection h with h
          rw [← h]
          rfl

/-- The parts of a route, put together. -/
def assemble (device : String) (source : Format) (endpoint : Endpoint) (timing : Timing)
    (stage : Option κ) : DeviceRoute κ where
  device := device
  endpoint := endpoint
  source := source
  timing := timing
  ring := Ring.silent (ringSize source timing)
  stage := stage
  onset := none

variable {device : String} {source : Format} {endpoint : Endpoint} {usual : Duration}

/-- **How a route can be built**, and how not. -/
inductive BuildOutcome (device : String) (source : Format) (endpoint : Endpoint)
    (usual : Duration) : Except Fault (DeviceRoute κ) → Prop
  /-- Its frames cannot be counted. -/
  | uncounted (long : Timing.derive? endpoint.format endpoint.bufferFrames endpoint.period usual = none) :
      BuildOutcome device source endpoint usual (.error .overflow)
  /-- There is no conversion. -/
  | unconverted {timing : Timing} {e : RenderError}
      (pace : Timing.derive? endpoint.format endpoint.bufferFrames endpoint.period usual = some timing)
      (refused : Stage.between κ source endpoint.format = .error e) :
      BuildOutcome device source endpoint usual (.error (.error (.initFailed device e.message)))
  /-- There is no buffer. -/
  | empty {timing : Timing} {stage : Option κ}
      (pace : Timing.derive? endpoint.format endpoint.bufferFrames endpoint.period usual = some timing)
      (conversion : Stage.between κ source endpoint.format = .ok stage)
      (nothing : ringSize source timing = 0) :
      BuildOutcome device source endpoint usual
        (.error (.error (.initFailed device "endpoint buffer is empty")))
  /-- Twice its period is no duration. -/
  | endless {timing : Timing} {stage : Option κ}
      (pace : Timing.derive? endpoint.format endpoint.bufferFrames endpoint.period usual = some timing)
      (conversion : Stage.between κ source endpoint.format = .ok stage)
      (some : 0 < ringSize source timing) (long : timing.watchdog? = none) :
      BuildOutcome device source endpoint usual (.error .overflow)
  /-- It is built. -/
  | built {timing : Timing} {stage : Option κ}
      (pace : Timing.derive? endpoint.format endpoint.bufferFrames endpoint.period usual = some timing)
      (conversion : Stage.between κ source endpoint.format = .ok stage)
      (some : 0 < ringSize source timing) (short : timing.watchdog?.isSome = true) :
      BuildOutcome device source endpoint usual (.ok (assemble device source endpoint timing stage))

theorem build_outcome (device : String) (source : Format) (endpoint : Endpoint) (usual : Duration) :
    BuildOutcome device source endpoint usual
      (build device source endpoint usual : Except Fault (DeviceRoute κ)) := by
  unfold build
  split
  next hnone => exact .uncounted hnone
  next timing hpace =>
    split
    next e hrefused => exact .unconverted hpace hrefused
    next stage hstage =>
      split
      next hempty => exact .empty hpace hstage hempty
      next hsome =>
        split
        next hlong =>
          exact .endless hpace hstage (Nat.pos_of_ne_zero hsome) (Option.isNone_iff_eq_none.mp hlong)
        next hshort =>
          exact .built hpace hstage (Nat.pos_of_ne_zero hsome)
            (Option.isSome_iff_ne_none.mpr (mt Option.isNone_iff_eq_none.mpr hshort))

/-- **What a built route was put together from.** -/
theorem assembled_of_build {r : DeviceRoute κ} (h : build device source endpoint usual = .ok r) :
    ∃ timing stage, r = assemble device source endpoint timing stage
      ∧ Timing.derive? endpoint.format endpoint.bufferFrames endpoint.period usual = some timing
      ∧ timing.watchdog?.isSome = true
      ∧ Stage.between κ source endpoint.format = .ok stage ∧ 0 < ringSize source timing := by
  have houtcome := build_outcome (κ := κ) device source endpoint usual
  rw [h] at houtcome
  cases houtcome with
  | built hpace hstage hsome hshort => exact ⟨_, _, rfl, hpace, hshort, hstage, hsome⟩

/-- **What building a route gives**: all its parts are named here. -/
theorem build_ok {r : DeviceRoute κ} (h : build device source endpoint usual = .ok r) :
    r.device = device ∧ r.endpoint = endpoint ∧ r.source = source
      ∧ r.timing = Timing.derive endpoint.format endpoint.bufferFrames endpoint.period usual
      ∧ r.ring = Ring.silent (ringSize source r.timing) ∧ 0 < ringSize source r.timing
      ∧ r.stage.isSome = needsConversion source endpoint.format ∧ r.onset = none := by
  obtain ⟨timing, stage, rfl, hpace, _, hstage, hsome⟩ := assembled_of_build h
  exact ⟨rfl, rfl, rfl, (Timing.derive?_eq_some hpace).1, rfl, hsome, isSome_of_between hstage, rfl⟩

/-- **Only over an endpoint with a countable pace** a route is built. -/
theorem countable_of_build {r : DeviceRoute κ} (h : build device source endpoint usual = .ok r) :
    Timing.Countable endpoint.format endpoint.bufferFrames endpoint.period usual := by
  obtain ⟨timing, _, rfl, hpace, hshort, _⟩ := assembled_of_build h
  obtain ⟨rfl, hcounted⟩ := Timing.derive?_eq_some hpace
  refine ⟨hcounted, Nat.not_le.mp fun hlong => ?_⟩
  rw [Timing.watchdog?_eq_none_iff.mpr hlong] at hshort
  exact absurd hshort (by simp)

/-- The pace over an endpoint leaves its widths where a route is built: in the frames of its period,
or, if there is a conversion and something to lay in front of it, in the time after which it counts as
stalled. -/
def Unpaced (κ : Type) [Stage κ] (source : Format) (endpoint : Endpoint) (usual : Duration) : Prop :=
  Nat.pow 2 64 ≤ Format.word64 (Timing.derive endpoint.format endpoint.bufferFrames endpoint.period
      usual).period.millis * endpoint.format.rate
    ∨ (∃ stage, Stage.between κ source endpoint.format = .ok stage)
      ∧ 0 < endpoint.bufferFrames * source.align
      ∧ Duration.limit ≤ (Timing.derive endpoint.format endpoint.bufferFrames endpoint.period
        usual).watchdog

theorem not_unpaced_of_countable
    (h : Timing.Countable endpoint.format endpoint.bufferFrames endpoint.period usual) :
    ¬ Unpaced κ source endpoint usual := by
  rintro (hlong | ⟨_, _, hlong⟩)
  · exact Nat.not_le.mpr h.1 hlong
  · exact Nat.not_le.mpr h.2 hlong

/-- **Building a route overflows exactly if its pace does.** -/
theorem build_overflow_iff :
    (build device source endpoint usual : Except Fault (DeviceRoute κ)) = .error .overflow
      ↔ Unpaced κ source endpoint usual := by
  have houtcome := build_outcome (κ := κ) device source endpoint usual
  generalize hbuild : (build device source endpoint usual : Except Fault (DeviceRoute κ)) = done
    at houtcome
  cases houtcome with
  | uncounted hnone => exact iff_of_true rfl (.inl (Timing.derive?_eq_none_iff.mp hnone))
  | @unconverted timing e hpace hrefused =>
      obtain ⟨rfl, hcounted⟩ := Timing.derive?_eq_some hpace
      refine iff_of_false (by simp) ?_
      rintro (hlong | ⟨⟨stage, hstage⟩, _⟩)
      · exact Nat.not_le.mpr hcounted hlong
      · exact absurd (hstage.symm.trans hrefused) (by simp)
  | empty hpace _ hnothing =>
      obtain ⟨rfl, hcounted⟩ := Timing.derive?_eq_some hpace
      refine iff_of_false (by simp) ?_
      rintro (hlong | ⟨_, hsome, _⟩)
      · exact Nat.not_le.mpr hcounted hlong
      · exact absurd hnothing (Nat.ne_of_gt hsome)
  | endless hpace hstage hsome hlong =>
      obtain ⟨rfl, _⟩ := Timing.derive?_eq_some hpace
      exact iff_of_true rfl (.inr ⟨⟨_, hstage⟩, hsome, Timing.watchdog?_eq_none_iff.mp hlong⟩)
  | built => exact iff_of_false (by simp) (not_unpaced_of_countable (countable_of_build hbuild))

/-- **Where there is a conversion and a buffer** a route is built if the pace is countable. -/
theorem build_countable {stage : Option κ} (hstage : Stage.between κ source endpoint.format = .ok stage)
    (hbuffer : 0 < endpoint.bufferFrames * source.align)
    (hcountable : Timing.Countable endpoint.format endpoint.bufferFrames endpoint.period usual) :
    build device source endpoint usual
      = .ok (assemble device source endpoint (Timing.derive endpoint.format endpoint.bufferFrames
          endpoint.period usual) stage) := by
  have hpace : Timing.derive? endpoint.format endpoint.bufferFrames endpoint.period usual
      = some (Timing.derive endpoint.format endpoint.bufferFrames endpoint.period usual) :=
    if_pos hcountable.1
  have hshort : (Timing.derive endpoint.format endpoint.bufferFrames endpoint.period
      usual).watchdog? = some _ := if_pos hcountable.2
  unfold build
  rw [hpace]
  dsimp only
  rw [hstage, hshort]
  exact (if_neg (Nat.ne_of_gt hbuffer)).trans (if_neg (by simp))

/-- The stage of a route is the one between the formats of its source and of its endpoint. -/
theorem between_of_build {r : DeviceRoute κ} (h : build device source endpoint usual = .ok r) :
    Stage.between κ source endpoint.format = .ok r.stage := by
  obtain ⟨_, _, rfl, _, _, hstage, _⟩ := assembled_of_build h
  exact hstage

/-- A stage that is there was made between the two formats. -/
theorem create_of_between {source device : Format} {stage : κ}
    (h : Stage.between κ source device = .ok (some stage)) :
    Stage.create source (Stage.outputFormat source device) = .ok stage := by
  unfold Stage.between at h
  split at h
  · cases hs : Stage.create (κ := κ) source (Stage.outputFormat source device) with
    | error e => rw [hs] at h; exact absurd h (by simp [Except.map])
    | ok made =>
        rw [hs] at h
        injection h with h
        rw [Option.some.inj h]
  · exact absurd h (by simp)

theorem fits_of_build {r : DeviceRoute κ} (hch : endpoint.format.channels = source.channels)
    (h : build device source endpoint usual = .ok r) : Fits source r := by
  obtain ⟨_, hend, hsrc, htim, hring, hpos, hstage, _⟩ := build_ok h
  have hcap : r.ring.capacity = ringSize source r.timing := by rw [hring, Ring.capacity_silent]
  exact
    { source := hsrc
      channels := by rw [hend, hch]
      stage := by rw [hend, hstage]
      frames := by rw [htim, hend]; rfl
      capacity := hcap
      capacity_pos := by rw [hcap]; exact hpos
      len_le := r.ring.len_le_capacity }

end DeviceRoute

end PcmRender
