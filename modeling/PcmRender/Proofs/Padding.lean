/-
  PcmRender.Proofs.Padding — **when a cycle puts silence into the ring.**

  A cycle fills the ring up to what it writes.  How much that is depends on what is requested and on
  the period of the device:

      requested ≤ queued                     what is requested, which is there
      periodFrames ≤ queued < requested      what is queued, without silence
      queued < requested and periodFrames    what is requested, with silence behind what is queued

  A period is counted in frames of the device here, and the queue in frames of the source.  As long
  as the device is not the faster one, less than a period of the source is queued where silence is
  put in (`silence_below_device_period`).  A faster device plays more frames in a period than the
  source has in it, and a cycle puts silence behind a queue that holds a period and more
  (`silence_behind_a_period`).
-/
import PcmRender.DeviceBank
import PcmRender.Proofs.Offering
import PcmRender.Stage.Linear

namespace PcmRender

/-! ## §1. Periods. -/

/-- Fewer frames than a period of the device has are played in less time. -/
theorem Timing.lt_periodFrames {device : Format} {bufferFrames : Nat} {reported : Option Duration}
    {usual : Duration} {frames : Nat}
    (h : frames < (Timing.derive device bufferFrames reported usual).periodFrames) :
    frames * 1000
      < (Timing.derive device bufferFrames reported usual).period.millis * device.rate := by
  have hframes : frames < (Timing.derive device bufferFrames reported usual).period.millis
      * device.rate / 1000 := Nat.lt_of_lt_of_le h Timing.periodFrames_le
  omega

namespace DeviceRoute

variable {σ κ : Type} {r : DeviceRoute κ} {host after : σ} {free requested : Nat}

/-! ## §2. Silence. -/

/-- A cycle has put silence into the ring: what it took out and what it left is more than was
there. -/
def Fills (r : DeviceRoute κ) (done : Cycled σ κ) : Prop :=
  r.ring.len < done.popped.length + done.route.ring.len

theorem Splits.balance {content : List UInt8} {done : Cycled σ κ} (h : Splits content done) :
    done.popped.length + done.route.ring.len = content.length := by
  unfold Splits at h
  rw [← h, List.length_append, Ring.length_content]

/-- **When the ring has less than is written**: less is queued than was requested and than a period
of the device has frames, and there is room for more. -/
theorem len_lt_amount_iff (haligned : 0 < r.source.align) (requested : Nat) :
    r.ring.len < r.amount requested
      ↔ r.queued < requested ∧ r.queued < r.timing.periodFrames
        ∧ r.ring.len < r.ring.capacity := by
  have hqueued : r.queued * r.source.align ≤ r.ring.len := Nat.div_mul_le_self _ _
  have hless : ∀ frames, r.queued < frames ↔ r.ring.len < frames * r.source.align :=
    fun _ => Nat.div_lt_iff_lt_mul haligned
  unfold amount frames
  by_cases hperiod : r.queued < requested ∧ r.timing.periodFrames ≤ r.queued
  · -- Only what is queued is written.
    rw [if_pos hperiod]
    omega
  · rw [if_neg hperiod, Nat.lt_min, ← hless]
    omega

variable [Host σ] [Stage κ]

/-- What a cycle that has asked takes out and leaves is the ring as it was filled up. -/
theorem splits_asks (h : Asks host r free requested after) (gain : Single) :
    Splits (r.padded requested).ring.content (r.cycle host gain) := by
  rw [cycle_asks h]
  unfold deliver
  dsimp only
  split
  · exact splits_unmoved _ (r.padded requested) _ _
  · split
    · exact splits_unmoved _ (r.padded requested) _ _
    · split
      · exact splits_deliverPlain _ (r.padded requested) _
      · exact splits_deliverConverted _ (r.padded requested) _ _

/-- **A cycle that has asked puts silence in exactly if the ring has less than it writes.** -/
theorem fills_asks (h : Asks host r free requested after) (gain : Single) :
    r.Fills (r.cycle host gain) ↔ r.ring.len < r.amount requested := by
  unfold Fills
  rw [(splits_asks h gain).balance, Ring.length_content, len_padded]
  omega

/-- A cycle that puts silence in has asked. -/
theorem asks_of_fills {gain : Single} (h : r.Fills (r.cycle host gain)) :
    ∃ free requested after, Asks host r free requested after
      ∧ r.ring.len < r.amount requested := by
  rcases r.splits_cycle host gain with hsplits | ⟨free, requested, after, hasks, _⟩
  · unfold Fills at h
    rw [hsplits.balance, Ring.length_content] at h
    exact absurd h (Nat.lt_irrefl _)
  · exact ⟨free, requested, after, hasks, (fills_asks hasks gain).mp h⟩

/-- Bytes that are the first ones of the ring, scaled, or what the stage makes of these. -/
structure OffersQueued (r : DeviceRoute κ) (gain : Single) (data staged : List UInt8)
    (amount : Nat) : Prop where
  /-- They are there, -/
  queued : amount ≤ r.ring.len
  /-- and are scaled. -/
  scaled : Gain.scaleBytes? r.source gain (r.ring.content.take amount) = some staged
  /-- Without a stage they are offered, -/
  direct : r.stage = none → data = staged
  /-- and otherwise what they are converted to. -/
  converted : ∀ stage, r.stage = some stage → ∃ conversion,
    Stage.process? stage staged = some conversion ∧ conversion.output = data

/-- **A cycle that puts no silence in offers what is queued.** -/
theorem offersQueued_cycle {gain : Single} (h : ¬ r.Fills (r.cycle host gain)) {data : List UInt8}
    (hoffered : (r.cycle host gain).offered = some data) :
    ∃ staged amount, r.OffersQueued gain data staged amount := by
  have henough : ∀ {free requested : Nat} {after : σ}, Asks host r free requested after →
      r.amount requested ≤ r.ring.len :=
    fun hasks => Nat.le_of_not_lt (mt (fills_asks hasks gain).mpr h)
  have hoffers := offers_cycle hoffered
  generalize r.cycle host gain = done at hoffers
  cases hoffers with
  | plain hasks hscaled hdirect =>
      unfold staged? at hscaled
      rw [padded_enough (henough hasks)] at hscaled
      refine ⟨data, _, henough hasks, hscaled, fun _ => rfl, fun stage hthrough => ?_⟩
      rw [hdirect] at hthrough
      exact absurd hthrough (by simp)
  | @converted _ requested _ staged stage conversion hasks hscaled hthrough hprocess _ houtput =>
      unfold staged? at hscaled
      rw [padded_enough (henough hasks)] at hscaled
      refine ⟨staged, _, henough hasks, hscaled, fun hdirect => ?_, fun other hother => ?_⟩
      · rw [hdirect] at hthrough
        exact absurd hthrough (by simp)
      · obtain rfl := Option.some.inj (hthrough.symm.trans hother)
        exact ⟨conversion, hprocess, houtput⟩

/-- **Silence is put in where less than a period of the device is queued.**  Take a route that was
built and is in use, with whatever its ring holds, and a cycle on a machine with whatever room.

A cycle puts silence in exactly if less is queued than was requested and less than a period of the
device has frames, and if the ring is not full.  So the queue, counted as frames of the device,
plays for less than the whole milliseconds of its period; and if the device is not faster than the
source, it plays for less than these as what it is, frames of the source.

Any other cycle takes and leaves what was there, and offers only audio that was queued. -/
theorem silence_below_device_period {device : String} {source : Format} {endpoint : Endpoint}
    {usual : Duration} {built : DeviceRoute κ}
    (hbuilt : build device source endpoint usual = .ok built) (hcont : built.Continues r)
    (host : σ) (gain : Single) :
    (∀ free requested after, Asks host r free requested after →
        (r.Fills (r.cycle host gain) ↔ r.queued < requested
          ∧ r.queued < r.timing.periodFrames ∧ r.ring.len < r.ring.capacity))
      ∧ (r.Fills (r.cycle host gain) →
        r.queued * 1000 < r.timing.period.millis * endpoint.format.rate
          ∧ (endpoint.format.rate ≤ source.rate →
            r.queued * 1000 < r.timing.period.millis * source.rate))
      ∧ (¬ r.Fills (r.cycle host gain) → Splits r.ring.content (r.cycle host gain)
        ∧ ∀ data, (r.cycle host gain).offered = some data →
          ∃ staged amount, r.OffersQueued gain data staged amount) := by
  obtain ⟨_, _, _, htiming, _⟩ := build_ok hbuilt
  refine ⟨fun free requested after hasks => ?_, fun hfills => ?_, fun hnone => ⟨?_, fun data =>
    offersQueued_cycle hnone⟩⟩
  · rw [fills_asks hasks gain, len_lt_amount_iff hasks.aligned]
  · obtain ⟨free, requested, after, hasks, hless⟩ := asks_of_fills hfills
    obtain ⟨_, hperiod, _⟩ := (len_lt_amount_iff hasks.aligned requested).mp hless
    rw [hcont.timing, htiming] at hperiod ⊢
    have hplays := Timing.lt_periodFrames hperiod
    exact ⟨hplays, fun hslow => Nat.lt_of_lt_of_le hplays (Nat.mul_le_mul_left _ hslow)⟩
  · rcases r.splits_cycle host gain with hsplits | ⟨free, requested, after, hasks, hsplits⟩
    · exact hsplits
    · rw [padded_enough (Nat.le_of_not_lt (mt (fills_asks hasks gain).mpr hnone))] at hsplits
      exact hsplits

/-- The stream of a speaker that has room for its whole buffer, with a period of ten
milliseconds. -/
def speakerStream (rate : Nat) : Endpoint where
  device := "speaker"
  format := Format.pcm rate 16 1
  activated := Format.pcm rate 16 1
  bufferFrames := 400
  period := some (Duration.ofMillis 10)

/-- The speaker. -/
def roomySpeaker : DeviceBank where
  devices := [{ id := "speaker", name := "Speaker", bufferFrames := 400, free := 400 }]

/-- A route to it that needs no conversion. -/
def speakerRoute : DeviceRoute (LinearResampler Double Single) where
  device := "speaker"
  endpoint := speakerStream 8000
  source := Format.pcm 8000 16 1
  timing := Timing.derive (Format.pcm 8000 16 1) 400 (some (Duration.ofMillis 10))
    Timing.defaultPeriod
  ring := Ring.silent 800
  stage := none
  onset := none

/-- The route with so many frames of sound in its queue, and nothing else. -/
def holding (r : DeviceRoute κ) (frames : Nat) : DeviceRoute κ :=
  { r with ring := ((r.ring.popFront r.ring.len).append (List.replicate (2 * frames) 7)).2 }

omit [Stage κ] in
theorem continues_holding (r : DeviceRoute κ) (frames : Nat) : r.Continues (r.holding frames) :=
  r.continues_ring _ ((Ring.capacity_append _ _).trans (Ring.capacity_popFront _ _))

/-- A period has eighty frames.  Behind forty of them a cycle puts silence; of a hundred it takes
what is there. -/
theorem silence_below_device_period_speaker :
    build "speaker" (Format.pcm 8000 16 1) (speakerStream 8000) Timing.defaultPeriod
        = .ok speakerRoute
      ∧ (speakerRoute.holding 40).Fills ((speakerRoute.holding 40).cycle roomySpeaker Single.one)
      ∧ (speakerRoute.holding 40).queued * 1000 < 10 * 8000
      ∧ ∃ data staged amount,
        ((speakerRoute.holding 100).cycle roomySpeaker Single.one).offered = some data
          ∧ (speakerRoute.holding 100).OffersQueued Single.one data staged amount := by
  have hbuilt : build "speaker" (Format.pcm 8000 16 1) (speakerStream 8000) Timing.defaultPeriod
      = .ok speakerRoute := rfl
  obtain ⟨hfills, hslow, _⟩ := silence_below_device_period hbuilt
    (speakerRoute.continues_holding 40) roomySpeaker Single.one
  obtain ⟨hfills', _, hqueued⟩ := silence_below_device_period hbuilt
    (speakerRoute.continues_holding 100) roomySpeaker Single.one
  have hless := (hfills 400 400 _ ⟨rfl, rfl, by decide, by decide, by decide +kernel⟩).mpr (by decide +kernel)
  have hmore := mt (hfills' 400 400 _ ⟨rfl, rfl, by decide, by decide, by decide +kernel⟩).mp
    (by decide +kernel)
  obtain ⟨data, hdata⟩ : ∃ data,
      ((speakerRoute.holding 100).cycle roomySpeaker Single.one).offered = some data :=
    Option.isSome_iff_exists.mp (by decide +kernel)
  obtain ⟨staged, amount, hoffers⟩ := (hqueued hmore).2 data hdata
  exact ⟨hbuilt, hless, (hslow hless).2 (by decide), data, staged, amount, hdata, hoffers⟩

/-- **A faster device gets silence behind a period of audio.**  In ten milliseconds the speaker
plays 160 frames, and the source has eighty.  A hundred of these are queued, and a cycle fills them
up. -/
theorem silence_behind_a_period :
    ∃ built : DeviceRoute (LinearResampler Double Single),
      build "speaker" (Format.pcm 8000 16 1) (speakerStream 16000) Timing.defaultPeriod = .ok built
        ∧ built.Continues (built.holding 100)
        ∧ (built.holding 100).timing.period.millis = 10 ∧ (built.holding 100).queued = 100
        ∧ ¬ 100 * 1000 < 10 * 8000
        ∧ (built.holding 100).Fills ((built.holding 100).cycle roomySpeaker Single.one) := by
  -- How the stage converts what is queued has no say.
  have hfills : ∀ (r : DeviceRoute (LinearResampler Double Single)) (after : DeviceBank),
      Asks roomySpeaker r 400 200 after → r.ring.len < r.amount 200 →
        r.Fills (r.cycle roomySpeaker Single.one) :=
    fun _ _ hasks hless => (fills_asks hasks Single.one).mpr hless
  exact ⟨_, rfl, continues_holding _ 100, rfl, by decide +kernel, by decide,
    hfills _ _ ⟨rfl, rfl, by decide, by decide, by decide +kernel⟩ (by decide +kernel)⟩

end DeviceRoute

end PcmRender
