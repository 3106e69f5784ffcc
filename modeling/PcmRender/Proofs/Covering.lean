/-
  PcmRender.Proofs.Covering — **what a full ring gives to the device.**

  The ring in front of a device has as many frames as the buffer of the device, but they are frames
  of the source.  A cycle that finds the ring full and the buffer free converts as many of them as
  fit:

      source frames   N   =   min (buffer · source rate / device rate)  buffer
      device frames   N · device rate   ≈   frames · source rate

  A period is at most half the buffer.  So it is covered if the source has no more than twice the
  rate of the device.  In general it is covered as long as

      period · source rate   ≤   buffer · device rate

  and is not covered if it is one frame longer than that.  A source of 48000 frames in a second that
  is played with 8000 of them fills a sixth of the buffer, which is less than a period of half of it
  (`full_ring_below_period`).

  Main statements:
    * `DeviceRoute.Ready.offers_full` — what a cycle offers of a full ring,
    * `Session.full_ring_covers_period` — how many frames the device gets.
-/
import PcmRender.Proofs.Endpoint
import PcmRender.Proofs.Room

namespace PcmRender

/-! ## §1. Periods and rates. -/

namespace Timing

variable {device : Format} {bufferFrames : Nat} {reported : Option Duration} {usual : Duration}

/-- **A period of at most half the buffer has at most half its frames**, and one of more than a
millisecond needs a buffer of more than two. -/
theorem twice_period_le (hlong : leastPeriod < (derive device bufferFrames reported usual).period)
    (hhalf : (derive device bufferFrames reported usual).period
      ≤ (derive device bufferFrames reported usual).bufferDuration.half) :
    2 * (derive device bufferFrames reported usual).periodFrames ≤ bufferFrames
      ∧ device.rate < 500 * bufferFrames := by
  generalize hperiod : (derive device bufferFrames reported usual).period = period at hlong hhalf
  have hword : (derive device bufferFrames reported usual).periodFrames
      ≤ period.millis * device.rate / 1000 := by
    rw [← hperiod]
    exact periodFrames_le
  have hnanos : 1000000 < period.nanos := hlong
  have hbuffer : period.nanos ≤ (device.framesDuration bufferFrames).nanos / 2 := hhalf
  unfold Format.framesDuration at hbuffer
  by_cases hrate : device.rate = 0
  · -- A device without a rate plays its buffer in no time.
    rw [if_pos hrate, show Duration.zero.nanos = 0 from rfl] at hbuffer
    omega
  · rw [if_neg hrate] at hbuffer
    have hplays : 2 * period.nanos * device.rate ≤ bufferFrames * 1000000000 :=
      (Nat.le_div_iff_mul_le (Nat.pos_of_ne_zero hrate)).mp (by dsimp only at hbuffer; omega)
    have hmillis : period.millis * 1000000 ≤ period.nanos := Nat.div_mul_le_self _ _
    have hframes : period.millis * device.rate / 1000 * 1000 ≤ period.millis * device.rate :=
      Nat.div_mul_le_self _ _
    constructor
    · nlinarith
    · nlinarith [Nat.pos_of_ne_zero hrate]

end Timing

/-- The frames of a source that are requested for a whole buffer, as far as they are in it. -/
def fullChunk (sourceRate deviceRate bufferFrames : Nat) : Nat :=
  min (bufferFrames * sourceRate / deviceRate) bufferFrames

section Rates

variable {sourceRate deviceRate bufferFrames period made : Nat}

/-- **A full chunk covers a period** that is short enough in frames of the source. -/
theorem period_le_of_full (hdevice : 0 < deviceRate) (hhalf : 2 * period ≤ bufferFrames)
    (hbuffer : 4 * deviceRate ≤ bufferFrames * sourceRate)
    (hmade : fullChunk sourceRate deviceRate bufferFrames * deviceRate
      < made * sourceRate + max sourceRate deviceRate)
    (hcovers : period * sourceRate ≤ bufferFrames * deviceRate) : period ≤ made := by
  unfold fullChunk at hmade
  by_contra hshort
  rcases Nat.le_total deviceRate sourceRate with hslow | hfast
  · -- A slower device gets the whole ring.
    have hall : bufferFrames ≤ bufferFrames * sourceRate / deviceRate :=
      (Nat.le_div_iff_mul_le hdevice).mpr (Nat.mul_le_mul_left _ hslow)
    rw [Nat.min_eq_right hall, Nat.max_eq_left hslow] at hmade
    nlinarith
  · -- A faster one gets what fills its buffer, but for the last two frames of the source.
    have hall : bufferFrames * sourceRate / deviceRate ≤ bufferFrames :=
      Nat.div_le_of_le_mul (by nlinarith)
    have hfloor := Nat.lt_div_mul_add (a := bufferFrames * sourceRate) hdevice
    rw [Nat.min_eq_left hall, Nat.max_eq_right hfast] at hmade
    nlinarith

/-- **It does not cover a longer one.** -/
theorem lt_period_of_full (hsource : 0 < sourceRate)
    (hmade : ∀ k < made, k * sourceRate < fullChunk sourceRate deviceRate bufferFrames * deviceRate)
    (hlong : bufferFrames * deviceRate + sourceRate ≤ period * sourceRate) : made < period := by
  have hchunk : fullChunk sourceRate deviceRate bufferFrames * deviceRate
      ≤ bufferFrames * deviceRate := Nat.mul_le_mul_right _ (Nat.min_le_right _ _)
  by_contra hcovered
  cases period with
  | zero => omega
  | succ last =>
      have hlast := hmade last (by omega)
      rw [Nat.succ_mul] at hlong
      omega

end Rates

/-! ## §2. What a cycle offers of a full ring. -/

namespace DeviceRoute

/-- A route with the pace of its endpoint, and a ring of as many frames as its buffer. -/
structure Paced {κ : Type} (r : DeviceRoute κ) : Prop where
  /-- The pace is what the endpoint has reported. -/
  timing : ∃ usual, r.timing
    = Timing.derive r.endpoint.format r.endpoint.bufferFrames r.endpoint.period usual
  /-- The ring has the frames of its buffer, as frames of the source. -/
  sized : r.ring.capacity = ringSize r.source r.timing

/-- **Routes are paced at any time.** -/
theorem paced_always {σ κ : Type} [Host σ] [Stage κ] :
    RouteInvariant σ (Paced : DeviceRoute κ → Prop) := by
  refine .of_continues (fun _ hchannels hbuilt => ?_) fun h hcont => ?_
  · obtain ⟨_, hendpoint, hsource, htiming, _⟩ := build_ok hbuilt
    refine ⟨⟨_, by rw [hendpoint]; exact htiming⟩, ?_⟩
    rw [hsource]
    exact (fits_of_build hchannels hbuilt).capacity
  · refine ⟨by rw [hcont.timing, hcont.endpoint]; exact h.timing, ?_⟩
    rw [hcont.capacity, hcont.source, hcont.timing]
    exact h.sized

/-- A full ring has queued the frames of its buffer. -/
theorem queued_full {κ : Type} {r : DeviceRoute κ} (haligned : 0 < r.source.align)
    (hsized : r.ring.capacity = ringSize r.source r.timing) (hfull : r.ring.free = 0) :
    r.queued = r.timing.bufferFrames := by
  have hlen := r.ring.len_add_free
  unfold queued
  rw [show r.ring.len = r.timing.bufferFrames * r.source.align by rw [← ringSize]; omega]
  exact Nat.mul_div_cancel _ haligned

/-- **Of a full ring a cycle writes what was requested**, as far as it is there. -/
theorem amount_full {κ : Type} {r : DeviceRoute κ} (haligned : 0 < r.source.align)
    (hsized : r.ring.capacity = ringSize r.source r.timing) (hfull : r.ring.free = 0)
    (requested : Nat) :
    r.amount requested = min requested r.timing.bufferFrames * r.source.align := by
  have hqueued := queued_full haligned hsized hfull
  have hframes : min (r.frames requested) r.timing.bufferFrames
      = min requested r.timing.bufferFrames := by
    unfold frames
    rw [hqueued]
    split <;> omega
  unfold amount
  rw [hsized, ringSize, Nat.mul_min_mul_right, hframes]

/-- A ring that was filled with a period and more is not padded, so no more bytes are counted than
it has cells. -/
theorem countable_full {κ : Type} {r : DeviceRoute κ} (haligned : 0 < r.source.align)
    (hsized : r.ring.capacity = ringSize r.source r.timing) (hfull : r.ring.free = 0)
    (hperiod : r.timing.periodFrames ≤ r.timing.bufferFrames) (hcells : r.ring.capacity < 2 ^ 64)
    (requested : Nat) : r.countable requested = true := by
  have hqueued := queued_full haligned hsized hfull
  have hframes : r.frames requested ≤ r.timing.bufferFrames := by
    unfold frames
    rw [hqueued]
    split <;> omega
  rw [hsized] at hcells
  exact decide_eq_true (Nat.lt_of_le_of_lt (Nat.mul_le_mul_right _ hframes) hcells)

namespace Ready

variable {σ α : Type} [Host σ] [Amplitude α] [ReadHead ℚ α] {r : DeviceRoute (LinearResampler ℚ α)}

omit [Amplitude α] in
/-- What is requested of a device with a rate. -/
theorem requests (h : Ready r) (hdevice : 0 < r.endpoint.format.rate) (free : Nat) :
    r.requested? free = some (free * r.source.rate / r.endpoint.format.rate) := by
  have hall : r.source.rate = r.endpoint.format.rate →
      free * r.source.rate / r.endpoint.format.rate = free := by
    intro hsame
    rw [hsame, Nat.mul_div_cancel _ hdevice]
  unfold requested?
  rw [if_neg (Nat.pos_iff_ne_zero.mp hdevice)]
  split
  · rfl
  next hequal =>
    cases hstage : r.stage with
    | none => rw [hall (h.same_frames hstage).2]
    | some stage =>
        rw [hstage] at hequal
        rw [hall (by simpa using hequal)]

/-- **A full ring is offered as far as it fits**, converted to the rate of the device. -/
theorem offers_full (hexact : ReadHead.Exact α) (h : Ready r)
    (hsized : r.ring.capacity = ringSize r.source r.timing) (hfull : r.ring.free = 0)
    (hperiod : r.timing.periodFrames ≤ r.timing.bufferFrames) (hcells : r.ring.capacity < 2 ^ 64)
    (hdevice : 0 < r.endpoint.format.rate) {host after : σ}
    (hroom : Host.freeFrames host r.endpoint = (.ok r.timing.bufferFrames, after))
    (hsome : r.endpoint.format.rate ≤ r.timing.bufferFrames * r.source.rate) (gain : Single) :
    ∃ data made, (r.cycle host gain).offered = some data ∧ data.length = made * r.deviceFrame
      ∧ fullChunk r.source.rate r.endpoint.format.rate r.timing.bufferFrames
          * r.endpoint.format.rate
        < made * r.source.rate + max r.source.rate r.endpoint.format.rate
      ∧ ∀ k < made, k * r.source.rate
        < fullChunk r.source.rate r.endpoint.format.rate r.timing.bufferFrames
          * r.endpoint.format.rate := by
  have haligned := r.source.align_pos h.source
  have hasks : Asks host r r.timing.bufferFrames
      (r.timing.bufferFrames * r.source.rate / r.endpoint.format.rate) after :=
    ⟨hroom, h.requests hdevice _, Nat.div_pos hsome hdevice, haligned,
      countable_full haligned hsized hfull hperiod hcells _⟩
  have hamount : r.amount (r.timing.bufferFrames * r.source.rate / r.endpoint.format.rate)
      = fullChunk r.source.rate r.endpoint.format.rate r.timing.bufferFrames * r.source.align :=
    amount_full haligned hsized hfull _
  cases hstage : r.stage with
  | none =>
      obtain ⟨halign, hrate⟩ := h.same_frames hstage
      obtain ⟨staged, hscaled⟩ := exists_staged? h.source gain
        (r.timing.bufferFrames * r.source.rate / r.endpoint.format.rate)
      refine ⟨staged, fullChunk r.source.rate r.endpoint.format.rate r.timing.bufferFrames, ?_, ?_,
        ?_, fun k hk => ?_⟩
      · rw [cycle_asks hasks, deliver_direct hscaled hstage]
        unfold deliverPlain
        split <;> rfl
      · rw [length_staged? h.source hscaled, hamount, halign]
      · rw [hrate]
        omega
      · rw [hrate] at hk ⊢
        exact Nat.mul_lt_mul_of_pos_right hk hdevice
  | some stage =>
      obtain ⟨staged, done, _, hlength, hprocess, _, hoffered⟩ :=
        h.offers_staged hexact hstage hasks gain
      obtain ⟨yielded, made, hyielded, hyields⟩ :=
        h.yields hexact hstage (hlength.trans hamount)
      obtain rfl := Option.some.inj (hprocess.symm.trans hyielded)
      exact ⟨done.output, made, hoffered, by rw [hyields.whole, h.converted_frames],
        hyields.enough, hyields.made⟩

end Ready

end DeviceRoute

/-! ## §3. What the device gets. -/

namespace Session

open DeviceRoute (paced_always)

/-- **A full ring covers a period of the device, if the source is not more than twice as fast.**
Take the device route of a session at any time, when its ring is full and the whole buffer of the
device is free.  Its period is longer than a millisecond and at most half the buffer, both rates are
at least 8000.  Its read head moves on exactly: the bound is off by no more than a frame, and one
that rounds its positions is not followed to the frame here.

The next cycle offers whole frames of the device.  They are a period of it and more as long as

    period · source rate   ≤   buffer · device rate

which is so up to twice the device rate; and less than a period where it is off by one frame.  A
device that takes everything that it is offered gets them all. -/
theorem full_ring_covers_period {σ α : Type} [Host σ] [Amplitude α] [ReadHead ℚ α]
    (hexact : ReadHead.Exact α) {host : σ} {source : Format} {selected : Option String}
    {config : SessionConfig} {s : Session σ (LinearResampler ℚ α)}
    (hcreate : Session.create host source selected config = .ok s) {moves : List (Move σ)}
    {c : Crew σ (LinearResampler ℚ α)} {trace : List Event}
    (hrun : Crew.run { session := s } moves = some (c, trace))
    {r : DeviceRoute (LinearResampler ℚ α)} (hr : c.session.route = .device r)
    (hfull : r.ring.free = 0) (hcells : r.ring.capacity < 2 ^ 64)
    (hlong : Timing.leastPeriod < r.timing.period)
    (hhalf : r.timing.period ≤ r.timing.bufferDuration.half) (hsource : 8000 ≤ r.source.rate)
    (hdevice : 8000 ≤ r.endpoint.format.rate) {now after : σ}
    (hroom : Host.freeFrames now r.endpoint = (.ok r.timing.bufferFrames, after)) (gain : Single) :
    ∃ data frames, (r.cycle now gain).offered = some data ∧ data.length = frames * r.deviceFrame
      ∧ (r.source.rate ≤ 2 * r.endpoint.format.rate → r.timing.periodFrames ≤ frames)
      ∧ (r.timing.periodFrames * r.source.rate ≤ r.timing.bufferFrames * r.endpoint.format.rate →
        r.timing.periodFrames ≤ frames)
      ∧ (r.timing.bufferFrames * r.endpoint.format.rate + r.source.rate
          ≤ r.timing.periodFrames * r.source.rate →
        frames < r.timing.periodFrames)
      ∧ ∀ received taken later, r.endpoint.Keeps r.deviceFrame received →
        Host.write after r.endpoint data = (.ok taken, later) →
        data.length ≤ taken * r.deviceFrame →
        received (r.cycle now gain).host = received now ++ data := by
  have hready : r.Ready := (DeviceRoute.ready_always hexact).of_runCrew hcreate hrun hr
  obtain ⟨⟨usual, htiming⟩, hsized⟩ := paced_always.of_runCrew hcreate hrun hr
  obtain ⟨htwice, hbuffer⟩ : 2 * r.timing.periodFrames ≤ r.timing.bufferFrames
      ∧ r.endpoint.format.rate < 500 * r.timing.bufferFrames := by
    have hframes : r.timing.bufferFrames = r.endpoint.bufferFrames := by rw [htiming]; rfl
    rw [hframes]
    rw [htiming] at hlong hhalf ⊢
    exact Timing.twice_period_le hlong hhalf
  have hsome : 4 * r.endpoint.format.rate ≤ r.timing.bufferFrames * r.source.rate := by
    have hrate := Nat.mul_le_mul_left r.timing.bufferFrames hsource
    omega
  obtain ⟨data, frames, hoffered, hlength, henough, hmade⟩ :=
    hready.offers_full hexact hsized hfull (by omega) hcells (by omega) hroom (by omega) gain
  have hcovers : r.timing.periodFrames * r.source.rate
      ≤ r.timing.bufferFrames * r.endpoint.format.rate → r.timing.periodFrames ≤ frames :=
    period_le_of_full (by omega) htwice hsome henough
  refine ⟨data, frames, hoffered, hlength, fun hslow => hcovers ?_, hcovers,
    lt_period_of_full (by omega) hmade, fun received taken later hkeeps hwrite htakes => ?_⟩
  · calc r.timing.periodFrames * r.source.rate
        ≤ r.timing.periodFrames * (2 * r.endpoint.format.rate) := Nat.mul_le_mul_left _ hslow
      _ = 2 * r.timing.periodFrames * r.endpoint.format.rate := by
        rw [← Nat.mul_assoc, Nat.mul_comm _ 2]
      _ ≤ r.timing.bufferFrames * r.endpoint.format.rate := Nat.mul_le_mul_right _ htwice
  · have hasked := hkeeps.freeFrames now
    rw [hroom] at hasked
    rw [DeviceRoute.writes_cycle hroom hoffered, hwrite, (hkeeps.write _ _ _ _ hwrite).2, hasked,
      List.take_of_length_le htakes]

/-- A session over a speaker that takes nothing but 8000 frames in a second, with a buffer of 160 of
them and a period of eighty. -/
def eightSpeaker (rate : Nat) : Session DeviceBank (LinearResampler ℚ ℚ) where
  host := { devices := [{ id := "speaker", name := "Speaker", bufferFrames := 160, free := 160,
                          accepted := some [Format.pcm 8000 16 1] }] }
  config := {}
  source := Format.pcm rate 16 1
  selected := some "speaker"
  period := Timing.defaultPeriod

/-- The speaker was just opened for a source of some rate: the ring is full, all of the buffer is
free, and the period is long enough to be believed and no longer than half the buffer. -/
def Primed (c : Crew DeviceBank (LinearResampler ℚ ℚ)) (r : DeviceRoute (LinearResampler ℚ ℚ))
    (rate : Nat) : Prop :=
  r.ring.free = 0 ∧ Timing.leastPeriod < r.timing.period
    ∧ r.timing.period ≤ r.timing.bufferDuration.half ∧ r.source.rate = rate
    ∧ r.endpoint.format.rate = 8000 ∧ r.timing.periodFrames = 80 ∧ r.deviceFrame = 2
    ∧ r.endpoint.activated.align = 2
    ∧ r.ring.capacity < 2 ^ 64
    ∧ (Host.freeFrames c.session.host r.endpoint).1 = .ok r.timing.bufferFrames

instance (c : Crew DeviceBank (LinearResampler ℚ ℚ)) (r : DeviceRoute (LinearResampler ℚ ℚ))
    (rate : Nat) : Decidable (Primed c r rate) := inferInstanceAs (Decidable (_ ∧ _))

/-- The first cycle on a full ring offers `frames` frames, and the speaker takes them all. -/
def Takes (c : Crew DeviceBank (LinearResampler ℚ ℚ)) (r : DeviceRoute (LinearResampler ℚ ℚ))
    (frames : Nat) : Prop :=
  ∃ data ∈ (r.cycle c.session.host c.session.gain).offered, data.length = 2 * frames
    ∧ (Host.write (Host.freeFrames c.session.host r.endpoint).2 r.endpoint data).1 = .ok frames

instance (c : Crew DeviceBank (LinearResampler ℚ ℚ)) (r : DeviceRoute (LinearResampler ℚ ℚ))
    (frames : Nat) : Decidable (Takes c r frames) := inferInstanceAs (Decidable (∃ _, _ ∧ _))

/-- A source that is twice as fast fills the period to the frame. -/
theorem full_ring_covers_period_twice :
    Session.create (eightSpeaker 16000).host (Format.pcm 16000 16 1) (some "speaker") {}
        = .ok (eightSpeaker 16000)
      ∧ ∃ c trace r data,
        Crew.run { session := eightSpeaker 16000 } [.call .openRoute, .advance] = some (c, trace)
          ∧ c.session.route = .device r ∧ Primed c r 16000
          ∧ (r.cycle c.session.host c.session.gain).offered = some data
          ∧ r.timing.periodFrames * r.deviceFrame ≤ data.length ∧ data.length = 2 * 80
          ∧ (r.cycle c.session.host c.session.gain).host.written r.endpoint.device
            = c.session.host.written r.endpoint.device ++ data := by
  have hcreate : Session.create (eightSpeaker 16000).host (Format.pcm 16000 16 1) (some "speaker") {}
      = .ok (eightSpeaker 16000) := rfl
  obtain ⟨⟨c, trace⟩, hrun, r, hdevice, hprimed, data, hdata, hlength, hwrite⟩ :
      ∃ p ∈ Crew.run { session := eightSpeaker 16000 } [.call .openRoute, .advance],
        ∃ r ∈ p.1.session.deviceRoute?, Primed p.1 r 16000 ∧ Takes p.1 r 80 := by
    decide +kernel
  have hr : c.session.route = .device r := deviceRoute?_eq_some hdevice
  obtain ⟨hfull, hlong, hhalf, hsource, hrate, _, hframe, halign, hcells, hroom⟩ := id hprimed
  obtain ⟨offered, frames, hoffered, hframes, hcovers, _, _, hgets⟩ :=
    full_ring_covers_period ReadHead.exact_rational hcreate hrun hr hfull hcells hlong hhalf
      (by omega) (by omega) (Prod.ext hroom rfl) c.session.gain
  obtain rfl : offered = data := Option.some.inj (hoffered.symm.trans hdata)
  have hkeeps : r.endpoint.Keeps r.deviceFrame (fun b : DeviceBank => b.written r.endpoint.device) := by
    rw [hframe, ← halign]
    exact DeviceBank.keeps_written r.endpoint
  refine ⟨hcreate, c, trace, r, offered, hrun, hr, hprimed, hoffered, ?_, hlength,
    hgets _ 80 _ hkeeps (Prod.ext hwrite rfl) (by omega)⟩
  rw [hframes]
  exact Nat.mul_le_mul_right _ (hcovers (by omega))

/-- **A source that is six times as fast does not cover it.**  The ring that was filled when the
speaker was opened gives it 27 frames to begin with, and its period has eighty. -/
theorem full_ring_below_period :
    Session.create (eightSpeaker 48000).host (Format.pcm 48000 16 1) (some "speaker") {}
        = .ok (eightSpeaker 48000)
      ∧ ∃ c trace r,
        Crew.run { session := eightSpeaker 48000 } [.call .openRoute, .advance] = some (c, trace)
          ∧ c.session.route = .device r ∧ Primed c r 48000 ∧ Takes c r 27
          ∧ 27 < r.timing.periodFrames := by
  obtain ⟨⟨c, trace⟩, hrun, r, hdevice, hprimed, htakes⟩ :
      ∃ p ∈ Crew.run { session := eightSpeaker 48000 } [.call .openRoute, .advance],
        ∃ r ∈ p.1.session.deviceRoute?, Primed p.1 r 48000 ∧ Takes p.1 r 27 := by
    decide +kernel
  obtain ⟨_, _, _, _, _, hperiod, _⟩ := id hprimed
  exact ⟨rfl, c, trace, r, hrun, deviceRoute?_eq_some hdevice, hprimed, htakes, by omega⟩

end Session

end PcmRender
