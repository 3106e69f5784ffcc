/-
  PcmRender.Proofs.Room — **a cycle never overruns its endpoint.**

  The room of an endpoint is counted in its own frames, the ring in frames of the source.  A cycle
  asks for

      requested  =  ⌊ free · source rate / device rate ⌋

  frames of the source, writes that many or fewer, and writes whole ones, because the store holds
  whole frames.  Without a stage these are frames of the device.  Behind one with exact positions no
  more frames come out than there is time for, however its read head was left by all that has gone
  through it before: `Poised` is kept by every chunk and every reset, so a route is `Ready` at any
  time of a session (`ready_always`).
-/
import PcmRender.Proofs.Offering
import PcmRender.Proofs.Positions
import PcmRender.Proofs.RouteKeeping

namespace PcmRender

open LinearResampler (Poised Yields)

namespace DeviceRoute

/-- The bytes of one frame of the device: one sample for each channel. -/
def deviceFrame {κ : Type} (r : DeviceRoute κ) : Nat :=
  r.endpoint.format.sampleSize * r.endpoint.format.channels

variable {α : Type} [ReadHead ℚ α] {r later : DeviceRoute (LinearResampler ℚ α)}

/-! ## §1. Ready routes. -/

/-- A route whose next cycle can be counted on. -/
structure Ready (r : DeviceRoute (LinearResampler ℚ α)) : Prop where
  /-- The source can be decoded, -/
  source : r.source.isSupported = true
  /-- the device renders its channels, -/
  channels : r.endpoint.format.channels = r.source.channels
  /-- and the store holds whole frames of it. -/
  whole : r.source.align ∣ r.ring.capacity
  /-- Without a stage the device renders the source as it is. -/
  direct : r.stage = none → needsConversion r.source r.endpoint.format = false
  /-- A stage is about to be given a chunk. -/
  poised : ∀ stage, r.stage = some stage →
    Poised r.source (Stage.outputFormat r.source r.endpoint.format) stage

namespace Ready

theorem of_continues (h : Ready r) (k : r.Continues later)
    (hpoised : ∀ stage, later.stage = some stage →
      Poised r.source (Stage.outputFormat r.source r.endpoint.format) stage) : Ready later where
  source := by rw [k.source]; exact h.source
  channels := by rw [k.source, k.endpoint]; exact h.channels
  whole := by rw [k.source, k.capacity]; exact h.whole
  direct hnone := by
    rw [k.source, k.endpoint]
    refine h.direct (Option.not_isSome_iff_eq_none.mp ?_)
    rw [← k.stage, hnone]
    simp
  poised := by rw [k.source, k.endpoint]; exact hpoised

/-- A route that needs no conversion has the frames and the rate of its device. -/
theorem same_frames (h : Ready r) (hdirect : r.stage = none) :
    r.source.align = r.deviceFrame ∧ r.source.rate = r.endpoint.format.rate := by
  have hsame := h.direct hdirect
  unfold needsConversion at hsame
  simp only [Bool.or_eq_false_iff, bne_eq_false_iff_eq] at hsame
  obtain ⟨⟨⟨hrate, hbits⟩, _⟩, _⟩ := hsame
  refine ⟨?_, hrate⟩
  unfold deviceFrame Format.sampleSize
  rw [r.source.align_eq h.source, h.channels, ← hbits, Nat.mul_comm]
  rfl

/-- What comes out of a stage has the frames of the device too. -/
theorem converted_frames (h : Ready r) :
    (Stage.outputFormat r.source r.endpoint.format).sampleSize
      * (Stage.outputFormat r.source r.endpoint.format).channels = r.deviceFrame := by
  unfold deviceFrame
  rw [h.channels]
  rfl

/-- These are not empty. -/
theorem deviceFrame_pos (h : Ready r) : 0 < r.deviceFrame := by
  cases hstage : r.stage with
  | none =>
      rw [← (h.same_frames hstage).1]
      exact r.source.align_pos h.source
  | some stage =>
      have hwrites := (h.poised stage hstage).writes
      rw [← h.converted_frames]
      exact Nat.mul_pos (Format.sampleSize_pos hwrites) (Format.channels_pos hwrites)

/-- **What is requested is the room of the device in frames of the source.** -/
theorem requested_eq (h : Ready r) {free requested : Nat}
    (hcounted : r.requested? free = some requested) :
    requested = if r.stage = none then free
      else free * r.source.rate / r.endpoint.format.rate := by
  have hrate := r.source.rate_pos h.source
  unfold requested? at hcounted
  cases hstage : r.stage with
  | none =>
      rw [hstage] at hcounted
      exact (Option.some.inj hcounted).symm
  | some stage =>
      rw [hstage] at hcounted
      rw [if_neg (by simp)]
      by_cases hsame : r.source.rate = r.endpoint.format.rate
      · rw [if_neg (by simpa using hsame)] at hcounted
        rw [← hsame, Nat.mul_div_cancel _ hrate]
        exact (Option.some.inj hcounted).symm
      · rw [if_pos (by simpa using hsame)] at hcounted
        split at hcounted
        · exact absurd hcounted (by simp)
        · exact (Option.some.inj hcounted).symm

/-- **A cycle writes whole frames of the source, and no more than were requested.** -/
theorem amount_frames (h : Ready r) (requested : Nat) :
    ∃ frames, r.amount requested = frames * r.source.align ∧ frames ≤ requested :=
  DeviceRoute.amount_frames h.whole (r.source.align_pos h.source) requested

end Ready

variable {σ : Type} [Host σ] [Amplitude α]

/-! ## §2. Routes at any time. -/

theorem ready_of_build (hexact : ReadHead.Exact α) {device : String} {source : Format}
    {endpoint : Endpoint} {usual : Duration} (hsupported : source.isSupported = true)
    (hchannels : endpoint.format.channels = source.channels)
    (h : build device source endpoint usual = .ok r) : Ready r := by
  have hfits := fits_of_build hchannels h
  have hbetween := between_of_build h
  obtain ⟨_, hendpoint, hsource, _⟩ := build_ok h
  refine ⟨?_, ?_, ?_, fun hnone => ?_, fun stage hstage => ?_⟩
  · rw [hsource]
    exact hsupported
  · rw [hendpoint, hsource]
    exact hchannels
  · rw [hfits.capacity, hsource]
    exact Nat.dvd_mul_left _ _
  · have hconverts := hfits.stage
    rw [hnone] at hconverts
    rw [hsource]
    exact hconverts.symm
  · rw [hstage] at hbetween
    rw [hendpoint, hsource]
    exact LinearResampler.poised_create hexact (create_of_between hbetween)

namespace Ready

/-- Whole frames go through the stage of a ready route. -/
theorem yields (hexact : ReadHead.Exact α) (h : Ready r) {stage : LinearResampler ℚ α}
    (hstage : r.stage = some stage) {frames : Nat} {staged : List UInt8}
    (hstaged : staged.length = frames * r.source.align) :
    ∃ done made, Stage.process? stage staged = some done
      ∧ Yields r.source (Stage.outputFormat r.source r.endpoint.format) frames made done :=
  LinearResampler.yields_process? hexact (h.poised stage hstage) hstaged

/-- **A cycle leaves its route ready.** -/
theorem cycled (hexact : ReadHead.Exact α) (h : Ready r) (host : σ) (gain : Single) :
    Ready (r.cycle host gain).route := by
  refine h.of_continues (accounts_cycle host r gain).continues (stage_cycled h.poised ?_)
  intro stage requested staged conversion hthrough hscaled hprocess
  obtain ⟨frames, hframes, _⟩ := h.amount_frames requested
  obtain ⟨done, made, hdone, hyields⟩ :=
    h.yields hexact hthrough ((length_staged? h.source hscaled).trans hframes)
  obtain rfl := Option.some.inj (hprocess.symm.trans hdone)
  exact hyields.next

end Ready

/-- **Routes are ready at any time.** -/
theorem ready_always (hexact : ReadHead.Exact α) :
    RouteInvariant σ (Ready : DeviceRoute (LinearResampler ℚ α) → Prop) where
  built := ready_of_build hexact
  settled h k hstage := h.of_continues k (by rw [hstage]; exact h.poised)
  rewound {r} h := by
    exact h.of_continues (Session.continues_rewound r)
      (stage_rewound fun before hbefore => (h.poised before hbefore).reset hexact)
  cycled host gain h := h.cycled hexact host gain

/-! ## §3. What fits. -/

namespace Ready

/-- **What goes through the stage fits**: frames of the source that play no longer than the room of
the device become frames of the device that it has room for. -/
theorem fits_converted (hexact : ReadHead.Exact α) (h : Ready r)
    {stage : LinearResampler ℚ α} (hstage : r.stage = some stage) {free count : Nat}
    {staged : List UInt8} (hstaged : staged.length = count * r.source.align)
    (hroom : count ≤ free * r.source.rate / r.endpoint.format.rate) :
    ∃ done made, Stage.process? stage staged = some done ∧ done.consumed = staged.length
      ∧ done.output.length = made * r.deviceFrame ∧ made ≤ free := by
  obtain ⟨done, made, hdone, hyields⟩ := h.yields hexact hstage hstaged
  refine ⟨done, made, hdone, hyields.consumed.trans hstaged.symm, ?_, hyields.made_le hroom⟩
  rw [hyields.whole, h.converted_frames]

/-- **What is offered fits.** -/
theorem fits_offered (hexact : ReadHead.Exact α) (h : Ready r) {host : σ} {gain : Single}
    {data : List UInt8} (hoffered : (r.cycle host gain).offered = some data) :
    ∃ free after frames, Host.freeFrames host r.endpoint = (.ok free, after)
      ∧ data.length = frames * r.deviceFrame ∧ frames ≤ free := by
  have hoffers := offers_cycle hoffered
  generalize r.cycle host gain = done at hoffers
  cases hoffers with
  | @plain free requested after hasks hscaled hdirect =>
      obtain ⟨frames, hframes, hle⟩ := h.amount_frames requested
      have hrequested := h.requested_eq hasks.counted
      rw [if_pos hdirect] at hrequested
      refine ⟨free, after, frames, hasks.room, ?_, by omega⟩
      rw [length_staged? h.source hscaled, hframes, (h.same_frames hdirect).1]
  | @converted free requested after staged stage conversion hasks hscaled hthrough hprocess _
      houtput =>
      obtain ⟨frames, hframes, hle⟩ := h.amount_frames requested
      have hrequested := h.requested_eq hasks.counted
      rw [if_neg (by rw [hthrough]; simp)] at hrequested
      obtain ⟨done, made, hdone, _, hlength, hmade⟩ := h.fits_converted hexact hthrough
        ((length_staged? h.source hscaled).trans hframes) (by rw [← hrequested]; exact hle)
      obtain rfl := Option.some.inj (hprocess.symm.trans hdone)
      exact ⟨free, after, made, hasks.room, by rw [← houtput, hlength], hmade⟩

/-- **What is staged goes through the stage and is offered**: a cycle with room never has to try
again. -/
theorem offers_staged (hexact : ReadHead.Exact α) (h : Ready r)
    {stage : LinearResampler ℚ α} (hstage : r.stage = some stage) {host after : σ}
    {free requested : Nat} (hasks : Asks host r free requested after) (gain : Single) :
    ∃ staged done, r.staged? gain requested = some staged
      ∧ staged.length = r.amount requested ∧ Stage.process? stage staged = some done
      ∧ done.consumed = r.amount requested
      ∧ (r.cycle host gain).offered = some done.output := by
  obtain ⟨frames, hframes, _⟩ := h.amount_frames requested
  obtain ⟨staged, hscaled⟩ := exists_staged? h.source gain requested
  have hlength := length_staged? h.source hscaled
  obtain ⟨done, made, hdone, hyields⟩ := h.yields hexact hstage (hlength.trans hframes)
  have hconsumed : done.consumed = staged.length := by
    rw [hyields.consumed, hlength, hframes]
  refine ⟨staged, done, hscaled, hlength, hdone, hconsumed.trans hlength, ?_⟩
  rw [cycle_asks hasks, deliver_through hscaled hstage]
  unfold deliverConverted
  rw [hdone]
  dsimp only
  rw [if_pos hconsumed]
  split <;> rfl

end Ready

end DeviceRoute

namespace Session

open DeviceRoute (Asks)

variable {σ α : Type} [Host σ] [Amplitude α] [ReadHead ℚ α]

/-- **A cycle never overruns its endpoint.**  Take the device route of a session at any time: after
any calls, cycles and restarts, whoever makes them, with any machine that answers anything, and with
read heads that move on exactly.

What its next cycle hands to the endpoint are whole frames of the device, and no more than the
endpoint has just said that it has room for; an endpoint that takes as many frames as there are and
as it has room for takes them all.

If there is a stage, whole frames of the source are always taken by it as a whole, and from no more
of them than `free · source rate / device rate` it makes no more than `free` frames of the device.
A cycle with room stages no more than that, and what it stages goes through the stage as a whole and
is offered.

With so many free frames, at so high a rate of the source, that 64 bits do not count the bytes to
write, a cycle is taken down before it stages anything: nothing is offered, and the route is as it
was. -/
theorem cycles_never_overrun (hexact : ReadHead.Exact α) {host : σ} {source : Format}
    {selected : Option String} {config : SessionConfig} {s : Session σ (LinearResampler ℚ α)}
    (hcreate : Session.create host source selected config = .ok s) {moves : List (Move σ)}
    {c : Crew σ (LinearResampler ℚ α)} {trace : List Event}
    (hrun : Crew.run { session := s } moves = some (c, trace))
    {r : DeviceRoute (LinearResampler ℚ α)} (hr : c.session.route = .device r) (now : σ)
    (gain : Single) :
    0 < r.deviceFrame
      ∧ (∀ data, (r.cycle now gain).offered = some data →
        ∃ free after frames, Host.freeFrames now r.endpoint = (.ok free, after)
          ∧ data.length = frames * r.deviceFrame ∧ frames ≤ free
          ∧ ∀ taken later, Host.write after r.endpoint data = (.ok taken, later) →
            min frames free ≤ taken → data.length ≤ taken * r.deviceFrame)
      ∧ (∀ free requested after, Host.freeFrames now r.endpoint = (.ok free, after) →
        r.requested? free = some requested → 0 < requested →
          2 ^ 64 ≤ r.frames requested * r.source.align →
            (r.cycle now gain).offered = none ∧ (r.cycle now gain).route = r
              ∧ (r.cycle now gain).outcome = .error .overflow)
      ∧ ∀ stage, r.stage = some stage →
        (∀ free count staged, staged.length = count * r.source.align →
          count ≤ free * r.source.rate / r.endpoint.format.rate →
            ∃ done made, Stage.process? stage staged = some done
              ∧ done.consumed = staged.length
              ∧ done.output.length = made * r.deviceFrame ∧ made ≤ free)
        ∧ ∀ free requested after, Asks now r free requested after →
          ∃ staged done count, r.staged? gain requested = some staged
            ∧ staged.length = r.amount requested
            ∧ r.amount requested = count * r.source.align
            ∧ count ≤ free * r.source.rate / r.endpoint.format.rate
            ∧ Stage.process? stage staged = some done ∧ done.consumed = r.amount requested
            ∧ (r.cycle now gain).offered = some done.output := by
  have hready : r.Ready := (DeviceRoute.ready_always hexact).of_runCrew hcreate hrun hr
  refine ⟨hready.deviceFrame_pos, fun data hoffered => ?_,
    fun free requested after hroom hcounted hpos hmany => ?_, fun stage hstage =>
    ⟨fun free count staged hstaged hroom => hready.fits_converted hexact hstage hstaged hroom,
      fun free requested after hasks => ?_⟩⟩
  · obtain ⟨free, after, frames, hroom, hlength, hfits⟩ := hready.fits_offered hexact hoffered
    refine ⟨free, after, frames, hroom, hlength, hfits, fun taken _ _ htakes => ?_⟩
    rw [Nat.min_eq_left hfits] at htakes
    rw [hlength]
    exact Nat.mul_le_mul_right _ htakes
  · have huncounted : r.countable requested = false := decide_eq_false (Nat.not_lt.mpr hmany)
    rw [DeviceRoute.cycle_uncountable hroom hcounted hpos (r.source.align_pos hready.source)
      huncounted]
    exact ⟨rfl, rfl, rfl⟩
  · obtain ⟨staged, done, hscaled, hlength, hdone, hconsumed, hoffered⟩ :=
      hready.offers_staged hexact hstage hasks gain
    obtain ⟨count, hcount, hle⟩ := hready.amount_frames requested
    have hrequested := hready.requested_eq hasks.counted
    rw [if_neg (by rw [hstage]; simp)] at hrequested
    exact ⟨staged, done, count, hscaled, hlength, hcount, hrequested ▸ hle, hdone, hconsumed,
      hoffered⟩

/-- A session over a speaker that renders three frames for two of the source. -/
def fasterSpeaker : Session DeviceBank (LinearResampler ℚ ℚ) where
  host := { devices := [{ id := "speaker", name := "Speaker", bufferFrames := 6, free := 6,
                          accepted := some [Format.pcm 12000 16 1] }] }
  config := {}
  source := Format.pcm 8000 16 1
  selected := some "speaker"
  period := Timing.defaultPeriod

/-- A cycle has left the read head between two frames, two frames were fed, and three are free. -/
def afterOneCycle : List (Move DeviceBank) :=
  Crew.rendering ++ [.drain 0, .drain 0, .drain 0, .offer 0 [1, 2, 3, 4], .produce 0 ⟨0, 0⟩,
    .elsewhere (·.setFree "speaker" 3)]

/-- Three frames are made of two, and just fit. -/
theorem cycles_never_overrun_faster :
    ∃ c trace r data, Session.create fasterSpeaker.host (Format.pcm 8000 16 1) (some "speaker") {}
        = .ok fasterSpeaker
      ∧ Crew.run { session := fasterSpeaker } afterOneCycle = some (c, trace)
      ∧ c.session.route = .device r ∧ r.stage.isSome = true
      ∧ (r.cycle c.session.host c.session.gain).offered = some data
      ∧ ∃ after, Host.freeFrames c.session.host r.endpoint = (.ok 3, after)
        ∧ data.length = 3 * r.deviceFrame := by
  obtain ⟨⟨c, trace⟩, hrun⟩ : ∃ p, Crew.run { session := fasterSpeaker } afterOneCycle = some p :=
    Option.isSome_iff_exists.mp (by decide +kernel)
  -- What the run comes to is computed by the kernel.
  have hends : ((Crew.run { session := fasterSpeaker } afterOneCycle).bind fun p =>
      p.1.session.deviceRoute?.bind fun r =>
        ((r.cycle p.1.session.host p.1.session.gain).offered.map List.length).map fun length =>
          (length, r.stage.isSome, r.deviceFrame,
            (Host.freeFrames p.1.session.host r.endpoint).1.toOption))
      = some (6, true, 2, some 3) := by decide +kernel
  rw [hrun] at hends
  simp only [Option.bind_some, Option.bind_eq_some_iff, Option.map_eq_some_iff,
    Prod.mk.injEq] at hends
  obtain ⟨r, hroute, length, ⟨data, hoffered, hlength⟩, rfl, hstage, hframe, hfree⟩ := hends
  have hr : c.session.route = .device r := deviceRoute?_eq_some hroute
  obtain ⟨_, hfits, _⟩ := cycles_never_overrun ReadHead.exact_rational
    (show Session.create fasterSpeaker.host (Format.pcm 8000 16 1) (some "speaker") {}
      = .ok fasterSpeaker from rfl) hrun hr c.session.host c.session.gain
  obtain ⟨free, after, frames, hroom, hbytes, _⟩ := hfits data hoffered
  have hthree : frames = 3 := by
    rw [hframe, hlength] at hbytes
    omega
  obtain rfl : free = 3 := by
    rw [hroom] at hfree
    exact Option.some.inj hfree
  rw [hthree] at hbytes
  exact ⟨c, trace, r, data, rfl, hrun, hr, hstage, hoffered, after, hroom, hbytes⟩

end Session

end PcmRender
