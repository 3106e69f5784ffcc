/-
  PcmRender.Proofs.Fitting — **for which sources there is a ranking.**

  Each common layout in a ranking has its frame size computed anew, in 16 bits: the bytes of a sample
  times the channels of the source.  The widest layouts have four bytes per sample, so all of them fit
  if the source has at most 16383 channels.  A source is accepted by its own frame size, which allows
  more channels if its samples are narrower:

      samples of the source     accepted up to     ranked up to
      8 bits                    65535 channels     16383 channels
      16 bits                   32767              16383
      24 bits                   21845              16383
      32 bits, or float         16383              16383

  Between the two bounds there is no ranking, and every open on a device, and every switch to one, ends
  in an overflow.  The only other overflow of such a call comes behind the ranking, from the pace of
  the endpoint that was opened.

  Main statements:
    * `Negotiation.candidates?_eq_ranking?` — a ranking in which each frame size is checked as it is
      computed,
    * `Negotiation.frameSizes_fit_iff` — when all of them fit,
    * `Session.openRoute_overflow_iff`, `Session.select_overflow_iff` — calls that rank,
    * `Session.wide_layouts_overflow` — all of it together.
-/
import PcmRender.Proofs.Coherence
import PcmRender.Proofs.Delivery
import PcmRender.Proofs.Ranking
import PcmRender.Proofs.Selection

namespace PcmRender

namespace Negotiation

/-! ## §1. Frame sizes in 16 bits. -/

/-- A frame size in its field of 16 bits; `none` if it is too large. -/
def inField? (size : Nat) : Option Nat := if size < Nat.pow 2 16 then some size else none

/-- A common layout whose frame size fits. -/
def layout? (rate channels bits : Nat) (kind : SampleKind) : Option Format :=
  (inField? (Format.bytesFor bits * channels)).map fun align =>
    { rate, channels, bits, align, kind, order := .little }

/-- The common layouts at one rate, each computed in turn; `none` as soon as one does not fit. -/
def layouts? (rate channels : Nat) : Option (List Format) := do
  let short ← layout? rate channels 16 .int
  let middle ← layout? rate channels 24 .int
  let long ← layout? rate channels 32 .int
  let float ← layout? rate channels 32 .float
  some [short, middle, long, float]

/-- What is proposed at another rate, if its frame sizes fit. -/
def othersAt? (source : Format) (rate : Nat) : Option (List Format) :=
  (layouts? rate source.channels).map ({ source.withOrder .little with rate := rate } :: ·)

/-- Everything that could be proposed, if all frame sizes on the way fit. -/
def ranking? (source : Format) (supported : List Format) : Option (List Format) := do
  let same ← layouts? source.rate source.channels
  let others ← (commonRates.filter (· != source.rate)).mapM (othersAt? source)
  some ([source, source.withOrder .little] ++ same ++ others.flatten ++ supported)

/-- The frame sizes that a ranking computes, one after the other. -/
def frameSizes (source : Format) : List Nat :=
  (source.rate :: commonRates.filter (· != source.rate)).flatMap fun rate =>
    (layouts rate source.channels).map Format.align

theorem inField?_of_lt {size : Nat} (h : size < 65536) : inField? size = some size := if_pos h

theorem inField?_of_ge {size : Nat} (h : 65536 ≤ size) : inField? size = none :=
  if_neg (Nat.not_lt.mpr h)

theorem layouts?_of_le {rate channels : Nat} (h : channels ≤ 16383) :
    layouts? rate channels = some (layouts rate channels) := by
  have hshort : inField? (Format.bytesFor 16 * channels) = some (2 * channels) :=
    inField?_of_lt (show 2 * channels < 65536 by omega)
  have hmiddle : inField? (Format.bytesFor 24 * channels) = some (3 * channels) :=
    inField?_of_lt (show 3 * channels < 65536 by omega)
  have hlong : inField? (Format.bytesFor 32 * channels) = some (4 * channels) :=
    inField?_of_lt (show 4 * channels < 65536 by omega)
  unfold layouts? layout?
  rw [hshort, hmiddle, hlong]
  rfl

theorem layouts?_of_gt {rate channels : Nat} (h : 16383 < channels) : layouts? rate channels = none := by
  have hlong : inField? (Format.bytesFor 32 * channels) = none :=
    inField?_of_ge (show 65536 ≤ 4 * channels by omega)
  unfold layouts? layout?
  rw [hlong]
  -- Whichever layouts in front of it fit, the third does not.
  cases inField? (Format.bytesFor 16 * channels) with
  | none => rfl
  | some _ => cases inField? (Format.bytesFor 24 * channels) <;> rfl

theorem ranking?_of_le {source : Format} (h : source.channels ≤ 16383) (supported : List Format) :
    ranking? source supported = some (ranking source supported) := by
  have hothers : othersAt? source = fun rate =>
      pure ({ source.withOrder .little with rate := rate } :: layouts rate source.channels) := by
    funext rate
    unfold othersAt?
    rw [layouts?_of_le h]
    rfl
  unfold ranking?
  rw [layouts?_of_le h, hothers, List.mapM_pure]
  rfl

theorem ranking?_of_gt {source : Format} (h : 16383 < source.channels) (supported : List Format) :
    ranking? source supported = none := by
  unfold ranking?
  rw [layouts?_of_gt h]
  rfl

/-- **A ranking checks each frame size as it is computed**, and ends at the first that does not fit. -/
theorem candidates?_eq_ranking? (source : Format) (supported : List Format) :
    candidates? source supported = (ranking? source supported).map fun ranked =>
      firstOnly (ranked.filter (proposable source.channels)) := by
  unfold candidates?
  by_cases h : source.channels ≤ 16383
  · rw [if_pos (layoutsFit_iff.mpr h), ranking?_of_le h]
    rfl
  · rw [if_neg (mt layoutsFit_iff.mp h), ranking?_of_gt (Nat.not_le.mp h)]
    rfl

theorem candidates?_eq_none_iff (source : Format) (supported : List Format) :
    candidates? source supported = none ↔ 16383 < source.channels := by
  unfold candidates?
  rw [← Nat.not_le, ← layoutsFit_iff]
  split <;> simp [*]

/-- **All frame sizes of a ranking fit if the widest do.** -/
theorem frameSizes_fit_iff (source : Format) :
    (∀ size ∈ frameSizes source, size ≤ 65535) ↔ source.channels ≤ 16383 := by
  constructor
  · intro h
    have hwidest : 4 * source.channels ∈ frameSizes source := by
      refine List.mem_flatMap.mpr ⟨source.rate, List.mem_cons_self, List.mem_map.mpr
        ⟨Format.pcm source.rate 32 source.channels, ?_, rfl⟩⟩
      simp [layouts]
    have hfits := h _ hwidest
    omega
  · intro h size hsize
    obtain ⟨rate, _, hlayout⟩ := List.mem_flatMap.mp hsize
    have hsizes : size = 2 * source.channels ∨ size = 3 * source.channels
        ∨ size = 4 * source.channels := by
      simpa [layouts, Format.float, Format.pcm, Format.bytesFor] using hlayout
    omega

/-- A source of four bytes per sample has no more channels than a ranking can hold. -/
theorem channels_le_of_wide {source : Format} (hsupported : source.isSupported = true)
    (hfield : source.align ≤ 65535) (hwide : source.bits = 32) : source.channels ≤ 16383 := by
  have halign : source.align = 4 * source.channels := by
    rw [source.align_eq hsupported, Format.sampleSize, hwide, Nat.mul_comm]
    rfl
  omega

/-! ## §2. Calls that rank. -/

section Asking

variable {σ : Type} [Host σ]

/-- **A negotiation overflows exactly where there is no ranking.** -/
theorem negotiate_overflow_iff {host : σ} {device : String} {source : Format} {buffer : Duration}
    (hsupported : source.isSupported = true) :
    (negotiate host device source buffer).result = .error .overflow ↔ 16383 < source.channels := by
  constructor
  · intro h
    have hwide := channels_of_negotiate_overflow h
    omega
  · intro h
    unfold negotiate
    rw [if_pos hsupported]
    dsimp only
    rw [(candidates?_eq_none_iff source _).mpr h]

end Asking

end Negotiation

namespace Session

variable {σ κ : Type} [Host σ] [Stage κ]

/-- **An open overflows exactly if there is a device to be opened, and no ranking for it or a pace that
cannot be reckoned.** -/
theorem openRoute_overflow_iff {s : Session σ κ} (hsupported : s.source.isSupported = true) :
    s.openRoute.1 = .error .overflow
      ↔ s.route = .closed ∧ ∃ device, s.selected = some device
        ∧ (16383 < s.source.channels ∨ s.Unpaced device) := by
  show s.openSection.1 = _ ↔ _
  unfold openSection
  split
  next hselected => simp [hselected]
  next device hroute hselected =>
    have hnegotiated : (Negotiation.negotiate s.host device s.source s.config.buffer).result
        = .error .overflow ↔ 16383 < s.source.channels := Negotiation.negotiate_overflow_iff hsupported
    rw [openDevice_overflow_iff, hnegotiated]
    exact ⟨fun h => ⟨hroute, device, hselected, h⟩, fun ⟨_, other, hother, h⟩ => by
      rwa [Option.some.inj (hselected.symm.trans hother)]⟩
  next hnull hdevice =>
    exact ⟨fun h => absurd h (by simp), fun ⟨hclosed, device, hselected, _⟩ =>
      absurd hselected (hdevice device hclosed)⟩

/-- **A switch overflows exactly if it opens a device for which there is no ranking, or no pace.** -/
theorem select_overflow_iff {s : Session σ κ} (hsupported : s.source.isSupported = true)
    (target : Option String) :
    (s.select target).1 = .error .overflow
      ↔ s.phase ≠ .closed ∧ ∃ device, target = some device
        ∧ (16383 < s.source.channels ∨ (s.vacated target).Unpaced device) := by
  have hsame := source_vacated s target
  have hopen := openRoute_overflow_iff (s := s.vacated target) (hsame ▸ hsupported)
  rw [hsame] at hopen
  rw [select_eq]
  split
  next hclosed => simp [hclosed]
  next hphase =>
    have hvacant : (s.vacated target).route = .closed := route_vacated s target
    have hselected : (s.vacated target).selected = target := rfl
    rw [hvacant, hselected] at hopen
    dsimp only
    unfold resume
    generalize (s.vacated target).openRoute = opened at hopen ⊢
    obtain ⟨answer, t⟩ := opened
    cases answer with
    | error fault => exact ⟨fun h => ⟨hphase, (hopen.mp h).2⟩, fun h => hopen.mpr ⟨rfl, h.2⟩⟩
    | ok _ =>
        -- What is opened has a ranking and a pace, and what comes behind needs neither.
        refine ⟨fun h => ?_, fun h => absurd (hopen.mpr ⟨rfl, h.2⟩) (by simp)⟩
        dsimp only at h
        split at h
        · cases hrestart : t.restart with
          | mk answer u =>
              rw [hrestart] at h
              obtain rfl : answer = .error .overflow := h
              exact absurd rfl (restart_refused hrestart).1
        · exact absurd h (by simp)

/-- Where the calls of a session that ask a device end in an overflow: exactly where the device would
have to be asked without a ranking, or has answered and no pace can be reckoned. -/
structure OverflowsUnranked (s : Session σ κ) : Prop where
  opens : s.openRoute.1 = .error .overflow ↔ s.route = .closed
    ∧ ∃ device, s.selected = some device ∧ (16383 < s.source.channels ∨ s.Unpaced device)
  switches : ∀ target, (s.select target).1 = .error .overflow ↔ s.phase ≠ .closed
    ∧ ∃ device, target = some device
      ∧ (16383 < s.source.channels ∨ (s.vacated target).Unpaced device)

/-- **A source is accepted by its own frame size, and ranked by the widest.**  For every source that can
be encoded, with frames of its own that fit 16 bits, and whatever a device reports: a ranking checks each
frame size as it is computed, and there is none exactly if one of them leaves 16 bits.  All of them fit
exactly if the source has at most 16383 channels, which only a source of four bytes per sample has by
itself.

A session accepts all of these sources.  Whatever its life, on any host, an open ends in an overflow
exactly if it has to open a device for a source with more channels, or one whose pace cannot be
reckoned, and so does a switch. -/
theorem wide_layouts_overflow (σ κ : Type) [Host σ] [Stage κ] {source : Format}
    (hsupported : source.isSupported = true) (hfield : source.align ≤ 65535) :
    (∀ supported, Negotiation.candidates? source supported
        = (Negotiation.ranking? source supported).map fun ranked =>
          Negotiation.firstOnly (ranked.filter (Negotiation.proposable source.channels)))
    ∧ (∀ supported, Negotiation.candidates? source supported = none
        ↔ ∃ size ∈ Negotiation.frameSizes source, 65535 < size)
    ∧ ((∀ size ∈ Negotiation.frameSizes source, size ≤ 65535) ↔ source.channels ≤ 16383)
    ∧ (source.bits = 32 → source.channels ≤ 16383)
    ∧ ∀ (host : σ) (selected : Option String) (config : SessionConfig), ∃ s : Session σ κ,
      create host source selected config = .ok s
        ∧ ∀ calls : List (Call σ), (s.run calls).OverflowsUnranked := by
  have hfit := Negotiation.frameSizes_fit_iff source
  refine ⟨Negotiation.candidates?_eq_ranking? source, fun supported => ?_, hfit,
    Negotiation.channels_le_of_wide hsupported hfield, fun host selected config => ?_⟩
  · rw [Negotiation.candidates?_eq_none_iff, ← Nat.not_le, ← hfit]
    simp
  · have hcreate : create (κ := κ) host source selected config
        = .ok { host, config, source, selected, period := config.period.kept } := if_pos hsupported
    refine ⟨_, hcreate, fun calls => ?_⟩
    have hlife := coherent_run calls (coherent_create hcreate)
    exact ⟨openRoute_overflow_iff hlife.supported, select_overflow_iff hlife.supported⟩

/-- The most channels that 32-bit samples can have are ranked, and a session can be opened for them. -/
theorem wide_layouts_overflow_floats :
    (Format.float 48000 16383).isSupported = true ∧ (Format.float 48000 16383).align = 65532
      ∧ (∀ size ∈ Negotiation.frameSizes (Format.float 48000 16383), size ≤ 65535)
      ∧ ∃ s : Session DeviceBank (LinearResampler Double Single),
        create quietSpeaker.host (Format.float 48000 16383) (some "speaker") {} = .ok s
          ∧ s.openRoute.1 ≠ .error .overflow := by
  have hsupported : (Format.float 48000 16383).isSupported = true := by decide
  obtain ⟨_, _, hfit, hfew, hlife⟩ := wide_layouts_overflow DeviceBank
    (LinearResampler Double Single) hsupported (by decide)
  obtain ⟨s, hcreate, hruns⟩ := hlife quietSpeaker.host (some "speaker") {}
  refine ⟨hsupported, rfl, hfit.mpr (hfew rfl), s, hcreate, fun hoverflow => ?_⟩
  obtain rfl := Except.ok.inj hcreate
  obtain ⟨_, device, hselected, hwide | ⟨endpoint, hasked, hunpaced⟩⟩ := (hruns []).opens.mp hoverflow
  · exact absurd hwide (by decide)
  · -- The speaker states a period of ten milliseconds.
    have hcountable : ∀ e ∈ (Negotiation.negotiate quietSpeaker.host "speaker"
        (Format.float 48000 16383) Timing.defaultBuffer).result.toOption,
        Timing.Countable e.format e.bufferFrames e.period Timing.defaultPeriod := by decide +kernel
    obtain rfl : "speaker" = device := Option.some.inj hselected
    refine DeviceRoute.not_unpaced_of_countable (hcountable endpoint ?_) hunpaced
    exact congrArg Except.toOption hasked

/-- **A source that is accepted and cannot be opened.**  Its own frames have 16384 bytes, which is a quarter
of the field; the frames of the third layout at its rate have 65536. -/
theorem narrow_source_overflows :
    (Format.pcm 8000 8 16384).isSupported = true ∧ (Format.pcm 8000 8 16384).align = 16384
      ∧ 65536 ∈ Negotiation.frameSizes (Format.pcm 8000 8 16384)
      ∧ Negotiation.candidates? (Format.pcm 8000 8 16384) [] = none
      ∧ ∃ s : Session DeviceBank (LinearResampler Double Single),
        create quietSpeaker.host (Format.pcm 8000 8 16384) (some "speaker") {} = .ok s
          ∧ s.openRoute.1 = .error .overflow :=
  ⟨by decide, rfl, by decide, rfl, _, rfl, rfl⟩

end Session

end PcmRender
