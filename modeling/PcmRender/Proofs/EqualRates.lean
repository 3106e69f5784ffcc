/-
  PcmRender.Proofs.EqualRates — **a converted route at equal rates is the plain one, transcoded.**

  A session opens a device of the rate of its source with a conversion.  Beside it stands the session
  that the same opening would have given without one.  The second route need not exist: a stream that
  takes what it has room for can be imagined behind a machine that transcodes by itself (`Transcoder`),
  and the route without its stage, in front of that machine, is abreast with the route that was opened
  (Proofs/TwinSessions).

  So what the device receives is the source as it would have received it, read and written sample by
  sample, and the books and the ring are those of the plain session.

  Main statement:
    * `Session.equal_rates_transcode` — from the opening on.
-/
import PcmRender.Proofs.TwinSessions

namespace PcmRender

namespace Session

variable {σ ρ τ α : Type} {R : σ → ρ → Prop} {received : σ → List UInt8} {heard : ρ → List UInt8}
  {s t : Session σ (LinearResampler τ α)} {u : Session ρ (LinearResampler τ α)}
  {r twin : DeviceRoute (LinearResampler τ α)} [Host σ] [Host ρ] [Amplitude α] [ReadHead τ α]

/-- A device that a closed session has opened does not render yet. -/
theorem opened_frame {σ κ : Type} [Host σ] [Stage κ] {s t : Session σ κ} {r : DeviceRoute κ}
    (hclosed : s.route = .closed) (hopen : s.openSection = (.ok (), t)) (hr : t.route = .device r) :
    t.phase = .opened
      ∧ t.generation = s.generation ∧ t.switching = s.switching ∧ t.gain = s.gain := by
  have hgain := gain_openSection s
  have houtcome := openSection_outcome s
  rw [hopen] at hgain houtcome
  cases houtcome with
  | already hopened => exact absurd hclosed hopened
  | null => exact absurd hr (by simp [openNull, note])
  | device _ _ _ _ _ hsteady => exact ⟨rfl, hsteady.generation, hsteady.switching, hgain⟩

/-- A section that keeps the machine ready outside of the session, and writes nothing to the stream
there. -/
def Passing.KeepsReady (ready : σ → Prop) (received : σ → List UInt8) : Passing σ → Prop
  | .elsewhere change => (∀ {a}, ready a → ready (change a))
    ∧ ∀ host, received (change host) = received host
  | _ => True

/-- `u` is the session `s`, opened on another machine for a device that takes the source as it is, and
has the buffer and the period of the device of `r`. -/
structure OpensPlain (s : Session σ (LinearResampler τ α)) (r : DeviceRoute (LinearResampler τ α))
    (u : Session ρ (LinearResampler τ α)) (twin : DeviceRoute (LinearResampler τ α)) : Prop where
  opened : ∃ other, ({ s with host := other } : Session ρ (LinearResampler τ α)).openSection
    = (.ok (), u)
  route : u.route = .device twin
  plain : twin.stage = none
  frames : twin.endpoint.bufferFrames = r.endpoint.bufferFrames
  period : twin.endpoint.period = r.endpoint.period

open DeviceRoute (Twins Converts Paired)

/-- **A device with a stage that has the rate of the source** converts it at equal rates. -/
theorem opened_converts (hclosed : s.route = .closed) (hopen : s.openSection = (.ok (), t))
    (hr : t.route = .device r) (hconverted : r.stage.isSome = true)
    (hrate : r.endpoint.format.rate = s.source.rate) : r.Converts := by
  obtain ⟨hsupported, device, endpoint, _, hbuilt⟩ := opened_built hclosed hopen hr
  obtain ⟨_, hendpoint, hsource, _, hring, _, _, _⟩ := DeviceRoute.build_ok hbuilt
  obtain ⟨stage, hthrough⟩ := Option.isSome_iff_exists.mp hconverted
  have hbetween := DeviceRoute.between_of_build hbuilt
  rw [hthrough] at hbetween
  obtain ⟨hinput, houtput, _, hwritable⟩ := Stage.between_some hbetween
  have hformat : r.converted = Stage.outputFormat s.source endpoint.format := by
    unfold DeviceRoute.converted
    rw [hsource, hendpoint]
  exact
    { stage := ⟨stage, hthrough, by rw [hinput, hsource], by rw [houtput, hformat]⟩
      rate := by rw [hsource, hrate]
      supported := by rw [hsource, hsupported]
      writable := by rw [hformat, hwritable]
      whole := by
        rw [hring, Ring.capacity_silent, hsource]
        exact Nat.dvd_mul_left _ _ }

/-- **Two openings for one source make twins**, if one of the devices takes it as it is, the other in
another layout at the same rate, and both have the same buffer and period. -/
theorem twins_opened (hclosed : s.route = .closed) (hopen : s.openSection = (.ok (), t))
    (hr : t.route = .device r) (hconverted : r.stage.isSome = true)
    (hrate : r.endpoint.format.rate = s.source.rate) (h : OpensPlain s r u twin) : Twins r twin := by
  have hconverts := opened_converts hclosed hopen hr hconverted hrate
  obtain ⟨_, _, endpoint, _, hbuilt⟩ := opened_built hclosed hopen hr
  obtain ⟨⟨other, hopenTwin⟩, htwin, hplain, hframes, hperiod⟩ := h
  have hclosedTwin : ({ s with host := other } : Session ρ (LinearResampler τ α)).route = .closed :=
    hclosed
  obtain ⟨_, _, endpoint', _, hbuilt'⟩ := opened_built hclosedTwin hopenTwin htwin
  obtain ⟨_, hendpoint, hsource, htiming, hring, _, _, honset⟩ := DeviceRoute.build_ok hbuilt
  obtain ⟨_, hendpoint', hsource', htiming', hring', _, hneeds, honset'⟩ := DeviceRoute.build_ok hbuilt'
  -- Without a stage the other device has the rate of the source.
  have hrate' : endpoint'.format.rate = s.source.rate := by
    rw [hplain] at hneeds
    have hsame : needsConversion s.source endpoint'.format = false := hneeds.symm
    unfold needsConversion at hsame
    simp only [Bool.or_eq_false_iff, bne_eq_false_iff_eq] at hsame
    exact hsame.1.1.1.symm
  rw [hendpoint, hendpoint'] at hframes hperiod
  rw [hendpoint] at hrate
  have hpace : twin.timing = r.timing := by
    rw [htiming, htiming']
    unfold Timing.derive Format.framesDuration
    rw [hrate', hrate, hframes, hperiod]
  exact
    { hconverts with
      source := by rw [hsource, hsource']
      timing := hpace
      ring := by rw [hring, hring', hpace]
      onset := by rw [honset, honset']
      plain := hplain }

/-- **What arrives is transcoded frame by frame**: a route is abreast with itself without its stage,
behind a stream that transcodes. -/
theorem transcoded_flow (hr : t.route = .device r) (hconverts : r.Converts) {ready : σ → Prop}
    (hkeeps : r.endpoint.Keeps r.converted.align received)
    (htakes : r.endpoint.Takes ready r.converted.align) (hready : ready t.host)
    (run : List (Passing σ)) (hkept : ∀ passing ∈ run, passing.KeepsReady ready received) :
    ∃ image frames, (t.flow run).1.scaled? r.source = some image
      ∧ received (t.flow run).2.host
        = received t.host ++ Format.transcode α r.source r.converted image
      ∧ image.length = frames * r.source.align
      ∧ (Format.transcode α r.source r.converted image).length = frames * r.converted.align := by
  have hsame : r.source.channels = r.converted.channels := rfl
  have habreast : Abreast (fun a (b : Transcoder σ α r.source r.converted) => b.host = a ∧ ready a) t
      { t with host := ⟨t.host, []⟩, route := .device { r with stage := none } } r
      { r with stage := none } :=
    { hosts := ⟨rfl, hready⟩
      route := hr
      other := rfl
      twins := hconverts.twins_self
      phase := rfl
      generation := rfl
      switching := rfl
      gain := rfl }
  have hp : Paired α (fun a (b : Transcoder σ α r.source r.converted) => b.host = a ∧ ready a)
      received Transcoder.heard r { r with stage := none } :=
    { mirrors := Transcoder.mirrors_self hconverts.supported hconverts.writable hsame htakes
      keeps := hkeeps
      hears := Transcoder.keeps_heard hconverts.supported hconverts.writable hsame hkeeps }
  have heven : ∀ passing ∈ run, passing.KeepsRelated (fun change b => { b with host := change b.host })
      (fun a (b : Transcoder σ α r.source r.converted) => b.host = a ∧ ready a) received
      Transcoder.heard := by
    intro passing hpassing
    cases passing with
    | elsewhere change =>
        obtain ⟨hready, hreceived⟩ := hkept _ hpassing
        refine ⟨?_, hreceived, fun _ => rfl⟩
        rintro a b ⟨rfl, ha⟩
        exact ⟨rfl, hready ha⟩
    | _ => trivial
  obtain ⟨_, hmoved⟩ := abreast_flow _ run habreast hp heven
  obtain ⟨image, himage, hreceived, _⟩ := hmoved.arrived
  obtain ⟨frames, hwhole⟩ := hmoved.whole
  have hlength : image.length = frames * r.source.align := by
    rw [length_scaled? hconverts.supported _ himage, hwhole, Nat.mul_comm]
  exact ⟨image, frames, himage, hreceived, hlength,
    Format.length_transcode_frames hconverts.supported hconverts.writable hsame hlength⟩

/-- **At equal rates a converted route is the plain one, transcoded.**  Let a session open a device
that takes its source in another sample layout at the same rate, let its stream take whatever it has
room for, and let any sections follow as long as the route stays open.  Then the stream receives what
was popped, scaled cycle by cycle, and sample by sample read in the format of the source and written
in that of the device: as many frames as were popped.

Let the same session open a device that takes the source as it is, on any other machine, whose stream
answers as the first one does.  After the same sections both have the same books, and the same ring;
and the other stream receives what was popped as it is. -/
theorem equal_rates_transcode (hclosed : s.route = .closed) (hopen : s.openSection = (.ok (), t))
    (hr : t.route = .device r) (hconverted : r.stage.isSome = true)
    (hrate : r.endpoint.format.rate = s.source.rate) {ready : σ → Prop}
    (hkeeps : r.endpoint.Keeps r.converted.align received)
    (htakes : r.endpoint.Takes ready r.converted.align) (hready : ready t.host)
    (run : List (Passing σ)) (hkept : ∀ passing ∈ run, passing.KeepsReady ready received) :
    ∃ image frames, (t.flow run).1.scaled? s.source = some image
      ∧ received (t.flow run).2.host
        = received t.host ++ Format.transcode α s.source r.converted image
      ∧ image.length = frames * s.source.align
      ∧ (Format.transcode α s.source r.converted image).length = frames * r.converted.align
      ∧ ∀ {ρ : Type} [Host ρ] {u : Session ρ (LinearResampler τ α)}
        {twin : DeviceRoute (LinearResampler τ α)} {R : σ → ρ → Prop} {heard : ρ → List UInt8}
        {there : (σ → σ) → ρ → ρ}, OpensPlain s r u twin → Paired α R received heard r twin →
          R t.host u.host → (∀ passing ∈ run, passing.KeepsRelated there R received heard) →
            (u.flow (run.map (Passing.onto there))).1 = (t.flow run).1
              ∧ (∃ later last, (t.flow run).2.route = .device later
                ∧ (u.flow (run.map (Passing.onto there))).2.route = .device last
                ∧ last.ring = later.ring)
              ∧ heard (u.flow (run.map (Passing.onto there))).2.host = heard u.host ++ image := by
  have hconverts := opened_converts hclosed hopen hr hconverted hrate
  have hsource : r.source = s.source := by
    obtain ⟨_, _, _, _, hbuilt⟩ := opened_built hclosed hopen hr
    exact (DeviceRoute.build_ok hbuilt).2.2.1
  obtain ⟨image, frames, himage, hreceived, hlength, hcount⟩ :=
    transcoded_flow hr hconverts hkeeps htakes hready run hkept
  rw [hsource] at himage hreceived hlength hcount
  refine ⟨image, frames, himage, hreceived, hlength, hcount, ?_⟩
  intro ρ _ u twin R heard there hplain hp hR heven
  have htwins := twins_opened hclosed hopen hr hconverted hrate hplain
  obtain ⟨⟨other, hopenTwin⟩, htwin, _⟩ := hplain
  obtain ⟨hphase, hgeneration, hswitching, hgain⟩ := opened_frame hclosed hopen hr
  have hclosedTwin : ({ s with host := other } : Session ρ (LinearResampler τ α)).route = .closed :=
    hclosed
  obtain ⟨hphase', hgeneration', hswitching', hgain'⟩ := opened_frame hclosedTwin hopenTwin htwin
  have habreast : Abreast R t u r twin :=
    { hosts := hR
      route := hr
      other := htwin
      twins := htwins
      phase := hphase'.trans hphase.symm
      generation := hgeneration'.trans hgeneration.symm
      switching := hswitching'.trans hswitching.symm
      gain := hgain'.trans hgain.symm }
  obtain ⟨hbooks, hmoved⟩ := abreast_flow there run habreast hp heven
  obtain ⟨later, last, hlater, _, _⟩ := hmoved.abreast
  obtain ⟨same, hsame, _, hheard⟩ := hmoved.arrived
  rw [hsource, himage] at hsame
  obtain rfl : image = same := Option.some.inj hsame
  exact ⟨hbooks, ⟨later, last, hlater.route, hlater.other, hlater.twins.ring⟩, hheard⟩

/-- The two samples reach the wide speaker in three bytes each, and the plain one in two. -/
theorem equal_rates_transcode_twoSamples :
    ∃ t u r, wideSpeaker.openSection = (.ok (), t) ∧ quietSpeaker.openSection = (.ok (), u)
      ∧ t.route = .device r ∧ r.stage.isSome = true
      ∧ (u.flow twoSamples).1 = (t.flow twoSamples).1
      ∧ (∃ later last, (t.flow twoSamples).2.route = .device later
        ∧ (u.flow twoSamples).2.route = .device last ∧ last.ring = later.ring)
      ∧ (∃ image, (t.flow twoSamples).2.host.written "speaker"
          = Format.transcode Single wideSpeaker.source r.converted image
        ∧ (u.flow twoSamples).2.host.written "speaker" = image)
      ∧ (t.flow twoSamples).2.host.written "speaker"
        = List.replicate 12 0 ++ [0, 0xf4, 0x01] ++ List.replicate 9 0 ++ [0, 0x0c, 0xfe]
      ∧ (u.flow twoSamples).2.host.written "speaker"
        = List.replicate 8 0 ++ [0xf4, 0x01] ++ List.replicate 6 0 ++ [0x0c, 0xfe] := by
  have hopen : wideSpeaker.openSection = (.ok (), wideSpeaker.openSection.2) := rfl
  have hplain : quietSpeaker.openSection = (.ok (), quietSpeaker.openSection.2) := rfl
  have halike : DeviceBank.Alike "speaker" wideSpeaker.openSection.2.host
      quietSpeaker.openSection.2.host :=
    ⟨_, _, rfl, rfl, rfl, rfl, rfl, rfl, rfl, rfl, rfl, by decide +kernel, by decide +kernel⟩
  have hself : DeviceBank.Alike "speaker" wideSpeaker.openSection.2.host
      wideSpeaker.openSection.2.host :=
    ⟨_, _, rfl, rfl, rfl, rfl, rfl, rfl, rfl, rfl, rfl, by decide +kernel, by decide +kernel⟩
  have hkept : ∀ passing ∈ twoSamples, passing.KeepsReady
      (fun b : DeviceBank => DeviceBank.Alike "speaker" b b) fun b => b.written "speaker" := by
    simp +contextual
      [twoSamples, Passing.KeepsReady, DeviceBank.written_setFree, DeviceBank.Alike.setFree]
  have heven : ∀ passing ∈ twoSamples, passing.KeepsRelated (fun change => change)
      (DeviceBank.Alike "speaker") (fun b => b.written "speaker") fun b => b.written "speaker" := by
    simp +contextual
      [twoSamples, Passing.KeepsRelated, DeviceBank.written_setFree, DeviceBank.Alike.setFree]
  obtain ⟨image, _, _, hreceived, _, _, htwin⟩ := equal_rates_transcode rfl hopen rfl rfl rfl
    (DeviceBank.keeps_written _) (DeviceBank.takes_alike (by decide +kernel)) hself twoSamples hkept
  obtain ⟨hbooks, hrings, hheard⟩ := htwin ⟨⟨quietSpeaker.host, hplain⟩, rfl, rfl, rfl, rfl⟩
    ⟨DeviceBank.mirrors_transcode (by decide +kernel) (by decide +kernel) rfl (by rfl),
      DeviceBank.keeps_written _, DeviceBank.keeps_written _⟩ halike heven
  exact ⟨_, _, _, hopen, hplain, rfl, rfl, hbooks, hrings, ⟨image, hreceived, hheard⟩,
    by decide +kernel, by decide +kernel⟩

end Session

end PcmRender
