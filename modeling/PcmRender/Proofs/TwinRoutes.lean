/-
  PcmRender.Proofs.TwinRoutes — **a route with a conversion beside the same one without it.**

  A route with a stage and one without it count what they write differently: the first takes what it
  staged out of the ring, the second what the stream took.  Put side by side at equal rates, with the
  same ring in front of them, on two streams that mirror each other, they cannot be told apart by their
  rings:

      ring of the source frames        the same on both routes, after every cycle
      without a stage                  the stream receives what was popped, scaled
      with one                         it receives the same, read and written sample by sample

  At equal rates a cycle requests on both routes what the stream has free, and stages the same bytes.
  Each frame of them is one frame of the device (`Format.length_transcode_frames`), so that as many
  frames are written, and both streams take all of them.

  Main definitions:
    * `DeviceRoute.Twins`, `DeviceRoute.Paired` — the routes, and their streams,
    * `DeviceRoute.Together` — what a cycle does on both.

  Main statement:
    * `DeviceRoute.Twins.cycle` — one cycle on both routes.
-/
import PcmRender.Proofs.Delivery
import PcmRender.Proofs.FailedWrites
import PcmRender.Proofs.Mirroring
import PcmRender.Proofs.Offering

namespace PcmRender

/-! ## §1. Twins. -/

namespace DeviceRoute

variable {σ ρ τ α : Type} [Host σ] [Host ρ]

/-- The format that the stage of a route writes. -/
def converted {κ : Type} (r : DeviceRoute κ) : Format := Stage.outputFormat r.source r.endpoint.format

/-- The stage of a route converts its source for a stream of the same rate. -/
structure Converts (r : DeviceRoute (LinearResampler τ α)) : Prop where
  stage : ∃ stage, r.stage = some stage ∧ stage.input = r.source ∧ stage.output = r.converted
  rate : r.endpoint.format.rate = r.source.rate
  supported : r.source.isSupported = true
  writable : r.converted.isSupported = true
  /-- The ring holds whole frames. -/
  whole : r.source.align ∣ r.ring.capacity

/-- `twin` is such a route without its stage, over a stream in the format of the source. -/
structure Twins (r twin : DeviceRoute (LinearResampler τ α)) : Prop extends Converts r where
  source : twin.source = r.source
  timing : twin.timing = r.timing
  ring : twin.ring = r.ring
  onset : twin.onset = r.onset
  plain : twin.stage = none

/-- Without its stage a route is its own twin. -/
theorem Converts.twins_self {r : DeviceRoute (LinearResampler τ α)} (h : r.Converts) :
    Twins r { r with stage := none } :=
  { h with source := rfl, timing := rfl, ring := rfl, onset := rfl, plain := rfl }

namespace Twins

variable {r twin : DeviceRoute (LinearResampler τ α)}

/-- **Routes stay twins** as long as their rings and marks do and the stage converts the same. -/
theorem of_continues (h : Twins r twin) {later last : DeviceRoute (LinearResampler τ α)}
    (hr : r.Continues later) (ht : twin.Continues last) (hring : last.ring = later.ring)
    (honset : last.onset = later.onset)
    (hstage : ∃ stage, later.stage = some stage ∧ stage.input = r.source
      ∧ stage.output = r.converted) : Twins later last where
  source := by rw [ht.source, hr.source, h.source]
  timing := by rw [ht.timing, hr.timing, h.timing]
  ring := hring
  onset := honset
  plain := ht.plain h.plain
  stage := by
    unfold converted at hstage ⊢
    rw [hr.source, hr.endpoint]
    exact hstage
  rate := by rw [hr.endpoint, hr.source, h.rate]
  supported := by rw [hr.source, h.supported]
  writable := by
    have hwritable := h.writable
    unfold converted at hwritable ⊢
    rw [hr.source, hr.endpoint, hwritable]
  whole := by
    rw [hr.source, hr.capacity]
    exact h.whole

/-- What a cycle requests is what is free, -/
theorem requested (h : Twins r twin) (free : Nat) :
    r.requested? free = some free ∧ twin.requested? free = some free := by
  unfold requested?
  constructor
  · rw [h.rate, bne_self_eq_false, Bool.and_false]
    rfl
  · rw [h.plain]
    rfl

/-- and it writes as much on both routes, -/
theorem amount (h : Twins r twin) (requested : Nat) : twin.amount requested = r.amount requested := by
  unfold DeviceRoute.amount frames queued
  rw [h.ring, h.timing, h.source]

/-- which can be counted on both or on neither: -/
theorem countable (h : Twins r twin) (requested : Nat) :
    twin.countable requested = r.countable requested := by
  unfold DeviceRoute.countable frames queued
  rw [h.ring, h.timing, h.source]

/-- namely the same. -/
theorem staged? (h : Twins r twin) (gain : Single) (requested : Nat) :
    twin.staged? gain requested = r.staged? gain requested := by
  unfold DeviceRoute.staged? padded
  rw [h.amount, h.ring, h.source]

end Twins

/-- The streams of a route and of its twin answer alike, and both keep what is written to them. -/
structure Paired (α : Type) [Amplitude α] {κ : Type} (R : σ → ρ → Prop) (received : σ → List UInt8)
    (heard : ρ → List UInt8) (r twin : DeviceRoute κ) : Prop where
  mirrors : r.endpoint.Mirrors R twin.endpoint (Format.transcode α r.source r.converted)
    r.source.align
  keeps : r.endpoint.Keeps r.converted.align received
  hears : twin.endpoint.Keeps r.source.align heard

theorem Paired.of_continues [Amplitude α] {κ : Type} {R : σ → ρ → Prop} {received : σ → List UInt8}
    {heard : ρ → List UInt8} {r twin later last : DeviceRoute κ} (h : Paired α R received heard r twin)
    (hr : r.Continues later) (ht : twin.Continues last) : Paired α R received heard later last := by
  have hconverted : later.converted = r.converted := by
    unfold converted
    rw [hr.source, hr.endpoint]
  constructor
  · rw [hr.endpoint, ht.endpoint, hconverted, hr.source]
    exact h.mirrors
  · rw [hr.endpoint, hconverted]
    exact h.keeps
  · rw [ht.endpoint, hr.source]
    exact h.hears

/-! ## §2. One cycle. -/

theorem cycle_crashed {κ : Type} [Stage κ] {host after : σ} {r : DeviceRoute κ}
    (hroom : Host.freeFrames host r.endpoint = (.error .crashed, after)) (gain : Single) :
    r.cycle host gain = unmoved after r (.error .endpoint) := by
  unfold cycle
  rw [hroom]

theorem cycle_nothing {κ : Type} [Stage κ] {host after : σ} {r : DeviceRoute κ}
    {answer : Except EndpointFault Nat} (hanswer : answer ≠ .error .crashed)
    (hroom : Host.freeFrames host r.endpoint = (answer, after))
    (hnothing : r.requested? (cycle.free answer) = some 0) (gain : Single) :
    r.cycle host gain = unmoved after r (.ok 0) := by
  unfold cycle
  rw [hroom]
  cases answer with
  | ok free =>
      dsimp only
      rw [hnothing]
      rfl
  | error fault =>
      cases fault with
      | crashed => exact absurd rfl hanswer
      | failed cause =>
          dsimp only
          rw [hnothing]
          rfl

variable [Amplitude α] [ReadHead τ α]

/-- What a cycle on a route and one on its twin have in common. -/
structure Together (R : σ → ρ → Prop) (received : σ → List UInt8) (heard : ρ → List UInt8)
    (r : DeviceRoute (LinearResampler τ α)) (a : σ) (b : ρ) (gain : Single)
    (done : Cycled σ (LinearResampler τ α)) (twin : Cycled ρ (LinearResampler τ α)) : Prop where
  outcome : twin.outcome = done.outcome
  popped : twin.popped = done.popped
  hosts : R done.host twin.host
  routes : Twins done.route twin.route
  /-- Whole frames leave the ring. -/
  whole : r.source.align ∣ done.popped.length
  /-- What arrives is what left it, scaled, and on the first route transcoded. -/
  arrived : ∃ image, Gain.scaleBytes? r.source gain done.popped = some image
    ∧ received done.host = received a ++ Format.transcode α r.source r.converted image
    ∧ heard twin.host = heard b ++ image

variable {R : σ → ρ → Prop} {received : σ → List UInt8} {heard : ρ → List UInt8}
  {r twin : DeviceRoute (LinearResampler τ α)} {a : σ} {b : ρ} {gain : Single}

omit [Host σ] [Host ρ] [Amplitude α] [ReadHead τ α] in
/-- The same leaves rings that hold the same. -/
theorem Twins.advance (h : Twins r twin) {later last : DeviceRoute (LinearResampler τ α)}
    (hr : r.Continues later) (ht : twin.Continues last) (hring : last.ring = later.ring)
    (honset : last.onset = later.onset)
    (hstage : ∃ stage, later.stage = some stage ∧ stage.input = r.source
      ∧ stage.output = r.converted) (removed : Nat) :
    Twins (later.advance removed) (last.advance removed) := by
  refine h.of_continues (hr.trans (continues_advance _ _)) (ht.trans (continues_advance _ _)) ?_ ?_ ?_
  · show (last.advance removed).ring = (later.advance removed).ring
    unfold DeviceRoute.advance
    split
    · exact congrArg (Ring.popFront · removed) hring
    · exact hring
  · show (last.advance removed).onset = (later.advance removed).onset
    unfold DeviceRoute.advance
    split
    · rfl
    · exact honset
  · rw [stage_advance]
    exact hstage

/-- What a plain stream takes leaves the ring. -/
theorem deliverPlain_taken {κ : Type} {host after : σ} {r : DeviceRoute κ} {staged : List UInt8}
    {taken : Nat} (hwrite : Host.write host r.endpoint staged = (.ok taken, after)) :
    deliverPlain host r staged = moved after r staged (taken * r.source.align) := by
  unfold deliverPlain
  rw [hwrite]

/-- A stage at equal rates transcodes the frames that it is given, and all of them leave the ring. -/
theorem deliverConverted_transcodes {host after : σ} {r : DeviceRoute (LinearResampler τ α)}
    {stage : LinearResampler τ α} (hsource : stage.input.isSupported = true)
    (hconverted : stage.output.isSupported = true) (hrate : stage.input.rate = stage.output.rate)
    {frames taken : Nat} {staged : List UInt8} (hstaged : staged.length = frames * stage.input.align)
    (hwrite : Host.write host r.endpoint (Format.transcode α stage.input stage.output staged)
      = (.ok taken, after)) :
    deliverConverted host r stage staged = moved after { r with stage := some stage }
      (Format.transcode α stage.input stage.output staged) staged.length := by
  have hprocess : Stage.process? stage staged
      = some ⟨staged.length, Format.transcode α stage.input stage.output staged, stage⟩ :=
    LinearResampler.process?_transcodes hsource hconverted hrate hstaged
  unfold deliverConverted
  rw [hprocess]
  dsimp only
  rw [if_pos rfl, hwrite]

omit [Host σ] [Host ρ] [ReadHead τ α] in
/-- Where nothing moves on either route. -/
theorem together_unmoved (h : Twins r twin) {a' : σ} {b' : ρ} (hR : R a' b')
    (hreceived : received a' = received a) (hheard : heard b' = heard b)
    (outcome : Except CycleFault Nat) :
    Together R received heard r a b gain (unmoved a' r outcome) (unmoved b' twin outcome) where
  outcome := rfl
  popped := rfl
  hosts := hR
  routes := h
  whole := Nat.dvd_zero _
  arrived := by
    refine ⟨[], Gain.scaleBytes?_nil h.supported gain, ?_, ?_⟩
    · rw [Format.transcode_nil, List.append_nil]
      exact hreceived
    · rw [List.append_nil]
      exact hheard

/-- **Both cycles write the same frames**, each in its format, and both streams take them. -/
theorem together_moved (h : Twins r twin)
    (hp : Paired α R received heard r twin) (hR : R a b) {free : Nat} {a' : σ} {b' : ρ}
    (hfree : Host.freeFrames a r.endpoint = (.ok free, a'))
    (htwin : Host.freeFrames b twin.endpoint = (.ok free, b')) {staged : List UInt8}
    {stage : LinearResampler τ α} (hstaged : r.staged? gain free = some staged)
    (hinput : stage.input = r.source) (houtput : stage.output = r.converted)
    (hthrough : r.stage = some stage) :
    Together R received heard r a' b' gain (deliverConverted a' (r.padded free) stage staged)
      (deliverPlain b' (twin.padded free) staged) := by
  have hlength := length_staged? h.supported hstaged
  obtain ⟨frames, hframes, hroom⟩ := amount_frames h.whole (r.source.align_pos h.supported) free
  have hamount : staged.length = frames * r.source.align := hlength.trans hframes
  have hcount : (Format.transcode α r.source r.converted staged).length = frames * r.converted.align :=
    Format.length_transcode_frames h.supported h.writable rfl hamount
  obtain ⟨a'', b'', hwrite, hcopy, hR'⟩ := hp.mirrors.write hR hfree htwin hroom hamount
  have hconverted : deliverConverted a' (r.padded free) stage staged
      = moved a'' { r.padded free with stage := some stage }
        (Format.transcode α r.source r.converted staged) staged.length := by
    rw [← hinput, ← houtput] at hwrite ⊢
    exact deliverConverted_transcodes (by rw [hinput]; exact h.supported)
      (by rw [houtput]; exact h.writable) (by rw [hinput, houtput]; exact h.rate.symm)
      (by rw [hinput]; exact hamount) hwrite
  have hplain : deliverPlain b' (twin.padded free) staged
      = moved b'' (twin.padded free) staged staged.length := by
    rw [deliverPlain_taken (show Host.write b' (twin.padded free).endpoint staged = _ from hcopy),
      show (twin.padded free).source = r.source from h.source, hamount]
  have hring : (twin.padded free).ring = (r.padded free).ring := by
    unfold padded
    rw [h.amount, h.ring]
  have hscaled : Gain.scaleBytes? r.source gain ((r.padded free).ring.content.take staged.length)
      = some staged := by
    rw [hlength]
    exact hstaged
  have hreceived := (hp.keeps.write _ _ _ _ hwrite).2
  have hcopied := (hp.hears.write _ _ _ _ hcopy).2
  rw [← hcount, List.take_length] at hreceived
  rw [← hamount, List.take_length] at hcopied
  have hnext : r.Continues { r.padded free with stage := some stage } :=
    (r.continues_padded free).trans
      ⟨rfl, rfl, rfl, rfl, by rw [show (r.padded free).stage = _ from hthrough], rfl⟩
  rw [hconverted, hplain]
  constructor
  case outcome => rfl
  case popped => exact congrArg (fun ring => ring.content.take staged.length) hring
  case hosts => exact hR'
  case routes =>
    exact h.advance hnext (twin.continues_padded free) hring h.onset ⟨stage, rfl, hinput, houtput⟩ _
  case whole =>
    show r.source.align ∣ ((r.padded free).ring.content.take staged.length).length
    rw [← Gain.length_scaleBytes? h.supported hscaled, hamount]
    exact Nat.dvd_mul_left _ _
  case arrived => exact ⟨staged, hscaled, hreceived, hcopied⟩

/-- **A cycle on a route and one on its twin** leave the same in their rings, and what arrives is the
same, transcoded where there is a stage. -/
theorem Twins.cycle (h : Twins r twin)
    (hp : Paired α R received heard r twin) (hR : R a b) (gain : Single) :
    Together R received heard r a b gain (r.cycle a gain) (twin.cycle b gain) := by
  obtain ⟨answer, a', b', hfree, htwin, hR'⟩ := hp.mirrors.freeFrames hR
  have hquiet := hp.keeps.freeFrames a
  have hsilent := hp.hears.freeFrames b
  rw [hfree] at hquiet
  rw [htwin] at hsilent
  obtain ⟨hcount, hcopy⟩ := h.requested (cycle.free answer)
  by_cases hcrash : answer = .error .crashed
  · rw [hcrash] at hfree htwin
    rw [cycle_crashed hfree, cycle_crashed htwin]
    exact together_unmoved h hR' hquiet hsilent _
  · by_cases hnone : cycle.free answer = 0
    · rw [hnone] at hcount hcopy
      rw [cycle_nothing hcrash hfree (by rw [hnone]; exact hcount),
        cycle_nothing hcrash htwin (by rw [hnone]; exact hcopy)]
      exact together_unmoved h hR' hquiet hsilent _
    · cases answer with
      | error fault => exact absurd rfl hnone
      | ok free =>
          have hpos : 0 < free := Nat.pos_of_ne_zero hnone
          have halign := r.source.align_pos h.supported
          have haligned : 0 < twin.source.align := by
            rw [h.source]
            exact halign
          cases hmany : r.countable free with
          | false =>
              rw [cycle_uncountable hfree hcount hpos halign hmany,
                cycle_uncountable htwin hcopy hpos haligned ((h.countable free).trans hmany)]
              exact together_unmoved h hR' hquiet hsilent _
          | true =>
              have hasks : Asks a r free free a' := ⟨hfree, hcount, hpos, halign, hmany⟩
              have hasksTwin : Asks b twin free free b' :=
                ⟨htwin, hcopy, hpos, haligned, (h.countable free).trans hmany⟩
              obtain ⟨staged, hstaged⟩ := exists_staged? h.supported gain free
              obtain ⟨stage, hthrough, hinput, houtput⟩ := h.stage
              rw [cycle_asks hasks, cycle_asks hasksTwin, deliver_through hstaged hthrough,
                deliver_direct (by rw [h.staged?]; exact hstaged) h.plain]
              have hmoved := together_moved h hp hR hfree htwin hstaged hinput houtput
                hthrough
              obtain ⟨image, hscaled, hreceived, hcopied⟩ := hmoved.arrived
              exact
                { hmoved with
                  arrived := ⟨image, hscaled, hreceived.trans (by rw [hquiet]),
                    hcopied.trans (by rw [hsilent])⟩ }

end DeviceRoute

end PcmRender
