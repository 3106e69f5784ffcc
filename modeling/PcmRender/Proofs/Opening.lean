/-
  PcmRender.Proofs.Opening — **when a device can be opened.**

  Opening a device asks it for a format, builds the conversion to that format, and lays a ring in
  front of it.  On a bank whose devices have no fault and state the format that they were asked for,
  only four things can stand in the way: the device is not there or not plugged in, its buffer
  holds nothing, it takes no format with the channels of the source, or the pace that follows from
  its period leaves the widths of its counts, which no caller is told of.  What is converted to is
  then the format of the endpoint itself, so no conversion can be refused.

  An open that fails leaves, on any host, what the host and the log have seen of it, and nothing
  else; the next one answers as if it were the first.

  Main statements:
    * `Stage.between_linear` — there is a conversion between any two formats of equally many
      channels,
    * `Session.openDevice_error`, `Session.openDevice_relogged` — what a failed open leaves,
    * `Session.open_succeeds_on_usable` — all of it together.
-/
import Mathlib.Tactic.ByContra
import PcmRender.Proofs.Endpoint
import PcmRender.Proofs.Gain
import PcmRender.Proofs.Ranking
import PcmRender.Proofs.Sections
import PcmRender.Stage.Linear

namespace PcmRender

/-! ## §1. The conversion of a route. -/

namespace Stage

variable {source device : Format}

/-- The frame size of the output is computed anew, in 16 bits; if frames fit them, nothing is lost. -/
theorem outputFormat_eq (hdevice : device.isSupported = true)
    (hsame : device.channels = source.channels) (hfit : 4 * source.channels ≤ 65535) :
    outputFormat source device = device := by
  have hle := Nat.mul_le_mul_right source.channels (device.sampleSize_le hdevice)
  have hshort : device.sampleSize * source.channels < Nat.pow 2 16 := by
    show _ < 65536
    omega
  have halign : device.sampleSize * source.channels % Nat.pow 2 16 = device.align := by
    rw [Nat.mod_eq_of_lt hshort, device.align_eq hdevice, hsame, Nat.mul_comm]
  unfold outputFormat
  rw [halign, ← hsame]

/-- Two formats that can be encoded and have the same channels differ in what is converted, or not
at all. -/
theorem needsConversion_iff (hsource : source.isSupported = true)
    (hdevice : device.isSupported = true) (hsame : device.channels = source.channels) :
    needsConversion source device = true ↔ device ≠ source := by
  constructor
  · rintro h rfl
    simp [needsConversion] at h
  · intro hdiffer
    by_contra hneeds
    rw [Bool.not_eq_true] at hneeds
    unfold needsConversion at hneeds
    simp only [Bool.or_eq_false_iff, bne_eq_false_iff_eq] at hneeds
    obtain ⟨⟨⟨hrate, hbits⟩, hkind⟩, horder⟩ := hneeds
    -- The frame size is the only field that is left, and it follows from the others.
    have halign : device.align = source.align := by
      rw [device.align_eq hdevice, source.align_eq hsource, hsame]
      unfold Format.sampleSize
      rw [hbits]
    refine hdiffer ?_
    obtain ⟨rate, channels, bits, align, kind, order⟩ := device
    dsimp only at hrate hsame hbits halign hkind horder
    rw [← hrate, hsame, ← hbits, halign, ← hkind, ← horder]

variable (τ α : Type) [Amplitude α] [ReadHead τ α]

/-- **There is a conversion between any two formats of equally many channels**: none if they are
equal, and otherwise one that makes exactly the second. -/
theorem between_linear (hsource : source.isSupported = true) (hdevice : device.isSupported = true)
    (hsame : device.channels = source.channels) (hfit : 4 * source.channels ≤ 65535) :
    ∃ stage, Stage.between (LinearResampler τ α) source device = .ok stage
      ∧ (stage.isSome = true ↔ device ≠ source)
      ∧ ∀ r, stage = some r → r.input = source ∧ r.output = device := by
  have hneeds := needsConversion_iff hsource hdevice hsame
  unfold Stage.between
  by_cases hdiffer : needsConversion source device = true
  · rw [if_pos hdiffer, outputFormat_eq hdevice hsame hfit]
    refine ⟨some
      { input := source
        output := device
        step := ReadHead.step source.rate device.rate
        position := ReadHead.origin
        history := none }, ?_, ?_, ?_⟩
    · show (LinearResampler.create source device).map some = _
      unfold LinearResampler.create
      rw [if_neg (by simp [hsource]), if_neg (by simp [hdevice]), if_neg (not_not.mpr hsame.symm)]
      rfl
    · exact ⟨fun _ => hneeds.mp hdiffer, fun _ => rfl⟩
    · rintro r ⟨⟩
      exact ⟨rfl, rfl⟩
  · rw [if_neg hdiffer]
    refine ⟨none, rfl, ⟨fun h => absurd h (by simp), fun h => absurd (hneeds.mpr h) hdiffer⟩, ?_⟩
    rintro r ⟨⟩

end Stage

/-! ## §2. Asking a device in memory. -/

/-- A device takes a format if it has no list of formats, or one with this format. -/
def Device.Takes (d : Device) (f : Format) : Prop := ∀ formats, d.accepted = some formats → f ∈ formats

/-- A device has no fault, and its endpoints state the format that they were asked for. -/
def Device.Plain (d : Device) : Prop := d.faults = [] ∧ d.stated = none

/-- A source can be rendered on a device: it is plugged in, its buffer holds something, and it takes
some format with the channels of the source, or any. -/
def Device.Usable (d : Device) (source : Format) : Prop :=
  d.unavailable = false ∧ 0 < d.bufferFrames
    ∧ (d.accepted = none ∨ ∃ formats, d.accepted = some formats
      ∧ ∃ f ∈ formats, f.isSupported = true ∧ f.channels = source.channels)

/-- The first candidate that a device takes. -/
def Device.FirstTaken (d : Device) (candidates : List Format) (f : Format) : Prop :=
  ∃ front back, candidates = front ++ f :: back ∧ (∀ g ∈ front, ¬ d.Takes g) ∧ d.Takes f

namespace Device.FirstTaken

variable {d : Device} {candidates : List Format} {f : Format}

theorem mem (h : d.FirstTaken candidates f) : f ∈ candidates := by
  obtain ⟨front, back, rfl, _, _⟩ := h
  exact List.mem_append_right _ List.mem_cons_self

theorem takes (h : d.FirstTaken candidates f) : d.Takes f := by
  obtain ⟨_, _, _, _, htakes⟩ := h
  exact htakes

/-- There is only one. -/
theorem unique {g : Format} (hf : d.FirstTaken candidates f) (hg : d.FirstTaken candidates g) :
    f = g := by
  obtain ⟨front, back, rfl, hfront, hftakes⟩ := hf
  obtain ⟨front', back', hsplit, hfront', hgtakes⟩ := hg
  induction front generalizing front' with
  | nil =>
      cases front' with
      | nil => exact (List.cons.inj hsplit).1
      | cons h rest =>
          obtain ⟨rfl, _⟩ := List.cons.inj hsplit
          exact absurd hftakes (hfront' f List.mem_cons_self)
  | cons h rest ih =>
      cases front' with
      | nil =>
          obtain ⟨rfl, _⟩ := List.cons.inj hsplit
          exact absurd hgtakes (hfront h List.mem_cons_self)
      | cons h' rest' =>
          obtain ⟨_, hrest⟩ := List.cons.inj hsplit
          exact ih (fun x hx => hfront x (List.mem_cons_of_mem _ hx)) rest'
            hrest fun x hx => hfront' x (List.mem_cons_of_mem _ hx)

end Device.FirstTaken

namespace DeviceBank

theorem put_go_same {id : String} {d : Device} :
    ∀ {devices : List Device}, devices.find? (·.id == id) = some d → put.go id d devices = devices
  | e :: rest, h => by
      unfold put.go
      cases he : e.id == id with
      | true =>
          rw [List.find?_cons, he] at h
          rw [if_pos rfl, Option.some.inj h]
      | false =>
          rw [List.find?_cons, he] at h
          rw [if_neg (by simp), put_go_same h]

/-- To put a device where it stands already changes nothing. -/
theorem put_same {b : DeviceBank} {id : String} {d : Device} (h : b.find? id = some d) :
    b.put id d = b := by
  unfold put
  rw [put_go_same h]

/-- **What a device in memory answers to a format.** -/
inductive ActivateOutcome (b : DeviceBank) (id : String) (f : Format) :
    Except RenderError Endpoint × DeviceBank → Prop
  /-- It is not there. -/
  | absent (cause : RenderError) (absent : b.find? id = none)
      (other : ∀ reason, cause ≠ .formatRejected reason) : ActivateOutcome b id f (.error cause, b)
  /-- It cannot be had at all. -/
  | unavailable {d : Device} (cause : RenderError) (found : b.find? id = some d)
      (unavailable : d.Plain → d.unavailable = true)
      (other : ∀ reason, cause ≠ .formatRejected reason) : ActivateOutcome b id f (.error cause, b)
  /-- It does not take this format. -/
  | rejected {d : Device} (reason : String) (found : b.find? id = some d)
      (refused : ¬ d.Takes f) : ActivateOutcome b id f (.error (.formatRejected reason), b)
  /-- It takes it. -/
  | opened {d : Device} {after : DeviceBank} (found : b.find? id = some d)
      (available : d.unavailable = false) (takes : d.Takes f) : ActivateOutcome b id f
        (.ok { device := d.id
               format := d.stated.getD f
               activated := f
               bufferFrames := d.bufferFrames
               period := d.period }, after)

theorem refuses_iff (d : Device) (f : Format) :
    Device.activate.refuses d f = true ↔ ¬ d.Takes f := by
  unfold Device.activate.refuses Device.Takes
  cases d.accepted with
  | none => simp
  | some formats => simp

theorem activate_outcome (b : DeviceBank) (id : String) (f : Format) (buffer : Duration) :
    ActivateOutcome b id f (Host.activate b id f buffer) := by
  show ActivateOutcome b id f (b.on id (.error (missing id)) (·.activate f))
  unfold on
  cases hfound : b.find? id with
  | none => exact .absent _ hfound (fun _ => nofun)
  | some d =>
      dsimp only
      unfold Device.activate
      by_cases hfault : d.has .activate = true
      · rw [if_pos hfault, put_same hfound]
        refine .unavailable _ hfound (fun hplain => ?_) (fun _ => nofun)
        unfold Device.has at hfault
        rw [hplain.1] at hfault
        exact absurd hfault (by simp)
      rw [if_neg hfault]
      by_cases hunavailable : d.unavailable = true
      · rw [if_pos hunavailable, put_same hfound]
        exact .unavailable _ hfound (fun _ => hunavailable) (fun _ => nofun)
      rw [if_neg hunavailable]
      by_cases hrefuses : Device.activate.refuses d f = true
      · rw [if_pos hrefuses, put_same hfound]
        exact .rejected _ hfound ((refuses_iff d f).mp hrefuses)
      rw [if_neg hrefuses]
      exact .opened hfound (by simpa using hunavailable)
        ((refuses_iff d f).not_left.mp hrefuses)

open Negotiation (Asked Rejects Ranked refusal)

/-- A format that a device in memory rejects leaves nothing behind. -/
theorem rejects_found {b last : DeviceBank} {id : String} {buffer : Duration}
    {formats : List Format} (h : Rejects id buffer b formats last) :
    last = b ∧ ∀ f ∈ formats, ∃ d, b.find? id = some d ∧ ¬ d.Takes f := by
  induction h with
  | nil host => exact ⟨rfl, fun f hf => absurd hf List.not_mem_nil⟩
  | @cons host next last f rest reason hrejected _ ih =>
      have houtcome := activate_outcome host id f buffer
      rw [hrejected] at houtcome
      cases houtcome with
      | absent _ _ hother => exact absurd rfl (hother reason)
      | unavailable _ _ _ hother => exact absurd rfl (hother reason)
      | @rejected d _ hfound hrefused =>
          refine ⟨ih.1, fun g hg => ?_⟩
          rcases List.mem_cons.mp hg with rfl | hrest
          · exact ⟨d, hfound, hrefused⟩
          · exact ih.2 g hrest

/-- The endpoint of a plain device in a format. -/
def endpointIn (d : Device) (f : Format) : Endpoint where
  device := d.id
  format := f
  activated := f
  bufferFrames := d.bufferFrames
  period := d.period

/-- **What asking a plain device comes to**: an endpoint in the first candidate that it takes, or
none if it cannot be had or takes no candidate. -/
theorem asked_plain {b : DeviceBank} {id reason : String} {source : Format} {buffer : Duration}
    {candidates : List Format} {done : Negotiated DeviceBank}
    (hplain : ∀ d, b.find? id = some d → d.Plain)
    (hfits : ∀ f ∈ candidates, f.channels = source.channels)
    (h : Asked b id source buffer (refusal id reason) candidates done) :
    (∃ d f, b.find? id = some d ∧ d.unavailable = false ∧ d.FirstTaken candidates f
        ∧ done.result = .ok (endpointIn d f))
      ∨ (∃ fault, done.result = .error fault)
        ∧ ∀ d, b.find? id = some d → d.unavailable = false → ∀ f ∈ candidates, ¬ d.Takes f := by
  cases h with
  | @taken front back f before after endpoint log hsplit hfront hactivated hchannels =>
      obtain ⟨rfl, hrefused⟩ := rejects_found hfront
      have houtcome := activate_outcome before id f buffer
      rw [hactivated] at houtcome
      cases houtcome with
      | @opened d _ hfound havailable htakes =>
          refine .inl ⟨d, f, hfound, havailable, ⟨front, back, hsplit, fun g hg => ?_, htakes⟩, ?_⟩
          · obtain ⟨_, hsame, hnot⟩ := hrefused g hg
            rw [hfound] at hsame
            rw [Option.some.inj hsame]
            exact hnot
          · rw [(hplain d hfound).2]
            rfl
  | @unfit front back f before after endpoint log hsplit hfront hactivated hchannels =>
      -- A plain device states the format that it was asked for, which has the right channels.
      obtain ⟨rfl, _⟩ := rejects_found hfront
      have houtcome := activate_outcome before id f buffer
      rw [hactivated] at houtcome
      cases houtcome with
      | @opened d _ hfound _ _ =>
          refine absurd ?_ hchannels
          rw [(hplain d hfound).2]
          exact hfits f (by rw [hsplit]; exact List.mem_append_right _ List.mem_cons_self)
  | @failed front back f before after cause log hsplit hfront hactivated hother =>
      obtain ⟨rfl, _⟩ := rejects_found hfront
      have houtcome := activate_outcome before id f buffer
      rw [hactivated] at houtcome
      refine .inr ⟨⟨_, rfl⟩, fun d hd havailable => ?_⟩
      cases houtcome with
      | absent _ habsent _ =>
          rw [habsent] at hd
          exact absurd hd (by simp)
      | @unavailable found _ hfound hunavailable _ =>
          rw [hfound] at hd
          obtain rfl := Option.some.inj hd
          rw [hunavailable (hplain _ hfound)] at havailable
          exact absurd havailable (by simp)
      | rejected reason _ _ => exact absurd rfl (hother reason)
  | exhausted log hall =>
      refine .inr ⟨⟨_, rfl⟩, fun d hd _ f hf => ?_⟩
      obtain ⟨found, hfound, hnot⟩ := (rejects_found hall).2 f hf
      rw [hfound] at hd
      rw [← Option.some.inj hd]
      exact hnot

/-- Some candidate is taken if anything is, or anything with the channels of the source. -/
theorem takes_candidate_iff {d : Device} {source : Format} {candidates : List Format}
    (hranked : Ranked source (d.accepted.getD []) candidates) :
    (∃ f ∈ candidates, d.Takes f) ↔ d.accepted = none ∨ ∃ formats, d.accepted = some formats
      ∧ ∃ f ∈ formats, f.isSupported = true ∧ f.channels = source.channels := by
  unfold Device.Takes
  cases haccepted : d.accepted with
  | none =>
      refine ⟨fun _ => .inl rfl, fun _ => ⟨source, ?_, fun _ h => absurd h (by simp)⟩⟩
      exact List.mem_of_mem_head? hranked.first
  | some formats =>
      rw [haccepted] at hranked
      constructor
      · rintro ⟨f, hf, htakes⟩
        exact .inr ⟨formats, rfl, f, htakes formats rfl, hranked.fits f hf⟩
      · rintro (hnone | ⟨_, hsome, f, hf, hsupported, hchannels⟩)
        · exact absurd hnone (by simp)
        · obtain rfl := Option.some.inj hsome
          refine ⟨f, (hranked.complete f hsupported hchannels).mpr (.inr hf), fun _ h => ?_⟩
          rw [← Option.some.inj h]
          exact hf

/-- What a plain device is known to take. -/
theorem knownFormats_plain {b : DeviceBank} {id : String} {d : Device} (h : b.find? id = some d)
    (hplain : d.Plain) : (Negotiation.knownFormats b id).1 = d.accepted.getD [] := by
  have hquery : Host.supportedFormats b id = .ok (d.accepted.getD []) := by
    have hquiet : d.has .supported = false := by
      unfold Device.has
      rw [hplain.1]
      rfl
    simp [Host.supportedFormats, h, hquiet]
  unfold Negotiation.knownFormats
  rw [hquery]

end DeviceBank

/-! ## §3. The route of a device. -/

/-- A route renders in a format: its endpoint runs in this format, and what is converted, if it is
another one than that of the source, is converted to exactly this format. -/
structure DeviceRoute.RendersIn {τ α : Type} (r : DeviceRoute (LinearResampler τ α)) (f : Format) :
    Prop where
  /-- The endpoint was opened in it, -/
  activated : r.endpoint.activated = f
  /-- and says so. -/
  stated : r.endpoint.format = f
  /-- There is a conversion if the formats differ, -/
  converts : r.stage.isSome = true ↔ f ≠ r.source
  /-- between these two. -/
  between : ∀ stage, r.stage = some stage → stage.input = r.source ∧ stage.output = f

section Building

variable (τ α : Type) [Amplitude α] [ReadHead τ α]

/-- **The route over an endpoint of a plain device** is there unless the buffer holds nothing or the
pace cannot be counted. -/
theorem DeviceRoute.build_plain (d : Device) (device : String) {source f : Format}
    (usual : Duration) (hsource : source.isSupported = true) (hf : f.isSupported = true)
    (hsame : f.channels = source.channels) (hfit : 4 * source.channels ≤ 65535) :
    (0 < d.bufferFrames → Timing.Countable f d.bufferFrames d.period usual →
        ∃ r : DeviceRoute (LinearResampler τ α),
          DeviceRoute.build device source (DeviceBank.endpointIn d f) usual = .ok r
            ∧ r.device = device ∧ r.source = source ∧ r.RendersIn f)
      ∧ (0 < d.bufferFrames → ¬ Timing.Countable f d.bufferFrames d.period usual →
        (DeviceRoute.build device source (DeviceBank.endpointIn d f) usual :
          Except Fault (DeviceRoute (LinearResampler τ α))) = .error .overflow)
      ∧ (d.bufferFrames = 0 → ∃ fault,
        (DeviceRoute.build device source (DeviceBank.endpointIn d f) usual :
          Except Fault (DeviceRoute (LinearResampler τ α))) = .error fault) := by
  obtain ⟨stage, hstage, hconverts, hbetween⟩ :=
    Stage.between_linear τ α hsource hf hsame hfit
  have hpos := source.align_pos hsource
  refine ⟨fun hframes hcountable => ?_, fun hframes hlong => ?_, fun hnothing => ?_⟩
  · exact ⟨_, DeviceRoute.build_countable hstage (Nat.mul_pos hframes hpos) hcountable, rfl, rfl,
      rfl, rfl, hconverts, hbetween⟩
  · refine DeviceRoute.build_overflow_iff.mpr ?_
    by_cases hcounted : Format.word64 (Timing.derive f d.bufferFrames d.period usual).period.millis
        * f.rate < Nat.pow 2 64
    · exact .inr ⟨⟨stage, hstage⟩, Nat.mul_pos hframes hpos,
        Nat.not_lt.mp fun hshort => hlong ⟨hcounted, hshort⟩⟩
    · exact .inl (Nat.not_lt.mp hcounted)
  · cases hbuild : (DeviceRoute.build device source (DeviceBank.endpointIn d f) usual :
        Except Fault (DeviceRoute (LinearResampler τ α))) with
    | error fault => exact ⟨fault, rfl⟩
    | ok r =>
        obtain ⟨_, _, _, htiming, _, hsome, _⟩ := DeviceRoute.build_ok hbuild
        have hframes : r.timing.bufferFrames = d.bufferFrames := by
          rw [htiming]
          rfl
        unfold DeviceRoute.ringSize at hsome
        rw [hframes, hnothing, Nat.zero_mul] at hsome
        exact absurd hsome (Nat.lt_irrefl 0)

end Building

namespace Session

/-! ## §4. Opening. -/

section AnyHost

variable {σ κ : Type} [Host σ] [Stage κ] {s : Session σ κ} {device : String} {endpoint : Endpoint}

theorem openDevice_built {r : DeviceRoute κ}
    (hasked : (Negotiation.negotiate s.host device s.source s.config.buffer).result = .ok endpoint)
    (hbuilt : DeviceRoute.build device s.source endpoint s.config.period = .ok r) :
    ∃ host log, s.openDevice device = (.ok (), { s with host, log }.adopt r) := by
  unfold openDevice
  dsimp only
  rw [hasked]
  dsimp only
  unfold openEndpoint
  dsimp only
  rw [hbuilt]
  exact ⟨_, _, rfl⟩

theorem openDevice_unbuilt {fault : Fault}
    (hasked : (Negotiation.negotiate s.host device s.source s.config.buffer).result = .ok endpoint)
    (hbuilt : (DeviceRoute.build device s.source endpoint s.config.period :
      Except Fault (DeviceRoute κ)) = .error fault) :
    ∃ t, s.openDevice device = (.error fault, t) := by
  unfold openDevice
  dsimp only
  rw [hasked]
  dsimp only
  unfold openEndpoint
  dsimp only
  rw [hbuilt]
  cases fault with
  | error e => exact ⟨_, rfl⟩
  | overflow => exact ⟨_, rfl⟩

theorem openDevice_refused {fault : Fault}
    (hasked : (Negotiation.negotiate s.host device s.source s.config.buffer).result = .error fault) :
    ∃ fault t, s.openDevice device = (.error fault, t) := by
  unfold openDevice
  dsimp only
  rw [hasked]
  cases fault with
  | error e => exact ⟨_, _, rfl⟩
  | overflow => exact ⟨_, _, rfl⟩

theorem openRoute_closed (hclosed : s.route = .closed) (hselected : s.selected = some device) :
    s.openRoute = s.openDevice device := by
  unfold openRoute openSection
  rw [hclosed, hselected]

/-- **An open leaves its lines in the log and does not look at it**: whatever was reported before, it
comes to the same. -/
theorem openDevice_relogged (s : Session σ κ) (device : String) : ∃ lines, ∀ log,
    ({ s with log } : Session σ κ).openDevice device
      = ((s.openDevice device).1, { (s.openDevice device).2 with log := log ++ lines }) := by
  unfold openDevice
  dsimp only
  generalize Negotiation.negotiate s.host device s.source s.config.buffer = asked
  obtain ⟨result, tried, host, lines⟩ := asked
  dsimp only
  cases result with
  | ok endpoint =>
      unfold openEndpoint
      dsimp only
      -- One line comes behind those of the negotiation, except after an overflow.
      cases (DeviceRoute.build device s.source endpoint s.config.period :
          Except Fault (DeviceRoute κ)) with
      | ok r => exact ⟨lines ++ [_], fun log => by rw [← List.append_assoc]; rfl⟩
      | error fault =>
          cases fault with
          | error e => exact ⟨lines ++ [_], fun log => by rw [← List.append_assoc]; rfl⟩
          | overflow => exact ⟨lines, fun log => rfl⟩
  | error fault =>
      cases fault with
      | error e => exact ⟨lines ++ [_], fun log => by rw [← List.append_assoc]; rfl⟩
      | overflow => exact ⟨lines, fun log => rfl⟩

/-- **A failed open of a device has changed nothing but the host and the log.** -/
theorem openDevice_error {t : Session σ κ} {fault : Fault}
    (h : s.openDevice device = (.error fault, t)) : ∃ host log, t = { s with host, log } := by
  unfold openDevice at h
  dsimp only at h
  split at h
  · unfold openEndpoint at h
    split at h
    · exact absurd (Prod.mk.inj h).1 (by simp)
    · exact ⟨_, _, (Prod.mk.inj h).2.symm⟩
    · exact ⟨_, _, (Prod.mk.inj h).2.symm⟩
  · exact ⟨_, _, (Prod.mk.inj h).2.symm⟩
  · exact ⟨_, _, (Prod.mk.inj h).2.symm⟩

/-- Only a device can fail to open, and only if nothing is open. -/
theorem openRoute_error {t : Session σ κ} {fault : Fault} (h : s.openRoute = (.error fault, t)) :
    ∃ device, s.route = .closed ∧ s.selected = some device
      ∧ s.openDevice device = (.error fault, t) := by
  unfold openRoute openSection at h
  split at h
  · exact absurd (Prod.mk.inj h).1 (by simp)
  next device hclosed hselected => exact ⟨device, hclosed, hselected, h⟩
  · exact absurd (Prod.mk.inj h).1 (by simp)

end AnyHost

section OnABank

variable {τ α : Type} [Amplitude α] [ReadHead τ α] {s : Session DeviceBank (LinearResampler τ α)}
  {device : String} {candidates : List Format}

open Negotiation (candidates? knownFormats Ranked)

/-- **What opening a plain device comes to**: it is open, or it could be used but for a pace that
cannot be counted, or it cannot be used. -/
theorem openDevice_plain (hsupported : s.source.isSupported = true)
    (hfit : 4 * s.source.channels ≤ 65535)
    (hplain : ∀ d, s.host.find? device = some d → d.Plain)
    (hcandidates : candidates? s.source (knownFormats s.host device).1 = some candidates)
    (hranked : Ranked s.source (knownFormats s.host device).1 candidates) :
    (∃ (d : Device) (f : Format) (r : DeviceRoute (LinearResampler τ α))
        (host : DeviceBank) (log : List LogLine),
        s.openDevice device = (.ok (), { s with host, log }.adopt r)
          ∧ s.host.find? device = some d ∧ d.Usable s.source ∧ d.FirstTaken candidates f
          ∧ Timing.Countable f d.bufferFrames d.period s.config.period
          ∧ r.device = device ∧ r.source = s.source ∧ r.RendersIn f)
      ∨ (∃ (d : Device) (f : Format) (t : Session DeviceBank (LinearResampler τ α)),
        s.openDevice device = (.error .overflow, t) ∧ s.host.find? device = some d
          ∧ d.Usable s.source ∧ d.FirstTaken candidates f
          ∧ ¬ Timing.Countable f d.bufferFrames d.period s.config.period)
      ∨ (∃ fault t, s.openDevice device = (.error fault, t))
        ∧ ∀ d, s.host.find? device = some d → ¬ d.Usable s.source := by
  have hquery : Host.supportedFormats s.host device = .ok (knownFormats s.host device).1
      ∨ (∃ e, Host.supportedFormats s.host device = .error e) ∧ (knownFormats s.host device).1 = [] := by
    unfold knownFormats
    cases Host.supportedFormats s.host device with
    | ok formats => exact .inl rfl
    | error e => exact .inr ⟨⟨e, rfl⟩, rfl⟩
  have hasked : Negotiation.Asked s.host device s.source s.config.buffer _ candidates
      (Negotiation.negotiate s.host device s.source s.config.buffer) :=
    Negotiation.asked_negotiate hsupported hquery hcandidates
  have htakes : ∀ d, s.host.find? device = some d →
      ((∃ f ∈ candidates, d.Takes f) ↔ d.accepted = none ∨ ∃ formats, d.accepted = some formats
        ∧ ∃ f ∈ formats, f.isSupported = true ∧ f.channels = s.source.channels) := by
    intro d hd
    rw [DeviceBank.knownFormats_plain hd (hplain d hd)] at hranked
    exact DeviceBank.takes_candidate_iff hranked
  rcases DeviceBank.asked_plain hplain (fun f hf => (hranked.fits f hf).2) hasked with
    ⟨d, f, hfound, havailable, hfirst, hresult⟩ | ⟨⟨fault, hresult⟩, hnone⟩
  · have hmem : f ∈ candidates := hfirst.mem
    obtain ⟨hf, hsame⟩ := hranked.fits f hmem
    obtain ⟨hopens, hoverflows, hempty⟩ := DeviceRoute.build_plain τ α d device s.config.period
      hsupported hf hsame hfit
    by_cases hframes : d.bufferFrames = 0
    · -- The endpoint was opened already, and is given back.
      obtain ⟨fault, hbuild⟩ := hempty hframes
      refine .inr (.inr ⟨⟨fault, openDevice_unbuilt hresult hbuild⟩, fun found hd husable => ?_⟩)
      rw [hfound] at hd
      obtain rfl := Option.some.inj hd
      exact absurd husable.2.1 (by omega)
    · have husable : d.Usable s.source :=
        ⟨havailable, by omega, (htakes d hfound).mp ⟨f, hmem, hfirst.takes⟩⟩
      by_cases hcountable : Timing.Countable f d.bufferFrames d.period s.config.period
      · obtain ⟨r, hbuild, hdevice, hsource, hrenders⟩ := hopens (by omega) hcountable
        obtain ⟨host, log, hopen⟩ := openDevice_built hresult hbuild
        exact .inl ⟨d, f, r, host, log, hopen, hfound, husable, hfirst, hcountable, hdevice, hsource,
          hrenders⟩
      · obtain ⟨t, hopen⟩ := openDevice_unbuilt hresult (hoverflows (by omega) hcountable)
        exact .inr (.inl ⟨d, f, t, hopen, hfound, husable, hfirst, hcountable⟩)
  · refine .inr <| .inr ⟨openDevice_refused hresult, fun d hd husable => ?_⟩
    obtain ⟨havailable, _, haccepts⟩ := husable
    obtain ⟨f, hf, hfits⟩ := (htakes d hd).mpr haccepts
    exact hnone d hd havailable f hf hfits

end OnABank

/-- **A device opens exactly if it can be used at a pace that can be counted, and an open that fails
leaves nothing behind.**

On a bank without faults, for a source that can be encoded, with frames that fit: there is a conversion
to every candidate; a closed session opens the selected device exactly if the device is there, plugged
in, has room for at least one frame, takes anything or something with the channels of the source, and
its pace in the first candidate that it takes keeps to the widths of its counts.  Then the session
renders in this candidate, with a conversion to exactly this format if the source has another one.
Where such a device cannot be opened, the call ends in an overflow.

On any host, an open that fails has changed nothing but the host and the log, and whatever has become
of the host since, the next open comes to the same, but for the log, as if none had failed before. -/
theorem open_succeeds_on_usable (τ α : Type) [Amplitude α] [ReadHead τ α] :
    (∀ (s : Session DeviceBank (LinearResampler τ α)) (device : String),
      s.route = .closed → s.selected = some device → s.source.isSupported = true →
      4 * s.source.channels ≤ 65535 → (∀ d ∈ s.host.devices, d.Plain) →
      ∃ candidates,
        Negotiation.candidates? s.source (Negotiation.knownFormats s.host device).1 = some candidates
        ∧ (∀ f ∈ candidates, ∃ stage, Stage.between (LinearResampler τ α) s.source f = .ok stage)
        ∧ ((∃ t, s.openRoute = (.ok (), t)) ↔
          ∃ d f, s.host.find? device = some d ∧ d.Usable s.source ∧ d.FirstTaken candidates f
            ∧ Timing.Countable f d.bufferFrames d.period s.config.period)
        ∧ (∀ d, s.host.find? device = some d → d.Usable s.source →
          (∃ t, s.openRoute = (.ok (), t)) ∨ ∃ t, s.openRoute = (.error .overflow, t))
        ∧ ∀ t, s.openRoute = (.ok (), t) → ∃ d f r, s.host.find? device = some d
          ∧ d.FirstTaken candidates f ∧ t.phase = .opened ∧ t.route = .device r
          ∧ r.device = device ∧ r.source = s.source ∧ r.RendersIn f)
    ∧ ∀ (σ κ : Type) [Host σ] [Stage κ] (s t : Session σ κ) (fault : Fault),
      s.openRoute = (.error fault, t) →
        (∃ host log, t = { s with host, log })
        ∧ ∀ host, ∃ log, ({ t with host } : Session σ κ).openRoute
          = (({ s with host } : Session σ κ).openRoute.1,
            { ({ s with host } : Session σ κ).openRoute.2 with log }) := by
  constructor
  · intro s device hclosed hselected hsupported hfit hplain
    obtain ⟨candidates, hcandidates, hranked⟩ := Negotiation.ranked_candidates? hsupported hfit
      (Negotiation.knownFormats s.host device).1
    have hfound : ∀ d, s.host.find? device = some d → d.Plain :=
      fun d hd => hplain d (List.mem_of_find?_eq_some hd)
    have hopen := openDevice_plain hsupported hfit hfound hcandidates hranked
    rw [openRoute_closed hclosed hselected]
    refine ⟨candidates, hcandidates, fun f hf => ?_, ?_⟩
    · obtain ⟨hf', hsame⟩ := hranked.fits f hf
      obtain ⟨stage, hstage, _⟩ := Stage.between_linear τ α hsupported hf' hsame hfit
      exact ⟨stage, hstage⟩
    rcases hopen with ⟨d, f, r, host, log, hok, hd, husable, hfirst, hcountable, hdevice, hsource,
        hrenders⟩ | ⟨d, f, u, hoverflow, hd, _, hfirst, hlong⟩ | ⟨⟨fault, u, herror⟩, hnone⟩
    · rw [hok]
      refine ⟨⟨fun _ => ⟨d, f, hd, husable, hfirst, hcountable⟩, fun _ => ⟨_, rfl⟩⟩,
        fun _ _ _ => .inl ⟨_, rfl⟩, fun t ht => ?_⟩
      obtain ⟨_, rfl⟩ := Prod.mk.inj ht
      exact ⟨d, f, r, hd, hfirst, rfl, rfl, hdevice, hsource, hrenders⟩
    · rw [hoverflow]
      refine ⟨⟨fun ⟨t, ht⟩ => absurd (Prod.mk.inj ht).1 (by simp), ?_⟩, fun _ _ _ => .inr ⟨u, rfl⟩,
        fun t ht => absurd (Prod.mk.inj ht).1 (by simp)⟩
      rintro ⟨d', f', hd', _, hfirst', hcountable⟩
      obtain rfl := Option.some.inj (hd.symm.trans hd')
      rw [hfirst'.unique hfirst] at hcountable
      exact absurd hcountable hlong
    · rw [herror]
      exact ⟨⟨fun ⟨t, ht⟩ => absurd (Prod.mk.inj ht).1 (by simp),
        fun ⟨d, _, hd, husable, _⟩ => absurd husable (hnone d hd)⟩,
        fun d hd husable => absurd husable (hnone d hd),
        fun t ht => absurd (Prod.mk.inj ht).1 (by simp)⟩
  · intro σ κ _ _ s t fault h
    obtain ⟨device, hclosed, hselected, hfailed⟩ := openRoute_error h
    obtain ⟨failed, lines, rfl⟩ := openDevice_error hfailed
    refine ⟨⟨failed, lines, rfl⟩, fun host => ?_⟩
    obtain ⟨more, hmore⟩ := openDevice_relogged ({ s with host } : Session σ κ) device
    refine ⟨lines ++ more, ?_⟩
    have hagain : ({ s with host } : Session σ κ).openRoute
        = ({ s with host } : Session σ κ).openDevice device := openRoute_closed hclosed hselected
    rw [hagain, ← hmore lines]
    exact openRoute_closed hclosed hselected

/-- A closed session for stereo music with a speaker of a bank selected. -/
def musicSession (host : DeviceBank) : Session DeviceBank (LinearResampler Double Single) where
  host
  config := {}
  source := Format.pcm 44100 16 2
  selected := some "speaker"
  period := Timing.defaultPeriod

/-- A speaker that is unplugged cannot be opened; plugged in, it opens in the one format that it
takes. -/
theorem open_succeeds_on_usable_floatSpeaker :
    ∃ (fault : Fault) (t u : Session DeviceBank (LinearResampler Double Single)),
      (musicSession (Negotiation.floatSpeaker.setUnavailable "speaker" true)).openRoute
          = (.error fault, t)
        ∧ ({ t with host := Negotiation.floatSpeaker } : Session DeviceBank
            (LinearResampler Double Single)).openRoute = (.ok (), u)
        ∧ u.deviceFormat? = some (Format.float 48000 2) := by
  obtain ⟨hbank, hfailed⟩ := open_succeeds_on_usable Double Single
  have hplain : ∀ d ∈ (Negotiation.floatSpeaker.setUnavailable "speaker" true).devices, d.Plain := by
    intro d hd
    obtain rfl := List.mem_singleton.mp hd
    exact ⟨rfl, rfl⟩
  obtain ⟨_, _, _, hunplugged, _⟩ := hbank
    (musicSession (Negotiation.floatSpeaker.setUnavailable "speaker" true)) "speaker" rfl rfl
    (by decide) (by decide) hplain
  obtain ⟨_, _, _, _, hplugged, _⟩ := hbank (musicSession Negotiation.floatSpeaker) "speaker" rfl rfl
    (by decide) (by decide) (by
      intro d hd
      obtain rfl := List.mem_singleton.mp hd
      exact ⟨rfl, rfl⟩)
  have hformat : (musicSession Negotiation.floatSpeaker).openRoute.2.deviceFormat?
      = some (Format.float 48000 2) := by decide +kernel
  obtain ⟨u, hu⟩ : ∃ u, (musicSession Negotiation.floatSpeaker).openRoute = (.ok (), u) := by
    refine (hplugged _ rfl ⟨rfl, by decide, .inr ⟨_, rfl, Format.float 48000 2, by decide, by decide,
      rfl⟩⟩).resolve_right fun ⟨t, ht⟩ => ?_
    -- An overflow opens nothing.
    obtain ⟨⟨host, log, rfl⟩, _⟩ := hfailed _ _ _ t _ ht
    rw [ht] at hformat
    exact absurd hformat (by simp [deviceFormat?, deviceRoute?, musicSession])
  cases hopen : (musicSession (Negotiation.floatSpeaker.setUnavailable "speaker" true)).openRoute with
  | mk answer t =>
      cases answer with
      | ok _ =>
          obtain ⟨d, _, hd, ⟨hunavailable, _⟩, _⟩ := hunplugged.mp ⟨t, hopen⟩
          obtain rfl := Option.some.inj hd
          exact absurd hunavailable (by decide)
      | error fault =>
          obtain ⟨log, hagain⟩ := (hfailed _ _ _ t fault hopen).2 Negotiation.floatSpeaker
          refine ⟨fault, t, _, rfl, hagain.trans (congrArg (·, _) (congrArg Prod.fst hu)), hformat⟩

/-- A closed session for a very fast source, with a speaker selected that reports a period of almost
58 days. -/
def patientSession : Session DeviceBank (LinearResampler Double Single) where
  host := { devices := [{ id := "speaker", name := "Speaker", bufferFrames := 4, free := 4,
                          period := some (Duration.ofMillis 5000000000) }] }
  config := {}
  source := Format.pcm 4294967295 8 1
  selected := some "speaker"
  period := Timing.defaultPeriod

/-- **A device that can be used may overflow**: the speaker is plugged in, has no fault and takes
anything, but the milliseconds of its period times its rate leave 64 bits. -/
theorem usable_speaker_overflows :
    patientSession.route = .closed ∧ patientSession.selected = some "speaker"
      ∧ patientSession.source.isSupported = true ∧ 4 * patientSession.source.channels ≤ 65535
      ∧ (∀ d ∈ patientSession.host.devices, d.Plain)
      ∧ (∃ d, patientSession.host.find? "speaker" = some d ∧ d.Usable patientSession.source)
      ∧ patientSession.openRoute.1 = .error .overflow
      ∧ ¬ ∃ t, patientSession.openRoute = (.ok (), t) := by
  have hoverflow : patientSession.openRoute.1 = .error .overflow := by decide +kernel
  refine ⟨rfl, rfl, by decide, by decide, fun d hd => ?_, ⟨_, rfl, rfl, by decide, .inl rfl⟩, hoverflow,
    fun ⟨t, ht⟩ => ?_⟩
  · obtain rfl := List.mem_singleton.mp hd
    exact ⟨rfl, rfl⟩
  · rw [ht] at hoverflow
    exact absurd hoverflow (by simp)

end Session

end PcmRender
