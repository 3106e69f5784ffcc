/-
  PcmRender.Proofs.Mirroring — **two streams that answer alike.**

  One of two streams is written a copy of some frames, and the other one the same frames in its own
  format.  They mirror each other if on machines that are related in some way they have the same room,
  take whatever they had room for, and leave the machines related (`Endpoint.Mirrors`).

      transcoder       a stream that takes what it has room for, and the same stream behind a machine
                       that transcodes by itself, so that every such stream has its like
      bank             two devices in memory that differ at most in format, name and what was written

  Main statements:
    * `Transcoder.mirrors_self` — every stream has its like behind a transcoder,
    * `DeviceBank.mirrors_transcode`, `DeviceBank.takes_alike` — so do devices in memory.
-/
import PcmRender.Proofs.Endpoint
import PcmRender.Proofs.Transcoding

namespace PcmRender

/-! ## §1. Two streams. -/

/-- A stream that takes what it has room for, in frames of `size` bytes, on machines with the
property `I`: after it has said how many frames it has room for, it takes every write of no more. -/
structure Endpoint.Takes {σ : Type} [Host σ] (I : σ → Prop) (e : Endpoint) (size : Nat) : Prop where
  /-- Whatever is asked keeps the property, -/
  freeFrames : ∀ {a}, I a → I (Host.freeFrames a e).2
  /-- and what there is room for is taken. -/
  write : ∀ {a}, I a → ∀ {free a'}, Host.freeFrames a e = (.ok free, a') → ∀ {frames}, frames ≤ free →
    ∀ {data : List UInt8}, data.length = frames * size →
      ∃ a'', Host.write a' e data = (.ok frames, a'') ∧ I a''
  start : ∀ {a}, I a → I (Host.start a e).2
  stop : ∀ {a}, I a → I (Host.stop a e).2
  waitReady : ∀ {a}, I a → I (Host.waitReady a e).2

/-- Two streams that answer alike on machines that `R` relates, if the first one is written
`convert copy` where the second one is written `copy`.  Both take what they have room for, the second
one in frames of `size` bytes. -/
structure Endpoint.Mirrors {σ ρ : Type} [Host σ] [Host ρ] (R : σ → ρ → Prop) (e twin : Endpoint)
    (convert : List UInt8 → List UInt8) (size : Nat) : Prop where
  /-- They have the same room, -/
  freeFrames : ∀ {a b}, R a b → ∃ answer a' b', Host.freeFrames a e = (answer, a')
    ∧ Host.freeFrames b twin = (answer, b') ∧ R a' b'
  /-- and take what they have room for. -/
  write : ∀ {a b}, R a b → ∀ {free a' b'}, Host.freeFrames a e = (.ok free, a') →
    Host.freeFrames b twin = (.ok free, b') → ∀ {frames}, frames ≤ free → ∀ {copy : List UInt8},
      copy.length = frames * size → ∃ a'' b'', Host.write a' e (convert copy) = (.ok frames, a'')
        ∧ Host.write b' twin copy = (.ok frames, b'') ∧ R a'' b''
  /-- They start alike. -/
  start : ∀ {a b}, R a b → ∃ answer a' b', Host.start a e = (answer, a')
    ∧ Host.start b twin = (answer, b') ∧ R a' b'
  /-- Stopping them keeps the machines related, -/
  stop : ∀ {a b}, R a b → R (Host.stop a e).2 (Host.stop b twin).2
  /-- and so does waiting for them. -/
  waitReady : ∀ {a b}, R a b → R (Host.waitReady a e).2 (Host.waitReady b twin).2

/-! ## §2. A stream that transcodes by itself. -/

/-- A machine whose streams are written one format and write another one to the streams of `host`. -/
structure Transcoder (σ α : Type) (source device : Format) where
  host : σ
  /-- What its streams have taken. -/
  heard : List UInt8

namespace Transcoder

variable {σ τ α : Type} [Host σ] [Amplitude α] {source device : Format}

/-- What was asked of the host. -/
def after {ρ : Type} (b : Transcoder σ α source device) (asked : ρ × σ) :
    ρ × Transcoder σ α source device :=
  (asked.1, { b with host := asked.2 })

instance : Host (Transcoder σ α source device) where
  activate b id f buffer := b.after (Host.activate b.host id f buffer)
  supportedFormats b := Host.supportedFormats b.host
  deviceName b := Host.deviceName b.host
  defaultDevice b := Host.defaultDevice b.host
  freeFrames b e := b.after (Host.freeFrames b.host e)
  write b e data :=
    match Host.write b.host e (Format.transcode α source device data) with
    | (.ok taken, host) => (.ok taken, ⟨host, b.heard ++ data.take (taken * source.align)⟩)
    | (.error fault, host) => (.error fault, { b with host })
  start b e := b.after (Host.start b.host e)
  stop b e := b.after (Host.stop b.host e)
  release b e := { b with host := Host.release b.host e }
  waitReady b e := b.after (Host.waitReady b.host e)
  spawn b := Host.spawn b.host

/-- It keeps what is written to it as long as its host keeps that transcoded. -/
theorem keeps_heard {e : Endpoint} {received : σ → List UInt8} (hsource : source.isSupported = true)
    (hdevice : device.isSupported = true) (hsame : source.channels = device.channels)
    (h : e.Keeps device.align received) :
    e.Keeps source.align (heard : Transcoder σ α source device → List UInt8) where
  write b data taken after hwrite := by
    have hanswer : Host.write b e data = _ := hwrite
    dsimp only [Host.write] at hanswer
    split at hanswer
    next asked host hasked =>
      obtain ⟨htaken, hafter⟩ := Prod.mk.inj hanswer
      obtain rfl : asked = taken := Except.ok.inj htaken
      obtain ⟨hfits, _⟩ := h.write _ _ _ _ hasked
      refine ⟨?_, by rw [← hafter]⟩
      -- Every sample that fits has been read from one.
      rw [Format.length_transcode, device.align_eq hdevice, ← hsame, ← Nat.mul_assoc] at hfits
      have hsamples : asked * source.channels ≤ data.length / source.sampleSize :=
        Nat.le_of_mul_le_mul_right hfits (device.sampleSize_pos hdevice)
      calc asked * source.align
          = asked * source.channels * source.sampleSize := by
            rw [source.align_eq hsource, Nat.mul_assoc]
        _ ≤ data.length / source.sampleSize * source.sampleSize :=
            Nat.mul_le_mul_right _ hsamples
        _ ≤ data.length := Nat.div_mul_le_self _ _
    next => exact absurd (congrArg Prod.fst hanswer) (by simp)
  refuse b data fault after hwrite := by
    have hanswer : Host.write b e data = _ := hwrite
    dsimp only [Host.write] at hanswer
    split at hanswer
    next => exact absurd (congrArg Prod.fst hanswer) (by simp)
    next => rw [← (Prod.mk.inj hanswer).2]
  freeFrames _ := rfl
  start _ := rfl
  stop _ := rfl
  waitReady _ := rfl

/-- **A stream that takes what it has room for mirrors the same stream behind a transcoder.** -/
theorem mirrors_self {e : Endpoint} {ready : σ → Prop} (hsource : source.isSupported = true)
    (hdevice : device.isSupported = true) (hsame : source.channels = device.channels)
    (h : e.Takes ready device.align) :
    e.Mirrors (fun a (b : Transcoder σ α source device) => b.host = a ∧ ready a) e
      (Format.transcode α source device) source.align where
  freeFrames := by
    rintro a b ⟨rfl, hready⟩
    exact ⟨_, _, _, rfl, rfl, rfl, h.freeFrames hready⟩
  write := by
    rintro a b ⟨rfl, hready⟩ free a' b' hfree htwin frames hroom copy hcopy
    have hcount : (Format.transcode α source device copy).length = frames * device.align :=
      Format.length_transcode_frames hsource hdevice hsame hcopy
    obtain ⟨a'', hwrite, hready'⟩ := h.write hready hfree hroom hcount
    have hasked : b.after (Host.freeFrames b.host e) = (.ok free, b') := htwin
    rw [hfree] at hasked
    obtain rfl : (⟨a', b.heard⟩ : Transcoder σ α source device) = b' :=
      congrArg Prod.snd hasked
    refine ⟨a'', ⟨a'', b.heard ++ copy.take (frames * source.align)⟩, hwrite, ?_, rfl, hready'⟩
    dsimp only [Host.write]
    rw [hwrite]
  start := by
    rintro a b ⟨rfl, hready⟩
    exact ⟨_, _, _, rfl, rfl, rfl, h.start hready⟩
  stop := by
    rintro a b ⟨rfl, hready⟩
    exact ⟨rfl, h.stop hready⟩
  waitReady := by
    rintro a b ⟨rfl, hready⟩
    exact ⟨rfl, h.waitReady hready⟩

end Transcoder

/-! ## §3. Devices in memory. -/

/-- Two devices that differ at most in their formats, their names, and what was written to them, and
neither of which fails a write. -/
structure Device.Alike (d e : Device) : Prop where
  bufferFrames : e.bufferFrames = d.bufferFrames
  free : e.free = d.free
  running : e.running = d.running
  waitsFail : e.waitsFail = d.waitsFail
  faults : e.faults = d.faults
  id : e.id = d.id
  willing : d.has .write = false
  /-- What is free is counted in 32 bits. -/
  counted : d.free < Nat.pow 2 32
  small : d.bufferFrames < Nat.pow 2 32

namespace Device.Alike

variable {d e : Device}

theorem has (h : d.Alike e) (fault : DeviceFault) : e.has fault = d.has fault := by
  unfold Device.has
  rw [h.faults]

theorem setFree (h : d.Alike e) (frames : Nat) : (d.setFree frames).Alike (e.setFree frames) where
  bufferFrames := h.bufferFrames
  free := by
    show min frames e.bufferFrames = min frames d.bufferFrames
    rw [h.bufferFrames]
  running := h.running
  waitsFail := h.waitsFail
  faults := h.faults
  id := h.id
  willing := h.willing
  counted := Nat.lt_of_le_of_lt (Nat.min_le_right _ _) h.small
  small := h.small

/-- They have the same room, and what they answer is what is free then. -/
theorem freeFrames (h : d.Alike e) : e.freeFrames.1 = d.freeFrames.1
    ∧ d.freeFrames.2.Alike e.freeFrames.2
    ∧ ∀ free, d.freeFrames.1 = .ok free → d.freeFrames.2.free = free := by
  unfold Device.freeFrames
  rw [h.has, h.has]
  by_cases hcrash : d.has .crash = true
  · rw [if_pos hcrash, if_pos hcrash]
    exact ⟨rfl, h, by simp⟩
  rw [if_neg hcrash, if_neg hcrash]
  dsimp only
  have hfilled : (if d.has .refill then d.setFree unlimited else d).Alike
      (if d.has .refill then e.setFree unlimited else e) := by
    split
    · exact h.setFree _
    · exact h
  generalize (if d.has .refill then d.setFree unlimited else d) = d' at hfilled
  generalize (if d.has .refill then e.setFree unlimited else e) = e' at hfilled
  rw [hfilled.has]
  by_cases hfree : d'.has .free = true
  · rw [if_pos hfree, if_pos hfree]
    refine ⟨?_, hfilled, by simp⟩
    show Except.error (EndpointFault.failed (e'.faultError "free")) = _
    unfold Device.faultError
    rw [hfilled.id]
  · rw [if_neg hfree, if_neg hfree]
    exact ⟨congrArg Except.ok hfilled.free, hfilled, fun free h => Except.ok.inj h⟩

/-- **They take whole frames up to what is free**, each of them frames of its own size. -/
theorem write (h : d.Alike e) {f g : Format} (hf : 0 < f.align) (hg : 0 < g.align) {frames : Nat}
    (hroom : frames ≤ d.free) {data copy : List UInt8} (hdata : data.length = frames * f.align)
    (hcopy : copy.length = frames * g.align) :
    (d.write f data).1 = .ok frames ∧ (e.write g copy).1 = .ok frames
      ∧ (d.write f data).2.Alike (e.write g copy).2 := by
  have hsmall : Format.word32 frames = frames := Nat.mod_eq_of_lt (Nat.lt_of_le_of_lt hroom h.counted)
  have hwrite : ∀ (d : Device) (f : Format) (data : List UInt8), d.has .write = false → 0 < f.align →
      frames ≤ d.free → data.length = frames * f.align → d.write f data = (.ok frames,
        { d with written := d.written ++ data.take (f.bytesOf frames), free := d.free - frames }) := by
    intro d f data hwilling hf hroom hdata
    unfold Device.write Format.framesIn?
    rw [hwilling, if_neg (Nat.ne_of_gt hf), hdata, Nat.mul_div_cancel _ hf, hsmall]
    dsimp only
    rw [Nat.min_eq_left hroom]
    rfl
  rw [hwrite d f data h.willing hf hroom hdata,
    hwrite e g copy (by rw [h.has]; exact h.willing) hg (by rw [h.free]; exact hroom) hcopy]
  exact ⟨rfl, rfl,
    { h with
      free := by
        show e.free - frames = d.free - frames
        rw [h.free]
      counted := Nat.lt_of_le_of_lt (Nat.sub_le _ _) h.counted }⟩

theorem start (h : d.Alike e) : e.start.1 = d.start.1 ∧ d.start.2.Alike e.start.2 := by
  unfold Device.start
  rw [h.has, h.running]
  split
  · refine ⟨?_, h⟩
    unfold Device.faultError
    rw [h.id]
  · split
    · exact ⟨rfl, h⟩
    · exact ⟨rfl, { h with running := rfl }⟩

theorem stop (h : d.Alike e) : d.stop.2.Alike e.stop.2 := by
  unfold Device.stop
  rw [h.has]
  split
  · exact h
  · exact { h with running := rfl }

theorem waitReady (h : d.Alike e) : d.waitReady.2.Alike e.waitReady.2 := by
  unfold Device.waitReady
  rw [h.waitsFail]
  split
  · exact h
  · exact { h with waitsFail := rfl }

end Device.Alike

namespace DeviceBank

/-- Two banks in which the devices of an identifier are alike. -/
def Alike (id : String) (a b : DeviceBank) : Prop :=
  ∃ d e, a.find? id = some d ∧ b.find? id = some e ∧ d.Alike e

variable {id : String} {a b : DeviceBank}

theorem on_found {ρ : Type} {absent : ρ} {call : Device → ρ × Device} {d : Device}
    (h : a.find? id = some d) : a.on id absent call = ((call d).1, a.put id (call d).2) := by
  unfold on
  rw [h]

/-- **Calls that treat alike devices alike** leave them alike in their banks. -/
theorem alike_on {ρ : Type} {absent missing : ρ} {call : Device → ρ × Device} {d e : Device}
    {twin : String} (hd : a.find? id = some d) (he : b.find? twin = some e) (htwin : twin = id)
    {other : Device → ρ × Device} (hid : (call d).2.id = d.id) (h : (call d).2.Alike (other e).2) :
    Alike id (a.on id absent call).2 (b.on twin missing other).2 := by
  rw [htwin] at he ⊢
  rw [on_found hd, on_found he]
  have hfound : (call d).2.id = id := hid.trans (id_of_find? hd)
  exact ⟨_, _, find?_put hd hfound, find?_put he (h.id.trans hfound), h⟩

/-- **Streams on alike devices mirror each other**, if what is written to the first one has the frames
of what is written to the second one. -/
theorem mirrors_alike {e twin : Endpoint} (hdevice : twin.device = e.device)
    (hsize : 0 < e.activated.align) (htwin : 0 < twin.activated.align)
    {convert : List UInt8 → List UInt8} (hconvert : ∀ {copy : List UInt8} {frames : Nat},
      copy.length = frames * twin.activated.align →
        (convert copy).length = frames * e.activated.align) :
    e.Mirrors (Alike e.device) twin convert twin.activated.align where
  freeFrames := by
    rintro a b ⟨d, d', hd, hd', halike⟩
    rw [← hdevice] at hd'
    obtain ⟨hanswer, hafter, _⟩ := halike.freeFrames
    have hfirst : (Host.freeFrames a e).1 = d.freeFrames.1 := congrArg Prod.fst (on_found hd)
    have hsecond : (Host.freeFrames b twin).1 = d'.freeFrames.1 := congrArg Prod.fst (on_found hd')
    exact ⟨_, _, (Host.freeFrames b twin).2, rfl,
      Prod.ext (hsecond.trans (hanswer.trans hfirst.symm)) rfl,
      alike_on hd hd' hdevice (freeFrames_frame d).1 hafter⟩
  write := by
    rintro a b ⟨d, d', hd, hd', halike⟩ free a' b' hfree hother frames hroom copy hcopy
    rw [← hdevice] at hd'
    obtain ⟨_, hafter, hcount⟩ := halike.freeFrames
    have hasked : a.on e.device _ Device.freeFrames = (.ok free, a') := hfree
    have hanswered : b.on twin.device _ Device.freeFrames = (.ok free, b') := hother
    rw [on_found hd] at hasked
    rw [on_found hd'] at hanswered
    obtain ⟨hanswer, rfl⟩ := Prod.mk.inj hasked
    obtain ⟨_, rfl⟩ := Prod.mk.inj hanswered
    have hid := (freeFrames_frame d).1.trans (id_of_find? hd)
    have hput := find?_put hd hid
    have hput' := find?_put hd' (hafter.id.trans (hid.trans hdevice.symm))
    rw [← hcount free hanswer] at hroom
    obtain ⟨hwrite, hwrite', hlast⟩ := hafter.write hsize htwin hroom (hconvert hcopy) hcopy
    exact ⟨_, _, Prod.ext ((congrArg Prod.fst (on_found hput)).trans hwrite) rfl,
      Prod.ext ((congrArg Prod.fst (on_found hput')).trans hwrite') rfl,
      alike_on hput hput' hdevice (id_write _ _ _) hlast⟩
  start := by
    rintro a b ⟨d, d', hd, hd', halike⟩
    rw [← hdevice] at hd'
    obtain ⟨hanswer, hafter⟩ := halike.start
    have hfirst : (Host.start a e).1 = d.start.1 := congrArg Prod.fst (on_found hd)
    have hsecond : (Host.start b twin).1 = d'.start.1 := congrArg Prod.fst (on_found hd')
    exact ⟨_, _, (Host.start b twin).2, rfl,
      Prod.ext (hsecond.trans (hanswer.trans hfirst.symm)) rfl,
      alike_on hd hd' hdevice (start_frame d).1 hafter⟩
  stop := by
    rintro a b ⟨d, d', hd, hd', halike⟩
    rw [← hdevice] at hd'
    exact alike_on hd hd' hdevice (stop_frame d).1 halike.stop
  waitReady := by
    rintro a b ⟨d, d', hd, hd', halike⟩
    rw [← hdevice] at hd'
    exact alike_on hd hd' hdevice (waitReady_frame d).1 halike.waitReady

/-- Such a conversion is transcoding. -/
theorem mirrors_transcode {α : Type} [Amplitude α] {e twin : Endpoint}
    (hsource : twin.activated.isSupported = true) (hdevice : e.activated.isSupported = true)
    (hsame : twin.activated.channels = e.activated.channels) (hid : twin.device = e.device) :
    e.Mirrors (Alike e.device) twin (Format.transcode α twin.activated e.activated)
      twin.activated.align :=
  mirrors_alike hid (e.activated.align_pos hdevice) (twin.activated.align_pos hsource)
    fun hcopy => Format.length_transcode_frames hsource hdevice hsame hcopy

/-- **A device in memory that fails no write takes what it has room for.** -/
theorem takes_alike {e : Endpoint} (hsize : 0 < e.activated.align) :
    e.Takes (fun b => Alike e.device b b) e.activated.align := by
  have hself : e.Mirrors (Alike e.device) e (fun copy => copy) e.activated.align :=
    mirrors_alike rfl hsize hsize fun hcopy => hcopy
  constructor
  case freeFrames =>
    intro a ha
    obtain ⟨_, a', b', hfirst, hsecond, hafter⟩ := hself.freeFrames ha
    rw [hfirst] at hsecond ⊢
    obtain ⟨_, rfl⟩ := Prod.mk.inj hsecond
    exact hafter
  case write =>
    intro a ha free a' hfree frames hroom data hdata
    obtain ⟨a'', b'', hfirst, hsecond, hafter⟩ := hself.write ha hfree hfree hroom hdata
    rw [hfirst] at hsecond
    obtain ⟨_, rfl⟩ := Prod.mk.inj hsecond
    exact ⟨a'', hfirst, hafter⟩
  case start =>
    intro a ha
    obtain ⟨_, a', b', hfirst, hsecond, hafter⟩ := hself.start ha
    rw [hfirst] at hsecond ⊢
    obtain ⟨_, rfl⟩ := Prod.mk.inj hsecond
    exact hafter
  case stop => exact hself.stop
  case waitReady => exact hself.waitReady

/-- Setting the room of both devices leaves them alike. -/
theorem Alike.setFree (h : Alike id a b) (frames : Nat) :
    Alike id (a.setFree id frames) (b.setFree id frames) := by
  obtain ⟨d, e, hd, he, halike⟩ := h
  have hid := id_of_find? hd
  have hother := id_of_find? he
  unfold DeviceBank.setFree update
  rw [hd, he]
  exact ⟨_, _, find?_put hd hid, find?_put he hother, halike.setFree frames⟩

end DeviceBank

end PcmRender
