/-
  PcmRender.Proofs.Silence — **what the silence of a session sounds like.**

  A session fills its ring in three places: with a whole store when the route is opened, in front of
  what is queued when it is started, and behind it when a cycle has too little to write.  None of them
  looks at the format, and all of them write zero bytes.  What these sound like is up to the format:

      signed integers, floats      zero
      integers of one byte         minus one, because these are unsigned around 128

  So inserted silence is silent in every format that can be decoded, except in the unsigned one.
-/
import PcmRender.Proofs.Sample
import PcmRender.Proofs.Weaving

namespace PcmRender

/-! ## §1. Zero bytes as samples. -/

namespace Format

/-- What a sample of zero bytes stands for. -/
def zeroSample (f : Format) : Single :=
  if f.kind = .int ∧ f.bits = 8 then Single.minusOne else Single.zero false

end Format

theorem pieces_replicate {β : Type} (size : Nat) (b : β) : ∀ n : Nat,
    pieces size n (List.replicate (n * size) b) = List.replicate n (List.replicate size b)
  | 0 => rfl
  | n + 1 => by
      show (List.replicate ((n + 1) * size) b).take size
        :: pieces size n ((List.replicate ((n + 1) * size) b).drop size) = _
      rw [Nat.succ_mul, List.take_replicate, List.drop_replicate, Nat.add_sub_cancel,
        Nat.min_eq_left (Nat.le_add_left _ _), pieces_replicate size b n]
      rfl

namespace Sample

/-- **A sample of zero bytes**, in every format that can be decoded. -/
theorem decode_zeros {f : Format} (h : f.isSupported = true) :
    decode f (List.replicate f.sampleSize 0) = f.zeroSample := by
  obtain ⟨rate, channels, bits, align, kind, order⟩ := f
  have hwidth : Format.widthSupported kind bits = true := by
    unfold Format.isSupported at h
    simp only [Bool.and_eq_true] at h
    exact h.1.1.1
  have hzero : ∀ k ∈ [15, 23, 31], Single.ratio 0 k = Single.zero false := by decide +kernel
  have hbyte : Single.ratio (-128) 7 = Single.minusOne := by decide +kernel
  unfold Format.widthSupported at hwidth
  cases kind with
  | int =>
      simp only [Bool.or_eq_true, beq_iff_eq] at hwidth
      -- Zero bytes are the same in both orders; their width decides what is divided by what.
      rcases hwidth with ((rfl | rfl) | rfl) | rfl
      · show decode _ (List.replicate ((8 + 7) / 8) 0) = _
        cases order <;> exact hbyte
      · show decode _ (List.replicate ((16 + 7) / 8) 0) = _
        cases order <;> exact hzero 15 (by decide)
      · show decode _ (List.replicate ((24 + 7) / 8) 0) = _
        cases order <;> exact hzero 23 (by decide)
      · show decode _ (List.replicate ((32 + 7) / 8) 0) = _
        cases order <;> exact hzero 31 (by decide)
  | float =>
      obtain rfl : bits = 32 := by simpa using hwidth
      show decode _ (List.replicate ((32 + 7) / 8) 0) = _
      cases order <;> rfl

/-- **Frames of zero bytes.** -/
theorem decodeFrames?_zeros {f : Format} (h : f.isSupported = true) (frames : Nat) :
    decodeFrames? f (List.replicate (frames * f.align) 0)
      = some (List.replicate (frames * f.channels) f.zeroSample) := by
  have hbytes : frames * f.align = frames * f.channels * f.sampleSize := by
    rw [f.align_eq h, Nat.mul_assoc]
  rw [decodeFrames?_frames h List.length_replicate, hbytes, pieces_replicate, List.map_replicate,
    decode_zeros h]

end Sample

/-! ## §2. The silence of a session. -/

namespace Session

variable {σ κ : Type} [Host σ] [Stage κ] {r : DeviceRoute κ}

/-- **What a session puts into its ring.**  Let a session open a device and let any sections follow
as long as the route stays open.  Besides what was accepted, there are only zero bytes in what cycles
took out and in what is queued, the silence of the fresh ring included; and frames of zero bytes are
silent in the format of the source, unless its samples are unsigned. -/
theorem inserted_zeros {s t : Session σ κ} (hclosed : s.route = .closed)
    (hopen : s.openSection = (.ok (), t)) (hr : t.route = .device r) (run : List (Passing σ)) :
    (∃ later, (t.flow run).2.route = .device later
        ∧ Padded (t.flow run).1.accepted ((t.flow run).1.popped ++ later.ring.content))
      ∧ ∀ frames, Sample.decodeFrames? r.source (List.replicate (frames * r.source.align) 0)
        = some (List.replicate (frames * r.source.channels)
            (if r.source.kind = .int ∧ r.source.bits = 8 then Single.minusOne
              else Single.zero false)) := by
  obtain ⟨hsupported, hsilent⟩ := opened_device hclosed hopen hr
  have hfresh : Padded [] ([] ++ r.ring.content) := by
    rw [List.nil_append, hsilent]
    exact Padded.silent _
  exact ⟨padded_flow run hr hfresh, Sample.decodeFrames?_zeros hsupported⟩

/-- Two samples of 16 bits, with silence in front of them and between them. -/
theorem inserted_zeros_twoSamples :
    ∃ t r, quietSpeaker.openSection = (.ok (), t) ∧ t.route = .device r
      ∧ (∃ later, (t.flow twoSamples).2.route = .device later
        ∧ Padded [0xe8, 0x03, 0x18, 0xfc]
          ([0, 0, 0, 0, 0, 0, 0, 0, 0xe8, 0x03, 0, 0, 0, 0, 0, 0, 0x18, 0xfc]
            ++ later.ring.content))
      ∧ Sample.decodeFrames? r.source (List.replicate 8 0)
        = some (List.replicate 4 (Single.zero false)) := by
  have hopen : quietSpeaker.openSection = (.ok (), quietSpeaker.openSection.2) := rfl
  obtain ⟨⟨later, hlater, hstream⟩, hzeros⟩ := inserted_zeros rfl hopen rfl twoSamples
  have haccepted : (quietSpeaker.openSection.2.flow twoSamples).1.accepted
      = [0xe8, 0x03, 0x18, 0xfc] := by decide +kernel
  have hpopped : (quietSpeaker.openSection.2.flow twoSamples).1.popped
      = [0, 0, 0, 0, 0, 0, 0, 0, 0xe8, 0x03, 0, 0, 0, 0, 0, 0, 0x18, 0xfc] := by decide +kernel
  rw [haccepted, hpopped] at hstream
  exact ⟨_, _, hopen, rfl, ⟨later, hlater, hstream⟩, hzeros 4⟩

/-- **Unsigned samples are not silent**: the fresh ring of a session that feeds them holds four
samples of full scale. -/
theorem fresh_ring_sounds :
    ∃ t r, Session.openSection { quietSpeaker with source := Format.pcm 8000 8 1 } = (.ok (), t)
      ∧ t.route = .device r ∧ r.source.isSupported = true ∧ r.ring.content = [0, 0, 0, 0]
      ∧ Sample.decodeFrames? r.source r.ring.content = some (List.replicate 4 Single.minusOne)
      ∧ Single.minusOne ≠ Single.zero false :=
  ⟨_, _, rfl, rfl, rfl, by decide +kernel, by decide +kernel, by decide⟩

end Session

end PcmRender
