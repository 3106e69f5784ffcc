/-
  PcmRender.Proofs.Transcoding — **conversion at equal rates goes sample by sample.**

  Where source and device have the same rate there is nothing to interpolate.  Each whole sample is
  read and written again, whatever its neighbours are:

      process? data   =   ⟨all whole frames, transcode of them, the stage as it was⟩

  So it does not matter where a stream of samples is cut (`transcode_append`), nor what was
  converted before, and each frame gives one frame (`length_transcode_frames`).

  Main statements:
    * `Stage.between_some` — what the stage of a route converts from and to,
    * `LinearResampler.process?_transcodes` — one chunk.
-/
import PcmRender.Proofs.Sample
import PcmRender.Stage.Linear

namespace PcmRender

/-! ## §1. Samples one by one. -/

namespace Format

variable (α : Type) [Amplitude α]

/-- A sample of the source, read and written as one of the device. -/
def transcodeSample (source device : Format) (sample : List UInt8) : List UInt8 :=
  Sample.encode device (Sample.decode source sample : α) (List.replicate device.sampleSize 0)

/-- All whole samples of the source, one after the other. -/
def transcode (source device : Format) (data : List UInt8) : List UInt8 :=
  (wholePieces source.sampleSize data).flatMap (transcodeSample α source device)

variable {α} {source device : Format}

theorem length_transcodeSample (sample : List UInt8) :
    (transcodeSample α source device sample).length = device.sampleSize := by
  unfold transcodeSample
  rw [Gain.length_encode, List.length_replicate]

/-- **A cut between two samples** is not heard. -/
theorem transcode_append (hsize : 0 < source.sampleSize) {front : List UInt8}
    (hfront : source.sampleSize ∣ front.length) (back : List UInt8) :
    transcode α source device (front ++ back)
      = transcode α source device front ++ transcode α source device back := by
  obtain ⟨count, hcount⟩ := hfront
  have hdiv : front.length / source.sampleSize = count := by
    rw [hcount, Nat.mul_div_cancel_left _ hsize]
  have hboth : (front ++ back).length / source.sampleSize
      = count + back.length / source.sampleSize := by
    rw [List.length_append, hcount, Nat.mul_add_div hsize]
  have hcut : count * source.sampleSize = front.length := by rw [hcount, Nat.mul_comm]
  unfold transcode wholePieces
  rw [hboth, hdiv, pieces_add, hcut, List.drop_left, List.flatMap_append,
    pieces_append _ _ _ _ (Nat.le_of_eq hcut)]

theorem transcode_nil : transcode α source device [] = [] := by
  unfold transcode wholePieces
  rw [List.length_nil, Nat.zero_div]
  rfl

/-- Every sample gives one. -/
theorem length_transcode (data : List UInt8) : (transcode α source device data).length
    = data.length / source.sampleSize * device.sampleSize := by
  unfold transcode wholePieces
  rw [List.length_flatMap, List.map_congr_left fun sample _ => length_transcodeSample sample,
    List.map_const', List.sum_replicate_nat, length_pieces]

/-- **Every frame gives one.** -/
theorem length_transcode_frames (hsource : source.isSupported = true)
    (hdevice : device.isSupported = true) (hsame : source.channels = device.channels)
    {frames : Nat} {data : List UInt8} (hdata : data.length = frames * source.align) :
    (transcode α source device data).length = frames * device.align := by
  have hcount : data.length / source.sampleSize = frames * source.channels := by
    rw [hdata, source.align_eq hsource, ← Nat.mul_assoc,
      Nat.mul_div_cancel _ (source.sampleSize_pos hsource)]
  rw [length_transcode, hcount, device.align_eq hdevice, hsame, Nat.mul_assoc]

end Format

/-! ## §2. The stage of a route. -/

variable {τ α : Type} [Amplitude α] [ReadHead τ α]

/-- **What the stage of a route converts**: the source to the output, both of which can be. -/
theorem Stage.between_some {source device : Format} {r : LinearResampler τ α}
    (h : Stage.between (LinearResampler τ α) source device = .ok (some r)) :
    r.input = source ∧ r.output = Stage.outputFormat source device
      ∧ source.isSupported = true ∧ (Stage.outputFormat source device).isSupported = true := by
  unfold Stage.between at h
  split at h
  · have hcreate : LinearResampler.create source (Stage.outputFormat source device) = .ok r := by
      generalize hc : (Stage.create source (Stage.outputFormat source device)
        : Except RenderError (LinearResampler τ α)) = created at h
      cases created with
      | error e => cases h
      | ok made =>
          cases h
          exact hc
    unfold LinearResampler.create at hcreate
    split at hcreate
    · cases hcreate
    next hin =>
      split at hcreate
      · cases hcreate
      next hout =>
        split at hcreate
        · cases hcreate
        · cases hcreate
          exact ⟨rfl, rfl, by simpa using hin, by simpa using hout⟩
  · cases h

/-- **A chunk at equal rates**: its whole frames are transcoded, and the stage stays as it was. -/
theorem LinearResampler.process?_transcodes {r : LinearResampler τ α}
    (hin : r.input.isSupported = true) (hout : r.output.isSupported = true)
    (hrate : r.input.rate = r.output.rate) {frames : Nat} {data : List UInt8}
    (hdata : data.length = frames * r.input.align) :
    r.process? data = some ⟨data.length, Format.transcode α r.input r.output data, r⟩ := by
  have halign := r.input.align_pos hin
  have hcount : data.length / r.input.align = frames := by
    rw [hdata, Nat.mul_div_cancel _ halign]
  unfold process?
  rw [if_neg (Nat.ne_of_gt halign)]
  dsimp only
  rw [hcount]
  by_cases hnone : frames = 0
  · rw [hnone, Nat.zero_mul] at hdata
    rw [if_pos hnone, List.length_eq_zero_iff.mp hdata, Format.transcode_nil]
    rfl
  · have hsamples : data.length / r.input.sampleSize = frames * r.input.channels := by
      rw [hdata, r.input.align_eq hin, ← Nat.mul_assoc,
        Nat.mul_div_cancel _ (r.input.sampleSize_pos hin)]
    rw [if_neg hnone, ← hdata, List.take_length, Sample.decodeFrames?_frames hin hdata]
    unfold convert?
    simp only [Option.bind_eq_bind, Option.bind_some, if_pos hrate, Sample.encodeFrames?_eq hout]
    unfold Format.transcode wholePieces
    rw [hsamples, List.flatMap_map]
    rfl

end PcmRender
