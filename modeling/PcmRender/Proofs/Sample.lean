/-
  PcmRender.Proofs.Sample — **samples of a stream that arrives in parts.**

  A stream that is cut between two frames is decoded part by part, and written part by part:

      decode (front ++ back)   =   decode front ++ decode back       front in whole frames
      encode (samples ++ more) =   encode samples ++ encode more

  In a supported format both always give something.
-/
import PcmRender.Proofs.Gain

namespace PcmRender

/-! ## §1. Pieces of a cut list. -/

theorem pieces_add {β : Type} (size : Nat) : ∀ (m n : Nat) (l : List β),
    pieces size (m + n) l = pieces size m l ++ pieces size n (l.drop (m * size)) := by
  intro m
  induction m with
  | zero =>
      intro n l
      rw [Nat.zero_add, Nat.zero_mul, List.drop_zero]
      rfl
  | succ m ih =>
      intro n l
      rw [Nat.succ_add]
      show l.take size :: pieces size (m + n) (l.drop size) = _
      rw [ih, List.drop_drop, Nat.succ_mul, Nat.add_comm size]
      rfl

/-- Pieces do not look behind the last of them. -/
theorem pieces_append {β : Type} (size : Nat) : ∀ (n : Nat) (l more : List β),
    n * size ≤ l.length → pieces size n (l ++ more) = pieces size n l := by
  intro n
  induction n with
  | zero => intros; rfl
  | succ n ih =>
      intro l more h
      rw [Nat.succ_mul] at h
      show (l ++ more).take size :: pieces size n ((l ++ more).drop size) = _
      rw [List.take_append_of_le_length (by omega), List.drop_append_of_le_length (by omega),
        ih _ _ (by rw [List.length_drop]; omega)]
      rfl

theorem length_pieces {β : Type} (size : Nat) : ∀ (n : Nat) (l : List β),
    (pieces size n l).length = n
  | 0, _ => rfl
  | n + 1, l => by
      show (pieces size n (l.drop size)).length + 1 = n + 1
      rw [length_pieces size n]

/-! ## §2. Frames of a cut stream. -/

namespace Sample

variable {α : Type} [Amplitude α]

/-- **Whole frames decode to whole frames**, and to nothing else. -/
theorem decodeFrames?_frames {f : Format} (h : f.isSupported = true) {frames : Nat}
    {data : List UInt8} (hlength : data.length = frames * f.align) :
    decodeFrames? f data
      = some ((pieces f.sampleSize (frames * f.channels) data).map (decode f : _ → α)) := by
  have hsize := f.sampleSize_pos h
  have halign := f.align_eq h
  have hpos := f.align_pos h
  unfold decodeFrames? wholePieces
  rw [if_neg (by omega)]
  have hwhole : data.length / f.align * f.align = data.length := by
    rw [hlength, Nat.mul_div_cancel _ hpos]
  have hcount : data.length / f.sampleSize = frames * f.channels := by
    rw [hlength, halign, ← Nat.mul_assoc, Nat.mul_div_cancel _ hsize]
  simp only [hwhole, List.take_length, hcount]

/-- A stream of whole frames that is cut between two frames decodes part by part. -/
theorem decodeFrames?_append {f : Format} (h : f.isSupported = true) {m n : Nat}
    {front back : List UInt8} (hfront : front.length = m * f.align)
    (hback : back.length = n * f.align) {samples more : List α}
    (hs : decodeFrames? f front = some samples) (hm : decodeFrames? f back = some more) :
    decodeFrames? f (front ++ back) = some (samples ++ more) := by
  have hboth : (front ++ back).length = (m + n) * f.align := by
    rw [List.length_append, hfront, hback, Nat.add_mul]
  have hsamples : m * f.channels * f.sampleSize = front.length := by
    rw [hfront, f.align_eq h, Nat.mul_assoc]
  rw [decodeFrames?_frames h hfront, Option.some.injEq] at hs
  rw [decodeFrames?_frames h hback, Option.some.injEq] at hm
  rw [decodeFrames?_frames h hboth, Nat.add_mul, pieces_add, pieces_append _ _ _ _ (by omega),
    hsamples, List.drop_left, List.map_append, hs, hm]

/-- Samples of a supported format are written one by one. -/
theorem encodeFrames?_eq {f : Format} (h : f.isSupported = true) (samples : List α) :
    encodeFrames? f samples
      = some (samples.flatMap fun x => encode f x (List.replicate f.sampleSize 0)) := by
  have hsize := f.sampleSize_pos h
  unfold encodeFrames?
  rw [if_neg (by omega)]

theorem encodeFrames?_append {f : Format} (h : f.isSupported = true) {samples more : List α}
    {front back : List UInt8} (hs : encodeFrames? f samples = some front)
    (hm : encodeFrames? f more = some back) :
    encodeFrames? f (samples ++ more) = some (front ++ back) := by
  rw [encodeFrames?_eq h, Option.some.injEq] at hs hm
  rw [encodeFrames?_eq h, List.flatMap_append, hs, hm]

end Sample

end PcmRender
