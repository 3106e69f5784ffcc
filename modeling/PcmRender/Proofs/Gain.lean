/-
  PcmRender.Proofs.Gain — **scaling goes sample by sample.**

  In a format that can be decoded, a gain is one change of each whole sample that keeps its length:
  `scaleBytes?_pieces`.  So it does not matter where a stream of samples is cut: scaling the first
  samples gives the first of the scaled samples (`scaleBytes?_take`).  This is why a cycle may scale
  more than the endpoint takes.
-/
import PcmRender.Gain

namespace PcmRender

/-! ## §1. Formats that can be decoded. -/

namespace Format

/-- Samples of a width that can be decoded have from one byte to four. -/
theorem sampleSize_range {f : Format} (h : widthSupported f.kind f.bits = true) :
    0 < f.sampleSize ∧ f.sampleSize ≤ 4 := by
  unfold sampleSize bytesFor
  unfold widthSupported at h
  split at h <;> simp only [Bool.or_eq_true, beq_iff_eq] at h <;> omega

/-- A format that can be decoded has samples of such a width. -/
theorem width_supported {f : Format} (h : f.isSupported = true) :
    widthSupported f.kind f.bits = true := by
  unfold isSupported at h
  simp only [Bool.and_eq_true] at h
  exact h.1.1.1

theorem sampleSize_pos {f : Format} (h : f.isSupported = true) : 0 < f.sampleSize :=
  (sampleSize_range (width_supported h)).1

theorem sampleSize_le {f : Format} (h : f.isSupported = true) : f.sampleSize ≤ 4 :=
  (sampleSize_range (width_supported h)).2

/-- Its frames are exactly their samples. -/
theorem align_eq {f : Format} (h : f.isSupported = true) : f.align = f.channels * f.sampleSize := by
  unfold isSupported at h
  simp only [Bool.and_eq_true, beq_iff_eq] at h
  rw [h.2, Nat.mul_comm]

theorem sampleSize_dvd_align {f : Format} (h : f.isSupported = true) : f.sampleSize ∣ f.align :=
  ⟨f.channels, (f.align_eq h).trans (Nat.mul_comm _ _)⟩

theorem channels_pos {f : Format} (h : f.isSupported = true) : 0 < f.channels := by
  unfold isSupported at h
  simp only [Bool.and_eq_true, decide_eq_true_eq] at h
  exact h.1.1.2

theorem rate_pos {f : Format} (h : f.isSupported = true) : 0 < f.rate := by
  unfold isSupported at h
  simp only [Bool.and_eq_true, decide_eq_true_eq] at h
  exact h.1.2

/-- So a frame has at least one byte. -/
theorem align_pos {f : Format} (h : f.isSupported = true) : 0 < f.align := by
  rw [f.align_eq h]
  exact Nat.mul_pos (f.channels_pos h) (f.sampleSize_pos h)

end Format

/-! ## §2. Pieces. -/

namespace Gain

/-- The first piece is changed on its own. -/
theorem mapPieces_cons {size : Nat} (hsize : 0 < size) (change : List UInt8 → List UInt8)
    {data : List UInt8} (h : size ≤ data.length) :
    mapPieces size change data
      = change (data.take size) ++ mapPieces size change (data.drop size) := by
  have hcount : data.length / size = (data.length - size) / size + 1 := Nat.div_eq_sub_div hsize h
  unfold mapPieces wholePieces
  have hpieces : pieces size ((data.length - size) / size + 1) data
      = data.take size :: pieces size ((data.length - size) / size) (data.drop size) := rfl
  rw [List.length_drop, hcount, hpieces, List.flatMap_cons, List.append_assoc, List.drop_drop,
    Nat.succ_mul, Nat.add_comm size]

/-- What is too short for a piece stays. -/
theorem mapPieces_short {size : Nat} (change : List UInt8 → List UInt8) {data : List UInt8}
    (h : data.length < size) : mapPieces size change data = data := by
  unfold mapPieces wholePieces
  rw [Nat.div_eq_of_lt h]
  simp [pieces]

/-- Changing pieces in place keeps the length. -/
theorem length_mapPieces {size : Nat} (hsize : 0 < size) {change : List UInt8 → List UInt8}
    (hchange : ∀ piece, piece.length = size → (change piece).length = size) (data : List UInt8) :
    (mapPieces size change data).length = data.length := by
  by_cases h : size ≤ data.length
  · have ih := length_mapPieces hsize hchange (data.drop size)
    have hfirst := hchange (data.take size) (by rw [List.length_take]; omega)
    rw [mapPieces_cons hsize change h, List.length_append, hfirst, ih, List.length_drop]
    omega
  · rw [mapPieces_short change (by omega)]
termination_by data.length
decreasing_by rw [List.length_drop]; omega

/-- Pieces that stay as they are make the same whole. -/
theorem mapPieces_id {size : Nat} (hsize : 0 < size) (data : List UInt8) :
    mapPieces size (fun piece => piece) data = data := by
  by_cases h : size ≤ data.length
  · rw [mapPieces_cons hsize _ h, mapPieces_id hsize (data.drop size), List.take_append_drop]
  · exact mapPieces_short _ (by omega)
termination_by data.length
decreasing_by rw [List.length_drop]; omega

/-- **A cut between two pieces** can be made before the change or behind it. -/
theorem mapPieces_take {size : Nat} (hsize : 0 < size) {change : List UInt8 → List UInt8}
    (hchange : ∀ piece, piece.length = size → (change piece).length = size) :
    ∀ (count : Nat) (data : List UInt8), count * size ≤ data.length →
      mapPieces size change (data.take (count * size))
        = (mapPieces size change data).take (count * size) := by
  intro count
  induction count with
  | zero =>
      intro data _
      rw [Nat.zero_mul, List.take_zero, List.take_zero]
      exact mapPieces_short change hsize
  | succ count ih =>
      intro data h
      rw [Nat.succ_mul, Nat.add_comm] at h ⊢
      have hfits : size ≤ data.length := by omega
      have hcut : size ≤ (data.take (size + count * size)).length := by
        rw [List.length_take]
        omega
      have hfirst : (change (data.take size)).length = size :=
        hchange _ (by rw [List.length_take]; omega)
      have hrest := ih (data.drop size) (by rw [List.length_drop]; omega)
      -- Both sides begin with the first piece changed; behind it they agree by induction.
      rw [mapPieces_cons hsize change hcut, mapPieces_cons hsize change hfits, List.take_take,
        Nat.min_eq_left (Nat.le_add_right _ _), List.drop_take, Nat.add_sub_cancel_left, hrest,
        List.take_append, hfirst, Nat.add_sub_cancel_left]
      congr 1
      exact (List.take_of_length_le (by omega)).symm

/-- **What stands behind a cut** is changed as it would be alone. -/
theorem mapPieces_drop {size : Nat} (hsize : 0 < size) {change : List UInt8 → List UInt8}
    (hchange : ∀ piece, piece.length = size → (change piece).length = size) :
    ∀ (count : Nat) (data : List UInt8), count * size ≤ data.length →
      (mapPieces size change data).drop (count * size)
        = mapPieces size change (data.drop (count * size)) := by
  intro count
  induction count with
  | zero =>
      intro data _
      rw [Nat.zero_mul, List.drop_zero, List.drop_zero]
  | succ count ih =>
      intro data h
      rw [Nat.succ_mul, Nat.add_comm] at h ⊢
      have hfirst : (change (data.take size)).length = size :=
        hchange _ (by rw [List.length_take]; omega)
      have hrest := ih (data.drop size) (by rw [List.length_drop]; omega)
      rw [List.drop_drop] at hrest
      rw [mapPieces_cons hsize change (by omega), List.drop_append,
        List.drop_of_length_le (by omega), hfirst, Nat.add_sub_cancel_left, hrest, List.nil_append]

/-- Of a change no more matters than what it does to pieces. -/
theorem mapPieces_congr {size : Nat} (hsize : 0 < size) {change other : List UInt8 → List UInt8}
    (h : ∀ piece, piece.length = size → change piece = other piece) (data : List UInt8) :
    mapPieces size change data = mapPieces size other data := by
  by_cases hfits : size ≤ data.length
  · have ih := mapPieces_congr hsize h (data.drop size)
    rw [mapPieces_cons hsize change hfits, mapPieces_cons hsize other hfits, ih,
      h _ (by rw [List.length_take]; omega)]
  · rw [mapPieces_short change (by omega), mapPieces_short other (by omega)]
termination_by data.length
decreasing_by rw [List.length_drop]; omega

/-- Two changes one after the other are one. -/
theorem mapPieces_mapPieces {size : Nat} (hsize : 0 < size) {first : List UInt8 → List UInt8}
    (hfirst : ∀ piece, piece.length = size → (first piece).length = size)
    (second : List UInt8 → List UInt8) (data : List UInt8) :
    mapPieces size second (mapPieces size first data)
      = mapPieces size (fun piece => second (first piece)) data := by
  by_cases hfits : size ≤ data.length
  · have ih := mapPieces_mapPieces hsize hfirst second (data.drop size)
    have hpiece : (first (data.take size)).length = size :=
      hfirst _ (by rw [List.length_take]; omega)
    have hwhole : size
        ≤ (first (data.take size) ++ mapPieces size first (data.drop size)).length := by
      rw [List.length_append]
      omega
    rw [mapPieces_cons hsize first hfits, mapPieces_cons hsize second hwhole,
      mapPieces_cons hsize _ hfits, List.take_left' hpiece, List.drop_left' hpiece, ih]
  · rw [mapPieces_short first (by omega), mapPieces_short second (by omega),
      mapPieces_short _ (by omega)]
termination_by data.length
decreasing_by rw [List.length_drop]; omega

/-! ## §3. Samples keep their length. -/

theorem length_littleBytes : ∀ (count n : Nat), (littleBytes count n).length = count
  | 0, _ => rfl
  | count + 1, n => by
      show (littleBytes count (n / 256)).length + 1 = count + 1
      rw [length_littleBytes count]

theorem length_signedBytes (count : Nat) (n : Int) : (signedBytes count n).length = count :=
  length_littleBytes _ _

variable {α : Type} [Amplitude α]

theorem length_rawBytes (kind : SampleKind) (width : Nat) (x : α) :
    (Sample.rawBytes kind width x).length = 4 := by
  unfold Sample.rawBytes
  split <;> exact length_littleBytes _ _

/-- A sample of any width is written over just its place. -/
theorem length_encode (f : Format) (x : α) (place : List UInt8) :
    (Sample.encode f x place).length = place.length := by
  have harrange : ∀ bytes : List UInt8, (Sample.arrange f.order bytes).length = bytes.length := by
    intro bytes
    unfold Sample.arrange
    cases f.order with
    | little => rfl
    | big => exact List.length_reverse
  unfold Sample.encode Sample.written
  rw [List.length_append, harrange, List.length_take, length_rawBytes, List.length_drop]
  omega

/-! ## §4. Scaling. -/

/-- **A gain is a change of each whole sample**, the same wherever the sample stands. -/
theorem scaleBytes?_pieces {f : Format} (h : f.isSupported = true) (g : α) :
    ∃ change : List UInt8 → List UInt8,
      (∀ piece, piece.length = f.sampleSize → (change piece).length = f.sampleSize)
        ∧ ∀ data, scaleBytes? f g data = some (mapPieces f.sampleSize change data) := by
  have hsize := f.sampleSize_pos h
  unfold scaleBytes?
  -- A gain of one changes nothing; two formats have a quick way, and all others go by samples.
  by_cases hunit : Amplitude.nearUnit g = true
  · refine ⟨fun piece => piece, fun _ hp => hp, fun data => ?_⟩
    rw [if_pos hunit, mapPieces_id hsize]
  · simp only [if_neg hunit]
    split
    next _ hbits _ =>
      have htwo : f.sampleSize = 2 := by
        unfold Format.sampleSize
        rw [hbits]
        rfl
      rw [htwo]
      exact ⟨scaleWord16 g, fun _ _ => length_signedBytes 2 _, fun _ => rfl⟩
    next _ hbits _ =>
      have hfour : f.sampleSize = 4 := by
        unfold Format.sampleSize
        rw [hbits]
        rfl
      rw [hfour]
      exact ⟨scaleFloat g, fun _ _ => length_littleBytes 4 _, fun _ => rfl⟩
    · refine ⟨scaleSample f g, fun piece hp => (length_encode f _ piece).trans hp, fun data => ?_⟩
      rw [if_neg (by omega)]

/-- Scaling keeps the length. -/
theorem length_scaleBytes? {f : Format} (h : f.isSupported = true) {g : α}
    {data scaled : List UInt8} (hs : scaleBytes? f g data = some scaled) :
    scaled.length = data.length := by
  obtain ⟨change, hchange, heq⟩ := scaleBytes?_pieces h g
  rw [heq, Option.some.injEq] at hs
  rw [← hs]
  exact length_mapPieces (f.sampleSize_pos h) hchange data

/-- **Scaling whole frames of a stream** gives the same frames of the scaled stream. -/
theorem scaleBytes?_take {f : Format} (h : f.isSupported = true) {g : α}
    {data scaled : List UInt8} (hs : scaleBytes? f g data = some scaled) {frames : Nat}
    (hframes : frames * f.align ≤ data.length) :
    scaleBytes? f g (data.take (frames * f.align)) = some (scaled.take (frames * f.align)) := by
  obtain ⟨change, hchange, heq⟩ := scaleBytes?_pieces h g
  rw [heq, Option.some.injEq] at hs
  rw [f.align_eq h, ← Nat.mul_assoc] at hframes ⊢
  rw [heq, mapPieces_take (f.sampleSize_pos h) hchange _ _ hframes, hs]

/-- Nothing is scaled to nothing. -/
theorem scaleBytes?_nil {f : Format} (h : f.isSupported = true) (g : α) :
    scaleBytes? f g [] = some [] := by
  obtain ⟨change, _, heq⟩ := scaleBytes?_pieces h g
  rw [heq, mapPieces_short change (f.sampleSize_pos h)]

end Gain

end PcmRender
