/-
  PcmRender.Proofs.QuickWays — **what the quick ways of a gain agree on with the general one.**

  A gain can be applied to any format by samples: decode, multiply, encode.  Two formats have a
  quick way instead, both of them little-endian.  The general way does not look at the byte order
  but to arrange bytes, so it commutes with turning the bytes of each sample round:

      by samples, turned   =   turned, by samples      in every format that can be decoded
      scaled               =   by samples              without a quick way
      16-bit integers      the same, or quickly one level further from zero
      32-bit floats        by samples it is what it is quickly, held between minus one and one

  So a float differs only where the product lies outside of full scale, and an integer by the
  factor that is one less.  Behind the last whole sample no way changes anything.

  Main statements:
    * `Gain.bySamples?_turned` — the general way in both byte orders,
    * `Gain.samples_agree` — one sample on both ways,
    * `Gain.ways_agree` — all of it together, for any bytes.
-/
import PcmRender.Proofs.Loudness

namespace PcmRender

/-! ## §1. Formats and their byte order. -/

/-- The other order. -/
def ByteOrder.other : ByteOrder → ByteOrder
  | .little => .big
  | .big => .little

namespace Format

/-- The same layout in the other byte order. -/
def turned (f : Format) : Format := f.withOrder f.order.other

/-- Each whole sample with its bytes the other way round. -/
def turnSamples (f : Format) (data : List UInt8) : List UInt8 :=
  Gain.mapPieces f.sampleSize List.reverse data

/-- The bytes of a sample, by its number. -/
def sampleAt (f : Format) (index : Nat) (data : List UInt8) : List UInt8 :=
  (data.drop (index * f.sampleSize)).take f.sampleSize

/-- Whether a gain goes a quick way. -/
def hasQuickWay (f : Format) : Bool :=
  match f.kind, f.bits, f.order with
  | .int, 16, .little => true
  | .float, 32, .little => true
  | _, _, _ => false

/-- Both of them are little-endian and as wide as their samples are. -/
theorem hasQuickWay_cases {f : Format} (h : f.hasQuickWay = true) : f.order = .little
    ∧ (f.kind = .int ∧ f.bits = 16 ∨ f.kind = .float ∧ f.bits = 32) := by
  unfold hasQuickWay at h
  split at h
  next hkind hbits horder => exact ⟨horder, .inl ⟨hkind, hbits⟩⟩
  next hkind hbits horder => exact ⟨horder, .inr ⟨hkind, hbits⟩⟩
  · cases h

/-- So the other byte order has none. -/
theorem hasQuickWay_turned {f : Format} (h : f.hasQuickWay = true) :
    f.turned.hasQuickWay = false := by
  cases hother : f.turned.hasQuickWay with
  | false => rfl
  | true =>
      have horder := (hasQuickWay_cases h).1
      have hturned : f.order.other = .little := (hasQuickWay_cases hother).1
      rw [horder] at hturned
      cases hturned

end Format

/-! ## §2. One sample in both byte orders. -/

namespace Sample

variable {α : Type} [Amplitude α] {f : Format} {bytes : List UInt8}

theorem arrange_other (order : ByteOrder) (bytes : List UInt8) :
    arrange order.other bytes = (arrange order bytes).reverse := by
  cases order with
  | little => rfl
  | big => exact bytes.reverse_reverse.symm

theorem arrange_reverse (order : ByteOrder) (bytes : List UInt8) :
    arrange order bytes.reverse = (arrange order bytes).reverse := by
  cases order <;> rfl

theorem decode_turned (h : bytes.length ≤ 4) :
    (decode f.turned bytes.reverse : α) = decode f bytes := by
  have hraw : arrange f.turned.order (bytes.reverse.take 4) = arrange f.order (bytes.take 4) := by
    rw [List.take_of_length_le (by rw [List.length_reverse]; exact h), List.take_of_length_le h]
    exact (arrange_other f.order _).trans (by rw [arrange_reverse, List.reverse_reverse])
  unfold decode
  rw [hraw]
  rfl

theorem encode_turned (x : α) (h : bytes.length ≤ 4) :
    encode f.turned x bytes.reverse = (encode f x bytes).reverse := by
  have hwritten : ∀ width, written f.turned width x = (written f width x).reverse :=
    fun width => arrange_other f.order _
  unfold encode
  rw [List.drop_of_length_le (by rw [List.length_reverse]; exact h), List.drop_of_length_le h,
    List.append_nil, List.append_nil, List.length_reverse, hwritten]

end Sample

namespace Gain

section Ways

variable {α : Type} [Amplitude α] {f : Format} {g : α}

/-! ## §3. The ways. -/

/-- Scaling in the general way, whatever the format. -/
def bySamples? (f : Format) (g : α) (data : List UInt8) : Option (List UInt8) :=
  if Amplitude.nearUnit g then some data
  else if f.sampleSize = 0 then none
  else some (mapPieces f.sampleSize (scaleSample f g) data)

/-- The quick way for one sample, by its kind. -/
def scaleQuickly (f : Format) (g : α) : List UInt8 → List UInt8 :=
  match f.kind with
  | .int => scaleWord16 g
  | .float => scaleFloat g

/-- Without a quick way a gain goes by samples. -/
theorem scaleBytes?_general (h : f.hasQuickWay = false) (data : List UInt8) :
    scaleBytes? f g data = bySamples? f g data := by
  unfold Format.hasQuickWay at h
  unfold scaleBytes? bySamples?
  split
  · rfl
  · split
    next hkind hbits horder => simp [hkind, hbits, horder] at h
    next hkind hbits horder => simp [hkind, hbits, horder] at h
    next => rfl

/-- With one, it goes by it. -/
theorem scaleBytes?_quick (h : f.hasQuickWay = true) (data : List UInt8) :
    scaleBytes? f g data = if Amplitude.nearUnit g then some data
      else some (mapPieces f.sampleSize (scaleQuickly f g) data) := by
  obtain ⟨horder, hlayout⟩ := Format.hasQuickWay_cases h
  unfold scaleBytes? scaleQuickly Format.sampleSize
  rcases hlayout with ⟨hkind, hbits⟩ | ⟨hkind, hbits⟩
  · rw [hkind, hbits, horder]
    rfl
  · rw [hkind, hbits, horder]
    rfl

theorem length_scaleQuickly (h : f.hasQuickWay = true) (bytes : List UInt8) :
    (scaleQuickly f g bytes).length = f.sampleSize := by
  obtain ⟨_, hlayout⟩ := Format.hasQuickWay_cases h
  unfold scaleQuickly Format.sampleSize
  rcases hlayout with ⟨hkind, hbits⟩ | ⟨hkind, hbits⟩
  · rw [hkind, hbits]
    exact length_signedBytes 2 _
  · rw [hkind, hbits]
    exact length_littleBytes 4 _

/-- Samples with bytes are changed in their places. -/
theorem bySamples?_eq (hsize : 0 < f.sampleSize) (data : List UInt8) :
    bySamples? f g data = if Amplitude.nearUnit g then some data
      else some (mapPieces f.sampleSize (scaleSample f g) data) := by
  unfold bySamples?
  rw [if_neg (show ¬ f.sampleSize = 0 by omega)]

/-! ## §4. Turned round. -/

theorem scaleSample_turned {bytes : List UInt8} (h : bytes.length ≤ 4) :
    scaleSample f.turned g bytes.reverse = (scaleSample f g bytes).reverse := by
  unfold scaleSample
  rw [Sample.decode_turned h, Sample.encode_turned _ h]

/-- **The general way does not depend on the byte order.** -/
theorem bySamples?_turned (hf : Format.widthSupported f.kind f.bits = true) (data : List UInt8) :
    bySamples? f.turned g (f.turnSamples data) = (bySamples? f g data).map f.turnSamples := by
  obtain ⟨hsize, hle⟩ := Format.sampleSize_range hf
  have hreverse : ∀ piece : List UInt8, piece.length = f.sampleSize
      → piece.reverse.length = f.sampleSize := fun piece hp => List.length_reverse.trans hp
  have hscaled : ∀ piece : List UInt8, piece.length = f.sampleSize
      → (scaleSample f g piece).length = f.sampleSize :=
    fun piece hp => (length_encode f _ piece).trans hp
  rw [bySamples?_eq (f := f.turned) hsize, bySamples?_eq hsize]
  split
  · rfl
  · show some (mapPieces f.sampleSize (scaleSample f.turned g) (mapPieces f.sampleSize List.reverse data))
      = some (mapPieces f.sampleSize List.reverse (mapPieces f.sampleSize (scaleSample f g) data))
    rw [mapPieces_mapPieces hsize hreverse, mapPieces_mapPieces hsize hscaled]
    exact congrArg some (mapPieces_congr hsize
      (fun piece hp => scaleSample_turned (by omega)) data)

/-- There are as many bytes as the sample needs. -/
theorem sampleAt_fits {data : List UInt8} {index : Nat} (hindex : index < data.length / f.sampleSize) :
    index * f.sampleSize + f.sampleSize ≤ data.length := by
  rw [← Nat.succ_mul]
  exact le_trans (Nat.mul_le_mul_right _ hindex) (Nat.div_mul_le_self _ _)

theorem length_sampleAt {data : List UInt8} {index : Nat} (hindex : index < data.length / f.sampleSize) :
    (f.sampleAt index data).length = f.sampleSize := by
  have hfits := sampleAt_fits hindex
  unfold Format.sampleAt
  rw [List.length_take, List.length_drop]
  omega

/-- A sample is changed in its place. -/
theorem sampleAt_mapPieces (hsize : 0 < f.sampleSize) {change : List UInt8 → List UInt8}
    (hchange : ∀ piece, piece.length = f.sampleSize → (change piece).length = f.sampleSize)
    {data : List UInt8} {index : Nat} (hindex : index < data.length / f.sampleSize) :
    f.sampleAt index (mapPieces f.sampleSize change data) = change (f.sampleAt index data) := by
  have hfits := sampleAt_fits hindex
  have hpiece := hchange _ (length_sampleAt hindex)
  unfold Format.sampleAt at hpiece ⊢
  rw [mapPieces_drop hsize hchange _ _ (by omega),
    mapPieces_cons hsize change (by rw [List.length_drop]; omega)]
  exact List.take_left' hpiece

/-- Behind the last whole sample nothing is changed. -/
theorem drop_mapPieces (hsize : 0 < f.sampleSize) {change : List UInt8 → List UInt8}
    (hchange : ∀ piece, piece.length = f.sampleSize → (change piece).length = f.sampleSize)
    (data : List UInt8) :
    (mapPieces f.sampleSize change data).drop (data.length / f.sampleSize * f.sampleSize)
      = data.drop (data.length / f.sampleSize * f.sampleSize) := by
  have hrest : data.length - data.length / f.sampleSize * f.sampleSize < f.sampleSize := by
    have hmod := Nat.mod_lt data.length hsize
    have hdiv := Nat.div_add_mod' data.length f.sampleSize
    omega
  rw [mapPieces_drop hsize hchange _ _ (Nat.div_mul_le_self _ _)]
  exact mapPieces_short change (by rw [List.length_drop]; exact hrest)

end Ways

/-! ## §5. One sample on both ways. -/

variable {f : Format} {g : Single}

/-- What the quick way and the general way make of one sample. -/
inductive SamplesAgree (f : Format) (piece quick slow : List UInt8) : Prop
  /-- The same. -/
  | same (h : quick = slow)
  /-- An integer that the general way puts one level closer to zero. -/
  | closer (hkind : f.kind = .int)
      (h : (0 < levelOf quick ∧ levelOf slow = levelOf quick - 1)
        ∨ (levelOf quick < 0 ∧ levelOf slow = levelOf quick + 1))
  /-- A float outside of full scale, before the gain and behind it, that the general way holds. -/
  | held (hkind : f.kind = .float) (hpiece : ¬ (Sample.decode f piece : Single).Within)
      (hquick : ¬ (Sample.decode f quick : Single).Within)
      (h : (Sample.decode f slow : Single)
        = Single.clamp Single.minusOne Single.one (Sample.decode f quick))

/-- A 16-bit integer. -/
theorem samples_agree_int (hkind : f.kind = .int) (horder : f.order = .little) (hg : Softens g)
    {piece : List UInt8} (hpiece : piece.length = 2) :
    SamplesAgree f piece (scaleWord16 g piece) (scaleSample f g piece) := by
  obtain ⟨hlow, hhigh⟩ := levelOf_range hpiece
  rw [scaleWord16_eq hg hpiece, scaleSample_eq hkind horder hg hpiece]
  generalize levelOf piece = n at hlow hhigh
  obtain ⟨hquickLow, hquickHigh⟩ := quickSample_range hg hlow hhigh
  obtain ⟨hslowLow, hslowHigh⟩ := slowSample_range hg hlow hhigh
  rcases samples_near hg hlow hhigh with hsame | hcloser
  · exact .same (by rw [hsame])
  · refine .closer hkind ?_
    rw [levelOf_signedBytes hquickLow hquickHigh, levelOf_signedBytes (by omega) hslowHigh]
    exact hcloser

/-- The word of a little-endian float. -/
theorem decode_float (hkind : f.kind = .float) (horder : f.order = .little) {bytes : List UInt8}
    (hbytes : bytes.length = 4) :
    (Sample.decode f bytes : Single) = ⟨UInt32.ofNat (ofLittleBytes bytes)⟩ := by
  unfold Sample.decode
  rw [hkind, horder, List.take_of_length_le (by omega)]
  rfl

/-- It is read back from the bytes that it was written to. -/
theorem decode_word (hkind : f.kind = .float) (horder : f.order = .little) (x : Single) :
    (Sample.decode f (littleBytes 4 x.word.toNat) : Single) = x := by
  have hword : x.word.toNat % 256 ^ 4 = x.word.toNat := Nat.mod_eq_of_lt x.word.toNat_lt
  rw [decode_float hkind horder (length_littleBytes 4 _), ofLittleBytes_littleBytes, hword,
    UInt32.ofNat_toNat]

/-- A 32-bit float. -/
theorem samples_agree_float (hkind : f.kind = .float) (horder : f.order = .little)
    (hg : Softens g) {piece : List UInt8} (hpiece : piece.length = 4) :
    SamplesAgree f piece (scaleFloat g piece) (scaleSample f g piece) := by
  have hquick : scaleFloat g piece
      = littleBytes 4 ((Sample.decode f piece : Single).mul g).word.toNat := by
    rw [decode_float hkind horder hpiece]
    rfl
  have hslow : scaleSample f g piece = littleBytes 4 (Single.clamp Single.minusOne Single.one
      ((Sample.decode f piece : Single).mul g)).word.toNat := by
    unfold scaleSample Sample.encode Sample.written Sample.rawBytes
    rw [hkind, horder, hpiece, List.drop_of_length_le (by omega), List.append_nil]
    exact List.take_of_length_le (by rw [length_littleBytes])
  rw [hquick, hslow]
  by_cases hproduct : ((Sample.decode f piece : Single).mul g).Within
  · exact .same (by rw [Single.clamp_within hproduct])
  · -- A sample within would have stayed there.
    refine .held hkind (fun hwithin => hproduct (Single.mul_within hwithin hg.word_le.1)) ?_ ?_
    · rw [decode_word hkind horder]
      exact hproduct
    · rw [decode_word hkind horder, decode_word hkind horder]

/-- **One sample on both ways.** -/
theorem samples_agree (h : f.hasQuickWay = true) (hg : Softens g) {piece : List UInt8}
    (hpiece : piece.length = f.sampleSize) :
    SamplesAgree f piece (scaleQuickly f g piece) (scaleSample f g piece) := by
  obtain ⟨horder, hlayout⟩ := Format.hasQuickWay_cases h
  unfold Format.sampleSize at hpiece
  unfold scaleQuickly
  rcases hlayout with ⟨hkind, hbits⟩ | ⟨hkind, hbits⟩
  · rw [hbits] at hpiece
    rw [hkind]
    exact samples_agree_int hkind horder hg hpiece
  · rw [hbits] at hpiece
    rw [hkind]
    exact samples_agree_float hkind horder hg hpiece

/-- The general way and the quick one, if there is one, as changes of each sample. -/
theorem exists_changes (hsize : 0 < f.sampleSize) (hg : Softens g) :
    ∃ quick slow : List UInt8 → List UInt8,
      (∀ data, scaleBytes? f g data = some (mapPieces f.sampleSize quick data))
        ∧ (∀ data, bySamples? f g data = some (mapPieces f.sampleSize slow data))
        ∧ ∀ piece, piece.length = f.sampleSize → (quick piece).length = f.sampleSize
          ∧ (slow piece).length = f.sampleSize ∧ SamplesAgree f piece (quick piece) (slow piece) := by
  have hscaled : ∀ piece : List UInt8, piece.length = f.sampleSize
      → (scaleSample f g piece).length = f.sampleSize :=
    fun piece hp => (length_encode f _ piece).trans hp
  by_cases hunit : Amplitude.nearUnit g = true
  · have hkept : ∀ data, scaleBytes? f g data = some data := fun data => if_pos hunit
    refine ⟨fun piece => piece, fun piece => piece, fun data => ?_, fun data => ?_,
      fun piece hp => ⟨hp, hp, .same rfl⟩⟩
    · rw [hkept, mapPieces_id hsize]
    · rw [bySamples?_eq hsize, if_pos hunit, mapPieces_id hsize]
  · have hslow : ∀ data, bySamples? f g data
        = some (mapPieces f.sampleSize (scaleSample f g) data) := fun data => by
      rw [bySamples?_eq hsize, if_neg hunit]
    cases hway : f.hasQuickWay with
    | false =>
        exact ⟨scaleSample f g, scaleSample f g,
          fun data => (scaleBytes?_general hway data).trans (hslow data), hslow,
          fun piece hp => ⟨hscaled piece hp, hscaled piece hp, .same rfl⟩⟩
    | true =>
        refine ⟨scaleQuickly f g, scaleSample f g, fun data => ?_, hslow, fun piece hp =>
          ⟨length_scaleQuickly hway piece, hscaled piece hp, samples_agree hway hg hp⟩⟩
        rw [scaleBytes?_quick hway, if_neg hunit]

/-! ## §6. Any bytes. -/

/-- What a gain makes of bytes, `quick`, beside what the general way makes of them, `slow`. -/
structure WaysAgree (f : Format) (g : Single) (data quick slow : List UInt8) : Prop where
  scaled : scaleBytes? f g data = some quick
  bySamples : bySamples? f g data = some slow
  /-- Without a quick way they are the same. -/
  general : f.hasQuickWay = false → quick = slow
  /-- And with one each sample stays in its place. -/
  samples : ∀ index < data.length / f.sampleSize,
    SamplesAgree f (f.sampleAt index data) (f.sampleAt index quick) (f.sampleAt index slow)
  /-- Behind the last whole sample nothing is changed. -/
  rest : quick.drop (data.length / f.sampleSize * f.sampleSize)
      = data.drop (data.length / f.sampleSize * f.sampleSize)
    ∧ slow.drop (data.length / f.sampleSize * f.sampleSize)
      = data.drop (data.length / f.sampleSize * f.sampleSize)
  length : quick.length = data.length ∧ slow.length = data.length
  /-- The general way commutes with turning the samples round. -/
  turned : bySamples? f.turned g (f.turnSamples data) = some (f.turnSamples slow)
  /-- What has a quick way has none in the other byte order. -/
  opposite : f.hasQuickWay = true
    → scaleBytes? f.turned g (f.turnSamples data) = some (f.turnSamples slow)
  /-- What has none in either order commutes as it is. -/
  commutes : f.hasQuickWay = false → f.turned.hasQuickWay = false
    → scaleBytes? f.turned g (f.turnSamples data) = some (f.turnSamples quick)

/-- **The ways agree**, as far as they do, in every format of a width that can be decoded, for
every gain from zero to one and any bytes. -/
theorem ways_agree (hf : Format.widthSupported f.kind f.bits = true) (hg : Softens g)
    (data : List UInt8) : ∃ quick slow, WaysAgree f g data quick slow := by
  obtain ⟨hsize, _⟩ := Format.sampleSize_range hf
  obtain ⟨quick, slow, hquick, hslow, hpieces⟩ := exists_changes hsize hg
  have hquickLength := fun piece hp => (hpieces piece hp).1
  have hslowLength := fun piece hp => (hpieces piece hp).2.1
  have hgeneral : f.hasQuickWay = false
      → mapPieces f.sampleSize quick data = mapPieces f.sampleSize slow data := by
    intro hway
    have hsame := scaleBytes?_general (g := g) hway data
    rw [hquick, hslow] at hsame
    exact Option.some.inj hsame
  have hturned : bySamples? f.turned g (f.turnSamples data)
      = some (f.turnSamples (mapPieces f.sampleSize slow data)) := by
    rw [bySamples?_turned hf, hslow]
    rfl
  refine ⟨mapPieces f.sampleSize quick data, mapPieces f.sampleSize slow data, ?_⟩
  constructor
  case scaled => exact hquick data
  case bySamples => exact hslow data
  case general => exact hgeneral
  case samples =>
    intro index hindex
    rw [sampleAt_mapPieces hsize hquickLength hindex, sampleAt_mapPieces hsize hslowLength hindex]
    exact (hpieces _ (length_sampleAt hindex)).2.2
  case rest => exact ⟨drop_mapPieces hsize hquickLength data, drop_mapPieces hsize hslowLength data⟩
  case length =>
    exact ⟨length_mapPieces hsize hquickLength data, length_mapPieces hsize hslowLength data⟩
  case turned => exact hturned
  case opposite =>
    intro hway
    exact (scaleBytes?_general (Format.hasQuickWay_turned hway) _).trans hturned
  case commutes =>
    intro hway hother
    rw [scaleBytes?_general hother, hturned, hgeneral hway]

/-- Half of two 16-bit samples, and of a float of three, each with a byte left over. -/
theorem ways_agree_half : Softens ⟨0x3f000000⟩
    ∧ (∃ quick slow, WaysAgree (Format.pcm 8000 16 1) ⟨0x3f000000⟩ [232, 3, 24, 252, 7] quick slow)
    ∧ ∃ quick slow, WaysAgree (Format.float 8000 1) ⟨0x3f000000⟩ [0, 0, 64, 64, 7] quick slow := by
  have hhalf : Softens ⟨0x3f000000⟩ := ⟨by decide, by decide, by decide⟩
  exact ⟨hhalf, ways_agree (by decide) hhalf _, ways_agree (by decide) hhalf _⟩

/-- **They do not agree in every byte**: half of the least level is a level quickly, and none by samples,
and so in the other byte order; half of three is more than full scale quickly, and full scale by
samples. -/
theorem ways_differ : Softens ⟨0x3f000000⟩
    ∧ scaleBytes? (Format.pcm 8000 16 1) (⟨0x3f000000⟩ : Single) [1, 0] = some [1, 0]
    ∧ bySamples? (Format.pcm 8000 16 1) (⟨0x3f000000⟩ : Single) [1, 0] = some [0, 0]
    ∧ (Format.pcm 8000 16 1).turnSamples [1, 0] = [0, 1]
    ∧ scaleBytes? (Format.pcm 8000 16 1).turned (⟨0x3f000000⟩ : Single) [0, 1] = some [0, 0]
    ∧ scaleBytes? (Format.float 8000 1) (⟨0x3f000000⟩ : Single) [0, 0, 64, 64]
      = some [0, 0, 192, 63]
    ∧ bySamples? (Format.float 8000 1) (⟨0x3f000000⟩ : Single) [0, 0, 64, 64]
      = some [0, 0, 128, 63] := by
  refine ⟨⟨by decide, by decide, by decide⟩, ?_, ?_, ?_, ?_, ?_, ?_⟩ <;> decide +kernel

end Gain

end PcmRender
