/-
  PcmRender.Proofs.Turning — **what changing the byte order of a stream costs.**

  A device that wants the bytes of each sample the other way round has a conversion stage, and this
  one does not move bytes.  It reads an amplitude and writes it again, with a factor that is one less
  than the divisor:

      level n    →    n / 2^k    →    round (n - n / 2^k)

  What is taken off is at most one level, so that a level comes back as it was, or one closer to zero.
  Without any rounding on the way the quiet half of the levels come back.  Amplitudes of 32 bits are
  rounded before they become a level, and that brings back some more:

      bytes    levels come back up to     on exact numbers
      1                 64                       64
      2              16416                    16384
      3            6291455                  4194304

  Main statements:
    * `Single.returned_eq` — one level, on 32-bit floats,
    * `Format.transcode_turned` — a stream is written anew and then turned round,
    * `Format.turning_moves_one_level` — all of it together, for the stage of a route.
-/
import PcmRender.Number.Exact
import PcmRender.Proofs.QuickWays
import PcmRender.Proofs.Ranking
import PcmRender.Proofs.Transcoding

namespace PcmRender

open BinaryFormat (roundAway roundEven units_nearest_le le_units_nearest units_nearest)

/-! ## §1. One level on floats. -/

namespace Single

/-- What comes back of a level: divided by `2^k`, multiplied by one less, and rounded. -/
def returned (k level : Nat) : Nat :=
  roundAway (layout.units (layout.nearest (level * 2 ^ (149 - k) * (2 ^ k - 1)) 1)) unity

/-- The loudest level that comes back as it was, of samples of so many bytes. -/
def kept : Nat → Nat
  | 1 => 64
  | 2 => 16416
  | _ => 6291455

variable {k level : Nat}

/-- The word of the largest level. -/
theorem units_full : layout.units 0x4b000000 = 2 ^ 23 * 2 ^ 149 := by decide +kernel

theorem full_finite : 0x4b000000 < layout.infinity := by decide

/-- One less takes off the part of a level. -/
theorem product_eq (hk : k ≤ 23) :
    level * 2 ^ (149 - k) * (2 ^ k - 1) = level * 2 ^ 149 - level * 2 ^ (149 - k) := by
  have hpow : 2 ^ (149 - k) * 2 ^ k = 2 ^ 149 := by
    rw [← Nat.pow_add, Nat.sub_add_cancel (by omega)]
  rw [Nat.mul_sub, Nat.mul_one, Nat.mul_assoc, hpow]

/-- **No level grows.** -/
theorem returned_le (hk : k ≤ 23) (hlevel : level ≤ 2 ^ k) : returned k level ≤ level := by
  have hfull : level ≤ 2 ^ 23 := le_trans hlevel (Nat.pow_le_pow_right (by decide) hk)
  refine BinaryFormat.roundAway_le (Nat.two_pow_pos _)
    (units_nearest_le (le_trans hfull (by decide)) Nat.one_pos ?_)
  rw [product_eq hk, Nat.mul_one]
  exact Nat.sub_le _ _

/-- A half level that the product reaches, its word reaches as well. -/
theorem le_units_product (hk : k ≤ 23) (hlevel : level ≤ 2 ^ k) (halves : Nat)
    (hhalves : halves ≤ 2 * level) (h : halves * 2 ^ 148 ≤ level * 2 ^ (149 - k) * (2 ^ k - 1)) :
    halves * 2 ^ 148 ≤ layout.units (layout.nearest (level * 2 ^ (149 - k) * (2 ^ k - 1)) 1) := by
  have hfull : level ≤ 2 ^ 23 := le_trans hlevel (Nat.pow_le_pow_right (by decide) hk)
  refine le_units_nearest (show halves ≤ 2 ^ 24 by omega) Nat.one_pos (Nat.le_of_lt full_finite) ?_
    (by rw [Nat.mul_one]; exact h)
  rw [units_full]
  omega

/-- **The quiet half comes back as it was.** -/
theorem returned_low (hk : k ≤ 23) (hlevel : 2 * level ≤ 2 ^ k) : returned k level = level := by
  refine Nat.le_antisymm (returned_le hk (by omega)) ?_
  have hpart : level * 2 ^ (149 - k) * 2 ≤ 2 ^ 149 := by
    have hpow : 2 ^ k * 2 ^ (149 - k) = 2 ^ 149 := by
      rw [← Nat.pow_add, Nat.add_sub_cancel' (by omega)]
    have hmul := Nat.mul_le_mul_right (2 ^ (149 - k)) hlevel
    rw [hpow] at hmul
    linarith
  have hall : level ≤ 2 ^ k := by omega
  have hhalf := le_units_product hk hall (2 * level - 1) (by omega) (by rw [product_eq hk]; omega)
  show level ≤ (2 * layout.units _ + 2 ^ 149) / (2 * 2 ^ 149)
  omega

/-- With one byte the product needs no rounding. -/
theorem returned_one (hlevel : level ≤ 2 ^ 7) :
    returned 7 level = if level ≤ 64 then level else level - 1 := by
  have hexact : layout.units (layout.nearest (level * 127 * 2 ^ 142 * 1) 1) = level * 127 * 2 ^ 142 :=
    units_nearest (show level * 127 ≤ 2 ^ 24 by omega) Nat.one_pos (Nat.le_of_lt full_finite)
      (by rw [units_full]; omega)
  have hreturned : returned 7 level = roundAway (level * 127 * 2 ^ 142) unity := by
    rw [← hexact, Nat.mul_one]
    show roundAway (layout.units (layout.nearest (level * 2 ^ 142 * 127) 1)) unity = _
    rw [Nat.mul_right_comm]
  rw [hreturned]
  show (2 * (level * 127 * 2 ^ 142) + 2 ^ 149) / (2 * 2 ^ 149) = _
  split <;> omega

/-- With two bytes a loud product has six bits behind its significand. -/
theorem returned_two (hlow : 2 ^ 14 < level) (hlevel : level ≤ 2 ^ 15) :
    returned 15 level = if level ≤ 16416 then level else level - 1 := by
  have hlead : layout.lead = 2 ^ 23 := rfl
  have hfinite : layout.nearest (level * 2 ^ 134 * 32767) 1 < layout.infinity :=
    lt_of_le_of_lt (BinaryFormat.nearest_le Nat.one_pos (by rw [units_full]; omega)) full_finite
  have hunits := BinaryFormat.units_nearest_leading (e := 140) Nat.one_pos (by omega) (by omega) hfinite
  have hreduced : roundEven (level * 2 ^ 134 * 32767) (1 * 2 ^ 140) = roundEven (level * 32767) 64 :=
    (congrArg₂ roundEven (Nat.mul_right_comm _ _ _) rfl).trans
      (BinaryFormat.roundEven_mul (Nat.two_pow_pos 134) (level * 32767) 64)
  rw [hreduced] at hunits
  show (2 * layout.units (layout.nearest (level * 2 ^ 134 * 32767) 1) + 2 ^ 149) / (2 * 2 ^ 149) = _
  rw [hunits]
  unfold roundEven
  dsimp only
  split_ifs <;> omega

/-- With three it has 22 of them. -/
theorem returned_three (hlow : 2 ^ 22 < level) (hlevel : level ≤ 2 ^ 23) :
    returned 23 level = if level ≤ 6291455 then level else level - 1 := by
  have hlead : layout.lead = 2 ^ 23 := rfl
  have hfinite : layout.nearest (level * 2 ^ 126 * 8388607) 1 < layout.infinity :=
    lt_of_le_of_lt (BinaryFormat.nearest_le Nat.one_pos (by rw [units_full]; omega)) full_finite
  have hunits := BinaryFormat.units_nearest_leading (e := 148) Nat.one_pos (by omega) (by omega) hfinite
  have hreduced : roundEven (level * 2 ^ 126 * 8388607) (1 * 2 ^ 148)
      = roundEven (level * 8388607) 4194304 :=
    (congrArg₂ roundEven (Nat.mul_right_comm _ _ _) rfl).trans
      (BinaryFormat.roundEven_mul (Nat.two_pow_pos 126) (level * 8388607) 4194304)
  rw [hreduced] at hunits
  -- Counted in half levels, two are taken off, and a rest is left of them.
  obtain ⟨hdiv, hmod⟩ : level * 8388607 / 4194304 = 2 * level - 2
      ∧ level * 8388607 % 4194304 = 8388608 - level :=
    (Nat.div_mod_unique (by omega)).mpr ⟨by omega, by omega⟩
  show (2 * layout.units (layout.nearest (level * 2 ^ 126 * 8388607) 1) + 2 ^ 149) / (2 * 2 ^ 149) = _
  rw [hunits]
  unfold roundEven
  dsimp only
  rw [hdiv, hmod]
  split_ifs <;> omega

/-- **What comes back of a level**, by the bytes of its sample. -/
theorem returned_eq {width : Nat} (hpos : 0 < width) (hwidth : width ≤ 3)
    (hlevel : level ≤ 2 ^ (8 * width - 1)) :
    returned (8 * width - 1) level = if level ≤ kept width then level else level - 1 := by
  obtain rfl | rfl | rfl : width = 1 ∨ width = 2 ∨ width = 3 := by omega
  · exact returned_one hlevel
  · rcases Nat.lt_or_ge (2 ^ 14) level with hloud | hquiet
    · exact returned_two hloud hlevel
    · show returned 15 level = if level ≤ 16416 then level else level - 1
      rw [returned_low (by decide) (by omega), if_pos (by omega)]
  · rcases Nat.lt_or_ge (2 ^ 22) level with hloud | hquiet
    · exact returned_three hloud hlevel
    · show returned 23 level = if level ≤ 6291455 then level else level - 1
      rw [returned_low (by decide) (by omega), if_pos (by omega)]

end Single

/-! ## §2. Levels with a sign. -/

/-- A level that comes back as it was up to a bound, and behind it one closer to zero. -/
def inward (bound : Nat) (level : Int) : Int :=
  if level.natAbs ≤ bound then level else level - level.sign

theorem inward_eq_self {bound : Nat} {level : Int} : inward bound level = level ↔ level.natAbs ≤ bound := by
  unfold inward
  constructor
  · intro h
    by_contra hloud
    rw [if_neg hloud] at h
    have hzero : level = 0 := Int.sign_eq_zero_iff_zero.mp (by omega)
    omega
  · exact fun h => if_pos h

/-- It leaves no range around zero. -/
theorem inward_range (bound : Nat) {level low high : Int} (hlow : low ≤ 0) (hhigh : 0 < high)
    (hfrom : low ≤ level) (hto : level < high) :
    low ≤ inward bound level ∧ inward bound level < high := by
  unfold inward
  rcases Int.lt_trichotomy level 0 with hneg | rfl | hpos
  · rw [Int.sign_eq_neg_one_of_neg hneg]
    split <;> omega
  · rw [Int.sign_zero, Int.sub_zero, ite_self]
    exact ⟨hlow, hhigh⟩
  · rw [Int.sign_eq_one_of_pos hpos]
    split <;> omega

/-- Below the top it stays, and the top itself it leaves. -/
theorem natAbs_inward_lt {bound top : Nat} {level : Int} (hbound : bound < top)
    (hlevel : level.natAbs ≤ top) : (inward bound level).natAbs < top := by
  unfold inward
  rcases Int.lt_trichotomy level 0 with hneg | rfl | hpos
  · rw [Int.sign_eq_neg_one_of_neg hneg]
    split <;> omega
  · rw [Int.sign_zero, Int.sub_zero, ite_self]
    show 0 < top
    omega
  · rw [Int.sign_eq_one_of_pos hpos]
    split <;> omega

/-- Of a magnitude that comes back or loses one, with its sign. -/
theorem inward_signed (bound : Nat) (level : Int) :
    (if level < 0 then -((if level.natAbs ≤ bound then level.natAbs else level.natAbs - 1 : Nat) : Int)
      else ((if level.natAbs ≤ bound then level.natAbs else level.natAbs - 1 : Nat) : Int))
      = inward bound level := by
  unfold inward
  rcases Int.lt_trichotomy level 0 with hneg | rfl | hpos
  · rw [if_pos hneg, Int.sign_eq_neg_one_of_neg hneg]
    split <;> omega
  · simp
  · rw [if_neg (by omega), Int.sign_eq_one_of_pos hpos]
    split <;> omega

/-- Numbers on which each level of up to three bytes is read and written again as it was, up to a bound
for its width, and behind it one closer to zero. -/
def Amplitude.Returns (α : Type) [Amplitude α] (kept : Nat → Nat) : Prop :=
  ∀ {width : Nat}, 0 < width → width ≤ 3 → ∀ {level : Int}, -2 ^ (8 * width - 1) ≤ level →
    level < 2 ^ (8 * width - 1) →
      Sample.level? (2 ^ (8 * width - 1) - 1)
        (Amplitude.clampUnit (Amplitude.ratio level (8 * width - 1)) : α)
      = some (inward (kept width) level)

/-- No bound is the largest level. -/
theorem Single.kept_lt {width : Nat} (hpos : 0 < width) (hwidth : width ≤ 3) :
    kept width < 2 ^ (8 * width - 1) := by
  obtain rfl | rfl | rfl : width = 1 ∨ width = 2 ∨ width = 3 := by omega
  · decide
  · decide
  · decide

/-- **32-bit floats return levels.** -/
theorem Single.returns : Amplitude.Returns Single Single.kept := by
  intro width hpos hwidth level hlow hhigh
  have hk : 8 * width - 1 ≤ 23 := by omega
  have hpow : (2 : Nat) ^ (8 * width - 1) ≤ 2 ^ 23 := Nat.pow_le_pow_right (by decide) hk
  have hcast : ((2 ^ (8 * width - 1) : Nat) : Int) = 2 ^ (8 * width - 1) := by push_cast; rfl
  have hfits : level.natAbs ≤ 2 ^ (8 * width - 1) := by omega
  obtain ⟨hfinite, hsize, hnegative⟩ := ratio_exact (le_trans hfits hpow) hk
  show scaled? (clamp minusOne one (ratio level (8 * width - 1))) _ _ _ = _
  rw [clamp_within (ratio_within hk hfits), scaled?_finite hfinite (by omega), hsize, hnegative]
  show some (max _ (min _ (if _ then -(returned (8 * width - 1) level.natAbs : Int)
    else (returned (8 * width - 1) level.natAbs : Int)))) = _
  rw [returned_eq hpos hwidth hfits]
  simp only [decide_eq_true_eq]
  rw [inward_signed]
  have hrange := natAbs_inward_lt (kept_lt hpos hwidth) hfits
  congr 1
  omega

/-- The loudest level that comes back as it was on exact numbers, of samples of so many bytes. -/
def keptExactly (width : Nat) : Nat := 2 ^ (8 * width - 2)

/-- Exactly, a level comes back if what is taken off is no more than half of one. -/
theorem floor_returned {k level : Nat} (hlevel : level ≤ 2 ^ k) :
    ⌊(level : ℚ) - level / 2 ^ k + 1 / 2⌋
      = ((if 2 * level ≤ 2 ^ k then level else level - 1 : Nat) : Int) := by
  have htop : (0 : ℚ) < 2 ^ k := by positivity
  have hcast : (level : ℚ) ≤ 2 ^ k := by exact_mod_cast hlevel
  have hpart : (level : ℚ) / 2 ^ k ≤ 1 := (div_le_one htop).mpr hcast
  have hnonneg : (0 : ℚ) ≤ level / 2 ^ k := by positivity
  rw [Int.floor_eq_iff]
  split
  next hquiet =>
    have hhalf : (level : ℚ) / 2 ^ k ≤ 1 / 2 := by
      have hdouble : 2 * (level : ℚ) ≤ 2 ^ k := by exact_mod_cast hquiet
      rw [div_le_iff₀ htop]
      linarith
    constructor
    · push_cast
      linarith
    · push_cast
      linarith
  next hloud =>
    have hhalf : 1 / 2 < (level : ℚ) / 2 ^ k := by
      have hdouble : (2 : ℚ) ^ k < 2 * level := by exact_mod_cast Nat.lt_of_not_le hloud
      rw [lt_div_iff₀ htop]
      linarith
    have hone : 1 ≤ level := by
      have hpos := Nat.two_pow_pos k
      omega
    rw [Int.natCast_sub hone]
    constructor
    · push_cast
      linarith
    · push_cast
      linarith

/-- It is rounded alike on both sides of zero. -/
theorem roundExact_returned {k : Nat} {level : Int} (hk : 1 < 2 ^ k) (hlevel : level.natAbs ≤ 2 ^ k) :
    roundExact ((level : ℚ) - level / 2 ^ k)
      = if level < 0 then
          -((if 2 * level.natAbs ≤ 2 ^ k then level.natAbs else level.natAbs - 1 : Nat) : Int)
        else ((if 2 * level.natAbs ≤ 2 ^ k then level.natAbs else level.natAbs - 1 : Nat) : Int) := by
  have hfull : (1 : ℚ) < 2 ^ k := by exact_mod_cast hk
  unfold roundExact
  rw [← floor_returned hlevel]
  rcases lt_or_ge level 0 with hneg | hpos
  · have habs : (level.natAbs : ℚ) = -level := by
      rw [Nat.cast_natAbs, abs_of_neg hneg, Int.cast_neg]
    have hbelow : (level : ℚ) - level / 2 ^ k < 0 := by
      have hless : -(level : ℚ) / 2 ^ k < -level :=
        div_lt_self (by exact_mod_cast (show 0 < -level by omega)) hfull
      rw [neg_div] at hless
      linarith
    rw [if_pos hneg, if_pos hbelow, habs]
    congr 2
    ring
  · have habs : (level.natAbs : ℚ) = level := by
      rw [Nat.cast_natAbs, abs_of_nonneg hpos]
    have habove : ¬ (level : ℚ) - level / 2 ^ k < 0 := by
      have hless : (level : ℚ) / 2 ^ k ≤ level :=
        div_le_self (by exact_mod_cast hpos) (le_of_lt hfull)
      linarith
    rw [if_neg habove, if_neg (not_lt.mpr hpos), habs]

/-- **Exact numbers return levels.** -/
theorem exact_returns : Amplitude.Returns ℚ keptExactly := by
  intro width hpos hwidth level hlow hhigh
  have hhalf : 2 ^ (8 * width - 1) = 2 * keptExactly width := by
    unfold keptExactly
    rw [← Nat.pow_succ', show (8 * width - 2).succ = 8 * width - 1 by omega]
  have hbound : 0 < keptExactly width := Nat.two_pow_pos _
  generalize 8 * width - 1 = k at hlow hhigh hhalf ⊢
  have hcast : ((2 ^ k : Nat) : Int) = 2 ^ k := by push_cast; rfl
  have hfits : level.natAbs ≤ 2 ^ k := by omega
  have htop : (0 : ℚ) < 2 ^ k := by positivity
  have hwithin : max (-1) (min 1 ((level : ℚ) / 2 ^ k)) = level / 2 ^ k := by
    have hhi : (level : ℚ) / 2 ^ k ≤ 1 := by
      rw [div_le_one htop]
      exact_mod_cast (show level ≤ 2 ^ k by omega)
    have hlo : -1 ≤ (level : ℚ) / 2 ^ k := by
      rw [le_div_iff₀ htop]
      have hleast : -(2 : ℚ) ^ k ≤ level := by exact_mod_cast hlow
      linarith
    rw [min_eq_right hhi, max_eq_right hlo]
  have hscaled : (level : ℚ) / 2 ^ k * ((2 ^ k - 1 : Nat) : ℚ) = level - level / 2 ^ k := by
    rw [Nat.cast_sub Nat.one_le_two_pow]
    push_cast
    field_simp
  have hquiet : 2 * level.natAbs ≤ 2 ^ k ↔ level.natAbs ≤ keptExactly width := by omega
  have hround : roundExact ((level : ℚ) - level / 2 ^ k) = inward (keptExactly width) level := by
    rw [roundExact_returned (by omega) hfits]
    simp only [hquiet]
    exact inward_signed _ _
  have hrange := natAbs_inward_lt (show keptExactly width < 2 ^ k by omega) hfits
  show some (max _ (min _ (roundExact
    (max (-1) (min 1 ((level : ℚ) / 2 ^ k)) * ((2 ^ k - 1 : Nat) : ℚ))))) = _
  rw [hwithin, hscaled, hround]
  congr 1
  omega

/-! ## §3. Levels in their bytes. -/

namespace Sample

variable {f : Format} {bytes : List UInt8}

/-- The level that an integer sample holds: around 128 in one byte, in two's complement in more. -/
def level (f : Format) (bytes : List UInt8) : Int :=
  match bytes.length with
  | 1 => (ofLittleBytes (arrange f.order bytes) : Int) - 128
  | width => twosComplement (8 * width) (ofLittleBytes (arrange f.order bytes))

/-- What a level is shifted by in so many bytes. -/
def bias (width : Nat) : Int := if width = 1 then 128 else 0

/-- The bytes that hold a level. -/
def ofLevel (f : Format) (width : Nat) (level : Int) : List UInt8 :=
  arrange f.order (signedBytes width (level + bias width))

theorem length_arrange (order : ByteOrder) (bytes : List UInt8) :
    (arrange order bytes).length = bytes.length := by
  cases order with
  | little => rfl
  | big => exact List.length_reverse

theorem arrange_arrange (order : ByteOrder) (bytes : List UInt8) :
    arrange order (arrange order bytes) = bytes := by
  cases order with
  | little => rfl
  | big => exact List.reverse_reverse bytes

theorem length_ofLevel (f : Format) (width : Nat) (level : Int) :
    (ofLevel f width level).length = width :=
  (length_arrange _ _).trans (Gain.length_signedBytes _ _)

/-- Turned round it is the same level of the other byte order. -/
theorem level_turned : level f.turned bytes.reverse = level f bytes := by
  have harrange : arrange f.turned.order bytes.reverse = arrange f.order bytes :=
    (arrange_other f.order _).trans (by rw [arrange_reverse, List.reverse_reverse])
  unfold level
  rw [harrange, List.length_reverse]

theorem ofLittleBytes_lt (bytes : List UInt8) : ofLittleBytes bytes < 256 ^ bytes.length := by
  induction bytes with
  | nil => exact Nat.one_pos
  | cons byte rest ih =>
      have hbyte := byte.toNat_lt
      show byte.toNat + 256 * ofLittleBytes rest < 256 ^ (rest.length + 1)
      rw [Nat.pow_succ']
      omega

/-- Bytes are those of the number that they make. -/
theorem littleBytes_ofLittleBytes (bytes : List UInt8) :
    littleBytes bytes.length (ofLittleBytes bytes) = bytes := by
  induction bytes with
  | nil => rfl
  | cons byte rest ih =>
      have hbyte := byte.toNat_lt
      have hlow : UInt8.ofNat (byte.toNat + 256 * ofLittleBytes rest) = byte := by
        apply UInt8.toNat_inj.mp
        rw [UInt8.toNat_ofNat', Nat.add_mul_mod_self_left, Nat.mod_eq_of_lt hbyte]
      have hrest : (byte.toNat + 256 * ofLittleBytes rest) / 256 = ofLittleBytes rest := by omega
      show UInt8.ofNat (byte.toNat + 256 * ofLittleBytes rest)
        :: littleBytes rest.length ((byte.toNat + 256 * ofLittleBytes rest) / 256) = _
      rw [hlow, hrest, ih]

/-- What a level is as a number, and where it lies. -/
theorem level_cases (hpos : 0 < bytes.length) (hwidth : bytes.length ≤ 3) :
    -2 ^ (8 * bytes.length - 1) ≤ level f bytes ∧ level f bytes < 2 ^ (8 * bytes.length - 1)
      ∧ (level f bytes + bias bytes.length) % 2 ^ (8 * bytes.length)
        = ofLittleBytes (arrange f.order bytes) := by
  have hlt := ofLittleBytes_lt (arrange f.order bytes)
  rw [length_arrange] at hlt
  unfold level bias twosComplement
  generalize ofLittleBytes (arrange f.order bytes) = n at hlt
  obtain h | h | h : bytes.length = 1 ∨ bytes.length = 2 ∨ bytes.length = 3 := by omega
  · rw [h] at hlt ⊢
    norm_num at hlt ⊢
    omega
  · rw [h] at hlt ⊢
    norm_num at hlt ⊢
    split <;> omega
  · rw [h] at hlt ⊢
    norm_num at hlt ⊢
    split <;> omega

/-- **Bytes are those of their level.** -/
theorem ofLevel_level (hpos : 0 < bytes.length) (hwidth : bytes.length ≤ 3) :
    ofLevel f bytes.length (level f bytes) = bytes := by
  obtain ⟨_, _, hnumber⟩ := level_cases (f := f) hpos hwidth
  have hlength := length_arrange f.order bytes
  have hback : signedBytes bytes.length (level f bytes + bias bytes.length)
      = arrange f.order bytes := by
    show littleBytes bytes.length ((level f bytes + bias bytes.length) % 2 ^ (8 * bytes.length)).toNat = _
    rw [hnumber, Int.toNat_natCast, ← hlength]
    exact littleBytes_ofLittleBytes _
  unfold ofLevel
  rw [hback, arrange_arrange]

/-- **A level is read back** from its bytes. -/
theorem level_ofLevel {width : Nat} (hpos : 0 < width) (hwidth : width ≤ 3) {n : Int}
    (hlow : -2 ^ (8 * width - 1) ≤ n) (hhigh : n < 2 ^ (8 * width - 1)) :
    level f (ofLevel f width n) = n := by
  have hnumber : ofLittleBytes (arrange f.order (ofLevel f width n))
      = ((n + bias width) % 2 ^ (8 * width)).toNat % 256 ^ width := by
    unfold ofLevel
    rw [arrange_arrange]
    exact Gain.ofLittleBytes_littleBytes _ _
  unfold level
  rw [hnumber, length_ofLevel]
  unfold bias twosComplement
  obtain rfl | rfl | rfl : width = 1 ∨ width = 2 ∨ width = 3 := by omega
  · norm_num at hlow hhigh ⊢
    omega
  · norm_num at hlow hhigh ⊢
    split <;> omega
  · norm_num at hlow hhigh ⊢
    split <;> omega

variable {α : Type} [Amplitude α]

/-- **An integer sample is read as its level**, divided by full scale. -/
theorem decode_level (hkind : f.kind = .int) (hpos : 0 < bytes.length) (hwidth : bytes.length ≤ 3) :
    (decode f bytes : α) = Amplitude.ratio (level f bytes) (8 * bytes.length - 1) := by
  have hlength := length_arrange f.order bytes
  unfold decode level
  rw [hkind, List.take_of_length_le (by omega)]
  dsimp only
  rw [hlength]
  obtain h | h | h : bytes.length = 1 ∨ bytes.length = 2 ∨ bytes.length = 3 := by omega
  · rw [h]
    rfl
  · rw [h]
    rfl
  · rw [h]
    rfl

/-- **And written as the level that it comes to.** -/
theorem encode_level (hkind : f.kind = .int) (hpos : 0 < bytes.length) (hwidth : bytes.length ≤ 3)
    {x : α} {n : Int}
    (hlevel : level? (2 ^ (8 * bytes.length - 1) - 1) (Amplitude.clampUnit x) = some n) :
    encode f x bytes = ofLevel f bytes.length n := by
  unfold encode written rawBytes ofLevel bias
  rw [hkind, List.drop_of_length_le (by omega), List.append_nil]
  obtain h | h | h : bytes.length = 1 ∨ bytes.length = 2 ∨ bytes.length = 3 := by omega
  · rw [h] at hlevel ⊢
    rw [show level? 127 (Amplitude.clampUnit x) = some n from hlevel]
    exact congrArg (arrange f.order) (Gain.take_signedBytes (n + 128) (show 1 ≤ 4 by decide))
  · rw [h] at hlevel ⊢
    rw [show level? 32767 (Amplitude.clampUnit x) = some n from hlevel, if_neg (by decide), Int.add_zero]
    exact congrArg (arrange f.order) (Gain.take_signedBytes n (show 2 ≤ 4 by decide))
  · rw [h] at hlevel ⊢
    rw [show level? 8388607 (Amplitude.clampUnit x) = some n from hlevel, if_neg (by decide), Int.add_zero]
    exact congrArg (arrange f.order) (Gain.take_signedBytes n (show 3 ≤ 4 by decide))

end Sample

/-! ## §4. A stream turned round. -/

/-- Each piece is one that stands somewhere in the list. -/
theorem mem_pieces {β : Type} {size : Nat} {piece : List β} : ∀ {count : Nat} {l : List β},
    piece ∈ pieces size count l → ∃ index < count, piece = (l.drop (index * size)).take size := by
  intro count
  induction count with
  | zero =>
      intro l h
      cases h
  | succ count ih =>
      intro l h
      rcases List.mem_cons.mp h with rfl | hrest
      · exact ⟨0, Nat.succ_pos _, by rw [Nat.zero_mul, List.drop_zero]⟩
      · obtain ⟨index, hindex, rfl⟩ := ih hrest
        refine ⟨index + 1, Nat.succ_lt_succ hindex, ?_⟩
        rw [List.drop_drop, Nat.succ_mul, Nat.add_comm size]

namespace Format

variable {α : Type} [Amplitude α] {f : Format}

/-- Of a change no more matters than what it does to the samples that are there. -/
theorem mapPieces_congr_samples {change other : List UInt8 → List UInt8} {data : List UInt8}
    (h : ∀ index < data.length / f.sampleSize,
      change (f.sampleAt index data) = other (f.sampleAt index data)) :
    Gain.mapPieces f.sampleSize change data = Gain.mapPieces f.sampleSize other data := by
  unfold Gain.mapPieces wholePieces
  congr 1
  refine List.flatMap_congr fun piece hpiece => ?_
  obtain ⟨index, hindex, rfl⟩ := mem_pieces hpiece
  exact h index hindex

/-- **A stream is written anew and then turned round.** -/
theorem transcode_turned (hf : f.isSupported = true) {data : List UInt8}
    (hwhole : f.sampleSize ∣ data.length) : transcode α f f.turned data
      = f.turnSamples (Gain.mapPieces f.sampleSize (transcodeSample α f f) data) := by
  have hsize := f.sampleSize_pos hf
  have hfour := f.sampleSize_le hf
  have hsample : ∀ sample : List UInt8,
      transcodeSample α f f.turned sample = (transcodeSample α f f sample).reverse := by
    intro sample
    have hplace : (List.replicate f.sampleSize (0 : UInt8)).length ≤ 4 := by
      rw [List.length_replicate]
      exact hfour
    have hturned := Sample.encode_turned (f := f) (Sample.decode f sample : α) hplace
    rw [List.reverse_replicate] at hturned
    exact hturned
  have hrest : data.drop (data.length / f.sampleSize * f.sampleSize) = [] := by
    rw [Nat.div_mul_cancel hwhole]
    exact List.drop_length
  unfold turnSamples
  rw [Gain.mapPieces_mapPieces hsize fun piece _ => length_transcodeSample piece]
  unfold transcode Gain.mapPieces
  rw [hrest, List.append_nil, funext hsample]

/-- **A sample that is written anew** holds the level that is returned. -/
theorem transcodeSample_level {kept : Nat → Nat} (hreturns : Amplitude.Returns α kept)
    (hkind : f.kind = .int) {piece : List UInt8} (hpiece : piece.length = f.sampleSize)
    (hpos : 0 < f.sampleSize) (hwidth : f.sampleSize ≤ 3) : transcodeSample α f f piece
      = Sample.ofLevel f f.sampleSize (inward (kept f.sampleSize) (Sample.level f piece)) := by
  have hplace : (List.replicate f.sampleSize (0 : UInt8)).length = f.sampleSize := List.length_replicate
  have hpiecePos : 0 < piece.length := by omega
  have hpieceWidth : piece.length ≤ 3 := by omega
  obtain ⟨hlow, hhigh, _⟩ := Sample.level_cases (f := f) hpiecePos hpieceWidth
  rw [hpiece] at hlow hhigh
  have hlevel := hreturns hpos hwidth hlow hhigh
  have hdecode : (Sample.decode f piece : α) = _ := Sample.decode_level hkind hpiecePos hpieceWidth
  rw [hpiece] at hdecode
  unfold transcodeSample
  rw [hdecode, Sample.encode_level hkind (by omega) (by omega) (by rw [hplace]; exact hlevel), hplace]

/-- What a stream becomes in the other byte order, where levels come back up to a bound. -/
structure Turned (f : Format) (bound : Nat) (data output : List UInt8) : Prop where
  length : output.length = data.length
  /-- Each sample holds the level that it held, or from the bound on one closer to zero. -/
  levels : ∀ index < data.length / f.sampleSize,
    Sample.level f.turned (f.turned.sampleAt index output)
      = inward bound (Sample.level f (f.sampleAt index data))
  /-- A sample that is not louder than the bound has its bytes turned, and nothing else. -/
  quiet : ∀ index < data.length / f.sampleSize,
    (Sample.level f (f.sampleAt index data)).natAbs ≤ bound →
      f.turned.sampleAt index output = (f.sampleAt index data).reverse
  /-- So the stream has if none of them is louder, and only then. -/
  lossless : output = f.turnSamples data
    ↔ ∀ index < data.length / f.sampleSize, (Sample.level f (f.sampleAt index data)).natAbs ≤ bound

/-- Sample by sample: the bytes are turned, and their level has moved inwards if it was loud. -/
theorem sampleAt_transcode_turned {kept : Nat → Nat} (hreturns : Amplitude.Returns α kept)
    (hf : f.isSupported = true) (hkind : f.kind = .int) (hwidth : f.sampleSize ≤ 3)
    {data : List UInt8} (hwhole : f.sampleSize ∣ data.length) {index : Nat}
    (hindex : index < data.length / f.sampleSize) :
    f.turned.sampleAt index (transcode α f f.turned data)
      = (Sample.ofLevel f f.sampleSize (inward (kept f.sampleSize)
          (Sample.level f (f.sampleAt index data)))).reverse := by
  have hsize := f.sampleSize_pos hf
  have hkeep : ∀ piece : List UInt8, piece.length = f.sampleSize
      → (transcodeSample α f f piece).length = f.sampleSize :=
    fun piece _ => length_transcodeSample piece
  have hlength : (Gain.mapPieces f.sampleSize (transcodeSample α f f) data).length = data.length :=
    Gain.length_mapPieces hsize hkeep data
  rw [transcode_turned hf hwhole]
  refine (Gain.sampleAt_mapPieces hsize (fun piece hpiece => List.length_reverse.trans hpiece)
    (by rw [hlength]; exact hindex)).trans ?_
  rw [Gain.sampleAt_mapPieces hsize hkeep hindex,
    transcodeSample_level hreturns hkind (Gain.length_sampleAt hindex) hsize hwidth]

/-- **Every stream of whole samples is turned with its levels.** -/
theorem turned_transcode {kept : Nat → Nat} (hreturns : Amplitude.Returns α kept)
    (hf : f.isSupported = true) (hkind : f.kind = .int) (hwidth : f.sampleSize ≤ 3)
    {data : List UInt8} (hwhole : f.sampleSize ∣ data.length) :
    Turned f (kept f.sampleSize) data (transcode α f f.turned data) := by
  have hsize := f.sampleSize_pos hf
  have hreverse : ∀ piece : List UInt8, piece.length = f.sampleSize
      → piece.reverse.length = f.sampleSize := fun piece hpiece => List.length_reverse.trans hpiece
  have hsample : ∀ index < data.length / f.sampleSize, f.turned.sampleAt index _ = _ :=
    fun index hindex => sampleAt_transcode_turned hreturns hf hkind hwidth hwhole hindex
  have hback : ∀ index < data.length / f.sampleSize,
      (Sample.level f (f.sampleAt index data)).natAbs ≤ kept f.sampleSize →
        Sample.ofLevel f f.sampleSize (inward (kept f.sampleSize)
          (Sample.level f (f.sampleAt index data))) = f.sampleAt index data := by
    intro index hindex hbound
    have hpiece := Gain.length_sampleAt hindex
    rw [inward_eq_self.mpr hbound, ← hpiece]
    exact Sample.ofLevel_level (by omega) (by omega)
  have hlevels : ∀ index < data.length / f.sampleSize,
      Sample.level f.turned (f.turned.sampleAt index (transcode α f f.turned data))
        = inward (kept f.sampleSize) (Sample.level f (f.sampleAt index data)) := by
    intro index hindex
    have hpiece := Gain.length_sampleAt hindex
    have hpos : 0 < (f.sampleAt index data).length := by omega
    obtain ⟨hlow, hhigh, _⟩ := Sample.level_cases (f := f) hpos (by omega)
    rw [hpiece] at hlow hhigh
    have hpow : (0 : Int) < 2 ^ (8 * f.sampleSize - 1) := by positivity
    obtain ⟨hfrom, hto⟩ := inward_range (kept f.sampleSize) (by omega) hpow hlow hhigh
    rw [hsample index hindex, Sample.level_turned]
    exact Sample.level_ofLevel hsize hwidth hfrom hto
  refine ⟨?_, hlevels, ?_, ?_, ?_⟩
  · rw [transcode_turned hf hwhole]
    exact (Gain.length_mapPieces hsize hreverse _).trans
      (Gain.length_mapPieces hsize (fun piece _ => length_transcodeSample piece) data)
  · intro index hindex hbound
    rw [hsample index hindex, hback index hindex hbound]
  · -- Turned bytes hold the level that they held before, so that no level was moved.
    intro hturned index hindex
    have hreversed : f.turned.sampleAt index (transcode α f f.turned data)
        = (f.sampleAt index data).reverse := by
      rw [hturned]
      exact Gain.sampleAt_mapPieces hsize hreverse hindex
    have hlevel := hlevels index hindex
    rw [hreversed, Sample.level_turned] at hlevel
    exact inward_eq_self.mp hlevel.symm
  · intro hall
    have hsame : Gain.mapPieces f.sampleSize (transcodeSample α f f) data
        = Gain.mapPieces f.sampleSize (fun piece => piece) data :=
      mapPieces_congr_samples fun index hindex =>
        (transcodeSample_level hreturns hkind (Gain.length_sampleAt hindex) hsize hwidth).trans
          (hback index hindex (hall index hindex))
    rw [transcode_turned hf hwhole, hsame, Gain.mapPieces_id hsize]

/-! ## §5. The stage of a route. -/

theorem isSupported_turned (hf : f.isSupported = true) : f.turned.isSupported = true := hf

/-- Where the frames fit their field, the output of the stage is the format turned. -/
theorem outputFormat_turned (hf : f.isSupported = true) (hfit : f.align < 2 ^ 16) :
    Stage.outputFormat f f.turned = f.turned := by
  have halign : f.turned.sampleSize * f.channels % Nat.pow 2 16 = f.turned.align := by
    show f.sampleSize * f.channels % 2 ^ 16 = f.align
    rw [Nat.mul_comm, ← f.align_eq hf, Nat.mod_eq_of_lt hfit]
  unfold Stage.outputFormat
  rw [halign]
  rfl

/-- There is a stage that turns the samples of a format round, and it takes every stream of whole
frames as a whole; levels come back up to a bound for the width. -/
def Turns (κ : Type) [Stage κ] (f : Format) (kept : Nat → Nat) : Prop :=
  ∃ stage : κ, Stage.between κ f f.turned = .ok (some stage)
    ∧ ∀ data : List UInt8, f.align ∣ data.length →
      ∃ output, Stage.process? stage data = some ⟨data.length, output, stage⟩
        ∧ Turned f (kept f.sampleSize) data output

/-- **The stage between the two orders** transcodes whatever comes, one chunk like the other. -/
theorem exists_turning (τ α : Type) [Amplitude α] [ReadHead τ α] (hf : f.isSupported = true)
    (hfit : f.align < 2 ^ 16) : ∃ stage : LinearResampler τ α,
      Stage.between (LinearResampler τ α) f f.turned = .ok (some stage)
        ∧ ∀ data : List UInt8, f.align ∣ data.length →
          Stage.process? stage data = some ⟨data.length, transcode α f f.turned data, stage⟩ := by
  have hneeds : needsConversion f f.turned = true := by
    unfold needsConversion
    have horder : (f.order != f.turned.order) = true := by
      show (f.order != f.order.other) = true
      cases f.order with
      | little => rfl
      | big => rfl
    rw [horder, Bool.or_true]
  let stage : LinearResampler τ α :=
    { input := f
      output := f.turned
      step := ReadHead.step f.rate f.rate
      position := ReadHead.origin
      history := none }
  refine ⟨stage, ?_, fun data hdata => ?_⟩
  · unfold Stage.between
    rw [if_pos hneeds, outputFormat_turned hf hfit]
    show (LinearResampler.create f f.turned).map some = _
    unfold LinearResampler.create
    rw [if_neg (by simp [hf]), if_neg (by simp [isSupported_turned hf]), if_neg (fun h => h rfl)]
    rfl
  · have hframes : data.length = data.length / f.align * f.align := (Nat.div_mul_cancel hdata).symm
    exact LinearResampler.process?_transcodes (r := stage) hf (isSupported_turned hf) rfl hframes

/-- **On numbers that return levels it turns streams with their levels.** -/
theorem turns {τ : Type} [ReadHead τ α] {kept : Nat → Nat} (hreturns : Amplitude.Returns α kept)
    (hf : f.isSupported = true) (hkind : f.kind = .int) (hwidth : f.sampleSize ≤ 3)
    (hfit : f.align < 2 ^ 16) : Turns (LinearResampler τ α) f kept := by
  obtain ⟨stage, hstage, hprocess⟩ := exists_turning τ α hf hfit
  refine ⟨stage, hstage, fun data hdata => ⟨_, hprocess data hdata, ?_⟩⟩
  exact turned_transcode hreturns hf hkind hwidth
    (Nat.dvd_trans (f.sampleSize_dvd_align hf) hdata)

/-- **The second candidate for a big-endian source is the source turned.** -/
theorem second_candidate (hf : f.isSupported = true) (horder : f.order = .big)
    (hfit : 4 * f.channels < 2 ^ 16) (supported : List Format) :
    ∃ rest, Negotiation.candidates? f supported = some (f :: f.turned :: rest) := by
  have hfits : Negotiation.layoutsFit f.channels = true := decide_eq_true hfit
  have hlittle : f.withOrder .little = f.turned := by
    unfold turned
    rw [horder]
    rfl
  have hdiffer : f.turned ∉ [f] := by
    intro hsame
    have hother : f.order.other = f.order := congrArg Format.order (List.mem_singleton.mp hsame)
    rw [horder] at hother
    cases hother
  -- Both of them stand in front of the ranking, and pass what keeps others out of it.
  have hranking : Negotiation.ranking f supported = [f, f.turned]
      ++ (Negotiation.layouts f.rate f.channels ++ (Negotiation.atOtherRates f ++ supported)) := by
    rw [Negotiation.ranking_eq, ← hlittle, ← List.append_assoc]
    rfl
  have hpass : [f, f.turned].filter (Negotiation.proposable f.channels) = [f, f.turned] :=
    List.filter_eq_self.mpr fun g hg => by
      rcases List.mem_pair.mp hg with rfl | rfl
      · exact Negotiation.proposable_iff.mpr ⟨hf, rfl⟩
      · exact Negotiation.proposable_iff.mpr ⟨isSupported_turned hf, rfl⟩
  have hfront : Negotiation.firstOnly [f, f.turned] = [f, f.turned] := by
    show Negotiation.firstOnly.go [f] [f.turned] = _
    rw [Negotiation.go_new hdiffer]
    rfl
  obtain ⟨fresh, hfresh, _⟩ := Negotiation.firstOnly_append [f, f.turned]
    ((Negotiation.layouts f.rate f.channels ++ (Negotiation.atOtherRates f ++ supported)).filter
      (Negotiation.proposable f.channels))
  refine ⟨fresh, ?_⟩
  unfold Negotiation.candidates?
  rw [if_pos hfits, hranking, List.filter_append, hpass, hfresh, hfront]
  rfl

/-- **The stage between the byte orders moves a level by one at most.**  For every supported integer
format of up to 24 bits there is a stage to the other byte order, on floats and on exact numbers, and
every stream of whole frames comes out as long as it was, with the bytes of each sample turned as
long as it is not louder than the bound of its width, and one level closer to zero otherwise.  For a
big-endian source this is the format that is proposed second, to any device. -/
theorem turning_moves_one_level {τ : Type} [ReadHead τ Single] (hf : f.isSupported = true)
    (hkind : f.kind = .int) (hbits : f.bits ≤ 24) (hfit : f.align < 2 ^ 16) :
    Turns (LinearResampler τ Single) f Single.kept
      ∧ Turns (LinearResampler ℚ ℚ) f keptExactly
      ∧ (f.order = .big → 4 * f.channels < 2 ^ 16 → ∀ supported,
        ∃ rest, Negotiation.candidates? f supported = some (f :: f.turned :: rest)) := by
  have hwidth : f.sampleSize ≤ 3 := by
    unfold sampleSize bytesFor
    omega
  exact ⟨turns Single.returns hf hkind hwidth hfit, turns exact_returns hf hkind hwidth hfit,
    second_candidate hf⟩

/-- A big-endian source of 16 bits. -/
def bigSource : Format := (pcm 8000 16 1).withOrder .big

/-- All of it holds of it, for a stage with positions in 64-bit floats. -/
theorem turning_moves_one_level_bigSource : bigSource.isSupported = true ∧ bigSource.kind = .int
    ∧ bigSource.bits ≤ 24 ∧ bigSource.align < 2 ^ 16
    ∧ Turns (LinearResampler Double Single) bigSource Single.kept
    ∧ Turns (LinearResampler ℚ ℚ) bigSource keptExactly := by
  have hall := turning_moves_one_level (τ := Double) (f := bigSource) (by decide) (by decide)
    (by decide) (by decide)
  exact ⟨by decide, by decide, by decide, by decide, hall.1, hall.2.1⟩

/-- **Turning is not lossless**: the loudest sample of that source comes out one level lower, on floats and
on exact numbers. -/
theorem turning_is_lossy : bigSource.isSupported = true ∧ bigSource.kind = .int
    ∧ bigSource.bits ≤ 24 ∧ bigSource.align ∣ [0x7f, 0xff].length
    ∧ bigSource.turnSamples [0x7f, 0xff] = [0xff, 0x7f]
    ∧ (∃ stage : LinearResampler Double Single,
      Stage.between (LinearResampler Double Single) bigSource bigSource.turned = .ok (some stage)
        ∧ Stage.process? stage [0x7f, 0xff] = some ⟨2, [0xfe, 0x7f], stage⟩)
    ∧ ∃ stage : LinearResampler ℚ ℚ,
      Stage.between (LinearResampler ℚ ℚ) bigSource bigSource.turned = .ok (some stage)
        ∧ Stage.process? stage [0x7f, 0xff] = some ⟨2, [0xfe, 0x7f], stage⟩ := by
  have hsupported : bigSource.isSupported = true := by decide
  have hwhole : bigSource.align ∣ [0x7f, 0xff].length := by decide
  have hfloats : transcode Single bigSource bigSource.turned [0x7f, 0xff] = [0xfe, 0x7f] := by
    decide +kernel
  have hexactly : transcode ℚ bigSource bigSource.turned [0x7f, 0xff] = [0xfe, 0x7f] := by
    decide +kernel
  refine ⟨hsupported, by decide, by decide, hwhole, by decide, ?_, ?_⟩
  · obtain ⟨stage, hstage, hprocess⟩ := exists_turning Double Single hsupported (by decide)
    exact ⟨stage, hstage, (hprocess _ hwhole).trans (by rw [hfloats]; rfl)⟩
  · obtain ⟨stage, hstage, hprocess⟩ := exists_turning ℚ ℚ hsupported (by decide)
    exact ⟨stage, hstage, (hprocess _ hwhole).trans (by rw [hexactly]; rfl)⟩

end Format

end PcmRender
