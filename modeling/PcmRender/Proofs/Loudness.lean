/-
  PcmRender.Proofs.Loudness — **the level of a 16-bit sample, scaled in two ways.**

  A sample of `n` levels is scaled by a gain `g` as an integer, or as an amplitude that is decoded
  before and encoded after:

      quick    round (n · g)
      slow     round (n / 2^15 · g · (2^15 - 1))

  where each product is a 32-bit float before anything else happens to it.  Dividing by 2^15 loses
  nothing of a product that comes to a level at all, so what the two differ by is the factor that is
  one less.  With a gain of at most one that is at most a level before it is rounded, hence at most
  one level after: the slow way comes to the same, or to one level closer to zero.

  Main statements:
    * `Gain.levels_near` — the two ways on magnitudes,
    * `Gain.scaleWord16_eq`, `Gain.scaleSample_eq` — that the two ways are these,
    * `Single.mul_within` — a gain leaves an amplitude between minus one and one.
-/
import PcmRender.Proofs.Rounding
import PcmRender.Proofs.Sample
import Mathlib.Data.List.Basic

namespace PcmRender

open BinaryFormat (roundAway)

/-! ## §1. Words with a sign. -/

namespace Single

/-- The magnitude of a word in units. -/
def size (x : Single) : Nat := layout.units x.magnitude

/-- A number of units that is one. -/
def unity : Nat := 2 ^ layout.unitPlaces

variable {x y : Single} {word : Nat}

/-- A sign and a magnitude stand side by side in a word. -/
theorem toNat_ofMagnitude (negative : Bool) (h : word ≤ layout.infinity) :
    (ofMagnitude negative word).word.toNat
      = if negative then layout.signWeight + word else word := by
  have hsmall : word < 2 ^ 31 := Nat.lt_of_le_of_lt h (by decide)
  have hsign : layout.signWeight = 2 ^ 31 := rfl
  unfold ofMagnitude
  rw [UInt32.toNat_ofNat', hsign]
  split <;> omega

theorem magnitude_ofMagnitude (negative : Bool) (h : word ≤ layout.infinity) :
    (ofMagnitude negative word).magnitude = word := by
  have hsmall : word < layout.signWeight := Nat.lt_of_le_of_lt h (by decide)
  unfold magnitude
  rw [toNat_ofMagnitude negative h]
  split
  · rw [Nat.add_mod_left, Nat.mod_eq_of_lt hsmall]
  · exact Nat.mod_eq_of_lt hsmall

theorem negative_ofMagnitude (negative : Bool) (h : word ≤ layout.infinity) :
    (ofMagnitude negative word).negative = negative := by
  have hsmall : word < layout.signWeight := Nat.lt_of_le_of_lt h (by decide)
  unfold Single.negative
  rw [toNat_ofMagnitude negative h]
  cases negative with
  | false => simpa using hsmall
  | true => simp

theorem isNaN_finite (h : x.magnitude < layout.infinity) : x.isNaN = false := by
  unfold isNaN
  simp
  omega

theorem reading_finite (h : x.magnitude < layout.infinity) : x.reading
    = .finite x.negative (layout.split x.magnitude).1 (layout.split x.magnitude).2 := by
  unfold reading
  rw [if_neg (by omega), if_neg (by omega)]

/-- **The product of two numbers** is that of their magnitudes, rounded. -/
theorem mul_finite (hx : x.magnitude < layout.infinity) (hy : y.magnitude < layout.infinity) :
    x.mul y = ofMagnitude (x.negative != y.negative)
      (layout.nearest (x.size * y.size) unity) := by
  unfold mul
  rw [isNaN_finite hx, isNaN_finite hy, reading_finite hx, reading_finite hy]
  have hunits : x.size * y.size
      = (layout.split x.magnitude).1 * (layout.split y.magnitude).1
        * Nat.pow 2 ((layout.split x.magnitude).2 + (layout.split y.magnitude).2) := by
    show (layout.split x.magnitude).1 * 2 ^ (layout.split x.magnitude).2
      * ((layout.split y.magnitude).1 * 2 ^ (layout.split y.magnitude).2) = _ * 2 ^ (_ + _)
    rw [Nat.pow_add]
    ring
  rw [hunits]
  rfl

/-- **A number times a small scale**, rounded to an integer. -/
theorem scaled?_finite (hx : x.magnitude < layout.infinity) {scale : Nat} (hscale : scale < 2 ^ 24)
    (low high : Int) : x.scaled? scale low high
      = some (max low (min high (if x.negative
        then -(roundAway (layout.units (layout.nearest (x.size * scale) 1)) unity : Int)
        else roundAway (layout.units (layout.nearest (x.size * scale) 1)) unity))) := by
  unfold scaled?
  rw [reading_finite hx]
  have hformat : formatFor scale = layout := if_pos hscale
  have hnum : (layout.split x.magnitude).1 * scale
      * Nat.pow 2 ((layout.split x.magnitude).2 + layout.unitPlaces) = x.size * scale * unity := by
    show _ * 2 ^ (_ + layout.unitPlaces)
      = (layout.split x.magnitude).1 * 2 ^ (layout.split x.magnitude).2 * scale * 2 ^ layout.unitPlaces
    rw [Nat.pow_add]
    ring
  have hpos : 0 < unity := Nat.two_pow_pos _
  dsimp only
  rw [hformat, hnum, show Nat.pow 2 layout.unitPlaces = 1 * unity from (Nat.one_mul _).symm,
    BinaryFormat.nearest_mul hpos]
  rw [Nat.one_mul]

/-- A number of levels that a significand holds, divided by a power of two, is exact. -/
theorem ratio_exact {n : Int} {k : Nat} (hn : n.natAbs ≤ 2 ^ 23) (hk : k ≤ 23) :
    (ratio n k).magnitude < layout.infinity ∧ (ratio n k).size = n.natAbs * 2 ^ (149 - k)
      ∧ (ratio n k).negative = decide (n < 0) := by
  have hwhole : n.natAbs * 2 ^ 149 = n.natAbs * 2 ^ (149 - k) * 2 ^ k := by
    rw [Nat.mul_assoc, ← Nat.pow_add, Nat.sub_add_cancel (by omega)]
  have htop : n.natAbs * 2 ^ (149 - k) ≤ layout.units 0x4b000000 := by
    rw [show layout.units 0x4b000000 = 2 ^ 23 * 2 ^ 149 by decide +kernel]
    exact Nat.mul_le_mul hn (Nat.pow_le_pow_right (by decide) (by omega))
  have hword : layout.nearest (n.natAbs * 2 ^ 149) (2 ^ k) ≤ 0x4b000000 :=
    BinaryFormat.nearest_le (Nat.two_pow_pos k)
      (by rw [hwhole]; exact Nat.mul_le_mul_right _ htop)
  have hfinite : layout.nearest (n.natAbs * 2 ^ 149) (2 ^ k) < layout.infinity :=
    Nat.lt_of_le_of_lt hword (by decide)
  have hratio : ratio n k
      = ofMagnitude (decide (n < 0)) (layout.nearest (n.natAbs * 2 ^ 149) (2 ^ k)) := rfl
  rw [hratio]
  refine ⟨?_, ?_, negative_ofMagnitude _ (Nat.le_of_lt hfinite)⟩
  · rw [magnitude_ofMagnitude _ (Nat.le_of_lt hfinite)]
    exact hfinite
  · unfold size
    rw [magnitude_ofMagnitude _ (Nat.le_of_lt hfinite), hwhole]
    exact BinaryFormat.units_nearest (le_trans hn (by decide)) (Nat.two_pow_pos k) (by decide) htop

/-! ### Numbers from minus one to one. -/

/-- A number that is not outside of minus one and one.  What is no number is not. -/
def Within (x : Single) : Prop := x.lt minusOne = false ∧ one.lt x = false

theorem clamp_within (h : x.Within) : clamp minusOne one x = x := by
  unfold clamp
  rw [h.1, h.2]
  rfl

/-- A number within is one whose word is not above that of one. -/
theorem within_iff (h : x.isNaN = false) : x.Within ↔ x.magnitude ≤ one.magnitude := by
  have hone : one.isNaN = false ∧ one.key = one.magnitude := by decide
  have hminus : minusOne.isNaN = false ∧ minusOne.key = -(one.magnitude : Int) := by decide
  unfold Within lt
  rw [h, hone.1, hminus.1, hone.2, hminus.2]
  simp only [Bool.not_false, Bool.true_and, decide_eq_false_iff_not, Int.not_lt]
  unfold key
  split <;> omega

theorem within_of_isNaN (h : x.isNaN = true) : x.Within := by
  unfold Within lt
  rw [h]
  simp

/-- A level that is divided by the largest one is within. -/
theorem ratio_within {n : Int} {k : Nat} (hk : k ≤ 23) (hn : n.natAbs ≤ 2 ^ k) :
    (ratio n k).Within := by
  obtain ⟨hratio, hsize, _⟩ :=
    ratio_exact (le_trans hn (Nat.pow_le_pow_right (by decide) hk)) hk
  have hone : layout.units one.magnitude = 2 ^ k * 2 ^ (149 - k) := by
    rw [← Nat.pow_add, Nat.add_sub_cancel' (by omega)]
    decide +kernel
  refine (within_iff (isNaN_finite hratio)).mpr (layout.units_strictMono.le_iff_le.mp ?_)
  show (ratio n k).size ≤ _
  rw [hsize, hone]
  exact Nat.mul_le_mul_right _ hn

/-- What is no number stays none when it is made quiet. -/
theorem isNaN_quiet (h : x.isNaN = true) : x.quiet.isNaN = true := by
  unfold isNaN at *
  simp only [decide_eq_true_eq] at *
  refine Nat.lt_of_lt_of_le h ?_
  show x.word.toNat % 2 ^ 31 ≤ (x.word ||| 0x00400000).toNat % 2 ^ 31
  rw [UInt32.toNat_or, Nat.or_mod_two_pow]
  exact Nat.left_le_or

/-- **A gain of at most one leaves a number within.** -/
theorem mul_within (hx : x.Within) (hy : y.magnitude ≤ one.magnitude) : (x.mul y).Within := by
  have hinfinity : one.magnitude < layout.infinity := by decide
  by_cases hnan : x.isNaN = true
  · unfold mul
    rw [if_pos hnan]
    exact within_of_isNaN (isNaN_quiet hnan)
  · have hsmall := (within_iff (by simpa using hnan)).mp hx
    have hone : layout.units one.magnitude = unity := by decide +kernel
    have hword : layout.nearest (x.size * y.size) unity ≤ one.magnitude := by
      refine BinaryFormat.nearest_le (Nat.two_pow_pos _) ?_
      rw [hone]
      refine Nat.mul_le_mul ?_ ?_
      · rw [← hone]
        exact layout.units_strictMono.monotone hsmall
      · rw [← hone]
        exact layout.units_strictMono.monotone hy
    have hmagnitude : (x.mul y).magnitude ≤ one.magnitude := by
      rw [mul_finite (by omega) (by omega), magnitude_ofMagnitude _ (by omega)]
      exact hword
    exact (within_iff (isNaN_finite (by omega))).mpr hmagnitude

end Single

/-! ## §2. A 16-bit sample on both ways. -/

namespace Gain

open Single (layout unity)
open BinaryFormat (nearest_le units_nearest_le le_units_nearest units_nearest_scaled roundAway_mono)

/-- The level of a sample of so many levels that is multiplied by a gain of so many units. -/
def quickLevel (level gain : Nat) : Nat := roundAway (layout.units (layout.nearest (level * gain) 1)) unity

/-- Its level if it is divided by 2^15 first, and then multiplied by one less. -/
def slowLevel (level gain : Nat) : Nat :=
  roundAway (layout.units
    (layout.nearest (layout.units (layout.nearest (level * gain) (2 ^ 15)) * 32767) 1)) unity

variable {level gain : Nat}

/-- The word of the largest level. -/
theorem units_top : layout.units 0x47000000 = 2 ^ 164 := by decide +kernel

theorem top_finite : 0x47000000 < layout.infinity := by decide

/-- **What is less than a quarter of a level is none**, on both ways. -/
theorem levels_small (hsmall : level * gain ≤ 2 ^ 147) :
    quickLevel level gain = 0 ∧ slowLevel level gain = 0 := by
  have hnone : ∀ units : Nat, units ≤ 1 * 2 ^ 147 → roundAway units unity = 0 := by
    intro units hunits
    show (2 * units + 2 ^ 149) / (2 * 2 ^ 149) = 0
    exact Nat.div_eq_of_lt (by omega)
  refine ⟨hnone _ (units_nearest_le (by decide) Nat.one_pos (by omega)), hnone _ ?_⟩
  have hdivided : layout.units (layout.nearest (level * gain) (2 ^ 15)) ≤ 1 * 2 ^ 132 :=
    units_nearest_le (by decide) (by decide) (by omega)
  exact units_nearest_le (by decide) Nat.one_pos (by omega)

/-- Divided, no level is more than one. -/
theorem divided_le (hlevel : level ≤ 2 ^ 15) (hgain : gain ≤ unity) :
    layout.units (layout.nearest (level * gain) (2 ^ 15)) ≤ 2 ^ 149 := by
  have hproduct : level * gain ≤ 1 * 2 ^ 149 * 2 ^ 15 := by
    rw [Nat.one_mul, Nat.mul_comm]
    exact Nat.mul_le_mul hgain hlevel
  rw [← Nat.one_mul (2 ^ 149)]
  exact units_nearest_le (by decide) (by decide) hproduct

/-- **A factor that is one less takes off a level at most.** -/
theorem le_roundAway_scaled {divided whole : Nat} (hwhole : whole = divided * 2 ^ 15)
    (hunit : divided ≤ 2 ^ 149) : roundAway whole unity
      ≤ roundAway (layout.units (layout.nearest (divided * 32767) 1)) unity + 1 := by
  generalize hcount : roundAway whole unity = count
  have hdiv : count = (2 * whole + 2 ^ 149) / (2 * 2 ^ 149) := hcount.symm
  by_cases hfew : count ≤ 1
  · omega
  · -- A level and a half less is a word.
    have hhalves : (2 * count - 3) * 2 ^ 148 ≤ divided * 32767 := by omega
    have hrounded : (2 * count - 3) * 2 ^ 148
        ≤ layout.units (layout.nearest (divided * 32767) 1) :=
      le_units_nearest (by show _ ≤ 2 ^ 24; omega) Nat.one_pos (Nat.le_of_lt top_finite)
        (by rw [units_top]; omega) (by omega)
    show count ≤ (2 * layout.units _ + 2 ^ 149) / (2 * 2 ^ 149) + 1
    omega

/-- **The slow way comes to the same level or to the one below.** -/
theorem levels_near (hlevel : level ≤ 2 ^ 15) (hgain : gain ≤ unity) :
    slowLevel level gain ≤ quickLevel level gain
      ∧ quickLevel level gain ≤ slowLevel level gain + 1 := by
  rcases Nat.le_total (level * gain) (2 ^ 147) with hsmall | hlarge
  · obtain ⟨hquick, hslow⟩ := levels_small hsmall
    omega
  have hproduct : level * gain ≤ 2 ^ 15 * 2 ^ 149 := Nat.mul_le_mul hlevel hgain
  have hfinite : layout.nearest (level * gain) 1 < layout.infinity :=
    Nat.lt_of_le_of_lt (nearest_le Nat.one_pos (by rw [units_top]; omega)) top_finite
  have hdivided := divided_le hlevel hgain
  -- The division is exact; what makes the difference is the factor that is one less.
  have hscaled := units_nearest_scaled (b := layout) Nat.one_pos 15
    (show 2 ^ 38 * 1 ≤ level * gain by omega) hfinite
  rw [Nat.one_mul] at hscaled
  unfold quickLevel slowLevel
  generalize layout.units (layout.nearest (level * gain) (2 ^ 15)) = divided at hscaled hdivided ⊢
  constructor
  · refine roundAway_mono (layout.units_strictMono.monotone (nearest_le Nat.one_pos ?_))
    omega
  · exact le_roundAway_scaled hscaled hdivided

/-- The quick way makes no level larger. -/
theorem quickLevel_le (hlevel : level ≤ 2 ^ 15) (hgain : gain ≤ unity) :
    quickLevel level gain ≤ level :=
  BinaryFormat.roundAway_le (Nat.two_pow_pos _)
    (units_nearest_le (le_trans hlevel (by decide)) Nat.one_pos
      (by rw [Nat.mul_one]; exact Nat.mul_le_mul_left _ hgain))

/-- The slow way makes none larger than the largest that it writes. -/
theorem slowLevel_le (hlevel : level ≤ 2 ^ 15) (hgain : gain ≤ unity) :
    slowLevel level gain ≤ 32767 := by
  have hdivided := divided_le hlevel hgain
  have hrounded : layout.units (layout.nearest
      (layout.units (layout.nearest (level * gain) (2 ^ 15)) * 32767) 1) ≤ 32767 * 2 ^ 149 :=
    units_nearest_le (show 32767 ≤ 2 ^ 24 by omega) Nat.one_pos (by omega)
  exact BinaryFormat.roundAway_le (Nat.two_pow_pos _) hrounded

/-! ## §3. Gains. -/

/-- A gain from zero to one. -/
structure Softens (g : Single) : Prop where
  number : g.isNaN = false
  nonneg : g.lt (Single.zero false) = false
  le_one : Single.one.lt g = false

/-- What a requested gain becomes is one. -/
theorem softens_limit (requested : Single) : Softens (limit requested) := by
  have hzero : Softens (Single.zero false) := ⟨by decide, by decide, by decide⟩
  have hone : Softens Single.one := ⟨by decide, by decide, by decide⟩
  unfold limit Single.clamp
  split
  · exact hzero
  next hnumber =>
    split
    · exact hzero
    next hlow =>
      split
      · exact hone
      next hhigh => exact ⟨by simpa using hnumber, by simpa using hlow, by simpa using hhigh⟩

namespace Softens

variable {g : Single}

/-- By its word: that of one is not below it, and only zero has a sign. -/
theorem word_le (h : Softens g) : g.magnitude ≤ Single.one.magnitude
    ∧ (g.negative = true → g.magnitude = 0) := by
  have hzero : (Single.zero false).isNaN = false ∧ (Single.zero false).key = 0 := by decide
  have hone : Single.one.isNaN = false ∧ Single.one.key = Single.one.magnitude := by decide
  have hlow := h.nonneg
  have hhigh := h.le_one
  unfold Single.lt at hlow hhigh
  rw [h.number, hzero.1, hzero.2] at hlow
  rw [h.number, hone.1, hone.2] at hhigh
  simp only [Bool.not_false, Bool.true_and, decide_eq_false_iff_not, Int.not_lt] at hlow hhigh
  unfold Single.key at hlow hhigh
  split at hlow
  · exact ⟨by omega, fun _ => by omega⟩
  next hsign =>
    rw [if_neg hsign] at hhigh
    exact ⟨by omega, fun hnegative => absurd hnegative hsign⟩

theorem finite (h : Softens g) : g.magnitude < layout.infinity :=
  Nat.lt_of_le_of_lt h.word_le.1 (by decide)

/-- The size of a gain is that of one at most. -/
theorem size_le (h : Softens g) : g.size ≤ unity := by
  rw [show unity = layout.units Single.one.magnitude by decide +kernel]
  exact layout.units_strictMono.monotone h.word_le.1

end Softens

/-! ## §4. Levels in their bytes. -/

/-- The level that a sample of 16 bits holds. -/
def levelOf (bytes : List UInt8) : Int := twosComplement 16 (ofLittleBytes bytes)

/-- A level with a sign. -/
def signed (negative : Bool) (level : Nat) : Int := if negative then -level else level

theorem levelOf_range {bytes : List UInt8} (h : bytes.length = 2) :
    -32768 ≤ levelOf bytes ∧ levelOf bytes ≤ 32767 := by
  obtain ⟨a, b, rfl⟩ := List.length_eq_two.mp h
  have ha := a.toNat_lt
  have hb := b.toNat_lt
  have hvalue : ofLittleBytes [a, b] = a.toNat + 256 * b.toNat := rfl
  unfold levelOf twosComplement
  rw [hvalue, show Nat.pow 2 (16 - 1) = 32768 from rfl, show Nat.pow 2 16 = 65536 from rfl]
  split <;> omega

/-- What is written in so many bytes is read back, as far as it fits them. -/
theorem ofLittleBytes_littleBytes (count n : Nat) :
    ofLittleBytes (littleBytes count n) = n % 256 ^ count := by
  induction count generalizing n with
  | zero =>
      rw [Nat.pow_zero, Nat.mod_one]
      rfl
  | succ count ih =>
      show (UInt8.ofNat n).toNat + 256 * ofLittleBytes (littleBytes count (n / 256)) = _
      have hpow : 256 ^ (count + 1) = 256 * 256 ^ count := Nat.pow_succ'
      rw [ih, UInt8.toNat_ofNat', hpow, Nat.mod_mul]

/-- A level is read back from the bytes that it was written to. -/
theorem levelOf_signedBytes {n : Int} (hlow : -32768 ≤ n) (hhigh : n ≤ 32767) :
    levelOf (signedBytes 2 n) = n := by
  have hbytes : ofLittleBytes (signedBytes 2 n) = (n % 2 ^ 16).toNat := by
    refine (ofLittleBytes_littleBytes 2 _).trans (Nat.mod_eq_of_lt ?_)
    show (n % 2 ^ 16).toNat < 256 ^ 2
    omega
  unfold levelOf twosComplement
  rw [hbytes]
  show (if 2 ^ 15 ≤ (n % 2 ^ 16).toNat then (((n % 2 ^ 16).toNat : Nat) : Int) - (2 ^ 16 : Nat)
    else ((n % 2 ^ 16).toNat : Int)) = n
  split <;> omega

/-- The first bytes of a number do not see what it has behind them. -/
theorem take_littleBytes (n : Nat) : ∀ {count more : Nat}, count ≤ more →
    (littleBytes more n).take count = littleBytes count n := by
  intro count
  induction count generalizing n with
  | zero => intros; rfl
  | succ count ih =>
      intro more h
      obtain ⟨rest, rfl⟩ := Nat.exists_eq_add_of_le' h
      show UInt8.ofNat n :: (littleBytes (rest + count) (n / 256)).take count = _
      rw [ih _ (Nat.le_add_left _ _)]
      rfl

/-- A number is written the same if it differs behind its bytes. -/
theorem littleBytes_mod (count n : Nat) : littleBytes count (n % 256 ^ count) = littleBytes count n := by
  induction count generalizing n with
  | zero => rfl
  | succ count ih =>
      have hbyte : UInt8.ofNat (n % 256 ^ (count + 1)) = UInt8.ofNat n := by
        apply UInt8.toNat_inj.mp
        rw [UInt8.toNat_ofNat', UInt8.toNat_ofNat', Nat.pow_succ']
        exact Nat.mod_mul_right_mod _ _ _
      have hrest : n % 256 ^ (count + 1) / 256 = n / 256 % 256 ^ count := by
        rw [Nat.pow_succ', Nat.mod_mul_right_div_self]
      show UInt8.ofNat (n % 256 ^ (count + 1)) :: littleBytes count (n % 256 ^ (count + 1) / 256) = _
      rw [hbyte, hrest, ih]
      rfl

/-- Of four bytes the first hold the level, if it needs no more. -/
theorem take_signedBytes (n : Int) {count : Nat} (hcount : count ≤ 4) :
    (signedBytes 4 n).take count = signedBytes count n := by
  have hpow : (256 : Nat) ^ count = 2 ^ (8 * count) := by rw [Nat.pow_mul]
  have hdvd : (2 : Int) ^ (8 * count) ∣ 2 ^ (8 * 4) := pow_dvd_pow _ (by omega)
  have hlow : (n % 2 ^ (8 * 4)).toNat % 256 ^ count = (n % 2 ^ (8 * count)).toNat % 256 ^ count := by
    have hmod : n % 2 ^ (8 * 4) % 2 ^ (8 * count) = n % 2 ^ (8 * count) % 2 ^ (8 * count) := by
      rw [Int.emod_emod_of_dvd _ hdvd, Int.emod_emod_of_dvd _ (dvd_refl _)]
    have hleft := Int.emod_nonneg n (show (2 : Int) ^ (8 * 4) ≠ 0 by positivity)
    have hright := Int.emod_nonneg n (show (2 : Int) ^ (8 * count) ≠ 0 by positivity)
    apply Int.natCast_inj.mp
    rw [hpow, Int.natCast_mod, Int.natCast_mod, Int.toNat_of_nonneg hleft, Int.toNat_of_nonneg hright]
    exact_mod_cast hmod
  show (littleBytes 4 (n % 2 ^ (8 * 4)).toNat).take count = littleBytes count (n % 2 ^ (8 * count)).toNat
  rw [take_littleBytes _ hcount, ← littleBytes_mod, hlow, littleBytes_mod]

/-! ## §5. One sample on both ways. -/

variable {g : Single} {n : Int}

/-- **A level times a gain**, the level divided by a power of two before. -/
theorem mul_ratio (hg : Softens g) (hn : n.natAbs ≤ 2 ^ 15) {k : Nat} (hk : k ≤ 15) :
    ((Single.ratio n k).mul g).magnitude = layout.nearest (n.natAbs * g.size) (2 ^ k)
      ∧ layout.nearest (n.natAbs * g.size) (2 ^ k) < layout.infinity
      ∧ ((Single.ratio n k).mul g).negative = (decide (n < 0) != g.negative) := by
  obtain ⟨hratio, hsize, hnegative⟩ := Single.ratio_exact (le_trans hn (by decide)) (le_trans hk (by decide))
  have hproduct : n.natAbs * g.size ≤ 2 ^ 15 * 2 ^ 149 := Nat.mul_le_mul hn hg.size_le
  have hpow := Nat.one_le_two_pow (n := k)
  have hword : layout.nearest (n.natAbs * g.size) (2 ^ k) ≤ 0x47000000 := by
    refine nearest_le (Nat.two_pow_pos k) ?_
    rw [units_top]
    nlinarith
  have hfinite := Nat.lt_of_le_of_lt hword top_finite
  have hreduced : layout.nearest ((Single.ratio n k).size * g.size) unity
      = layout.nearest (n.natAbs * g.size) (2 ^ k) := by
    have hunity : unity = 2 ^ k * 2 ^ (149 - k) := by
      rw [← Nat.pow_add, Nat.add_sub_cancel' (by omega)]
      rfl
    rw [hsize, hunity, Nat.mul_right_comm]
    exact BinaryFormat.nearest_mul (Nat.two_pow_pos _) layout _ _
  rw [Single.mul_finite hratio hg.finite, hreduced, hnegative]
  exact ⟨Single.magnitude_ofMagnitude _ (Nat.le_of_lt hfinite), hfinite,
    Single.negative_ofMagnitude _ (Nat.le_of_lt hfinite)⟩

/-- The level that the quick way comes to, with its sign. -/
def quickSample (g : Single) (n : Int) : Int :=
  signed (decide (n < 0) != g.negative) (quickLevel n.natAbs g.size)

/-- The one that the slow way comes to. -/
def slowSample (g : Single) (n : Int) : Int :=
  signed (decide (n < 0) != g.negative) (slowLevel n.natAbs g.size)

/-- Neither leaves the range of 16 bits. -/
theorem quickSample_range (hg : Softens g) (hlow : -32768 ≤ n) (hhigh : n ≤ 32767) :
    -32768 ≤ quickSample g n ∧ quickSample g n ≤ 32767 := by
  unfold quickSample signed
  cases hsign : g.negative with
  | true =>
      -- Only a gain of zero has a sign.
      have hzero : g.size = 0 := by
        unfold Single.size
        rw [hg.word_le.2 hsign]
        rfl
      have hsilent : quickLevel n.natAbs 0 = 0 := (levels_small (by omega)).1
      rw [hzero, hsilent]
      split <;> omega
  | false =>
      have hlevel : quickLevel n.natAbs g.size ≤ n.natAbs := quickLevel_le (by omega) hg.size_le
      simp only [Bool.bne_false, decide_eq_true_eq]
      split <;> omega

theorem slowSample_range (hg : Softens g) (hlow : -32768 ≤ n) (hhigh : n ≤ 32767) :
    -32767 ≤ slowSample g n ∧ slowSample g n ≤ 32767 := by
  have hlevel : slowLevel n.natAbs g.size ≤ 32767 := slowLevel_le (by omega) hg.size_le
  unfold slowSample signed
  split <;> omega

/-- **The slow way comes to the same or to one level closer to zero.** -/
theorem samples_near (hg : Softens g) (hlow : -32768 ≤ n) (hhigh : n ≤ 32767) :
    slowSample g n = quickSample g n
      ∨ 0 < quickSample g n ∧ slowSample g n = quickSample g n - 1
      ∨ quickSample g n < 0 ∧ slowSample g n = quickSample g n + 1 := by
  have hlevel : n.natAbs ≤ 2 ^ 15 := by omega
  obtain ⟨hle, hnear⟩ := levels_near hlevel hg.size_le
  unfold slowSample quickSample signed
  split <;> omega

/-- **The quick way**, by levels. -/
theorem scaleWord16_eq (hg : Softens g) {bytes : List UInt8} (hbytes : bytes.length = 2) :
    scaleWord16 g bytes = signedBytes 2 (quickSample g (levelOf bytes)) := by
  obtain ⟨hlow, hhigh⟩ := levelOf_range hbytes
  generalize hn : levelOf bytes = n at hlow hhigh
  obtain ⟨hmagnitude, hfinite, hnegative⟩ := mul_ratio (n := n) (k := 0) hg (by omega) (by omega)
  have hrange := quickSample_range hg hlow hhigh
  -- The product is a word already, so that it is not rounded again.
  have hexact : layout.nearest (((Single.ratio n 0).mul g).size * 1) 1
      = layout.nearest (n.natAbs * g.size) 1 := by
    unfold Single.size
    rw [hmagnitude]
    exact BinaryFormat.nearest_units Nat.one_pos (Nat.le_of_lt hfinite)
  have hscaled : ((Single.ratio n 0).mul g).scaled? 1 (-32768) 32767
      = some (max (-32768) (min 32767 (quickSample g n))) := by
    rw [Single.scaled?_finite (by rw [hmagnitude]; exact hfinite) (by decide), hnegative, hexact]
    rfl
  show signedBytes 2 ((((Single.ratio (levelOf bytes) 0).mul g).scaled? 1 (-32768) 32767).getD 0) = _
  rw [hn, hscaled, show max (-32768) (min 32767 (quickSample g n)) = quickSample g n by omega]
  rfl

/-- A sample of 16 bits is between minus one and one, and stays there. -/
theorem mul_ratio_within (hg : Softens g) (hn : n.natAbs ≤ 2 ^ 15) :
    ((Single.ratio n 15).mul g).Within :=
  Single.mul_within (Single.ratio_within (by decide) hn) hg.word_le.1

/-- **The slow way**, by levels. -/
theorem scaleSample_eq {f : Format} (hkind : f.kind = .int) (horder : f.order = .little)
    (hg : Softens g) {bytes : List UInt8} (hbytes : bytes.length = 2) :
    scaleSample f g bytes = signedBytes 2 (slowSample g (levelOf bytes)) := by
  obtain ⟨hlow, hhigh⟩ := levelOf_range hbytes
  have hdecode : (Sample.decode f bytes : Single) = Single.ratio (levelOf bytes) 15 := by
    obtain ⟨a, b, rfl⟩ := List.length_eq_two.mp hbytes
    unfold Sample.decode
    rw [hkind, horder]
    rfl
  have hencode : ∀ x : Single, Sample.encode f x bytes
      = (Sample.rawBytes .int 2 (Single.clamp Single.minusOne Single.one x)).take 2 := by
    intro x
    unfold Sample.encode Sample.written
    rw [hkind, horder, hbytes, List.drop_of_length_le (by omega), List.append_nil]
    rfl
  generalize levelOf bytes = n at hlow hhigh hdecode
  obtain ⟨hmagnitude, hfinite, hnegative⟩ := mul_ratio (n := n) (k := 15) hg (by omega) (by omega)
  have hrange := slowSample_range hg hlow hhigh
  have hscaled : ((Single.ratio n 15).mul g).scaled? 32767 (-32767) 32767
      = some (max (-32767) (min 32767 (slowSample g n))) := by
    rw [Single.scaled?_finite (by rw [hmagnitude]; exact hfinite) (by decide), hnegative]
    unfold Single.size
    rw [hmagnitude]
    rfl
  unfold scaleSample
  rw [hdecode, hencode]
  show (Sample.rawBytes .int 2 (Single.clamp Single.minusOne Single.one
    ((Single.ratio n 15).mul g))).take 2 = _
  rw [Single.clamp_within (mul_ratio_within hg (by omega))]
  show (signedBytes 4 ((((Single.ratio n 15).mul g).scaled? 32767 (-32767) 32767).getD 0)).take 2 = _
  rw [hscaled, show max (-32767) (min 32767 (slowSample g n)) = slowSample g n by omega,
    take_signedBytes _ (show 2 ≤ 4 by decide)]
  rfl

end Gain

end PcmRender
