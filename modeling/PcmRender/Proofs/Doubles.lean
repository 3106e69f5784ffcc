/-
  PcmRender.Proofs.Doubles — **the order of numbers of 64 bits.**

  The words of one sign are in the order of what they stand for, and nothing is rounded past a word
  (Proofs/Rounding).  Of positions in a stream no more is needed than these two, with the integer below
  a position, which grows with it:

      n   ≤   t                  so         n  ≤  ⌊t⌋           an integer of 32 bits is a number
      0   ≤   d                  so         t  ≤  t + d         however the sum is rounded

  They hold of every word: whoever adds to an infinity or to no number comes to nothing smaller.

  Main statements:
    * `Double.whole_ofInt` — an integer of 32 bits is a number of its own,
    * `Double.le_whole_max`, `Double.whole_le`, `Double.whole_add` — the order of positions.
-/
import PcmRender.Number.Double
import PcmRender.Proofs.Rounding

namespace PcmRender.Double

variable {x y : Double} {word : Nat}

/-! ## §1. Words with a sign. -/

/-- A sign and a magnitude stand side by side in a word. -/
theorem toNat_ofMagnitude (negative : Bool) (h : word ≤ layout.infinity) :
    (ofMagnitude negative word).word.toNat
      = if negative then layout.signWeight + word else word := by
  have hsmall : word < 2 ^ 63 := Nat.lt_of_le_of_lt h (by decide)
  have hsign : layout.signWeight = 2 ^ 63 := rfl
  unfold ofMagnitude
  rw [UInt64.toNat_ofNat', hsign]
  split <;> omega

theorem magnitude_ofMagnitude (negative : Bool) (h : word ≤ layout.infinity) :
    (ofMagnitude negative word).magnitude = word := by
  have hsmall : word < layout.signWeight := Nat.lt_of_le_of_lt h (by decide)
  unfold magnitude
  rw [toNat_ofMagnitude negative h]
  split
  · rw [Nat.add_mod_left, Nat.mod_eq_of_lt hsmall]
  · exact Nat.mod_eq_of_lt hsmall

theorem negative_ofMagnitude (negative : Bool) (h : word ≤ layout.infinity) :
    (ofMagnitude negative word).negative = negative := by
  have hsmall : word < layout.signWeight := Nat.lt_of_le_of_lt h (by decide)
  unfold Double.negative
  rw [toNat_ofMagnitude negative h]
  cases negative with
  | false => simpa using hsmall
  | true => simp

theorem isNaN_ofMagnitude (negative : Bool) (h : word ≤ layout.infinity) :
    (ofMagnitude negative word).isNaN = false := by
  unfold isNaN
  rw [magnitude_ofMagnitude negative h]
  simpa using h

theorem signedUnits_ofMagnitude (negative : Bool) (h : word ≤ layout.infinity) :
    (ofMagnitude negative word).signedUnits
      = if negative then -(layout.units word : Int) else layout.units word := by
  unfold signedUnits
  rw [magnitude_ofMagnitude negative h, negative_ofMagnitude negative h]

theorem nearest_finite (num den : Nat) : layout.nearest num den ≤ layout.infinity :=
  Nat.min_le_right _ _

theorem units_zero : layout.units 0 = 0 := BinaryFormat.units_low (BinaryFormat.lead_pos _)

/-- What is made quiet was no number, and is none. -/
theorem isNaN_quiet (h : x.isNaN = true) : x.quiet.isNaN = true := by
  unfold isNaN at h ⊢
  rw [decide_eq_true_eq] at h ⊢
  refine Nat.lt_of_lt_of_le h ?_
  have hsign : layout.signWeight = 2 ^ 63 := rfl
  unfold magnitude quiet
  rw [UInt64.toNat_or, hsign, Nat.or_mod_two_pow]
  exact Nat.left_le_or

/-! ## §2. Order. -/

/-- **Words with a sign are in the order of what they stand for.** -/
theorem signedUnits_mono (h : x.key ≤ y.key) : x.signedUnits ≤ y.signedUnits := by
  have hmono : ∀ {a b : Nat}, a ≤ b → layout.units a ≤ layout.units b :=
    fun hle => (BinaryFormat.units_strictMono _).monotone hle
  unfold key at h
  unfold signedUnits
  cases hx : x.negative <;> cases hy : y.negative <;>
    simp only [hx, hy, if_true, if_false, Bool.false_eq_true] at h ⊢
  · exact_mod_cast hmono (by omega)
  · -- Both are zeros.
    rw [show x.magnitude = 0 by omega, show y.magnitude = 0 by omega, units_zero]
    decide
  · omega
  · have hle := hmono (show y.magnitude ≤ x.magnitude by omega)
    omega

theorem unity_eq : unity = 2 ^ layout.unitPlaces := by
  unfold unity
  generalize layout.unitPlaces = places
  rfl

theorem unity_pos : 0 < unity := by
  rw [unity_eq]
  exact Nat.two_pow_pos _

theorem whole_of_isNaN (h : x.isNaN = true) : x.whole = 0 := if_pos h

theorem whole_of_number (h : x.isNaN = false) :
    x.whole = Max.max (-(2 ^ 63)) (Min.min (2 ^ 63 - 1) (x.signedUnits / unity)) := by
  unfold whole
  rw [h, if_neg (by simp)]
  rfl

/-- The integer below grows with the number. -/
theorem whole_mono (hx : x.isNaN = false) (hy : y.isNaN = false)
    (h : x.signedUnits ≤ y.signedUnits) : x.whole ≤ y.whole := by
  have hdiv : x.signedUnits / unity ≤ y.signedUnits / unity :=
    Int.ediv_le_ediv (Int.natCast_pos.mpr unity_pos) h
  rw [whole_of_number hx, whole_of_number hy]
  exact max_le_max_left _ (min_le_min_left _ hdiv)

/-- **An integer of 32 bits is a number of its own.** -/
theorem signedUnits_ofInt {n : Int} (h : n.natAbs ≤ 2 ^ 32) : (ofInt n).signedUnits = n * unity := by
  have hunity : (0 : Int) < unity := Int.natCast_pos.mpr unity_pos
  have hexact : layout.units (layout.nearest (n.natAbs * unity) 1) = n.natAbs * unity := by
    have hword := BinaryFormat.units_nearest (b := layout) (m := n.natAbs) (e := layout.unitPlaces)
      (le_trans h (by decide)) Nat.one_pos (le_refl _)
      (le_trans (Nat.mul_le_mul_right _ h) (by decide +kernel))
    rw [← unity_eq, Nat.mul_one] at hword
    exact hword
  unfold ofInt ofUnits
  split
  next hzero =>
    rw [hzero]
    show (ofMagnitude false 0).signedUnits = 0
    rw [signedUnits_ofMagnitude false (Nat.zero_le _), units_zero]
    rfl
  next hsome =>
    have hsign : n * (unity : Int) < 0 ↔ n < 0 := by
      constructor
      · exact fun hless => by_contra fun hpos =>
          absurd hless (not_lt.mpr (Int.mul_nonneg (not_lt.mp hpos) hunity.le))
      · exact fun hless => Int.mul_neg_of_neg_of_pos hless hunity
    rw [signedUnits_ofMagnitude _ (nearest_finite _ _), Int.natAbs_mul, Int.natAbs_natCast, hexact]
    by_cases hneg : n < 0
    · rw [decide_eq_true (hsign.mpr hneg), if_pos rfl, Nat.cast_mul,
        show ((n.natAbs : Nat) : Int) = -n by omega]
      ring
    · rw [decide_eq_false (fun hless => hneg (hsign.mp hless)), if_neg (by simp), Nat.cast_mul,
        show ((n.natAbs : Nat) : Int) = n by omega]

theorem isNaN_ofUnits (zeroSign : Bool) (n : Int) : (ofUnits zeroSign n).isNaN = false := by
  unfold ofUnits
  split
  · exact isNaN_ofMagnitude _ (Nat.zero_le _)
  · exact isNaN_ofMagnitude _ (nearest_finite _ _)

theorem isNaN_ofInt (n : Int) : (ofInt n).isNaN = false := isNaN_ofUnits false _

theorem whole_ofInt {n : Int} (h : n.natAbs ≤ 2 ^ 32) : (ofInt n).whole = n := by
  rw [whole_of_number (isNaN_ofInt n), signedUnits_ofInt h,
    Int.mul_ediv_cancel _ (Int.natCast_pos.mpr unity_pos).ne']
  omega

/-- What is held behind an integer is not below it. -/
theorem le_whole_max {n : Int} (h : n.natAbs ≤ 2 ^ 32) : n ≤ (x.max (ofInt n)).whole := by
  unfold Double.max
  split
  · exact (whole_ofInt h).ge
  next hbehind =>
    rw [Bool.or_eq_true, not_or, Bool.not_eq_true, Bool.not_eq_true] at hbehind
    obtain ⟨hx, hlt⟩ := hbehind
    unfold lt at hlt
    rw [hx, isNaN_ofInt, Bool.not_false, Bool.true_and, Bool.true_and, decide_eq_false_iff_not,
      not_lt] at hlt
    exact (whole_ofInt h).ge.trans (whole_mono (isNaN_ofInt n) hx (signedUnits_mono hlt))

/-- What is not above an integer is not behind it. -/
theorem whole_le {n : Int} (h : n.natAbs ≤ 2 ^ 32) (hle : x.le (ofInt n) = true) : x.whole ≤ n := by
  unfold le at hle
  rw [Bool.and_eq_true, Bool.and_eq_true, decide_eq_true_eq] at hle
  obtain ⟨⟨hx, _⟩, hkey⟩ := hle
  exact (whole_mono (by simpa using hx) (isNaN_ofInt n) (signedUnits_mono hkey)).trans
    (whole_ofInt h).le

/-! ## §3. Sums and quotients. -/

/-- **What is not below a number is not rounded below it.** -/
theorem le_ofUnits (hx : x.magnitude ≤ layout.infinity) {n : Int} (h : x.signedUnits ≤ n)
    (zeroSign : Bool) : x.signedUnits ≤ (ofUnits zeroSign n).signedUnits := by
  unfold ofUnits
  split
  next hzero =>
    show x.signedUnits ≤ (ofMagnitude zeroSign 0).signedUnits
    rw [signedUnits_ofMagnitude _ (Nat.zero_le _), units_zero]
    cases zeroSign <;> simpa using h.trans hzero.le
  next hsome =>
    rw [signedUnits_ofMagnitude _ (nearest_finite _ _)]
    by_cases hneg : n < 0
    · -- Then the number is negative too, and its magnitude is not smaller.
      have hunits : x.signedUnits = -(layout.units x.magnitude : Int) := by
        unfold signedUnits at h ⊢
        split at h
        next hx => rw [if_pos hx]
        · omega
      rw [hunits] at h ⊢
      have hword : layout.nearest n.natAbs 1 ≤ x.magnitude :=
        BinaryFormat.nearest_le Nat.one_pos (by omega)
      have hmono := (BinaryFormat.units_strictMono layout).monotone hword
      rw [decide_eq_true hneg, if_pos rfl]
      omega
    · rw [decide_eq_false hneg, if_neg (by simp)]
      unfold signedUnits at h ⊢
      split
      · omega
      next hx' =>
        rw [if_neg hx'] at h
        have hword : x.magnitude ≤ layout.nearest n.natAbs 1 :=
          BinaryFormat.le_nearest Nat.one_pos hx (by omega)
        have hmono := (BinaryFormat.units_strictMono layout).monotone hword
        exact_mod_cast hmono

/-- All integers below have 64 bits. -/
theorem whole_bounds (x : Double) : -(2 ^ 63) ≤ x.whole ∧ x.whole ≤ 2 ^ 63 - 1 := by
  cases h : x.isNaN with
  | true =>
      rw [whole_of_isNaN h]
      decide
  | false =>
      rw [whole_of_number h]
      generalize x.signedUnits / (unity : Int) = below
      omega

/-- An infinity is in front of all frames, or behind them. -/
theorem whole_infinite (h : x.magnitude = layout.infinity) :
    x.whole = if x.negative then -(2 ^ 63) else 2 ^ 63 - 1 := by
  have hbehind : (layout.units layout.infinity : Int) / unity = 2 ^ 1024 := by decide +kernel
  have hfront : -(layout.units layout.infinity : Int) / unity = -(2 ^ 1024) := by decide +kernel
  have hnumber : x.isNaN = false := by
    unfold isNaN
    rw [h]
    decide
  rw [whole_of_number hnumber]
  unfold signedUnits
  rw [h]
  cases x.negative with
  | false =>
      rw [if_neg (by simp), hbehind]
      decide +kernel
  | true =>
      rw [if_pos rfl, hfront]
      decide +kernel

/-- **Moving on never leads back**, wherever the position is. -/
theorem whole_add (hy : y.isNaN = false) (hnonneg : y.negative = false) (x : Double) :
    x.whole ≤ (x.add y).whole := by
  obtain ⟨hleast, hmost⟩ := x.whole_bounds
  unfold add
  split
  next hx =>
    rw [whole_of_isNaN hx, whole_of_isNaN (isNaN_quiet hx)]
  next hx =>
    rw [Bool.not_eq_true] at hx
    rw [if_neg (by simp [hy])]
    split
    next hinfinite =>
      have hmagnitude : x.magnitude = layout.infinity := by simpa [isInfinite] using hinfinite
      split
      next hapart =>
        -- Two infinities have no sum, and what is no number stands at the first frame.
        have hnegative : x.negative = true := by
          rw [hnonneg, Bool.and_eq_true, bne_iff_ne] at hapart
          simpa using hapart.2
        rw [whole_infinite hmagnitude, hnegative, if_pos rfl,
          whole_of_isNaN (show invalid.isNaN = true by decide)]
        decide
      · exact le_refl _
    next hfinite =>
      split
      next hinfinite =>
        have hmagnitude : y.magnitude = layout.infinity := by simpa [isInfinite] using hinfinite
        rw [whole_infinite hmagnitude, hnonneg, if_neg (by simp)]
        exact hmost
      · have hin : x.magnitude ≤ layout.infinity := by simpa [isNaN] using hx
        have hunits : 0 ≤ y.signedUnits := by
          unfold signedUnits
          rw [hnonneg, if_neg (by simp)]
          exact Int.natCast_nonneg _
        exact whole_mono hx (isNaN_ofUnits _ _) (le_ofUnits hin (by omega) _)

/-- A positive integer of 32 bits is a positive finite number. -/
theorem magnitude_ofInt {n : Nat} (hpos : 0 < n) (h : n ≤ 2 ^ 32) :
    0 < (ofInt n).magnitude ∧ (ofInt n).magnitude < layout.infinity
      ∧ (ofInt n).negative = false := by
  have hunits : (ofInt n).signedUnits = n * unity := signedUnits_ofInt (by simpa using h)
  have hsome : (0 : Int) < (ofInt n).signedUnits := by
    rw [hunits]
    exact Int.mul_pos (Int.natCast_pos.mpr hpos) (Int.natCast_pos.mpr unity_pos)
  have hsign : (ofInt n).negative = false := by
    by_contra hnegative
    unfold signedUnits at hsome
    rw [if_pos (by simpa using hnegative)] at hsome
    omega
  have hmagnitude : layout.units (ofInt n).magnitude = n * unity := by
    unfold signedUnits at hunits
    rw [hsign, if_neg (by simp)] at hunits
    exact_mod_cast hunits
  refine ⟨Nat.pos_of_ne_zero fun hzero => ?_, ?_, hsign⟩
  · rw [hzero, units_zero] at hmagnitude
    exact absurd hmagnitude (Nat.mul_pos hpos unity_pos).ne
  · refine (BinaryFormat.units_strictMono layout).lt_iff_lt.mp ?_
    rw [hmagnitude]
    exact Nat.lt_of_le_of_lt (Nat.mul_le_mul_right _ h) (by decide +kernel)

/-- The quotient of two of them has a sign and is a number. -/
theorem div_ofInt {num den : Nat} (hnum : 0 < num) (hnum' : num ≤ 2 ^ 32) (hden : 0 < den)
    (hden' : den ≤ 2 ^ 32) : ((ofInt num).div (ofInt den)).isNaN = false
      ∧ ((ofInt num).div (ofInt den)).negative = false := by
  obtain ⟨_, hless, hsign⟩ := magnitude_ofInt hnum hnum'
  obtain ⟨hpos, hless', hsign'⟩ := magnitude_ofInt hden hden'
  unfold div isInfinite
  dsimp only
  rw [isNaN_ofInt, isNaN_ofInt, hsign, hsign', if_neg (by simp), if_neg (by simp),
    decide_eq_false (by omega), if_neg (by simp), decide_eq_false (by omega), if_neg (by simp),
    if_neg (by omega)]
  exact ⟨isNaN_ofMagnitude _ (nearest_finite _ _), negative_ofMagnitude _ (nearest_finite _ _)⟩

end PcmRender.Double
