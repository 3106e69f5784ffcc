/-
  PcmRender.Proofs.Rounding — **what rounding to a binary format keeps.**

  A word of a binary format is `e · lead + m`, its exponent and its significand, and stands for
  `m · 2^e` units; both grow with the word (`units_strictMono`).  Of a quotient that is rounded to a
  word no more is needed than that it is not moved past a word:

      num / den   ≤   units word     so     nearest num den   ≤   word
      units word  ≤   num / den      so     word   ≤   nearest num den

  A word is therefore rounded to itself, and a bound that is a word survives each rounding.  Where
  there are bits to spare below, halving a number halves what it is rounded to (`nearest_scaled`).

  Quotients are compared crosswise, in natural numbers.
-/
import PcmRender.Number.Binary
import Mathlib.Data.Nat.Log
import Mathlib.Order.Monotone.Basic
import Mathlib.Tactic.Linarith
import Mathlib.Tactic.Ring

namespace PcmRender.BinaryFormat

/-! ## §1. Words and their parts. -/

/-- The weight of the leading bit of a significand. -/
def lead (b : BinaryFormat) : Nat := 2 ^ b.fractionBits

variable {b : BinaryFormat} {word num den : Nat}

theorem lead_pos (b : BinaryFormat) : 0 < b.lead := Nat.two_pow_pos _

/-- Below the normal range a word is its number of units. -/
theorem units_low (h : word < b.lead) : b.units word = word := by
  unfold units split
  dsimp only
  rw [show Nat.pow 2 b.fractionBits = b.lead from rfl, if_pos (Nat.div_eq_of_lt h)]
  exact Nat.mul_one word

/-- In it, the exponent and the fraction stand side by side in the word. -/
theorem units_high (b : BinaryFormat) {fraction : Nat} (h : fraction < b.lead) (e : Nat) :
    b.units ((e + 1) * b.lead + fraction) = (b.lead + fraction) * 2 ^ e := by
  have hfield : ((e + 1) * b.lead + fraction) / b.lead = e + 1 := by
    rw [Nat.mul_comm, Nat.mul_add_div b.lead_pos, Nat.div_eq_of_lt h, Nat.add_zero]
  have hrest : ((e + 1) * b.lead + fraction) % b.lead = fraction := by
    rw [Nat.mul_comm, Nat.mul_add_mod, Nat.mod_eq_of_lt h]
  unfold units split
  dsimp only
  rw [show Nat.pow 2 b.fractionBits = b.lead from rfl, hfield, hrest, if_neg (Nat.succ_ne_zero e)]
  rfl

/-- The significand and the exponent of a word.  A significand that is rounded up to the next power of
two counts as one, since the word is the same. -/
structure Parts (b : BinaryFormat) (word m e : Nat) : Prop where
  word : word = e * b.lead + m
  /-- With an exponent there is a leading bit. -/
  normal : e = 0 ∨ b.lead ≤ m
  le : m ≤ 2 * b.lead

/-- **What a word stands for**, by its parts. -/
theorem Parts.units {m e : Nat} (h : b.Parts word m e) : b.units word = m * 2 ^ e := by
  obtain ⟨rfl, hnormal, hle⟩ := h
  rcases Nat.lt_or_ge m b.lead with hlow | hhigh
  · obtain rfl : e = 0 := by omega
    rw [Nat.zero_mul, Nat.zero_add, units_low hlow, Nat.pow_zero, Nat.mul_one]
  · rcases Nat.lt_or_ge m (2 * b.lead) with hless | hfull
    · rw [show e * b.lead + m = (e + 1) * b.lead + (m - b.lead) by rw [Nat.succ_mul]; omega,
        units_high b (by omega), show b.lead + (m - b.lead) = m by omega]
    · obtain rfl : m = 2 * b.lead := by omega
      rw [show e * b.lead + 2 * b.lead = (e + 1 + 1) * b.lead + 0 by ring,
        units_high b b.lead_pos]
      ring

/-- Every word has parts. -/
theorem exists_parts (b : BinaryFormat) (word : Nat) :
    ∃ m e, b.Parts word m e ∧ m < 2 * b.lead := by
  have hmod := Nat.mod_lt word b.lead_pos
  have hdiv := Nat.div_add_mod' word b.lead
  cases hfield : word / b.lead with
  | zero =>
      rw [hfield, Nat.zero_mul, Nat.zero_add] at hdiv
      exact ⟨word, 0, ⟨by omega, .inl rfl, by omega⟩, by omega⟩
  | succ e =>
      rw [hfield, Nat.succ_mul] at hdiv
      exact ⟨b.lead + word % b.lead, e, ⟨by omega, .inr (by omega), by omega⟩, by omega⟩

/-- **The next word stands for more.** -/
theorem units_strictMono (b : BinaryFormat) : StrictMono b.units := by
  refine strictMono_nat_of_lt_succ fun word => ?_
  obtain ⟨m, e, hparts, hless⟩ := b.exists_parts word
  have hnext : b.Parts (word + 1) (m + 1) e :=
    ⟨by rw [hparts.word]; omega, by have hnormal := hparts.normal; omega, by omega⟩
  rw [hparts.units, hnext.units]
  exact Nat.mul_lt_mul_of_pos_right (Nat.lt_succ_self m) (Nat.two_pow_pos e)

/-- In the normal range a power of two is so many exponents. -/
theorem units_add (h : b.lead ≤ word) (places : Nat) :
    b.units (word + places * b.lead) = b.units word * 2 ^ places := by
  obtain ⟨m, e, hparts, hless⟩ := b.exists_parts word
  have hscaled : b.Parts (word + places * b.lead) m (e + places) := by
    refine ⟨by rw [hparts.word]; ring, ?_, hparts.le⟩
    rcases hparts.normal with rfl | hnormal
    · have hword := hparts.word
      omega
    · exact .inr hnormal
  rw [hparts.units, hscaled.units, Nat.pow_add, Nat.mul_assoc]

/-! ## §2. Quotients rounded to integers. -/

/-- What is not above an integer is not rounded above it. -/
theorem roundEven_le (hden : 0 < den) {n : Nat} (h : num ≤ n * den) : roundEven num den ≤ n := by
  have hdiv := Nat.div_add_mod' num den
  have hmod := Nat.mod_lt num hden
  have hle : num / den ≤ n := Nat.div_le_of_le_mul (by rw [Nat.mul_comm]; exact h)
  unfold roundEven
  dsimp only
  rcases Nat.lt_or_ge (num / den) n with hless | hall
  · split_ifs <;> omega
  · -- It is the integer itself, with nothing left.
    have heq : num / den = n := by omega
    rw [heq] at hdiv ⊢
    rw [if_pos (by omega)]

/-- What is not below an integer is not rounded below it. -/
theorem le_roundEven (hden : 0 < den) {n : Nat} (h : n * den ≤ num) : n ≤ roundEven num den := by
  have hle : n ≤ num / den := (Nat.le_div_iff_mul_le hden).mpr h
  unfold roundEven
  dsimp only
  split_ifs <;> omega

theorem roundEven_mul {c : Nat} (hc : 0 < c) (num den : Nat) :
    roundEven (num * c) (den * c) = roundEven num den := by
  have hrest : 2 * (num * c % (den * c)) = 2 * (num % den) * c := by
    rw [Nat.mul_mod_mul_right, Nat.mul_assoc]
  unfold roundEven
  dsimp only
  rw [Nat.mul_div_mul_right _ _ hc, hrest]
  simp only [Nat.mul_lt_mul_right hc]

/-- What is rounded away from zero grows with what is rounded. -/
theorem roundAway_mono {more : Nat} (h : num ≤ more) : roundAway num den ≤ roundAway more den :=
  Nat.div_le_div_right (by omega)

theorem roundAway_le (hden : 0 < den) {n : Nat} (h : num ≤ n * den) : roundAway num den ≤ n := by
  unfold roundAway
  refine Nat.le_of_lt_succ ((Nat.div_lt_iff_lt_mul (by omega)).mpr ?_)
  rw [show n.succ * (2 * den) = 2 * (n * den) + 2 * den by rw [Nat.succ_mul]; ring]
  omega

/-! ## §3. Quotients rounded to words. -/

/-- The exponent of the word that a quotient is rounded to. -/
def exponentOf (b : BinaryFormat) (num den : Nat) : Nat := (num / den).log2 - b.fractionBits

/-- A quotient before its word is cut off at infinity: its parts, and where it lies by its exponent. -/
structure Rounds (b : BinaryFormat) (num den m e : Nat) : Prop where
  parts : b.Parts (e * b.lead + m) m e
  /-- Its significand is rounded at the weight of the exponent. -/
  rounded : m = roundEven num (den * 2 ^ e)
  nearest : b.nearest num den = min (e * b.lead + m) b.infinity
  below : num < 2 * b.lead * (den * 2 ^ e)
  above : e = 0 ∨ b.lead * (den * 2 ^ e) ≤ num

theorem exists_rounds (b : BinaryFormat) (num : Nat) (hden : 0 < den) :
    ∃ m, b.Rounds num den m (b.exponentOf num den) := by
  generalize he : b.exponentOf num den = e
  have hexp : e = (num / den).log2 - b.fractionBits := he.symm
  have hunit : 0 < den * 2 ^ e := Nat.mul_pos hden (Nat.two_pow_pos e)
  have hbelow : num < 2 * b.lead * (den * 2 ^ e) := by
    have hlog : num / den < 2 ^ ((num / den).log2 + 1) := Nat.lt_log2_self
    have hpow : 2 ^ ((num / den).log2 + 1) ≤ 2 * b.lead * 2 ^ e := by
      rw [lead, ← Nat.pow_succ', ← Nat.pow_add]
      exact Nat.pow_le_pow_right (by decide) (by omega)
    have hless := (Nat.div_lt_iff_lt_mul hden).mp (Nat.lt_of_lt_of_le hlog hpow)
    calc num < 2 * b.lead * 2 ^ e * den := hless
      _ = 2 * b.lead * (den * 2 ^ e) := by ring
  have habove : e = 0 ∨ b.lead * (den * 2 ^ e) ≤ num := by
    rcases Nat.eq_zero_or_pos e with hzero | hpos
    · exact .inl hzero
    · refine .inr ?_
      have hlarge : num / den ≠ 0 := by
        intro hzero
        rw [hzero, Nat.log2_zero] at hexp
        omega
      have hlog := Nat.log2_self_le hlarge
      have hdiv := (Nat.le_div_iff_mul_le hden).mp hlog
      calc b.lead * (den * 2 ^ e) = 2 ^ (b.fractionBits + e) * den := by rw [lead, Nat.pow_add]; ring
        _ = 2 ^ (num / den).log2 * den := by rw [show b.fractionBits + e = (num / den).log2 by omega]
        _ ≤ num := hdiv
  refine ⟨roundEven num (den * 2 ^ e), ⟨rfl, ?_, roundEven_le hunit (by omega)⟩, rfl, ?_, hbelow,
    habove⟩
  · exact habove.imp_right (le_roundEven hunit)
  · rw [hexp]
    rfl

/-- **Where the leading bit stands is known**, only the significand is rounded. -/
theorem units_nearest_leading {e : Nat} (hden : 0 < den) (hlow : b.lead * (den * 2 ^ e) ≤ num)
    (hhigh : num < 2 * b.lead * (den * 2 ^ e)) (hfinite : b.nearest num den < b.infinity) :
    b.units (b.nearest num den) = roundEven num (den * 2 ^ e) * 2 ^ e := by
  have hleast : 2 ^ (b.fractionBits + e) ≤ num / den := by
    refine (Nat.le_div_iff_mul_le hden).mpr (le_trans (le_of_eq ?_) hlow)
    rw [lead, Nat.pow_add]
    ring
  have hmost : num / den < 2 ^ (b.fractionBits + e + 1) := by
    refine (Nat.div_lt_iff_lt_mul hden).mpr (lt_of_lt_of_le hhigh (le_of_eq ?_))
    rw [lead, Nat.pow_succ, Nat.pow_add]
    ring
  have hlog : (num / den).log2 = b.fractionBits + e := by
    refine (Nat.log2_eq_iff ?_).mpr ⟨hleast, hmost⟩
    have hpow := Nat.two_pow_pos (b.fractionBits + e)
    omega
  have hexp : b.exponentOf num den = e := by
    unfold exponentOf
    omega
  obtain ⟨m, hround⟩ := b.exists_rounds num hden
  rw [hexp] at hround
  have hword : b.nearest num den = e * b.lead + m := by
    have hnearest := hround.nearest
    omega
  rw [hword, hround.parts.units, ← hround.rounded]

/-- **What is not above a word is not rounded above it.** -/
theorem nearest_le (hden : 0 < den) (h : num ≤ b.units word * den) : b.nearest num den ≤ word := by
  obtain ⟨m, hround⟩ := b.exists_rounds num hden
  generalize b.exponentOf num den = e at hround
  obtain ⟨n, f, hparts, hless⟩ := b.exists_parts word
  rw [hparts.units] at h
  rw [hround.nearest]
  refine le_trans (Nat.min_le_left _ _) ?_
  have hword := hparts.word
  rcases Nat.lt_trichotomy e f with hlow | rfl | hhigh
  · -- It is below the exponent of the word, and may at most be rounded up to the next one.
    have hm := hround.parts.le
    have hn : b.lead ≤ n := hparts.normal.resolve_left (by omega)
    have hexps : (e + 1) * b.lead ≤ f * b.lead := Nat.mul_le_mul_right _ hlow
    rw [Nat.succ_mul] at hexps
    omega
  · have hm : m ≤ n := by
      rw [hround.rounded]
      refine roundEven_le (Nat.mul_pos hden (Nat.two_pow_pos e)) (le_trans h (le_of_eq ?_))
      ring
    omega
  · -- It cannot be above it.
    have habove := hround.above.resolve_left (by omega)
    have hpow : 2 * 2 ^ f ≤ 2 ^ e := by
      rw [← Nat.pow_succ']
      exact Nat.pow_le_pow_right (by decide) hhigh
    have hcontra : b.lead * (den * 2 ^ e) < b.lead * (den * 2 ^ e) := by
      calc b.lead * (den * 2 ^ e) ≤ n * 2 ^ f * den := le_trans habove h
        _ < 2 * b.lead * 2 ^ f * den := by
          exact Nat.mul_lt_mul_of_pos_right
            (Nat.mul_lt_mul_of_pos_right hless (Nat.two_pow_pos f)) hden
        _ = b.lead * (den * (2 * 2 ^ f)) := by ring
        _ ≤ b.lead * (den * 2 ^ e) := Nat.mul_le_mul_left _ (Nat.mul_le_mul_left _ hpow)
    exact absurd hcontra (Nat.lt_irrefl _)

/-- **What is not below a word is not rounded below it.** -/
theorem le_nearest (hden : 0 < den) (hfinite : word ≤ b.infinity) (h : b.units word * den ≤ num) :
    word ≤ b.nearest num den := by
  obtain ⟨m, hround⟩ := b.exists_rounds num hden
  generalize b.exponentOf num den = e at hround
  obtain ⟨n, f, hparts, hless⟩ := b.exists_parts word
  rw [hparts.units] at h
  rw [hround.nearest]
  refine le_min ?_ hfinite
  have hword := hparts.word
  rcases Nat.lt_trichotomy f e with hlow | rfl | hhigh
  · have hm : b.lead ≤ m := hround.parts.normal.resolve_left (by omega)
    have hexps : (f + 1) * b.lead ≤ e * b.lead := Nat.mul_le_mul_right _ hlow
    rw [Nat.succ_mul] at hexps
    omega
  · have hm : n ≤ m := by
      rw [hround.rounded]
      refine le_roundEven (Nat.mul_pos hden (Nat.two_pow_pos f)) (le_trans (le_of_eq ?_) h)
      ring
    omega
  · have hn : b.lead ≤ n := hparts.normal.resolve_left (by omega)
    have hpow : 2 * 2 ^ e ≤ 2 ^ f := by
      rw [← Nat.pow_succ']
      exact Nat.pow_le_pow_right (by decide) hhigh
    have hcontra : num < num := by
      calc num < 2 * b.lead * (den * 2 ^ e) := hround.below
        _ = b.lead * (2 * 2 ^ e) * den := by ring
        _ ≤ n * 2 ^ f * den := Nat.mul_le_mul_right _ (Nat.mul_le_mul hn hpow)
        _ ≤ num := h
    exact absurd hcontra (Nat.lt_irrefl _)

/-- **A word is rounded to itself.** -/
theorem nearest_units (hden : 0 < den) (hfinite : word ≤ b.infinity) :
    b.nearest (b.units word * den) den = word :=
  Nat.le_antisymm (nearest_le hden (le_refl _)) (le_nearest hden hfinite (le_refl _))

/-- A quotient may be reduced. -/
theorem nearest_mul {c : Nat} (hc : 0 < c) (b : BinaryFormat) (num den : Nat) :
    b.nearest (num * c) (den * c) = b.nearest num den := by
  unfold nearest
  dsimp only
  rw [Nat.mul_div_mul_right _ _ hc, Nat.mul_right_comm, roundEven_mul hc]

/-- **A significand at any exponent is that of a word.**  The induction is on the exponent: a
significand without its leading bit is doubled until it has it, or the exponent is used up. -/
theorem exists_word (b : BinaryFormat) : ∀ (e m : Nat), m ≤ 2 * b.lead →
    ∃ word, b.units word = m * 2 ^ e := by
  intro e
  induction e with
  | zero => exact fun m hm => ⟨0 * b.lead + m, Parts.units ⟨rfl, .inl rfl, hm⟩⟩
  | succ e ih =>
      intro m hm
      rcases Nat.lt_or_ge m b.lead with hlow | hhigh
      · obtain ⟨word, hword⟩ := ih (2 * m) (by omega)
        exact ⟨word, by rw [hword, Nat.pow_succ]; ring⟩
      · exact ⟨(e + 1) * b.lead + m, Parts.units ⟨rfl, .inr hhigh, hm⟩⟩

/-- So no number is rounded above it, -/
theorem units_nearest_le {m e : Nat} (hm : m ≤ 2 * b.lead) (hden : 0 < den)
    (h : num ≤ m * 2 ^ e * den) : b.units (b.nearest num den) ≤ m * 2 ^ e := by
  obtain ⟨word, hword⟩ := b.exists_word e m hm
  rw [← hword] at h ⊢
  exact b.units_strictMono.monotone (nearest_le hden h)

/-- and none below it, if there is a finite word that is no smaller. -/
theorem le_units_nearest {m e top : Nat} (hm : m ≤ 2 * b.lead) (hden : 0 < den)
    (htop : top ≤ b.infinity) (hle : m * 2 ^ e ≤ b.units top) (h : m * 2 ^ e * den ≤ num) :
    m * 2 ^ e ≤ b.units (b.nearest num den) := by
  obtain ⟨word, hword⟩ := b.exists_word e m hm
  rw [← hword] at hle h ⊢
  exact b.units_strictMono.monotone
    (le_nearest hden (le_trans (b.units_strictMono.le_iff_le.mp hle) htop) h)

/-- It is rounded to itself. -/
theorem units_nearest {m e top : Nat} (hm : m ≤ 2 * b.lead) (hden : 0 < den)
    (htop : top ≤ b.infinity) (hle : m * 2 ^ e ≤ b.units top) :
    b.units (b.nearest (m * 2 ^ e * den) den) = m * 2 ^ e :=
  Nat.le_antisymm (units_nearest_le hm hden (le_refl _))
    (le_units_nearest hm hden htop hle (le_refl _))

/-- The logarithm of a number that is divided by a power of two. -/
theorem log2_div_pow {n places : Nat} (hn : n ≠ 0) (h : places ≤ n.log2) :
    (n / 2 ^ places).log2 = n.log2 - places := by
  have hpow := Nat.two_pow_pos places
  have hlow : 2 ^ (n.log2 - places) ≤ n / 2 ^ places := by
    rw [Nat.le_div_iff_mul_le hpow, ← Nat.pow_add, Nat.sub_add_cancel h]
    exact Nat.log2_self_le hn
  have hhigh : n / 2 ^ places < 2 ^ (n.log2 - places + 1) := by
    rw [Nat.div_lt_iff_lt_mul hpow, ← Nat.pow_add,
      show n.log2 - places + 1 + places = n.log2 + 1 by omega]
    exact Nat.lt_log2_self
  refine (Nat.log2_eq_iff ?_).mpr ⟨hlow, hhigh⟩
  have hone := Nat.two_pow_pos (n.log2 - places)
  omega

/-- **A power of two is taken out of the exponent**, where what is left is in the normal range. -/
theorem nearest_scaled (hden : 0 < den) {places : Nat}
    (h : 2 ^ (b.fractionBits + places) * den ≤ num) (hfinite : b.nearest num den < b.infinity) :
    b.nearest num den = b.nearest num (den * 2 ^ places) + places * b.lead := by
  have hlarge : 2 ^ (b.fractionBits + places) ≤ num / den := (Nat.le_div_iff_mul_le hden).mpr h
  have hpos : num / den ≠ 0 := by
    have hpow := Nat.two_pow_pos (b.fractionBits + places)
    omega
  have hlog : b.fractionBits + places ≤ (num / den).log2 := (Nat.le_log2 hpos).mpr hlarge
  have hexp : b.exponentOf num (den * 2 ^ places) = b.exponentOf num den - places := by
    unfold exponentOf
    rw [← Nat.div_div_eq_div_mul, log2_div_pow hpos (by omega)]
    omega
  have hplaces : places ≤ b.exponentOf num den := by
    unfold exponentOf
    omega
  obtain ⟨m, hround⟩ := b.exists_rounds num hden
  obtain ⟨n, hscaled⟩ := b.exists_rounds num (Nat.mul_pos hden (Nat.two_pow_pos places))
  rw [hexp] at hscaled
  obtain ⟨rest, hrest⟩ := Nat.exists_eq_add_of_le' hplaces
  rw [hrest] at hround hscaled
  rw [Nat.add_sub_cancel] at hscaled
  have hsame : n = m := by
    rw [hround.rounded, hscaled.rounded, Nat.pow_add]
    congr 1
    ring
  have hword := hround.nearest
  have hword' := hscaled.nearest
  rw [hsame] at hword'
  rw [Nat.add_mul] at hword
  omega

/-- So what is divided by a power of two is rounded to the same, divided by it. -/
theorem units_nearest_scaled (hden : 0 < den) (places : Nat)
    (h : 2 ^ (b.fractionBits + places) * den ≤ num) (hfinite : b.nearest num den < b.infinity) :
    b.units (b.nearest num den) = b.units (b.nearest num (den * 2 ^ places)) * 2 ^ places := by
  have hunits : b.units b.lead = b.lead := by
    have hparts : b.Parts b.lead b.lead 0 := ⟨by omega, .inl rfl, by omega⟩
    rw [hparts.units, Nat.pow_zero, Nat.mul_one]
  have hinfinity : b.lead ≤ b.infinity := by
    have hpos : 0 < (2 ^ b.exponentBits - 1) * b.lead := Nat.lt_of_le_of_lt (Nat.zero_le _) hfinite
    exact Nat.le_mul_of_pos_left _ (Nat.pos_of_mul_pos_right hpos)
  have hnormal : b.lead ≤ b.nearest num (den * 2 ^ places) := by
    refine le_nearest (Nat.mul_pos hden (Nat.two_pow_pos places)) hinfinity (le_trans (le_of_eq ?_) h)
    rw [hunits, lead, Nat.pow_add]
    ring
  rw [nearest_scaled hden h hfinite, units_add hnormal]

end PcmRender.BinaryFormat
