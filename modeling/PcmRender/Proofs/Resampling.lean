/-
  PcmRender.Proofs.Resampling — **a converted stream does not show where it was cut.**

  With exact positions and amplitudes a resampler draws straight lines through its whole stream, and
  reads them at the multiples of its step:

      heard k   =   lineAt (whole stream) (k · step)        for k · step ≤ frames − 1

  A chunk sees only a window of the stream.  After `M` frames the resampler keeps

      history     frame M − 1 of the stream
      position    the first multiple of the step behind frame M − 1, seen from frame M

  and from these two it answers every multiple of the step up to the last frame of the next chunk:
  the line that crosses the border between two chunks begins at the history (`heardAt?_eq`).  The
  next frame at the end of a chunk is held inside of it; that is harmless, because the position is
  then exactly at its frame.

  `After` is this invariant.  A chunk keeps it (`after_process?`), and so does every way of cutting a
  stream (`after_processAll?`).
-/
import PcmRender.Number.Exact
import PcmRender.Proofs.Sample
import PcmRender.Stage.Linear
import Mathlib.Tactic.Linarith
import Mathlib.Tactic.Positivity

namespace PcmRender

namespace LinearResampler

/-! ## §1. Lines through a stream. -/

/-- Frame `i` of interleaved samples. -/
def frame (channels : Nat) (samples : List ℚ) (i : Nat) : List ℚ :=
  (samples.drop (i * channels)).take channels

/-- What a stream sounds like at time `t`, counted in frames: in every channel, the point on the
straight line from the frame before `t` to the frame behind it. -/
def lineAt (channels : Nat) (samples : List ℚ) (t : ℚ) : List ℚ :=
  List.zipWith (fun a b => a + (b - a) * Int.fract t) (frame channels samples ⌊t⌋.toNat)
    (frame channels samples ⌈t⌉.toNat)

variable {channels : Nat} {samples chunk : List ℚ}

theorem length_frame {i : Nat} (h : (i + 1) * channels ≤ samples.length) :
    (frame channels samples i).length = channels := by
  rw [Nat.succ_mul] at h
  unfold frame
  rw [List.length_take, List.length_drop]
  omega

/-- More samples do not change the frames in front of them. -/
theorem frame_append {i : Nat} (h : (i + 1) * channels ≤ samples.length) (more : List ℚ) :
    frame channels (samples ++ more) i = frame channels samples i := by
  rw [Nat.succ_mul] at h
  unfold frame
  rw [List.drop_append_of_le_length (by omega),
    List.take_append_of_le_length (by rw [List.length_drop]; omega)]

/-- Frames behind a stream are counted on from its end. -/
theorem frame_behind {before : Nat} (h : samples.length = before * channels) (i : Nat) :
    frame channels (samples ++ chunk) (before + i) = frame channels chunk i := by
  unfold frame
  rw [Nat.add_mul, ← h, List.drop_append, List.drop_eq_nil_of_le (by omega), List.nil_append,
    Nat.add_sub_cancel_left]

/-- A position inside of a stream sounds the same, however the stream goes on. -/
theorem lineAt_append {frames : Nat} (h : samples.length = frames * channels) {t : ℚ}
    (hlow : 0 ≤ t) (hhigh : t ≤ (frames : ℚ) - 1) (more : List ℚ) :
    lineAt channels (samples ++ more) t = lineAt channels samples t := by
  have hceil : ⌈t⌉ ≤ (frames : Int) - 1 := by
    rw [Int.ceil_le]
    push_cast
    exact hhigh
  have hfloor : ⌊t⌋ ≤ ⌈t⌉ := Int.floor_le_ceil t
  have hnonneg : 0 ≤ ⌊t⌋ := Int.floor_nonneg.mpr hlow
  have hinside : ∀ i : Nat, (i : Int) ≤ (frames : Int) - 1 →
      (i + 1) * channels ≤ samples.length := by
    intro i hi
    rw [h]
    exact Nat.mul_le_mul_right channels (by omega)
  unfold lineAt
  rw [frame_append (hinside _ (by omega)), frame_append (hinside _ (by omega))]

/-! ## §2. One position of a chunk. -/

/-- The last of the first `count` frames of a stream, if there is one. -/
def last? (channels : Nat) (samples : List ℚ) (count : Nat) : Option (List ℚ) :=
  if count = 0 then none else some (frame channels samples (count - 1))

/-- **Every frame that a chunk can see** is a frame of the stream: from the one before the chunk, if
there is one, to the last of the chunk. -/
theorem frameAt?_eq {before frames : Nat} (hs : samples.length = before * channels)
    (hc : chunk.length = frames * channels) {index : Int} (hlow : -1 ≤ index)
    (hfirst : before = 0 → 0 ≤ index) (hhigh : index < frames) :
    frameAt? channels (last? channels samples before) chunk.toArray index
      = some (frame channels (samples ++ chunk) ((before : Int) + index).toNat) := by
  unfold frameAt?
  by_cases hneg : index < 0
  · -- This is the frame that is remembered.
    have hindex : index = -1 := by omega
    have hbefore : before ≠ 0 := fun hzero => by have := hfirst hzero; omega
    have hplace : ((before : Int) + index).toNat = before - 1 := by omega
    have hinside : (before - 1 + 1) * channels ≤ samples.length := by
      rw [hs, Nat.sub_add_cancel (Nat.pos_of_ne_zero hbefore)]
    rw [if_pos hneg, hplace, frame_append hinside]
    unfold last?
    rw [if_neg hbefore]
  · have hplace : ((before : Int) + index).toNat = before + index.toNat := by omega
    have hinside : index.toNat * channels + channels ≤ chunk.length := by
      rw [hc, ← Nat.succ_mul]
      exact Nat.mul_le_mul_right channels (by omega)
    rw [if_neg hneg, hplace, frame_behind hs]
    unfold frameAt?.slice? frame
    rw [if_pos (by simpa using hinside), Array.toList_extract, List.extract_eq_take_drop,
      Nat.add_sub_cancel_left]

/-- Where a line begins, its other end does not matter. -/
theorem zipWith_at_start : ∀ {a b : List ℚ}, a.length = b.length →
    List.zipWith (fun x y => x + (y - x) * 0) a b = a
  | [], _, _ => rfl
  | x :: a, y :: b, h => by
      rw [List.zipWith_cons_cons, zipWith_at_start (Nat.succ.inj h), mul_zero, add_zero]

/-- **What is heard in a chunk** is the line through the stream, read at the place where the chunk
stands in it. -/
theorem heardAt?_eq {before frames : Nat} (hs : samples.length = before * channels)
    (hc : chunk.length = frames * channels) {t : ℚ} (hlow : -1 ≤ t)
    (hfirst : before = 0 → 0 ≤ t) (hhigh : t ≤ (frames : ℚ) - 1) :
    heardAt? channels frames (last? channels samples before) chunk.toArray t
      = some (lineAt channels (samples ++ chunk) (before + t)) := by
  have hbase : -1 ≤ ⌊t⌋ := by
    rw [Int.le_floor]
    push_cast
    exact hlow
  have hbase' : before = 0 → 0 ≤ ⌊t⌋ := fun h => Int.floor_nonneg.mpr (hfirst h)
  have hfloor : ⌊t⌋ ≤ (frames : Int) - 1 := by
    have hle := Int.floor_le_floor hhigh
    rwa [Int.floor_sub_one, Int.floor_natCast] at hle
  have hceil : ⌈t⌉ ≤ (frames : Int) - 1 := by
    rw [Int.ceil_le]
    push_cast
    exact hhigh
  have habove : ⌈t⌉ ≤ ⌊t⌋ + 1 := Int.ceil_le_floor_add_one t
  unfold heardAt?
  show ((frameAt? channels (last? channels samples before) chunk.toArray ⌊t⌋).bind fun a =>
    (frameAt? channels (last? channels samples before) chunk.toArray
      (min (⌊t⌋ + 1) ((frames : Int) - 1))).bind fun b =>
      some (List.zipWith (fun x y => x + (y - x) * Int.fract t) a b)) = _
  rw [frameAt?_eq hs hc hbase hbase' (by omega),
    frameAt?_eq hs hc (by omega) (fun h => by have := hbase' h; omega) (by omega)]
  unfold lineAt
  rw [show (before : ℚ) + t = ((before : Int) : ℚ) + t by push_cast; rfl, Int.floor_intCast_add,
    Int.ceil_intCast_add, Int.fract_intCast_add]
  simp only [Option.bind_some, Option.some.injEq]
  by_cases hwhole : Int.fract t = 0
  · -- The position is exactly at a frame, so nothing of the next one is heard.
    have hsame : ⌈t⌉ = ⌊t⌋ := by
      have ht : t = ⌊t⌋ := by
        have := Int.floor_add_fract t
        rw [hwhole, add_zero] at this
        exact this.symm
      rw [ht, Int.ceil_intCast, Int.floor_intCast]
    have hinside : ∀ index : Int, -1 ≤ index → (before = 0 → 0 ≤ index) → index < frames →
        (frame channels (samples ++ chunk) ((before : Int) + index).toNat).length = channels := by
      intro index hl hf hh
      apply length_frame
      rw [List.length_append, hs, hc, ← Nat.add_mul]
      exact Nat.mul_le_mul_right channels (by omega)
    have hleft := hinside ⌊t⌋ hbase hbase' (by omega)
    have hright := hinside (min (⌊t⌋ + 1) ((frames : Int) - 1)) (by omega)
      (fun h => by have := hbase' h; omega) (by omega)
    rw [hsame, hwhole, zipWith_at_start (hleft.trans hright.symm),
      zipWith_at_start (hleft.trans hleft.symm)]
  · -- Between two frames there is a next one inside of the chunk.
    have hnext : ⌈t⌉ = ⌊t⌋ + 1 := by
      have hcast : ((⌈t⌉ : Int) : ℚ) = ((⌊t⌋ + 1 : Int) : ℚ) := by
        rw [Int.ceil_eq_add_one_sub_fract hwhole]
        push_cast
        linarith [Int.self_sub_fract t]
      exact_mod_cast hcast
    rw [hnext, min_eq_left (by omega)]

/-! ## §3. How far a stream is heard. -/

/-- How many multiples of the step are not behind the last of `frames` frames. -/
def heardIn (input output : Format) (frames : Nat) : Nat :=
  if frames = 0 then 0 else (frames - 1) * output.rate / input.rate + 1

/-- What is heard of a stream after its first `m` frames and up to the `n`-th. -/
def heardBetween (input output : Format) (samples : List ℚ) (m n : Nat) : List (List ℚ) :=
  (List.range' (heardIn input output m) (heardIn input output n - heardIn input output m)).map
    fun k : Nat => lineAt input.channels samples ((k : ℚ) * (input.rate / output.rate))

variable {input output : Format}

theorem lt_heardIn_iff (hin : 0 < input.rate) (hout : 0 < output.rate) (frames k : Nat) :
    k < heardIn input output frames
      ↔ (k : ℚ) * (input.rate / output.rate) ≤ (frames : ℚ) - 1 := by
  have houtq : (0 : ℚ) < output.rate := by exact_mod_cast hout
  unfold heardIn
  cases frames with
  | zero =>
      have hnonneg : (0 : ℚ) ≤ (k : ℚ) * (input.rate / output.rate) := by positivity
      rw [if_pos rfl, Nat.cast_zero]
      constructor
      · intro h
        omega
      · intro h
        linarith
  | succ last =>
      rw [if_neg (Nat.succ_ne_zero last), Nat.add_sub_cancel, Nat.lt_succ_iff,
        Nat.le_div_iff_mul_le hin, Nat.cast_succ, add_sub_cancel_right, ← mul_div_assoc,
        div_le_iff₀ houtq]
      exact_mod_cast Iff.rfl

theorem heardIn_mono {m n : Nat} (h : m ≤ n) : heardIn input output m ≤ heardIn input output n := by
  unfold heardIn
  by_cases hm : m = 0
  · rw [if_pos hm]
    exact Nat.zero_le _
  · rw [if_neg hm, if_neg (by omega)]
    exact Nat.succ_le_succ (Nat.div_le_div_right (Nat.mul_le_mul_right _ (by omega)))

/-- **The steps that a chunk is given are enough** for what is heard in it. -/
theorem heardIn_le_bound (hin : 0 < input.rate) (before frames : Nat) :
    heardIn input output (before + frames) - heardIn input output before
      ≤ (frames + 2) * output.rate / input.rate + 2 := by
  unfold heardIn
  by_cases hframes : before + frames = 0
  · rw [if_pos hframes, Nat.zero_sub]
    exact Nat.zero_le _
  · rw [if_neg hframes]
    by_cases hbefore : before = 0
    · subst hbefore
      have hle : (0 + frames - 1) * output.rate / input.rate
          ≤ (frames + 2) * output.rate / input.rate :=
        Nat.div_le_div_right (Nat.mul_le_mul_right _ (by omega))
      rw [if_pos rfl, Nat.sub_zero]
      exact Nat.add_le_add hle (by omega)
    · -- A sum divided is at most one more than the quotients of its parts.
      have hsum : (before + frames - 1) * output.rate
          = (before - 1) * output.rate + frames * output.rate := by
        rw [← Nat.add_mul]
        congr 1
        omega
      have hparts : ((before - 1) * output.rate + frames * output.rate) / input.rate
          ≤ (before - 1) * output.rate / input.rate + frames * output.rate / input.rate + 1 := by
        rw [Nat.add_div hin]
        split <;> omega
      have hle : frames * output.rate / input.rate ≤ (frames + 2) * output.rate / input.rate :=
        Nat.div_le_div_right (Nat.mul_le_mul_right _ (by omega))
      rw [if_neg hbefore, hsum, Nat.sub_le_iff_le_add]
      calc _ ≤ (before - 1) * output.rate / input.rate + frames * output.rate / input.rate + 1 + 1 :=
            Nat.succ_le_succ hparts
        _ ≤ (before - 1) * output.rate / input.rate
            + (frames + 2) * output.rate / input.rate + 1 + 1 := by omega
        _ ≤ _ := by omega

/-- Nothing new is heard without a new frame. -/
theorem heardBetween_self (m : Nat) : heardBetween input output samples m m = [] := by
  unfold heardBetween
  rw [Nat.sub_self]
  rfl

/-- **What is heard of a whole stream**: its lines at all multiples of the step that lie in it. -/
theorem getElem?_heardBetween (hin : 0 < input.rate) (hout : 0 < output.rate) (frames k : Nat) :
    (heardBetween input output samples 0 frames)[k]?
      = if (k : ℚ) * (input.rate / output.rate) ≤ (frames : ℚ) - 1
        then some (lineAt input.channels samples ((k : ℚ) * (input.rate / output.rate)))
        else none := by
  have hcount := lt_heardIn_iff hin hout frames k
  have hnone : heardIn input output 0 = 0 := rfl
  unfold heardBetween
  rw [hnone, Nat.sub_zero, List.getElem?_map]
  by_cases hk : k < heardIn input output frames
  · rw [if_pos (hcount.mp hk), List.getElem?_range' hk, Nat.one_mul, Nat.zero_add]
    rfl
  · rw [if_neg (mt hcount.mpr hk), List.getElem?_eq_none (by simpa using hk)]
    rfl

/-- What is heard is heard part by part. -/
theorem heardBetween_join {m n p : Nat} (hmn : m ≤ n) (hnp : n ≤ p) :
    heardBetween input output samples m n ++ heardBetween input output samples n p
      = heardBetween input output samples m p := by
  have hm : heardIn input output m ≤ heardIn input output n := heardIn_mono hmn
  have hn : heardIn input output n ≤ heardIn input output p := heardIn_mono hnp
  obtain ⟨a, ha⟩ := Nat.exists_eq_add_of_le hm
  obtain ⟨b, hb⟩ := Nat.exists_eq_add_of_le hn
  unfold heardBetween
  rw [← List.map_append, hb, ha, Nat.add_sub_cancel_left, Nat.add_sub_cancel_left, Nat.add_assoc,
    Nat.add_sub_cancel_left, List.range'_append_1]

/-- What is heard of a stream does not depend on how it goes on. -/
theorem heardBetween_append (hin : 0 < input.rate) (hout : 0 < output.rate) {m n : Nat}
    (h : samples.length = n * input.channels) (more : List ℚ) :
    heardBetween input output (samples ++ more) m n = heardBetween input output samples m n := by
  unfold heardBetween
  apply List.map_congr_left
  intro k hk
  have hlt : k < heardIn input output n := by
    have hrange := List.mem_range'_1.mp hk
    omega
  exact lineAt_append h (by positivity) ((lt_heardIn_iff hin hout n k).mp hlt) more

/-! ## §4. One chunk. -/

/-- **A chunk is heard at every multiple of the step in it.**  The induction is on the positions that
are left; `k` counts those before them. -/
theorem glide_eq {before frames : Nat} (hs : samples.length = before * channels)
    (hc : chunk.length = frames * channels) (hframes : 0 < frames) {step : ℚ} (hstep : 0 ≤ step) :
    ∀ (n fuel k : Nat) (made : List (List ℚ)), n ≤ fuel → -1 ≤ (k : ℚ) * step - before →
      (∀ j : Nat, j < k + n ↔ (j : ℚ) * step ≤ ((before + frames : Nat) : ℚ) - 1) →
      glide channels frames (last? channels samples before) chunk.toArray step fuel
          ((k : ℚ) * step - before) made
        = some (made.reverse ++ (List.range' k n).map
            (fun j : Nat => lineAt channels (samples ++ chunk) ((j : ℚ) * step)),
          ((k + n : Nat) : ℚ) * step - before) := by
  have hlast : ((frames - 1 : Nat) : ℚ) = (frames : ℚ) - 1 := Nat.cast_pred hframes
  -- A position is inside of the chunk exactly if it is not behind its last frame.
  have hwithin : ∀ k : Nat, ReadHead.within ((k : ℚ) * step - before) (frames - 1) = true
      ↔ (k : ℚ) * step ≤ ((before + frames : Nat) : ℚ) - 1 := by
    intro k
    show decide ((k : ℚ) * step - before ≤ ((frames - 1 : Nat) : ℚ)) = true ↔ _
    rw [decide_eq_true_iff, hlast]
    push_cast
    constructor
    · intro h
      linarith
    · intro h
      linarith
  intro n
  induction n with
  | zero =>
      intro fuel k made _ _ hcount
      cases fuel with
      | zero => simp [glide]
      | succ fuel =>
          have hout : ¬ ReadHead.within ((k : ℚ) * step - before) (frames - 1) = true := by
            rw [hwithin, ← hcount]
            omega
          unfold glide
          rw [if_neg hout]
          simp
  | succ n ih =>
      intro fuel k made hfuel hlow hcount
      obtain ⟨fuel, rfl⟩ : ∃ rest, fuel = rest + 1 := ⟨fuel - 1, by omega⟩
      have hinside : (k : ℚ) * step ≤ ((before + frames : Nat) : ℚ) - 1 :=
        (hcount k).mp (by omega)
      have hheard : heardAt? channels frames (last? channels samples before) chunk.toArray
          ((k : ℚ) * step - before)
          = some (lineAt channels (samples ++ chunk) ((k : ℚ) * step)) := by
        have hfirst : before = 0 → 0 ≤ (k : ℚ) * step - before := by
          intro hzero
          rw [hzero, Nat.cast_zero, sub_zero]
          positivity
        have hhigh : (k : ℚ) * step - before ≤ (frames : ℚ) - 1 := by
          push_cast at hinside
          linarith
        rw [heardAt?_eq hs hc hlow hfirst hhigh, add_sub_cancel]
      have hnext : ReadHead.advance ((k : ℚ) * step - before) step
          = ((k + 1 : Nat) : ℚ) * step - before := by
        show (k : ℚ) * step - before + step = _
        push_cast
        ring
      have hlow' : -1 ≤ ((k + 1 : Nat) : ℚ) * step - before := by
        rw [← hnext]
        exact le_trans hlow (le_add_of_nonneg_right hstep)
      unfold glide
      rw [if_pos ((hwithin k).mpr hinside), hheard]
      show glide channels frames _ _ step fuel (ReadHead.advance _ step) _ = _
      rw [hnext, ih fuel (k + 1) _ (by omega) hlow' (fun j => by rw [← hcount j]; omega)]
      simp [List.range'_succ, Nat.add_assoc, Nat.add_comm 1 n]

/-- What a resampler between two formats is like after the samples of so many frames. -/
structure After (input output : Format) (samples : List ℚ) (frames : Nat)
    (r : LinearResampler ℚ ℚ) : Prop where
  /-- It converts between these formats, -/
  source : r.input = input
  target : r.output = output
  /-- with this step. -/
  step : r.step = input.rate / output.rate
  /-- It stands at the first position that was not heard, seen from the next chunk, -/
  position : r.position = heardIn input output frames * (input.rate / output.rate) - frames
  /-- and remembers the last frame. -/
  history : r.history = last? input.channels samples frames
  /-- These are whole frames. -/
  length : samples.length = frames * input.channels

/-- **A resampler that was just made**, or reset, has heard nothing. -/
theorem after_create {r : LinearResampler ℚ ℚ} (h : create input output = .ok r) :
    After input output [] 0 r := by
  unfold create at h
  split at h
  · exact absurd h (by simp)
  · split at h
    · exact absurd h (by simp)
    · split at h
      · exact absurd h (by simp)
      · injection h with h
        subst h
        exact
          { source := rfl
            target := rfl
            step := rfl
            position := by
              show (0 : ℚ) = _
              simp [heardIn]
            history := rfl
            length := (Nat.zero_mul _).symm }

/-- The frames of a chunk are heard, and the resampler stands behind them. -/
theorem after_convert? {r : LinearResampler ℚ ℚ} {before frames : Nat}
    (h : After input output samples before r) (hin : 0 < input.rate) (hout : 0 < output.rate)
    (hrate : input.rate ≠ output.rate) (hframes : 0 < frames)
    (hchunk : chunk.length = frames * input.channels) :
    ∃ next, r.convert? frames chunk
        = some ((heardBetween input output (samples ++ chunk) before (before + frames)).flatten,
          next)
      ∧ After input output (samples ++ chunk) (before + frames) next := by
  have hnonneg : (0 : ℚ) ≤ input.rate / output.rate := by positivity
  -- The position is the first that is behind the last frame heard, so it is not before the history.
  have hlow : -1 ≤ (heardIn input output before : ℚ) * (input.rate / output.rate) - before := by
    have hbehind := lt_heardIn_iff hin hout before (heardIn input output before)
    have hlt := not_le.mp (mt hbehind.mpr (lt_irrefl _))
    linarith
  have hfirst : ReadHead.notBefore r.position (if r.history.isSome then -1 else 0)
      = (heardIn input output before : ℚ) * (input.rate / output.rate) - before := by
    show max r.position _ = _
    rw [h.position, h.history]
    apply max_eq_left
    unfold last?
    by_cases hzero : before = 0
    · subst hzero
      simp [heardIn]
    · rw [if_neg hzero]
      simpa using hlow
  have hcount : ∀ j : Nat, j < heardIn input output before
        + (heardIn input output (before + frames) - heardIn input output before)
      ↔ (j : ℚ) * (input.rate / output.rate) ≤ ((before + frames : Nat) : ℚ) - 1 := by
    intro j
    rw [← lt_heardIn_iff hin hout, Nat.add_sub_cancel' (heardIn_mono (Nat.le_add_right _ _))]
  have hglide := glide_eq h.length hchunk hframes hnonneg _ (r.positionBound frames)
    (heardIn input output before) [] (by
      unfold positionBound
      rw [h.source, h.target]
      exact heardIn_le_bound hin before frames) hlow hcount
  rw [Nat.add_sub_cancel' (heardIn_mono (Nat.le_add_right _ _))] at hglide
  unfold convert?
  rw [h.source, h.target, if_neg hrate, hfirst, h.history, h.step]
  dsimp only
  rw [hglide]
  refine ⟨_, rfl, ?_⟩
  exact
    { source := rfl
      target := rfl
      step := rfl
      position := by
        show _ - (frames : ℚ) = _
        push_cast
        ring
      history := by
        have hlast : before + frames - 1 = before + (frames - 1) := by omega
        unfold last?
        rw [if_neg (by omega), hlast, frame_behind h.length]
        rfl
      length := by rw [List.length_append, h.length, hchunk, Nat.add_mul] }

/-- **A chunk of whole frames is taken as a whole**, and gives what is heard in it. -/
theorem after_process? {r : LinearResampler ℚ ℚ} {before frames : Nat} {data : List UInt8}
    (h : After input output samples before r) (hin : input.isSupported = true)
    (hout : output.isSupported = true) (hrate : input.rate ≠ output.rate)
    (hdata : data.length = frames * input.align)
    (hdecode : Sample.decodeFrames? input data = some chunk) :
    ∃ done, r.process? data = some done ∧ done.consumed = data.length
      ∧ Sample.encodeFrames? output
          (heardBetween input output (samples ++ chunk) before (before + frames)).flatten
        = some done.output
      ∧ After input output (samples ++ chunk) (before + frames) done.next := by
  have halign := input.align_pos hin
  have hchunk : chunk.length = frames * input.channels := by
    rw [Sample.decodeFrames?_frames hin hdata, Option.some.injEq] at hdecode
    rw [← hdecode, List.length_map, length_pieces]
  have hcount : data.length / input.align = frames := by
    rw [hdata, Nat.mul_div_cancel _ halign]
  unfold process?
  rw [h.source, h.target, if_neg (by omega)]
  dsimp only
  rw [hcount]
  by_cases hframes : frames = 0
  · -- Nothing comes in, and the resampler stays where it was.
    subst hframes
    have hempty : data.length = 0 := by omega
    obtain rfl : chunk = [] := List.length_eq_zero_iff.mp (by omega)
    rw [if_pos rfl]
    refine ⟨_, rfl, hempty.symm, ?_, ?_⟩
    · rw [Nat.add_zero, heardBetween_self, Sample.encodeFrames?_eq hout]
      rfl
    · rw [List.append_nil, Nat.add_zero]
      exact h
  · obtain ⟨next, hconvert, hnext⟩ := after_convert? h (input.rate_pos hin) (output.rate_pos hout)
      hrate (Nat.pos_of_ne_zero hframes) hchunk
    have hall : data.take (frames * input.align) = data :=
      List.take_of_length_le (by omega)
    rw [if_neg hframes, hall, hdecode]
    simp only [Option.bind_eq_bind, Option.bind_some, hconvert, Sample.encodeFrames?_eq hout]
    exact ⟨_, rfl, hdata.symm, rfl, hnext⟩

/-! ## §5. Every way of cutting a stream. -/

/-- One chunk after the other. -/
def processAll? {τ α : Type} [Amplitude α] [ReadHead τ α] (r : LinearResampler τ α) :
    List (List UInt8) → Option (List (Conversion (LinearResampler τ α)))
  | [] => some []
  | data :: rest => do
    let done ← r.process? data
    let more ← done.next.processAll? rest
    some (done :: more)

theorem after_processAll? (hin : input.isSupported = true) (hout : output.isSupported = true)
    (hrate : input.rate ≠ output.rate) (chunks : List (List UInt8)) :
    ∀ {samples : List ℚ} {before : Nat} {r : LinearResampler ℚ ℚ},
      After input output samples before r → (∀ data ∈ chunks, input.align ∣ data.length) →
      ∃ frames rest done, chunks.flatten.length = frames * input.align
        ∧ Sample.decodeFrames? input chunks.flatten = some rest
        ∧ r.processAll? chunks = some done
        ∧ done.map Conversion.consumed = chunks.map List.length
        ∧ Sample.encodeFrames? output
            (heardBetween input output (samples ++ rest) before (before + frames)).flatten
          = some (done.flatMap Conversion.output) := by
  induction chunks with
  | nil =>
      intro samples before r h _
      have hnone : ([] : List UInt8).length = 0 * input.align := (Nat.zero_mul _).symm
      have hnil := Sample.decodeFrames?_frames (α := ℚ) hin hnone
      refine ⟨0, _, [], by simp, hnil, rfl, rfl, ?_⟩
      rw [Nat.add_zero, heardBetween_self, Sample.encodeFrames?_eq hout]
      rfl
  | cons data chunks ih =>
      intro samples before r h hwhole
      obtain ⟨count, hcount⟩ := hwhole data List.mem_cons_self
      have hdata : data.length = count * input.align := by rw [hcount, Nat.mul_comm]
      obtain ⟨first, hdecode⟩ : ∃ first : List ℚ, Sample.decodeFrames? input data = some first :=
        ⟨_, Sample.decodeFrames?_frames hin hdata⟩
      obtain ⟨done, hdone, hconsumed, houtput, hafter⟩ :=
        after_process? h hin hout hrate hdata hdecode
      obtain ⟨frames, rest, more, hlength, hrest, hmore, hall, hmoreOutput⟩ :=
        ih hafter fun other hother => hwhole other (List.mem_cons_of_mem _ hother)
      refine ⟨count + frames, first ++ rest, done :: more, ?_, ?_, ?_, ?_, ?_⟩
      · rw [List.flatten_cons, List.length_append, hdata, hlength, Nat.add_mul]
      · rw [List.flatten_cons]
        exact Sample.decodeFrames?_append hin hdata hlength hdecode hrest
      · unfold processAll?
        rw [hdone]
        simp only [Option.bind_eq_bind, Option.bind_some, hmore]
      · rw [List.map_cons, List.map_cons, hconsumed, hall]
      · -- What the first chunk gave does not change when the stream goes on.
        rw [← heardBetween_append (input.rate_pos hin) (output.rate_pos hout) hafter.length rest]
          at houtput
        have hboth := Sample.encodeFrames?_append hout houtput hmoreOutput
        rw [← List.flatten_append, heardBetween_join (Nat.le_add_right _ _) (Nat.le_add_right _ _),
          List.append_assoc, Nat.add_assoc] at hboth
        exact hboth

/-- Resamplers between two formats, as they come to be. -/
inductive Used (input output : Format) : LinearResampler ℚ ℚ → Prop
  /-- One was just made. -/
  | created {r : LinearResampler ℚ ℚ} (h : create input output = .ok r) : Used input output r
  /-- It has converted something, whole frames or not. -/
  | converted {r : LinearResampler ℚ ℚ} {data : List UInt8}
      {done : Conversion (LinearResampler ℚ ℚ)} (h : Used input output r)
      (hprocess : r.process? data = some done) : Used input output done.next
  /-- It was reset. -/
  | reset {r : LinearResampler ℚ ℚ} (h : Used input output r) : Used input output r.reset

/-- A chunk changes the position and what is remembered, and nothing else. -/
theorem reset_process? {r : LinearResampler ℚ ℚ} {data : List UInt8}
    {done : Conversion (LinearResampler ℚ ℚ)} (h : r.process? data = some done) :
    done.next.reset = r.reset := by
  unfold process? at h
  split at h
  · exact absurd h (by simp)
  · dsimp only at h
    split at h
    · injection h with h
      rw [← h]
    · simp only [Option.bind_eq_bind, Option.bind_eq_some_iff] at h
      obtain ⟨chunk, _, ⟨samples, next⟩, hconvert, output, _, h⟩ := h
      injection h with h
      subst h
      show next.reset = r.reset
      unfold convert? at hconvert
      split at hconvert
      · injection hconvert with hconvert
        rw [← (Prod.mk.inj hconvert).2]
      · simp only [Option.bind_eq_bind, Option.bind_eq_some_iff] at hconvert
        obtain ⟨⟨heard, t⟩, _, hconvert⟩ := hconvert
        injection hconvert with hconvert
        rw [← (Prod.mk.inj hconvert).2]
        rfl

/-- **A reset makes a resampler a new one.** -/
theorem reset_used {fresh r : LinearResampler ℚ ℚ} (hfresh : create input output = .ok fresh)
    (h : Used input output r) : r.reset = fresh := by
  induction h with
  | created hcreate =>
      rw [hfresh] at hcreate
      injection hcreate with hcreate
      subst hcreate
      unfold create at hfresh
      split at hfresh
      · exact absurd hfresh (by simp)
      · split at hfresh
        · exact absurd hfresh (by simp)
        · split at hfresh
          · exact absurd hfresh (by simp)
          · injection hfresh with hfresh
            rw [← hfresh]
            rfl
  | converted _ hprocess ih => rw [reset_process? hprocess, ih]
  | reset _ ih => exact ih

/-- **A conversion does not depend on how its stream is cut.**  Between two supported formats with as
many channels and different rates there is a resampler, and a reset of one that was used is a new
one.  For every stream of whole frames there are frames `heard`, the points at the multiples of the
step on the straight lines through the whole stream, and however the stream is cut between its
frames, every piece is taken as a whole and the pieces together give these frames. -/
theorem cutting_is_inaudible (input output : Format) (hin : input.isSupported = true)
    (hout : output.isSupported = true) (hchannels : input.channels = output.channels)
    (hrate : input.rate ≠ output.rate) :
    ∃ fresh : LinearResampler ℚ ℚ, create input output = .ok fresh
      ∧ (∀ r, Used input output r → r.reset = fresh)
      ∧ ∀ (frames : Nat) (stream : List UInt8), stream.length = frames * input.align →
        ∃ (samples : List ℚ) (heard : List (List ℚ)) (bytes : List UInt8),
          Sample.decodeFrames? input stream = some samples
          ∧ (∀ k : Nat, heard[k]? = if (k : ℚ) * (input.rate / output.rate) ≤ (frames : ℚ) - 1
              then some (lineAt input.channels samples ((k : ℚ) * (input.rate / output.rate)))
              else none)
          ∧ Sample.encodeFrames? output heard.flatten = some bytes
          ∧ ∀ chunks : List (List UInt8), chunks.flatten = stream →
            (∀ data ∈ chunks, input.align ∣ data.length) →
              ∃ done, fresh.processAll? chunks = some done
                ∧ done.map Conversion.consumed = chunks.map List.length
                ∧ done.flatMap Conversion.output = bytes := by
  obtain ⟨fresh, hfresh⟩ : ∃ fresh : LinearResampler ℚ ℚ, create input output = .ok fresh := by
    unfold create
    rw [hin, hout, if_neg (by simp), if_neg (by simp), if_neg (by simpa using hchannels)]
    exact ⟨_, rfl⟩
  refine ⟨fresh, hfresh, fun r hr => reset_used hfresh hr, fun frames stream hstream => ?_⟩
  obtain ⟨samples, hdecode⟩ : ∃ samples : List ℚ,
      Sample.decodeFrames? input stream = some samples :=
    ⟨_, Sample.decodeFrames?_frames hin hstream⟩
  refine ⟨samples, heardBetween input output samples 0 frames, _, hdecode,
    getElem?_heardBetween (input.rate_pos hin) (output.rate_pos hout) frames,
    Sample.encodeFrames?_eq hout _, fun chunks hchunks hwhole => ?_⟩
  obtain ⟨count, rest, done, hlength, hrest, hdone, hconsumed, houtput⟩ :=
    after_processAll? hin hout hrate chunks (after_create hfresh) hwhole
  rw [hchunks] at hlength hrest
  obtain rfl : count = frames :=
    Nat.eq_of_mul_eq_mul_right (input.align_pos hin) (hlength.symm.trans hstream)
  obtain rfl : rest = samples := Option.some.inj (hrest.symm.trans hdecode)
  rw [List.nil_append, Nat.zero_add, Sample.encodeFrames?_eq hout] at houtput
  exact ⟨done, hdone, hconsumed, (Option.some.inj houtput).symm⟩

/-- Four stereo frames at two thirds of their rate, cut so that no position lies in the second and the
third piece: the frame between them is heard across a border. -/
theorem cutting_is_inaudible_stereo :
    (Format.pcm 24000 16 2).isSupported = true ∧ (Format.pcm 16000 16 2).isSupported = true
      ∧ ∃ fresh : LinearResampler ℚ ℚ,
        create (Format.pcm 24000 16 2) (Format.pcm 16000 16 2) = .ok fresh
        ∧ ∃ done, fresh.processAll? [[0, 0, 0xe8, 0x03], [], [0xe8, 0x03, 0, 0],
              [0xd0, 0x07, 0x18, 0xfc, 0xb8, 0x0b, 0x30, 0xf8]] = some done
          ∧ done.map Conversion.consumed = [4, 0, 4, 8]
          ∧ done.flatMap Conversion.output
            = [0, 0, 0xe8, 0x03, 0xdc, 0x05, 0x0c, 0xfe, 0xb8, 0x0b, 0x30, 0xf8] := by
  have hin : (Format.pcm 24000 16 2).isSupported = true := rfl
  have hout : (Format.pcm 16000 16 2).isSupported = true := rfl
  obtain ⟨fresh, hfresh, _, hstreams⟩ := cutting_is_inaudible _ _ hin hout rfl (by decide)
  obtain ⟨samples, heard, bytes, _, _, _, hcut⟩ := hstreams 4
    [0, 0, 0xe8, 0x03, 0xe8, 0x03, 0, 0, 0xd0, 0x07, 0x18, 0xfc, 0xb8, 0x0b, 0x30, 0xf8] rfl
  obtain ⟨done, hdone, hconsumed, houtput⟩ := hcut [[0, 0, 0xe8, 0x03], [], [0xe8, 0x03, 0, 0],
    [0xd0, 0x07, 0x18, 0xfc, 0xb8, 0x0b, 0x30, 0xf8]] rfl (by decide)
  -- The bytes are those of the stream in one piece.
  obtain ⟨whole, hwhole, _, hbytes⟩ := hcut
    [[0, 0, 0xe8, 0x03, 0xe8, 0x03, 0, 0, 0xd0, 0x07, 0x18, 0xfc, 0xb8, 0x0b, 0x30, 0xf8]] rfl
    (by decide)
  have hvalue : ((create (Format.pcm 24000 16 2) (Format.pcm 16000 16 2)
      : Except RenderError (LinearResampler ℚ ℚ)).toOption.bind fun r =>
        (r.processAll? [[0, 0, 0xe8, 0x03, 0xe8, 0x03, 0, 0, 0xd0, 0x07, 0x18, 0xfc, 0xb8, 0x0b,
          0x30, 0xf8]]).map fun all => all.flatMap Conversion.output)
      = some [0, 0, 0xe8, 0x03, 0xdc, 0x05, 0x0c, 0xfe, 0xb8, 0x0b, 0x30, 0xf8] := by
    decide +kernel
  rw [hfresh] at hvalue
  simp only [Except.toOption, Option.bind_some, hwhole, Option.map_some, hbytes,
    Option.some.injEq] at hvalue
  exact ⟨hin, hout, fresh, hfresh, done, hdone, hconsumed, houtput.trans hvalue⟩

end LinearResampler

end PcmRender
