/-
  PcmRender.Proofs.Positions — **how many frames come out of a chunk.**

  A read head that is moved on exactly is left behind the last frame of each chunk, so seen from the
  next chunk it stands above minus one.  From there the positions in a chunk of `frames` frames are
  `step` apart and none is behind its last frame:

      −1   <   first   ≤   first + k · step   ≤   frames − 1        so        k · step  <  frames

  The step being the input rate over the output rate, position `k` is reached only if
  `k · input rate < frames · output rate`.  The other way round a read head is never left further
  behind a chunk than it moves in one step, so what is not reached is less than one more frame of
  the slower side.  `Poised` is what a chunk finds and leaves, and `Yields` what comes out of it.

  Only the positions are exact.  Amplitudes may be any numbers, those of the running program
  included: how many frames there are does not depend on them.
-/
import PcmRender.Number.Exact
import PcmRender.Proofs.Sample
import PcmRender.Stage.Linear
import Mathlib.Tactic.Linarith
import Mathlib.Tactic.Positivity

namespace PcmRender

/-! ## §1. Exact positions. -/

/-- Read heads that move on exactly.  What they tell of the way between two frames is open. -/
structure ReadHead.Exact (α : Type) [ReadHead ℚ α] : Prop where
  /-- A read head begins at the first frame, -/
  origin : (ReadHead.origin : ℚ) = 0
  /-- moves in steps of a rate over the other one, -/
  step : ∀ num den : Nat, (ReadHead.step num den : ℚ) = num / den
  advance : ∀ t d : ℚ, ReadHead.advance t d = t + d
  /-- is held behind a frame, -/
  notBefore : ∀ (t : ℚ) (n : Int), ReadHead.notBefore t n = max t n
  /-- seen from another one, -/
  rewind : ∀ (t : ℚ) (n : Nat), ReadHead.rewind t n = t - n
  /-- and compared with one. -/
  within : ∀ (t : ℚ) (n : Nat), ReadHead.within t n = true ↔ t ≤ n
  whole : ∀ t : ℚ, ReadHead.whole t = ⌊t⌋

theorem ReadHead.exact_rational : ReadHead.Exact ℚ where
  origin := rfl
  step _ _ := rfl
  advance _ _ := rfl
  notBefore _ _ := rfl
  rewind _ _ := rfl
  within _ _ := decide_eq_true_iff
  whole _ := rfl

namespace LinearResampler

variable {α : Type} [Amplitude α] [ReadHead ℚ α] {input output : Format} {channels frames : Nat}
  {history : Option (List α)} {chunk : List α}

/-! ## §2. The positions in one chunk. -/

omit [Amplitude α] [ReadHead ℚ α] in
theorem exists_slice? {start : Nat} (h : start + channels ≤ chunk.length) :
    ∃ frame, frameAt?.slice? channels chunk.toArray start = some frame
      ∧ frame.length = channels := by
  unfold frameAt?.slice?
  rw [if_pos (by simpa using h)]
  refine ⟨_, rfl, ?_⟩
  rw [Array.toList_extract, List.extract_eq_take_drop, Nat.add_sub_cancel_left, List.length_take,
    List.length_drop, List.toList_toArray]
  omega

omit [Amplitude α] [ReadHead ℚ α] in
/-- **Every frame up to the last one of a chunk can be looked up**: one in front of it is the frame
that is remembered, or else the first. -/
theorem exists_frameAt? (hchunk : chunk.length = frames * channels) (hframes : 0 < frames)
    (hhistory : ∀ frame, history = some frame → frame.length = channels) {index : Int}
    (hindex : index < frames) :
    ∃ frame, frameAt? channels history chunk.toArray index = some frame
      ∧ frame.length = channels := by
  have hinside : ∀ i : Nat, i < frames → i * channels + channels ≤ chunk.length := by
    intro i hi
    rw [hchunk, ← Nat.succ_mul]
    exact Nat.mul_le_mul_right channels hi
  unfold frameAt?
  by_cases hneg : index < 0
  · rw [if_pos hneg]
    cases hremembered : history with
    | some frame => exact ⟨frame, rfl, hhistory frame hremembered⟩
    | none => exact exists_slice? (by simpa using hinside 0 hframes)
  · rw [if_neg hneg]
    exact exists_slice? (hinside index.toNat (by omega))

/-- So every position up to the last frame is heard. -/
theorem exists_heardAt? (hexact : ReadHead.Exact α) (hchunk : chunk.length = frames * channels)
    (hframes : 0 < frames) (hhistory : ∀ frame, history = some frame → frame.length = channels)
    {t : ℚ} (hhigh : t ≤ (frames : ℚ) - 1) :
    ∃ frame, heardAt? channels frames history chunk.toArray t = some frame
      ∧ frame.length = channels := by
  have hbase : ⌊t⌋ < (frames : Int) := by
    rw [Int.floor_lt]
    push_cast
    linarith
  obtain ⟨a, ha, hal⟩ := exists_frameAt? hchunk hframes hhistory hbase
  obtain ⟨b, hb, hbl⟩ := exists_frameAt? hchunk hframes hhistory
    (show min (⌊t⌋ + 1) ((frames : Int) - 1) < frames by omega)
  unfold heardAt?
  dsimp only
  rw [hexact.whole, ha, hb]
  refine ⟨_, rfl, ?_⟩
  rw [List.length_zipWith, hal, hbl, Nat.min_self]

/-- The frames that are heard from a position on, and where the read head is left. -/
structure Glided (channels frames : Nat) (step t : ℚ) (fuel : Nat) (heard : List (List α))
    (last : ℚ) : Prop where
  /-- They have all their channels. -/
  full : ∀ frame ∈ heard, frame.length = channels
  /-- The read head has moved one step for each, -/
  moved : last = t + heard.length * step
  /-- and was within the chunk each time. -/
  within : ∀ k < heard.length, t + k * step ≤ (frames : ℚ) - 1
  /-- With steps to spare it is left behind the chunk. -/
  beyond : heard.length < fuel → (frames : ℚ) - 1 < last

/-- **A read head moves on until it is behind the chunk.**  The induction is on the steps that it is
given. -/
theorem glided_glide (hexact : ReadHead.Exact α) (hchunk : chunk.length = frames * channels)
    (hframes : 0 < frames) (hhistory : ∀ frame, history = some frame → frame.length = channels)
    (step : ℚ) : ∀ (fuel : Nat) (t : ℚ) (made : List (List α)),
      ∃ heard last, glide channels frames history chunk.toArray step fuel t made
          = some (made.reverse ++ heard, last)
        ∧ Glided channels frames step t fuel heard last := by
  have hlast : ((frames - 1 : Nat) : ℚ) = (frames : ℚ) - 1 := Nat.cast_pred hframes
  intro fuel
  induction fuel with
  | zero =>
      intro t made
      exact ⟨[], t, by simp [glide], by simp, by simp, by simp, by simp⟩
  | succ fuel ih =>
      intro t made
      unfold glide
      by_cases hwithin : ReadHead.within t (frames - 1) = true
      · have hhigh : t ≤ (frames : ℚ) - 1 := by
          rw [← hlast]
          exact (hexact.within t _).mp hwithin
        obtain ⟨frame, hframe, hlength⟩ := exists_heardAt? hexact hchunk hframes hhistory hhigh
        obtain ⟨heard, last, hglide, h⟩ := ih (t + step) (frame :: made)
        rw [if_pos hwithin, hframe]
        refine ⟨frame :: heard, last, ?_, ?_, ?_, ?_, ?_⟩
        · show glide channels frames history chunk.toArray step fuel (ReadHead.advance t step)
            (frame :: made) = _
          rw [hexact.advance, hglide, List.reverse_cons, List.append_assoc]
          rfl
        · intro other hother
          rcases List.mem_cons.mp hother with rfl | hrest
          · exact hlength
          · exact h.full other hrest
        · rw [h.moved, List.length_cons]
          push_cast
          ring
        · intro k hk
          cases k with
          | zero => simpa using hhigh
          | succ k =>
              have hnext := h.within k (Nat.lt_of_succ_lt_succ hk)
              push_cast
              linarith
        · intro hspare
          exact h.beyond (Nat.lt_of_succ_lt_succ hspare)
      · rw [if_neg hwithin]
        refine ⟨[], t, by simp, by simp, by simp, by simp, fun _ => ?_⟩
        rw [← hlast]
        exact not_le.mp (mt (hexact.within t _).mpr hwithin)

omit [Amplitude α] [ReadHead ℚ α] in
/-- **A read head is left no further than a step behind the last frame**, if it began no further. -/
theorem Glided.last_le {step t : ℚ} {fuel : Nat} {heard : List (List α)} {last : ℚ}
    (h : Glided channels frames step t fuel heard last) (hframes : 0 < frames)
    (hnear : t ≤ max 0 (step - 1)) : last - frames ≤ max 0 (step - 1) := by
  have hone : (1 : ℚ) ≤ frames := by exact_mod_cast hframes
  by_cases hheard : heard.length = 0
  · have hlast := h.moved
    rw [hheard] at hlast
    push_cast at hlast
    linarith
  · -- The last frame that was heard lies in the chunk.
    have hinside := h.within (heard.length - 1) (by omega)
    have hlast := h.moved
    rw [Nat.cast_pred (Nat.pos_of_ne_zero hheard)] at hinside
    have hbehind : step - 1 ≤ max 0 (step - 1) := le_max_right _ _
    linarith

/-- **How many positions lie in a chunk**, if the first one is above minus one. -/
theorem position_lt (hout : 0 < output.rate) {t : ℚ} (hlow : -1 < t)
    {k : Nat} (hinside : t + k * ((input.rate : ℚ) / output.rate) ≤ (frames : ℚ) - 1) :
    k * input.rate < frames * output.rate := by
  have houtq : (0 : ℚ) < output.rate := by exact_mod_cast hout
  have hlt : (k : ℚ) * input.rate / output.rate < frames := by
    rw [mul_div_assoc]
    linarith
  rw [div_lt_iff₀ houtq] at hlt
  exact_mod_cast hlt

/-- **How many positions have to lie in a chunk**, if the first one is no further than a step behind
the frame in front of it, or is at its first frame. -/
theorem lt_position (hout : 0 < output.rate) {t : ℚ} {count : Nat}
    (hhigh : t ≤ max 0 ((input.rate : ℚ) / output.rate - 1))
    (hbeyond : (frames : ℚ) - 1 < t + count * ((input.rate : ℚ) / output.rate)) :
    frames * output.rate < count * input.rate + max input.rate output.rate := by
  have houtq : (0 : ℚ) < output.rate := by exact_mod_cast hout
  have hstep : (input.rate : ℚ) / output.rate * output.rate = input.rate :=
    div_mul_cancel₀ _ houtq.ne'
  have hlt : (frames : ℚ) * output.rate < count * input.rate + max (input.rate : ℚ) output.rate := by
    rcases le_max_iff.mp hhigh with hfirst | hbehind
    · have hmax : (output.rate : ℚ) ≤ max (input.rate : ℚ) output.rate := le_max_right _ _
      nlinarith
    · have hmax : (input.rate : ℚ) ≤ max (input.rate : ℚ) output.rate := le_max_left _ _
      nlinarith
  exact_mod_cast hlt

/-! ## §3. Resamplers between two formats. -/

section Joins

variable {τ β : Type} [Amplitude β] [ReadHead τ β] {r : LinearResampler τ β}

/-- A resampler between two formats, wherever its read head is. -/
structure Joins (input output : Format) (r : LinearResampler τ β) : Prop where
  /-- It converts between these formats, -/
  source : r.input = input
  target : r.output = output
  /-- which it can read and write, -/
  reads : input.isSupported = true
  writes : output.isSupported = true
  /-- and which have as many channels. -/
  channels : input.channels = output.channels
  /-- It moves in steps of one rate over the other, -/
  step : r.step = ReadHead.step input.rate output.rate
  /-- and what it remembers is a frame. -/
  history : ∀ frame, r.history = some frame → frame.length = input.channels

omit [Amplitude β] in
theorem joins_create (h : create input output = .ok r) : Joins input output r := by
  unfold create at h
  split at h
  · exact absurd h (by simp)
  next hreads =>
    split at h
    · exact absurd h (by simp)
    next hwrites =>
      split at h
      · exact absurd h (by simp)
      next hchannels =>
        injection h with h
        subst h
        exact ⟨rfl, rfl, by simpa using hreads, by simpa using hwrites, by simpa using hchannels,
          rfl, by simp⟩

omit [Amplitude β] in
theorem Joins.reset (h : Joins input output r) : Joins input output r.reset where
  source := h.source
  target := h.target
  reads := h.reads
  writes := h.writes
  channels := h.channels
  step := h.step
  history := by simp [LinearResampler.reset]

omit [Amplitude β] [ReadHead τ β] in
/-- The last of some frames is one. -/
theorem length_last {samples : List β} (hframes : 0 < frames)
    (hsamples : samples.length = frames * channels) :
    ((samples.drop ((frames - 1) * channels)).take channels).length = channels := by
  have hall : (frames - 1) * channels + channels = samples.length := by
    rw [hsamples, ← Nat.succ_mul, Nat.succ_eq_add_one, Nat.sub_add_cancel hframes]
  rw [List.length_take, List.length_drop]
  omega

/-- **A chunk changes the read head and what is remembered**, and that is a frame again. -/
theorem Joins.convert? (h : Joins input output r) {samples made : List β} {next : LinearResampler τ β}
    (hframes : 0 < frames) (hsamples : samples.length = frames * input.channels)
    (hconvert : r.convert? frames samples = some (made, next)) : Joins input output next := by
  unfold LinearResampler.convert? at hconvert
  split at hconvert
  · obtain ⟨_, rfl⟩ := Prod.mk.inj (Option.some.inj hconvert)
    exact h
  · simp only [Option.bind_eq_bind, Option.bind_eq_some_iff] at hconvert
    obtain ⟨⟨heard, t⟩, _, hsome⟩ := hconvert
    obtain ⟨_, rfl⟩ := Prod.mk.inj (Option.some.inj hsome)
    refine ⟨h.source, h.target, h.reads, h.writes, h.channels, h.step, fun frame hframe => ?_⟩
    obtain rfl := Option.some.inj hframe
    rw [h.source]
    exact length_last hframes hsamples

/-- Whole frames of the input decode to one sample for each channel of each. -/
theorem exists_decoded (hreads : input.isSupported = true) {data : List UInt8}
    (hdata : data.length = frames * input.align) :
    ∃ samples : List β, Sample.decodeFrames? input data = some samples
      ∧ samples.length = frames * input.channels :=
  ⟨_, Sample.decodeFrames?_frames hreads hdata, by rw [List.length_map, length_pieces]⟩

/-- The whole frames of some bytes. -/
theorem length_take_whole (input : Format) (data : List UInt8) :
    (data.take (data.length / input.align * input.align)).length
      = data.length / input.align * input.align := by
  rw [List.length_take, Nat.min_eq_left (Nat.div_mul_le_self _ _)]

/-- **Whatever it is given, a resampler stays one between its formats.** -/
theorem Joins.process? (h : Joins input output r) {data : List UInt8}
    {done : Conversion (LinearResampler τ β)} (hdone : r.process? data = some done) :
    Joins input output done.next := by
  have halign := input.align_pos h.reads
  unfold LinearResampler.process? at hdone
  rw [h.source, if_neg (by omega)] at hdone
  dsimp only at hdone
  split at hdone
  · obtain rfl := Option.some.inj hdone
    exact h
  next hframes =>
    obtain ⟨chunk, hdecode, hchunk⟩ := exists_decoded (β := β) h.reads (length_take_whole input data)
    rw [hdecode] at hdone
    simp only [Option.bind_eq_bind, Option.bind_some, Option.bind_eq_some_iff] at hdone
    obtain ⟨⟨samples, next⟩, hconvert, output, _, hsome⟩ := hdone
    obtain rfl := Option.some.inj hsome
    exact h.convert? (Nat.pos_of_ne_zero hframes) hchunk hconvert

end Joins

/-! ## §4. One chunk. -/

/-- A resampler between two formats that is about to be given a chunk. -/
structure Poised (input output : Format) (r : LinearResampler ℚ α) : Prop
    extends Joins input output r where
  /-- **Its read head is above minus one**, -/
  position : -1 < r.position
  /-- and no further than a step behind the chunk before, if not at the first frame. -/
  near : r.position ≤ max 0 (r.step - 1)

/-- What becomes of a chunk of `frames` frames: it is taken as a whole, and `made` frames come out
of it. -/
structure Yields (input output : Format) (frames made : Nat)
    (done : Conversion (LinearResampler ℚ α)) : Prop where
  /-- Every frame was taken. -/
  consumed : done.consumed = frames * input.align
  /-- What comes out are whole frames. -/
  whole : done.output.length = made * (output.sampleSize * output.channels)
  /-- There are no less of them than there is time for, but for a frame of the slower side, -/
  enough : frames * output.rate < made * input.rate + max input.rate output.rate
  /-- and no more. -/
  made : ∀ k < made, k * input.rate < frames * output.rate
  /-- The next chunk finds it so again. -/
  next : Poised input output done.next

omit [Amplitude α] in
/-- **A read head at the first frame is poised.** -/
theorem poised_origin (hexact : ReadHead.Exact α) {r : LinearResampler ℚ α}
    (h : Joins input output r) (hposition : r.position = ReadHead.origin) :
    Poised input output r where
  toJoins := h
  position := by
    rw [hposition, hexact.origin]
    norm_num
  near := by
    rw [hposition, hexact.origin]
    exact le_max_left _ _

omit [Amplitude α] in
theorem poised_create (hexact : ReadHead.Exact α) {r : LinearResampler ℚ α}
    (h : create input output = .ok r) : Poised input output r := by
  refine poised_origin hexact (joins_create h) ?_
  unfold create at h
  split_ifs at h
  injection h with h
  rw [← h]

omit [Amplitude α] in
/-- **A reset leaves a resampler poised**: it begins at the first frame again. -/
theorem Poised.reset (hexact : ReadHead.Exact α) {r : LinearResampler ℚ α}
    (h : Poised input output r) : Poised input output r.reset :=
  poised_origin hexact h.toJoins.reset rfl

/-- **The frames that a decoded chunk is converted to** can be counted by the rates alone. -/
theorem poised_convert? (hexact : ReadHead.Exact α) {r : LinearResampler ℚ α}
    (h : Poised input output r) (hframes : 0 < frames)
    (hchunk : chunk.length = frames * input.channels) :
    ∃ samples next made, r.convert? frames chunk = some (samples, next)
      ∧ samples.length = made * input.channels
      ∧ (∀ k < made, k * input.rate < frames * output.rate)
      ∧ frames * output.rate < made * input.rate + max input.rate output.rate
      ∧ Poised input output next := by
  have hin := input.rate_pos h.reads
  have hout := output.rate_pos h.writes
  have hstep : r.step = (input.rate : ℚ) / output.rate := h.step.trans (hexact.step _ _)
  unfold LinearResampler.convert?
  rw [h.source, h.target]
  by_cases hrate : input.rate = output.rate
  · -- At equal rates the samples are handed on one by one.
    rw [if_pos hrate]
    refine ⟨chunk, r, frames, rfl, hchunk, fun k hk => ?_, ?_, h⟩
    · rw [hrate]
      exact Nat.mul_lt_mul_of_pos_right hk hout
    · rw [hrate, Nat.max_self]
      omega
  · have hfirst : -1 < ReadHead.notBefore r.position (if r.history.isSome then -1 else 0) := by
      rw [hexact.notBefore]
      exact lt_of_lt_of_le h.position (le_max_left _ _)
    have hnear : ReadHead.notBefore r.position (if r.history.isSome then -1 else 0)
        ≤ max 0 (r.step - 1) := by
      rw [hexact.notBefore]
      refine max_le h.near (le_trans ?_ (le_max_left _ _))
      split <;> simp
    obtain ⟨heard, last, hglide, hglided⟩ := glided_glide hexact hchunk hframes h.history r.step
      (r.positionBound frames) (ReadHead.notBefore r.position (if r.history.isSome then -1 else 0))
      []
    have hmade : ∀ k < heard.length, k * input.rate < frames * output.rate := by
      intro k hk
      have hinside := hglided.within k hk
      rw [hstep] at hinside
      exact position_lt hout hfirst hinside
    -- The steps that it is given are more than there are positions, so it comes to the end.
    have hspare : heard.length < r.positionBound frames := by
      by_contra hused
      have hbound : r.positionBound frames = (frames + 2) * output.rate / input.rate + 2 := by
        unfold positionBound
        rw [h.source, h.target]
      have hlate := hmade ((frames + 2) * output.rate / input.rate + 1) (by omega)
      have henough := Nat.lt_mul_div_succ ((frames + 2) * output.rate) hin
      have hmore : frames * output.rate ≤ (frames + 2) * output.rate :=
        Nat.mul_le_mul_right _ (by omega)
      rw [Nat.mul_comm input.rate] at henough
      omega
    have hbeyond := hglided.beyond hspare
    have henough : frames * output.rate
        < heard.length * input.rate + max input.rate output.rate := by
      rw [hstep] at hnear
      rw [hglided.moved, hstep] at hbeyond
      exact lt_position hout hnear hbeyond
    rw [if_neg hrate]
    dsimp only
    rw [hglide]
    refine ⟨_, _, heard.length, rfl, ?_, hmade, henough, ?_⟩
    · rw [List.reverse_nil, List.nil_append, List.length_flatten,
        List.map_congr_left hglided.full, List.map_const', List.sum_replicate_nat]
    · refine ⟨⟨rfl, rfl, h.reads, h.writes, h.channels, h.step, fun frame hframe => ?_⟩, ?_, ?_⟩
      · obtain rfl := Option.some.inj hframe
        exact length_last hframes hchunk
      · show -1 < ReadHead.rewind last frames
        rw [hexact.rewind]
        linarith
      · show ReadHead.rewind last frames ≤ max 0 (r.step - 1)
        rw [hexact.rewind]
        exact hglided.last_le hframes hnear

/-- **A chunk of whole frames is taken as a whole**, and no more frames come out than there is time
for. -/
theorem yields_process? (hexact : ReadHead.Exact α) {r : LinearResampler ℚ α}
    (h : Poised input output r) {data : List UInt8} (hdata : data.length = frames * input.align) :
    ∃ done made, r.process? data = some done ∧ Yields input output frames made done := by
  have halign := input.align_pos h.reads
  have hcount : data.length / input.align = frames := by
    rw [hdata, Nat.mul_div_cancel _ halign]
  unfold process?
  rw [h.source, h.target, if_neg (by omega)]
  dsimp only
  rw [hcount]
  by_cases hframes : frames = 0
  · rw [if_pos hframes]
    refine ⟨_, 0, rfl, ?_, ?_, ?_, by simp, h⟩
    · rw [hframes, Nat.zero_mul]
    · exact (Nat.zero_mul _).symm
    · rw [hframes, Nat.zero_mul, Nat.zero_mul, Nat.zero_add]
      exact lt_of_lt_of_le (output.rate_pos h.writes) (le_max_right _ _)
  · have hall : data.take (frames * input.align) = data := List.take_of_length_le (by omega)
    obtain ⟨chunk, hdecode, hchunk⟩ := exists_decoded (β := α) h.reads hdata
    obtain ⟨samples, next, made, hconvert, hsamples, hmade, henough, hnext⟩ :=
      poised_convert? hexact h (Nat.pos_of_ne_zero hframes) hchunk
    rw [if_neg hframes, hall, hdecode]
    simp only [Option.bind_eq_bind, Option.bind_some, hconvert, Sample.encodeFrames?_eq h.writes]
    refine ⟨_, made, rfl, rfl, ?_, henough, hmade, hnext⟩
    show (samples.flatMap _).length = _
    rw [List.length_flatMap]
    simp only [Gain.length_encode, List.length_replicate, List.map_const',
      List.sum_replicate_nat]
    rw [hsamples, h.channels, Nat.mul_assoc, Nat.mul_comm output.channels]

omit [Amplitude α] in
/-- **What there is time for fits.**  Frames that play no longer than `room` frames behind the
conversion become at most `room` frames. -/
theorem Yields.made_le {made room : Nat} {done : Conversion (LinearResampler ℚ α)}
    (h : Yields input output frames made done)
    (hroom : frames ≤ room * input.rate / output.rate) : made ≤ room := by
  have hout := output.rate_pos h.next.writes
  by_contra hmore
  have hlate := h.made room (by omega)
  have hfits := (Nat.le_div_iff_mul_le hout).mp hroom
  omega

end LinearResampler

end PcmRender
