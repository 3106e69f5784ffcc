/-
  PcmRender.Proofs.Reading — **a cycle looks for nothing that is not there.**

  A cycle divides, cuts and looks frames up, and each of these could take it down.  What keeps it up
  was checked long before:

      divide   by the frames of the source       which a session has only with a supported source
               by the rate of the device         which a stage has only between supported formats
      cut      the ring                          which was filled up to what is cut
      look up  at every position of a chunk      which is behind the last frame of the chunk before

  The last of these rests on no more than the order of positions: a read head is held behind the
  frame in front of the chunk, moving on never leads back, and a position within the chunk is not
  behind its last frame (`ReadHead.Ordered`).  These hold of rationals, and of numbers of 64 bits as they
  are rounded, for as many frames as a buffer has (`ReadHead.ordered_double`); so nothing here depends on
  how positions are rounded.

  Main definitions:
    * `LinearResampler.Visits` — the positions that are looked up in a chunk,
    * `LinearResampler.InReach` — the frames around a position are there.

  Main statement:
    * `Session.cycles_stay_up` — for the route of a session at any time.
-/
import PcmRender.Proofs.Covering
import PcmRender.Proofs.Doubles

namespace PcmRender

/-! ## §1. Positions in order. -/

/-- Read heads whose positions are in order, as far as there are frames and rates of 32 bits.  How
they are rounded is open. -/
structure ReadHead.Ordered (τ : Type) {α : Type} [ReadHead τ α] : Prop where
  /-- What is held behind the first frame, or behind the one in front of it, is not before it. -/
  notBefore : ∀ (t : τ) (n : Int), -1 ≤ n → n ≤ 0 → n ≤ ReadHead.whole (ReadHead.notBefore t n)
  /-- What is at a frame or before it is not behind it. -/
  within : ∀ (t : τ) (n : Nat), n < 2 ^ 32 → ReadHead.within t n = true → ReadHead.whole t ≤ n
  /-- Moving on never leads back. -/
  advance : ∀ (t : τ) (num den : Nat), 0 < num → num < 2 ^ 32 → 0 < den → den < 2 ^ 32 →
    ReadHead.whole t ≤ ReadHead.whole (ReadHead.advance t (ReadHead.step num den))

/-- Exact positions are in order. -/
theorem ReadHead.Exact.ordered {α : Type} [ReadHead ℚ α] (h : ReadHead.Exact α) :
    ReadHead.Ordered ℚ where
  notBefore t n _ _ := by
    rw [h.whole, h.notBefore, Int.le_floor]
    exact le_max_right _ _
  within t n _ hwithin := by
    rw [h.whole, ← Int.floor_natCast (R := ℚ) n]
    exact Int.floor_mono ((h.within t n).mp hwithin)
  advance t num den _ _ _ _ := by
    rw [h.whole, h.whole, h.advance, h.step]
    refine Int.floor_mono (le_add_of_nonneg_right ?_)
    positivity

/-- So are positions in 64 bits, however they are rounded. -/
theorem ReadHead.ordered_double : ReadHead.Ordered Double where
  notBefore t n hleast hmost := Double.le_whole_max (by omega)
  within t n hn hwithin := Double.whole_le (by omega) hwithin
  advance t num den hnum hnum' hden hden' := by
    obtain ⟨hnumber, hsign⟩ := Double.div_ofInt hnum hnum'.le hden hden'.le
    exact Double.whole_add hnumber hsign t

namespace LinearResampler

variable {τ α : Type} [ReadHead τ α] {input output : Format} {channels frames : Nat}
  {history : Option (List α)} {chunk : List α} {step first t : τ}

/-- The positions that are looked up from `first` on in a chunk of `frames` frames. -/
inductive Visits (frames : Nat) (step : τ) : τ → τ → Prop
  /-- This one is, if it is within the chunk, -/
  | here {t : τ} (within : ReadHead.within t (frames - 1) = true) : Visits frames step t t
  /-- and then those from the next one on. -/
  | later {t u : τ} (within : ReadHead.within t (frames - 1) = true)
      (next : Visits frames step (ReadHead.advance t step) u) : Visits frames step t u

/-- The frames around a position can be looked up. -/
structure InReach (channels frames : Nat) (history : Option (List α)) (chunk : List α) (t : τ) :
    Prop where
  /-- The frame below is the one in front of the chunk or a later one, -/
  low : -1 ≤ ReadHead.whole t
  /-- and not behind the last one. -/
  high : ReadHead.whole t ≤ (frames : Int) - 1
  /-- It is in front of the chunk only if there is one that is remembered. -/
  remembered : ReadHead.whole t < 0 → history.isSome
  /-- Both frames have all their samples. -/
  below : ∃ frame, frameAt? channels history chunk.toArray (ReadHead.whole t) = some frame
    ∧ frame.length = channels
  above : ∃ frame, frameAt? channels history chunk.toArray
      (min (ReadHead.whole t + 1) ((frames : Int) - 1)) = some frame
    ∧ frame.length = channels

/-! ## §2. What is looked up in a chunk. -/

/-- **No position that is looked up is before the first, and all are within the chunk.** -/
theorem Visits.between (hadvance : ∀ u : τ, ReadHead.whole u
    ≤ ReadHead.whole (ReadHead.advance u step)) (h : Visits frames step first t) :
    ReadHead.whole first ≤ ReadHead.whole t ∧ ReadHead.within t (frames - 1) = true := by
  induction h with
  | here hwithin => exact ⟨le_refl _, hwithin⟩
  | later _ _ ih => exact ⟨le_trans (hadvance _) ih.1, ih.2⟩

/-- **Every position that is looked up is in reach**, if the read head is held where it begins. -/
theorem Visits.inReach (hordered : ReadHead.Ordered τ) (hadvance : ∀ u : τ, ReadHead.whole u
    ≤ ReadHead.whole (ReadHead.advance u step)) (hframes : 0 < frames) (hfew : frames ≤ 2 ^ 32)
    (hchunk : chunk.length = frames * channels)
    (hhistory : ∀ frame, history = some frame → frame.length = channels) {position : τ}
    (h : Visits frames step (ReadHead.notBefore position (if history.isSome then -1 else 0)) t) :
    InReach channels frames history chunk t := by
  obtain ⟨hfirst, hwithin⟩ := h.between hadvance
  have hheld : (if history.isSome then -1 else 0) ≤ ReadHead.whole t :=
    le_trans (hordered.notBefore position _ (by split <;> omega) (by split <;> omega)) hfirst
  have hhigh : ReadHead.whole t ≤ (frames : Int) - 1 := by
    have hlast := hordered.within t (frames - 1) (by omega) hwithin
    omega
  refine ⟨?_, hhigh, fun hbefore => ?_, exists_frameAt? hchunk hframes hhistory (by omega),
    exists_frameAt? hchunk hframes hhistory (by omega)⟩
  · split at hheld <;> omega
  · by_contra hnone
    rw [if_neg hnone] at hheld
    omega

variable [Amplitude α]

/-- What is in reach is heard. -/
theorem InReach.heard (h : InReach channels frames history chunk t) :
    ∃ frame, heardAt? channels frames history chunk.toArray t = some frame := by
  obtain ⟨a, ha, _⟩ := h.below
  obtain ⟨b, hb, _⟩ := h.above
  unfold heardAt?
  dsimp only
  rw [ha, hb]
  exact ⟨_, rfl⟩

/-- **A read head asks for the visited positions and no others.**  The induction is on the steps that
it is given. -/
theorem glide_visits (channels frames : Nat) (history : Option (List α)) (chunk : List α) (step : τ) :
    ∀ (fuel : Nat) (t : τ) (made : List (List α)),
    ∃ (stops : List τ) (last : τ), (∀ u ∈ stops, Visits frames step t u)
      ∧ glide channels frames history chunk.toArray step fuel t made
        = (stops.mapM (heardAt? channels frames history chunk.toArray)).map
          fun heard => (made.reverse ++ heard, last) := by
  intro fuel
  induction fuel with
  | zero => exact fun t made => ⟨[], t, by simp, by simp [glide]⟩
  | succ fuel ih =>
      intro t made
      unfold glide
      by_cases hwithin : ReadHead.within t (frames - 1) = true
      · rw [if_pos hwithin]
        cases hheard : heardAt? channels frames history chunk.toArray t with
        | none =>
            refine ⟨[t], t, ?_, ?_⟩
            · simpa using Visits.here hwithin
            · simp [hheard]
        | some frame =>
            obtain ⟨stops, last, hstops, hglide⟩ := ih (ReadHead.advance t step) (frame :: made)
            refine ⟨t :: stops, last, fun u hu => ?_, ?_⟩
            · rcases List.mem_cons.mp hu with rfl | hrest
              · exact .here hwithin
              · exact .later hwithin (hstops u hrest)
            · simp only [Option.bind_eq_bind, Option.bind_some, hglide, List.mapM_cons, hheard]
              cases stops.mapM (heardAt? channels frames history chunk.toArray) <;> simp
      · rw [if_neg hwithin]
        exact ⟨[], t, by simp, by simp⟩

/-- So a chunk is read to its end, if all that is visited is in reach. -/
theorem exists_glide (fuel : Nat) (made : List (List α))
    (h : ∀ u, Visits frames step t u → InReach channels frames history chunk u) :
    ∃ heard last, glide channels frames history chunk.toArray step fuel t made
      = some (heard, last) := by
  obtain ⟨stops, last, hstops, hglide⟩ :=
    glide_visits channels frames history chunk step fuel t made
  have hall : ∀ u ∈ stops, ∃ frame, heardAt? channels frames history chunk.toArray u = some frame :=
    fun u hu => (h u (hstops u hu)).heard
  obtain ⟨heard, hheard⟩ : ∃ heard, stops.mapM (heardAt? channels frames history chunk.toArray)
      = some heard := by
    clear hstops hglide
    induction stops with
    | nil => exact ⟨[], rfl⟩
    | cons u stops ih =>
        obtain ⟨frame, hframe⟩ := hall u List.mem_cons_self
        obtain ⟨heard, hheard⟩ := ih fun v hv => hall v (List.mem_cons_of_mem u hv)
        exact ⟨frame :: heard, by simp [List.mapM_cons, hframe, hheard]⟩
  rw [hglide, hheard]
  exact ⟨_, _, rfl⟩

/-! ## §3. One chunk. -/

variable {r : LinearResampler τ α}

omit [Amplitude α] in
/-- Where a resampler begins to read its next chunk. -/
def entry (r : LinearResampler τ α) : τ :=
  ReadHead.notBefore r.position (if r.history.isSome then -1 else 0)

omit [Amplitude α] in
/-- **Whatever a resampler visits in a chunk is in reach.** -/
theorem Joins.inReach (hordered : ReadHead.Ordered τ) (h : Joins input output r)
    (hin : input.rate < 2 ^ 32) (hout : output.rate < 2 ^ 32) (hframes : 0 < frames)
    (hfew : frames ≤ 2 ^ 32) (hchunk : chunk.length = frames * input.channels)
    (hvisits : Visits frames r.step r.entry t) :
    InReach input.channels frames r.history chunk t := by
  refine hvisits.inReach hordered (fun u => ?_) hframes hfew hchunk h.history
  rw [h.step]
  exact hordered.advance u _ _ (input.rate_pos h.reads) hin (output.rate_pos h.writes) hout

/-- **A resampler takes whatever it is given**, as long as the frames can be counted. -/
theorem Joins.exists_process? (hordered : ReadHead.Ordered τ) (h : Joins input output r)
    (hin : input.rate < 2 ^ 32) (hout : output.rate < 2 ^ 32) {data : List UInt8}
    (hfew : data.length / input.align ≤ 2 ^ 32) : ∃ done, r.process? data = some done := by
  have halign := input.align_pos h.reads
  unfold LinearResampler.process?
  rw [h.source, h.target, if_neg (by omega)]
  dsimp only
  split
  · exact ⟨_, rfl⟩
  next hframes =>
    obtain ⟨chunk, hdecode, hchunk⟩ := exists_decoded (β := α) h.reads (length_take_whole input data)
    obtain ⟨⟨samples, next⟩, hconvert⟩ : ∃ converted,
        r.convert? (data.length / input.align) chunk = some converted := by
      unfold LinearResampler.convert?
      split
      · exact ⟨_, rfl⟩
      · rw [h.source]
        have hreach : ∀ u, Visits (data.length / input.align) r.step r.entry u →
            InReach input.channels (data.length / input.align) r.history chunk u :=
          fun u => h.inReach hordered hin hout (Nat.pos_of_ne_zero hframes) hfew hchunk
        obtain ⟨heard, last, hglide⟩ :=
          exists_glide (r.positionBound (data.length / input.align)) [] hreach
        dsimp only
        rw [show ReadHead.notBefore r.position _ = r.entry from rfl, hglide]
        exact ⟨_, rfl⟩
    rw [hdecode]
    simp only [Option.bind_eq_bind, Option.bind_some, hconvert, Sample.encodeFrames?_eq h.writes]
    exact ⟨_, rfl⟩

end LinearResampler

/-! ## §4. One cycle. -/

namespace DeviceRoute

open LinearResampler (Joins)

/-- What is requested has no more bytes than the free frames have at the rate of the source. -/
theorem counted_in_word {κ : Type} {r : DeviceRoute κ} (hreads : r.source.isSupported = true)
    {free requested : Nat} (hcounted : r.requested? free = some requested)
    (hfree : free * r.source.rate * r.source.align < 2 ^ 64) :
    requested * r.source.align < 2 ^ 64 := by
  have hrequested : requested ≤ free * r.source.rate := by
    unfold requested? at hcounted
    split at hcounted
    · split at hcounted
      · exact absurd hcounted (by simp)
      · rw [← Option.some.inj hcounted]
        exact Nat.div_le_self _ _
    · rw [← Option.some.inj hcounted]
      exact Nat.le_mul_of_pos_right _ (r.source.rate_pos hreads)
  exact Nat.lt_of_le_of_lt (Nat.mul_le_mul_right _ hrequested) hfree

/-- So they are counted, as nothing more is written than was requested. -/
theorem countable_of_word {κ : Type} {r : DeviceRoute κ} (hreads : r.source.isSupported = true)
    {free requested : Nat} (hcounted : r.requested? free = some requested)
    (hfree : free * r.source.rate * r.source.align < 2 ^ 64) : r.countable requested = true :=
  decide_eq_true (Nat.lt_of_le_of_lt (Nat.mul_le_mul_right _ (r.frames_le requested))
    (counted_in_word hreads hcounted hfree))

/-- **What takes a cycle down** is the endpoint, if its source has frames, a stage has a rate to
convert to, the bytes to write are counted, and what is written can be scaled and goes through the
stage. -/
theorem endpoint_of_fault {σ κ : Type} [Host σ] [Stage κ] {r : DeviceRoute κ} {host : σ}
    {gain : Single} (haligned : 0 < r.source.align)
    (hrate : r.stage.isSome → 0 < r.endpoint.format.rate)
    (hcountable : ∀ {free after requested}, Host.freeFrames host r.endpoint = (.ok free, after) →
      r.requested? free = some requested → r.countable requested = true)
    (hstaged : ∀ requested, ∃ staged, r.staged? gain requested = some staged)
    (hprocess : ∀ {stage requested staged}, r.stage = some stage →
      r.staged? gain requested = some staged → ∃ done, Stage.process? stage staged = some done)
    {fault : CycleFault} (h : (r.cycle host gain).outcome = .error fault) : fault = .endpoint := by
  unfold cycle at h
  split at h
  · exact (Except.error.inj h).symm
  next answer after _ hroom =>
    split at h
    next hnone =>
      -- Only a stage asks for the rate of the device.
      unfold requested? at hnone
      split at hnone
      next hstage =>
        rw [Bool.and_eq_true] at hstage
        rw [if_neg (Nat.pos_iff_ne_zero.mp (hrate hstage.1))] at hnone
        exact absurd hnone (by simp)
      · exact absurd hnone (by simp)
    · exact absurd h (by simp [unmoved])
    next requested hsome hcounted =>
      have hmany : r.countable requested = true := by
        cases answer with
        | ok free => exact hcountable hroom hcounted
        | error fault => exact absurd (requested?_zero hcounted) hsome
      rw [if_neg (Nat.pos_iff_ne_zero.mp haligned), if_pos hmany] at h
      obtain ⟨staged, hscaled⟩ := hstaged requested
      cases hstage : r.stage with
      | none =>
          rw [deliver_direct hscaled hstage] at h
          unfold deliverPlain at h
          split at h
          · exact (Except.error.inj h).symm
          · exact absurd h (by simp [unmoved])
          · exact absurd h (by simp [moved])
      | some stage =>
          obtain ⟨done, hdone⟩ := hprocess hstage hscaled
          rw [deliver_through hscaled hstage] at h
          unfold deliverConverted at h
          rw [hdone] at h
          dsimp only at h
          split at h
          · split at h
            · exact (Except.error.inj h).symm
            · exact absurd h (by simp [moved])
          · exact absurd h (by simp [unmoved])

/-- A route whose source can be read, and whose stage converts what is read to what the device
renders. -/
structure Joined {τ α : Type} [ReadHead τ α] (r : DeviceRoute (LinearResampler τ α)) : Prop where
  source : r.source.isSupported = true
  stage : ∀ stage, r.stage = some stage →
    Joins r.source (Stage.outputFormat r.source r.endpoint.format) stage

/-- **Routes are joined at any time.** -/
theorem joined_always {σ τ α : Type} [Host σ] [Amplitude α] [ReadHead τ α] :
    RouteInvariant σ (Joined : DeviceRoute (LinearResampler τ α) → Prop) where
  built hsupported _ hbuilt := by
    have hbetween := between_of_build hbuilt
    obtain ⟨_, hendpoint, hsource, _⟩ := build_ok hbuilt
    refine ⟨by rw [hsource]; exact hsupported, fun stage hstage => ?_⟩
    rw [hstage] at hbetween
    rw [hendpoint, hsource]
    exact LinearResampler.joins_create (create_of_between hbetween)
  settled h hcont hstage := by
    refine ⟨by rw [hcont.source]; exact h.source, ?_⟩
    rw [hcont.source, hcont.endpoint, hstage]
    exact h.stage
  rewound {r} h := by
    exact ⟨h.source, stage_rewound fun before hbefore => (h.stage before hbefore).reset⟩
  cycled {r} host gain h := by
    have hcont := (accounts_cycle host r gain).continues
    refine ⟨by rw [hcont.source]; exact h.source, ?_⟩
    rw [hcont.source, hcont.endpoint]
    refine stage_cycled h.stage ?_
    intro stage requested staged conversion hthrough _ hprocess
    exact (h.stage stage hthrough).process? hprocess

end DeviceRoute

/-! ## §5. Every cycle. -/

namespace Session

open DeviceRoute (joined_always paced_always endpoint_of_fault counted_in_word countable_of_word)
open LinearResampler (Visits InReach)

/-- **A cycle stays up.**  Take the device route of a session at any time: after any calls, feeds,
cycles and restarts, on any machine, with whatever format its endpoint states.  Its read head keeps
its positions in order, and the rates and the frames of the buffer are counts of 32 bits.

Whatever is divided by is not zero.  What is cut out of the ring is in it, and the counts that lead
to it have 64 bits, if the room that the endpoint states has, as bytes of the source at its rate.
Every position that the stage looks up in a chunk, of as many frames as the buffer or of fewer, is
between two frames of it, or of the one that is remembered and of it.

So nothing takes a cycle down but the endpoint itself, if the room that it states now has 64 bits in
this way. -/
theorem cycles_stay_up {σ τ α : Type} [Host σ] [Amplitude α] [ReadHead τ α]
    (hordered : ReadHead.Ordered τ) {host : σ} {source : Format} {selected : Option String}
    {config : SessionConfig} {s : Session σ (LinearResampler τ α)}
    (hcreate : Session.create host source selected config = .ok s) {moves : List (Move σ)}
    {c : Crew σ (LinearResampler τ α)} {trace : List Event}
    (hrun : Crew.run { session := s } moves = some (c, trace))
    {r : DeviceRoute (LinearResampler τ α)} (hr : c.session.route = .device r)
    (hsource : r.source.rate < 2 ^ 32) (hdevice : r.endpoint.format.rate < 2 ^ 32)
    (hbuffer : r.timing.bufferFrames < 2 ^ 32) (now : σ) (gain : Single) :
    (0 < r.source.align ∧ 0 < r.source.sampleSize
        ∧ (r.stage.isSome → 0 < r.endpoint.format.rate ∧ 0 < r.endpoint.format.sampleSize))
      ∧ (∀ free requested, r.requested? free = some requested →
        r.amount requested ≤ (r.padded requested).ring.len
          ∧ r.amount requested ≤ r.timing.bufferFrames * r.source.align
          ∧ (free * r.source.rate * r.source.align < 2 ^ 64 →
            free * r.source.rate < 2 ^ 64 ∧ requested * r.source.align < 2 ^ 64))
      ∧ (∀ stage, r.stage = some stage → ∀ frames chunk t, 0 < frames →
        frames ≤ r.timing.bufferFrames → chunk.length = frames * r.source.channels →
        Visits frames stage.step stage.entry t →
          InReach r.source.channels frames stage.history chunk t)
      ∧ ((∀ free after, Host.freeFrames now r.endpoint = (.ok free, after) →
          free * r.source.rate * r.source.align < 2 ^ 64) →
        ∀ fault, (r.cycle now gain).outcome = .error fault → fault = .endpoint) := by
  obtain ⟨hreads, hstages⟩ : r.Joined := joined_always.of_runCrew hcreate hrun hr
  obtain ⟨_, hsized⟩ := paced_always.of_runCrew hcreate hrun hr
  have hamount : ∀ requested, r.amount requested ≤ r.timing.bufferFrames * r.source.align :=
    fun requested => le_trans (r.amount_le_capacity requested) (le_of_eq hsized)
  have halign := r.source.align_pos hreads
  have hwrites : r.stage.isSome → 0 < r.endpoint.format.rate ∧ 0 < r.endpoint.format.sampleSize := by
    intro hsome
    obtain ⟨stage, hstage⟩ := Option.isSome_iff_exists.mp hsome
    have hsupported := (hstages stage hstage).writes
    -- The stage writes the rate and the width of the device.
    have hrate : 0 < (Stage.outputFormat r.source r.endpoint.format).rate :=
      Format.rate_pos hsupported
    have hsize : 0 < (Stage.outputFormat r.source r.endpoint.format).sampleSize :=
      Format.sampleSize_pos hsupported
    exact ⟨hrate, hsize⟩
  refine ⟨⟨halign, Format.sampleSize_pos hreads, hwrites⟩, fun free requested hcounted => ⟨?_,
    hamount requested, fun hfree => ⟨?_, counted_in_word hreads hcounted hfree⟩⟩,
    fun stage hstage frames chunk t hframes hfew hchunk hvisits => ?_, fun hroom fault hfault => ?_⟩
  · rw [DeviceRoute.len_padded]
    exact Nat.le_max_right _ _
  · exact Nat.lt_of_le_of_lt (Nat.le_mul_of_pos_right _ halign) hfree
  · exact (hstages stage hstage).inReach hordered hsource hdevice hframes (by omega) hchunk hvisits
  · refine endpoint_of_fault halign (fun hsome => (hwrites hsome).1)
      (fun hfree hcounted => countable_of_word hreads hcounted (hroom _ _ hfree))
      (DeviceRoute.exists_staged? hreads gain) (fun {stage requested staged} hstage hscaled => ?_) hfault
    have hfits : staged.length / r.source.align ≤ r.timing.bufferFrames := by
      rw [DeviceRoute.length_staged? hreads hscaled]
      refine Nat.div_le_of_le_mul ?_
      rw [Nat.mul_comm]
      exact hamount requested
    exact (hstages stage hstage).exists_process? hordered hsource hdevice (by omega)

/-- A session over a speaker that states another width and order of bytes than it was opened with,
and frames of no bytes. -/
def vagueSpeaker : Session DeviceBank (LinearResampler Double Single) where
  host := { devices := [{ id := "speaker", name := "Speaker", bufferFrames := 6, free := 6,
                          accepted := some [Format.pcm 12000 16 1]
                          stated := some { Format.pcm 12000 24 1 with align := 0, order := .big } }] }
  config := {}
  source := Format.pcm 8000 16 1
  selected := some "speaker"
  period := Timing.defaultPeriod

/-- The first cycle has left a frame and a read head in front of the chunk to come; there the next
one begins to look frames up, and it goes through. -/
theorem cycles_stay_up_vague :
    Session.create vagueSpeaker.host (Format.pcm 8000 16 1) (some "speaker") {} = .ok vagueSpeaker
      ∧ ∃ c trace r stage, Crew.run { session := vagueSpeaker } afterOneCycle = some (c, trace)
        ∧ c.session.route = .device r ∧ r.endpoint.format.align = 0 ∧ r.stage = some stage
        ∧ ReadHead.whole stage.entry = -1 ∧ stage.history = some [Single.zero false]
        ∧ Visits 4 stage.step stage.entry stage.entry
        ∧ InReach 1 4 stage.history (List.replicate 4 (Single.zero false)) stage.entry
        ∧ ∀ fault, (r.cycle c.session.host c.session.gain).outcome = .error fault →
          fault = .endpoint := by
  have hcreate : Session.create vagueSpeaker.host (Format.pcm 8000 16 1) (some "speaker") {}
      = .ok vagueSpeaker := rfl
  obtain ⟨⟨c, trace⟩, hrun, r, hdevice, halign, hsource, hchannels, hrate, hbuffer, stage, hstage,
      hentry, hhistory, hwithin, hanswer, hsize⟩ :
      ∃ p ∈ Crew.run { session := vagueSpeaker } afterOneCycle, ∃ r ∈ p.1.session.deviceRoute?,
        r.endpoint.format.align = 0 ∧ r.source.rate = 8000 ∧ r.source.channels = 1
          ∧ r.endpoint.format.rate = 12000 ∧ r.timing.bufferFrames = 6
          ∧ ∃ stage ∈ r.stage, ReadHead.whole stage.entry = -1 ∧ stage.history = some [Single.zero false]
            ∧ ReadHead.within stage.entry 3 = true
            ∧ (Host.freeFrames p.1.session.host r.endpoint).1 = .ok 3
            ∧ r.source.align = 2 := by
    decide +kernel
  have hr : c.session.route = .device r := deviceRoute?_eq_some hdevice
  obtain ⟨_, _, hreach, hfault⟩ := cycles_stay_up ReadHead.ordered_double hcreate hrun hr
    (by omega) (by omega) (by omega) c.session.host c.session.gain
  have hroom : ∀ free after, Host.freeFrames c.session.host r.endpoint = (.ok free, after) →
      free * r.source.rate * r.source.align < 2 ^ 64 := by
    intro free after hfree
    rw [hfree] at hanswer
    rw [Except.ok.inj hanswer, hsource, hsize]
    decide
  rw [hchannels] at hreach
  exact ⟨hcreate, c, trace, r, stage, hrun, hr, halign, hstage, hentry, hhistory, .here hwithin,
    hreach stage hstage 4 (List.replicate 4 (Single.zero false)) stage.entry (by omega) (by omega) rfl (.here hwithin),
    hfault hroom⟩

end Session

end PcmRender
