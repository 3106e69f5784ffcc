/-
  PcmRender.Proofs.Cycle — **the ways through a cycle, and what a cycle can do to its route.**

  A cycle asks the endpoint for its room, fills the ring up, scales a copy of what it will write,
  converts the copy if there is a stage, and writes.  `CycleOutcome` lists where it can end:

      idle        there is nothing to write, or the cycle is taken down before it touches the ring
      unscaled    the ring was filled up, and its frames cannot be scaled
      plain       the copy goes to the endpoint as it is
      converted   the copy goes through the stage first

  and `Asks` what was found out on the way.  Whoever wants to know what one cycle does goes through
  these cases, and opens no cycle again.

  In all of them nothing leaves the ring (`unmoved`), or some bytes do (`moved`).  `Accounts` says
  what the two have in common, and is all that most callers need to know:

      the route continues
      content before  ++  zeros   =   popped  ++  content after
-/
import PcmRender.Proofs.Gain
import PcmRender.Proofs.Route
import PcmRender.Route.Cycle

namespace PcmRender.DeviceRoute

variable {σ κ : Type}

/-! ## §1. The ring as it is written. -/

/-- The route after its ring was filled up with silence for so many requested frames. -/
def padded (r : DeviceRoute κ) (requested : Nat) : DeviceRoute κ :=
  { r with ring := r.ring.padWithSilence (r.amount requested) }

/-- A cycle never asks for more than the ring has cells. -/
theorem amount_le_capacity (r : DeviceRoute κ) (requested : Nat) :
    r.amount requested ≤ r.ring.capacity := Nat.min_le_right _ _

/-- The amount that a cycle writes is whole frames, because the store is. -/
theorem align_dvd_amount {r : DeviceRoute κ} (hcap : r.source.align ∣ r.ring.capacity)
    (requested : Nat) : r.source.align ∣ r.amount requested := by
  unfold amount
  rcases Nat.le_total (r.frames requested * r.source.align) r.ring.capacity with hle | hle
  · rw [Nat.min_eq_left hle]
    exact Nat.dvd_mul_left _ _
  · rw [Nat.min_eq_right hle]
    exact hcap

/-- No more frames are written than were requested. -/
theorem frames_le (r : DeviceRoute κ) (requested : Nat) : r.frames requested ≤ requested := by
  unfold frames
  split <;> omega

/-- There are no more of them than were requested. -/
theorem amount_frames {r : DeviceRoute κ} (hcap : r.source.align ∣ r.ring.capacity)
    (haligned : 0 < r.source.align) (requested : Nat) :
    ∃ frames, r.amount requested = frames * r.source.align ∧ frames ≤ requested := by
  obtain ⟨frames, hframes⟩ := align_dvd_amount hcap requested
  have hle : r.amount requested ≤ requested * r.source.align :=
    Nat.le_trans (Nat.min_le_left _ _) (Nat.mul_le_mul_right _ (r.frames_le requested))
  rw [Nat.mul_comm] at hframes
  exact ⟨frames, hframes, Nat.le_of_mul_le_mul_right (hframes ▸ hle) haligned⟩

theorem content_padded (r : DeviceRoute κ) (requested : Nat) :
    (r.padded requested).ring.content
      = r.ring.content ++ List.replicate (r.amount requested - r.ring.len) 0 :=
  Ring.content_padWithSilence r.ring _ (r.amount_le_capacity requested)

theorem len_padded (r : DeviceRoute κ) (requested : Nat) :
    (r.padded requested).ring.len = max r.ring.len (r.amount requested) :=
  Ring.len_padWithSilence r.ring (r.amount_le_capacity requested)

/-- What is written for so many requested frames, before any conversion: the first bytes of the
ring, scaled. -/
def staged? (r : DeviceRoute κ) (gain : Single) (requested : Nat) : Option (List UInt8) :=
  Gain.scaleBytes? r.source gain ((r.padded requested).ring.content.take (r.amount requested))

/-- There is something to write whenever the source can be decoded. -/
theorem exists_staged? {r : DeviceRoute κ} (h : r.source.isSupported = true) (gain : Single)
    (requested : Nat) : ∃ staged, r.staged? gain requested = some staged := by
  obtain ⟨_, _, hpieces⟩ := Gain.scaleBytes?_pieces h gain
  exact ⟨_, hpieces _⟩

theorem length_staged? {r : DeviceRoute κ} (h : r.source.isSupported = true) {gain : Single}
    {requested : Nat} {staged : List UInt8} (hstaged : r.staged? gain requested = some staged) :
    staged.length = r.amount requested := by
  rw [Gain.length_scaleBytes? h hstaged, List.length_take, Ring.length_content, len_padded]
  omega

/-- A ring that has as much as is written gets no silence. -/
theorem padded_enough {r : DeviceRoute κ} {requested : Nat}
    (h : r.amount requested ≤ r.ring.len) :
    (r.padded requested).ring.content = r.ring.content := by
  rw [content_padded, Nat.sub_eq_zero_of_le h, List.replicate_zero, List.append_nil]

/-- A full ring gets none either. -/
theorem padded_full {r : DeviceRoute κ} (hfull : r.ring.free = 0) (requested : Nat) :
    r.padded requested = r := by
  unfold padded
  rw [Ring.padWithSilence_full hfull (r.amount_le_capacity requested)]

/-! ## §2. The ways. -/

variable [Host σ]

/-- The endpoint has room for `free` frames, which are `requested` frames of the source. -/
structure Asks (host : σ) (r : DeviceRoute κ) (free requested : Nat) (after : σ) : Prop where
  /-- It was asked. -/
  room : Host.freeFrames host r.endpoint = (.ok free, after)
  /-- Its frames were counted in those of the source. -/
  counted : r.requested? free = some requested
  /-- There is something to write, -/
  pos : 0 < requested
  /-- in frames with bytes, -/
  aligned : 0 < r.source.align
  /-- and all of these bytes are counted. -/
  countable : r.countable requested = true

variable [Stage κ]

/-- How a cycle can go. -/
inductive CycleOutcome (host : σ) (r : DeviceRoute κ) (gain : Single) : Cycled σ κ → Prop
  /-- Nothing is written, and the ring is as it was. -/
  | idle {answer : Except EndpointFault Nat} {after : σ}
      (room : Host.freeFrames host r.endpoint = (answer, after)) (outcome : Except CycleFault Nat)
      (nothing : ∀ n, outcome = .ok n → n = 0) :
      CycleOutcome host r gain (unmoved after r outcome)
  /-- The frames cannot be scaled. -/
  | unscaled {free requested : Nat} {after : σ} (asks : Asks host r free requested after)
      (fault : CycleFault) :
      CycleOutcome host r gain (unmoved after (r.padded requested) (.error fault))
  /-- They are written. -/
  | plain {free requested : Nat} {after : σ} {staged : List UInt8}
      (asks : Asks host r free requested after) (scaled : r.staged? gain requested = some staged)
      (direct : r.stage = none) :
      CycleOutcome host r gain (deliverPlain after (r.padded requested) staged)
  /-- They are converted. -/
  | converted {free requested : Nat} {after : σ} {staged : List UInt8} {stage : κ}
      (asks : Asks host r free requested after) (scaled : r.staged? gain requested = some staged)
      (through : r.stage = some stage) :
      CycleOutcome host r gain (deliverConverted after (r.padded requested) stage staged)

omit [Host σ] [Stage κ] in
/-- No room is no frame. -/
theorem requested?_zero {r : DeviceRoute κ} {requested : Nat}
    (h : r.requested? 0 = some requested) : requested = 0 := by
  unfold requested? at h
  rw [Nat.zero_mul, Nat.zero_div] at h
  split at h
  · split at h
    · exact absurd h (by simp)
    · exact (Option.some.inj h).symm
  · exact (Option.some.inj h).symm

theorem deliver_outcome {host after : σ} {r : DeviceRoute κ} {free requested : Nat}
    (h : Asks host r free requested after) (gain : Single) :
    CycleOutcome host r gain (deliver after r gain (r.amount requested)) := by
  unfold deliver
  dsimp only
  split
  · exact .unscaled h .shortRing
  · split
    · exact .unscaled h .emptyFrames
    next staged hstaged =>
      split
      next hdirect => exact .plain h hstaged hdirect
      next stage hthrough => exact .converted h hstaged hthrough

/-- **Every cycle goes one of these ways.** -/
theorem cycle_outcome (host : σ) (r : DeviceRoute κ) (gain : Single) :
    CycleOutcome host r gain (r.cycle host gain) := by
  unfold cycle
  split
  next after hroom => exact .idle hroom _ (by simp)
  next answer after _ hroom =>
    split
    · exact .idle hroom _ (by simp)
    · exact .idle hroom _ (by simp)
    next requested hsome hcounted =>
      have hpos : 0 < requested := Nat.pos_of_ne_zero hsome
      split
      · exact .idle hroom _ (by simp)
      next haligned =>
        split
        next hcountable =>
          cases answer with
          | ok free =>
              exact deliver_outcome
                ⟨hroom, hcounted, hpos, Nat.pos_of_ne_zero haligned, hcountable⟩ gain
          | error fault =>
              -- A query that failed reports no room, for which no frame is requested.
              exact absurd (requested?_zero hcounted) hsome
        · exact .idle hroom _ (by simp)

/-- **A cycle that has asked goes on to deliver.** -/
theorem cycle_asks {host after : σ} {r : DeviceRoute κ} {free requested : Nat}
    (h : Asks host r free requested after) (gain : Single) :
    r.cycle host gain = deliver after r gain (r.amount requested) := by
  obtain ⟨hroom, hcounted, hpos, haligned, hcountable⟩ := h
  obtain ⟨more, rfl⟩ : ∃ more, requested = more + 1 := ⟨requested - 1, by omega⟩
  unfold cycle
  rw [hroom]
  dsimp only
  rw [show cycle.free (.ok free) = free from rfl, hcounted]
  exact (if_neg (Nat.pos_iff_ne_zero.mp haligned)).trans (if_pos hcountable)

/-- **More bytes than 64 bits count take a cycle down** before it touches the ring. -/
theorem cycle_uncountable {host after : σ} {r : DeviceRoute κ} {free requested : Nat}
    (hroom : Host.freeFrames host r.endpoint = (.ok free, after))
    (hcounted : r.requested? free = some requested) (hpos : 0 < requested)
    (haligned : 0 < r.source.align) (hmany : r.countable requested = false) (gain : Single) :
    r.cycle host gain = unmoved after r (.error .overflow) := by
  obtain ⟨more, rfl⟩ : ∃ more, requested = more + 1 := ⟨requested - 1, by omega⟩
  unfold cycle
  rw [hroom]
  dsimp only
  rw [show cycle.free (.ok free) = free from rfl, hcounted]
  exact (if_neg (Nat.pos_iff_ne_zero.mp haligned)).trans (if_neg (by rw [hmany]; decide))

/-- What can be scaled goes through the stage. -/
theorem deliver_through {host : σ} {r : DeviceRoute κ} {gain : Single} {requested : Nat}
    {staged : List UInt8} {stage : κ} (hscaled : r.staged? gain requested = some staged)
    (hthrough : r.stage = some stage) :
    deliver host r gain (r.amount requested)
      = deliverConverted host (r.padded requested) stage staged := by
  have hlen := r.len_padded requested
  unfold staged? padded at hscaled
  unfold padded at hlen ⊢
  unfold deliver
  dsimp only at hscaled hlen ⊢
  rw [if_neg (by omega), hscaled, hthrough]

/-- Without a stage it goes to the endpoint as it is. -/
theorem deliver_direct {host : σ} {r : DeviceRoute κ} {gain : Single} {requested : Nat}
    {staged : List UInt8} (hscaled : r.staged? gain requested = some staged)
    (hdirect : r.stage = none) :
    deliver host r gain (r.amount requested) = deliverPlain host (r.padded requested) staged := by
  have hlen := r.len_padded requested
  unfold staged? padded at hscaled
  unfold padded at hlen ⊢
  unfold deliver
  dsimp only at hscaled hlen ⊢
  rw [if_neg (by omega), hscaled, hdirect]

/-! ## §3. What leaves the ring. -/

/-- A cycle that takes bytes from the front of a content and adds nothing. -/
def Splits (content : List UInt8) (done : Cycled σ κ) : Prop :=
  done.popped ++ done.route.ring.content = content

omit [Host σ] [Stage κ] in
theorem content_advance (r : DeviceRoute κ) (removed : Nat) :
    (r.advance removed).ring.content = r.ring.content.drop removed := by
  unfold advance
  by_cases h : 0 < removed
  · rw [if_pos h]
    exact Ring.content_popFront r.ring removed
  · rw [if_neg h, Nat.eq_zero_of_not_pos h, List.drop_zero]

omit [Host σ] [Stage κ] in
theorem splits_unmoved (host : σ) (r : DeviceRoute κ) (outcome : Except CycleFault Nat)
    (offered : Option (List UInt8)) :
    Splits r.ring.content (unmoved host r outcome offered) := List.nil_append _

omit [Host σ] [Stage κ] in
theorem splits_moved (host : σ) (r : DeviceRoute κ) (offered : List UInt8) (removed : Nat) :
    Splits r.ring.content (moved host r offered removed) := by
  show r.ring.content.take removed ++ (r.advance removed).ring.content = _
  rw [content_advance, List.take_append_drop]

omit [Stage κ] in
theorem splits_deliverPlain (host : σ) (r : DeviceRoute κ) (staged : List UInt8) :
    Splits r.ring.content (deliverPlain host r staged) := by
  unfold deliverPlain
  split
  · exact splits_unmoved _ _ _ _
  · exact splits_unmoved _ _ _ _
  · exact splits_moved _ _ _ _

theorem splits_deliverConverted (host : σ) (r : DeviceRoute κ) (stage : κ)
    (staged : List UInt8) : Splits r.ring.content (deliverConverted host r stage staged) := by
  unfold deliverConverted
  split
  · exact splits_unmoved _ _ _ _
  next conversion _ =>
    dsimp only
    split
    · split
      · exact splits_unmoved _ { r with stage := some conversion.next } _ _
      · exact splits_moved _ { r with stage := some conversion.next } _ _
    · exact splits_unmoved _ { r with stage := some conversion.next } _ _

/-- **What leaves the ring and what stays is what was there**, with the silence behind it that the
cycle has put there if it came that far. -/
theorem splits_cycle (host : σ) (r : DeviceRoute κ) (gain : Single) :
    Splits r.ring.content (r.cycle host gain)
      ∨ ∃ free requested after, Asks host r free requested after
        ∧ Splits (r.padded requested).ring.content (r.cycle host gain) := by
  have houtcome := cycle_outcome host r gain
  generalize r.cycle host gain = done at houtcome
  cases houtcome with
  | idle => exact .inl (splits_unmoved _ _ _ _)
  | unscaled hasks => exact .inr ⟨_, _, _, hasks, splits_unmoved _ _ _ _⟩
  | plain hasks => exact .inr ⟨_, _, _, hasks, splits_deliverPlain _ _ _⟩
  | converted hasks => exact .inr ⟨_, _, _, hasks, splits_deliverConverted _ _ _ _⟩

/-! ## §4. The account of a cycle. -/

/-- What a cycle that began on the route `r` does to it, however it ends. -/
structure Accounts (r : DeviceRoute κ) (done : Cycled σ κ) : Prop where
  /-- It is the same route afterwards. -/
  continues : Continues r done.route
  /-- Up to silence behind the content, what left the ring and what stays is what was there. -/
  content : ∃ silence, r.ring.content ++ List.replicate silence 0
    = done.popped ++ done.route.ring.content

omit [Host σ] [Stage κ] in
theorem continues_advance (r : DeviceRoute κ) (removed : Nat) :
    Continues r (r.advance removed) := by
  unfold advance
  by_cases h : 0 < removed
  · rw [if_pos h]
    exact (continues_ring r _ (Ring.capacity_popFront r.ring removed)).trans (continues_clear _)
  · rw [if_neg h]
    exact Continues.refl r

omit [Host σ] [Stage κ] in
theorem continues_padded (r : DeviceRoute κ) (requested : Nat) :
    Continues r (r.padded requested) :=
  continues_ring r _ (Ring.capacity_padWithSilence r.ring _)

omit [Stage κ] in
theorem continues_deliverPlain (host : σ) (r : DeviceRoute κ) (staged : List UInt8) :
    Continues r (deliverPlain host r staged).route := by
  unfold deliverPlain
  split
  · exact Continues.refl r
  · exact Continues.refl r
  · exact continues_advance r _

theorem continues_deliverConverted (host : σ) {r : DeviceRoute κ} {stage : κ}
    (hthrough : r.stage = some stage) (staged : List UInt8) :
    Continues r (deliverConverted host r stage staged).route := by
  unfold deliverConverted
  split
  · exact Continues.refl r
  next conversion _ =>
    -- The stage has moved on even where the stream takes nothing of what it made.
    have hnext : Continues r { r with stage := some conversion.next } :=
      ⟨rfl, rfl, rfl, rfl, by rw [hthrough]; rfl, rfl⟩
    dsimp only
    split
    · split
      · exact hnext
      · exact hnext.trans (continues_advance _ _)
    · exact hnext

theorem continues_cycle (host : σ) (r : DeviceRoute κ) (gain : Single) :
    Continues r (r.cycle host gain).route := by
  have houtcome := cycle_outcome host r gain
  generalize r.cycle host gain = done at houtcome
  cases houtcome with
  | idle => exact Continues.refl r
  | unscaled => exact continues_padded r _
  | plain => exact (continues_padded r _).trans (continues_deliverPlain _ _ _)
  | @converted _ requested _ _ _ _ _ hthrough =>
      have hpadded : (r.padded requested).stage = some _ := hthrough
      exact (continues_padded r _).trans (continues_deliverConverted _ hpadded _)

/-- **Every cycle accounts for its route**, whatever the endpoint and the stage answer. -/
theorem accounts_cycle (host : σ) (r : DeviceRoute κ) (gain : Single) :
    Accounts r (r.cycle host gain) where
  continues := continues_cycle host r gain
  content := by
    rcases splits_cycle host r gain with hsplits | ⟨_, _, _, _, hsplits⟩
    · exact ⟨0, by rw [List.replicate_zero, List.append_nil]; exact hsplits.symm⟩
    · exact ⟨_, (content_padded r _).symm.trans hsplits.symm⟩

end PcmRender.DeviceRoute
