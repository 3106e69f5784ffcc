/-
  PcmRender.Proofs.Offering — **what a cycle gives to its stage, and to the endpoint.**

  The frames at the front of the ring are scaled, and go to the endpoint as they are, or through a
  stage:

      ring  ──scaled──▶  staged  ──────────────────────▶  offered
                           └──process──▶  converted  ──▶  offered

  `Staged` says what becomes of the stage in this, and `Offers` how the bytes came about that the
  endpoint is handed.
-/
import PcmRender.Proofs.Cycle

namespace PcmRender.DeviceRoute

variable {σ κ : Type} [Host σ] [Stage κ]

/-! ## §1. The stage. -/

/-- What a cycle leaves of a stage: what it was, or what it is after the frames that were staged. -/
inductive Staged (r : DeviceRoute κ) (gain : Single) : Option κ → Prop
  /-- Nothing went through it. -/
  | same : Staged r gain r.stage
  /-- The staged frames did. -/
  | next {stage : κ} {requested : Nat} {staged : List UInt8} {conversion : Conversion κ}
      (through : r.stage = some stage) (scaled : r.staged? gain requested = some staged)
      (process : Stage.process? stage staged = some conversion) :
      Staged r gain (some conversion.next)

omit [Host σ] [Stage κ] in
theorem stage_advance (r : DeviceRoute κ) (removed : Nat) :
    (r.advance removed).stage = r.stage := by
  unfold advance
  split <;> rfl

omit [Stage κ] in
theorem stage_deliverPlain (host : σ) (r : DeviceRoute κ) (staged : List UInt8) :
    (deliverPlain host r staged).route.stage = r.stage := by
  unfold deliverPlain
  split
  · rfl
  · rfl
  · exact stage_advance _ _

theorem stage_deliverConverted {host : σ} {r : DeviceRoute κ} {stage : κ} {staged : List UInt8}
    {conversion : Conversion κ} (h : Stage.process? stage staged = some conversion) :
    (deliverConverted host r stage staged).route.stage = some conversion.next := by
  unfold deliverConverted
  rw [h]
  dsimp only
  split
  · split
    · rfl
    · exact stage_advance { r with stage := some conversion.next } _
  · rfl

/-- **A cycle gives the stage the frames that it has staged, or nothing.** -/
theorem staged_cycle (host : σ) (r : DeviceRoute κ) (gain : Single) :
    Staged r gain (r.cycle host gain).route.stage := by
  have houtcome := cycle_outcome host r gain
  generalize r.cycle host gain = done at houtcome
  cases houtcome with
  | idle => exact .same
  | unscaled => exact .same
  | plain =>
      rw [stage_deliverPlain]
      exact .same
  | @converted free requested after staged stage _ hscaled hthrough =>
      cases hprocess : Stage.process? stage staged with
      | none =>
          unfold deliverConverted
          rw [hprocess]
          exact .same
      | some conversion =>
          rw [stage_deliverConverted hprocess]
          exact .next hthrough hscaled hprocess

/-- So what holds of the stage holds of what is left of it, if it does of a stage that the staged
frames have gone through. -/
theorem stage_cycled {fact : κ → Prop} {host : σ} {r : DeviceRoute κ} {gain : Single}
    (h : ∀ stage, r.stage = some stage → fact stage)
    (hnext : ∀ {stage : κ} {requested : Nat} {staged : List UInt8} {conversion : Conversion κ},
      r.stage = some stage → r.staged? gain requested = some staged →
      Stage.process? stage staged = some conversion → fact conversion.next) :
    ∀ stage, (r.cycle host gain).route.stage = some stage → fact stage := by
  intro stage hstage
  have hleft := staged_cycle host r gain
  rw [hstage] at hleft
  generalize hsome : some stage = left at hleft
  cases hleft with
  | same => exact h stage hsome.symm
  | next hthrough hscaled hprocess =>
      rw [Option.some.inj hsome]
      exact hnext hthrough hscaled hprocess

/-! ## §2. What is offered. -/

/-- How bytes come to be handed to the endpoint. -/
inductive Offers (host : σ) (r : DeviceRoute κ) (gain : Single) (data : List UInt8) :
    Cycled σ κ → Prop
  /-- They are those of the ring, scaled. -/
  | plain {free requested : Nat} {after : σ} (asks : Asks host r free requested after)
      (scaled : r.staged? gain requested = some data) (direct : r.stage = none) :
      Offers host r gain data (deliverPlain after (r.padded requested) data)
  /-- They are what the stage has made of all of those. -/
  | converted {free requested : Nat} {after : σ} {staged : List UInt8} {stage : κ}
      {conversion : Conversion κ} (asks : Asks host r free requested after)
      (scaled : r.staged? gain requested = some staged) (through : r.stage = some stage)
      (process : Stage.process? stage staged = some conversion)
      (whole : conversion.consumed = staged.length) (output : conversion.output = data) :
      Offers host r gain data (deliverConverted after (r.padded requested) stage staged)

/-- **A cycle that hands bytes to the endpoint** has gone all the way. -/
theorem offers_cycle {host : σ} {r : DeviceRoute κ} {gain : Single} {data : List UInt8}
    (h : (r.cycle host gain).offered = some data) :
    Offers host r gain data (r.cycle host gain) := by
  have houtcome := cycle_outcome host r gain
  generalize r.cycle host gain = done at h houtcome
  cases houtcome with
  | idle => exact absurd h (by simp [unmoved])
  | unscaled => exact absurd h (by simp [unmoved])
  | @plain free requested after staged hasks hscaled hdirect =>
      have hsame : staged = data := by
        unfold deliverPlain at h
        split at h <;> exact Option.some.inj h
      rw [← hsame] at *
      exact .plain hasks hscaled hdirect
  | @converted free requested after staged stage hasks hscaled hthrough =>
      cases hprocess : Stage.process? stage staged with
      | none =>
          unfold deliverConverted at h
          rw [hprocess] at h
          exact absurd h (by simp [unmoved])
      | some conversion =>
          by_cases hwhole : conversion.consumed = staged.length
          · refine .converted hasks hscaled hthrough hprocess hwhole ?_
            unfold deliverConverted at h
            rw [hprocess] at h
            dsimp only at h
            rw [if_pos hwhole] at h
            split at h <;> exact Option.some.inj h
          · unfold deliverConverted at h
            rw [hprocess] at h
            dsimp only at h
            rw [if_neg hwhole] at h
            exact absurd h (by simp [unmoved])

omit [Stage κ] in
theorem host_deliverPlain (host : σ) (r : DeviceRoute κ) (staged : List UInt8) :
    (deliverPlain host r staged).host = (Host.write host r.endpoint staged).2 := by
  unfold deliverPlain
  generalize Host.write host r.endpoint staged = written
  obtain ⟨answer, later⟩ := written
  rcases answer with (_ | _) | _ <;> rfl

theorem host_deliverConverted {host : σ} {r : DeviceRoute κ} {stage : κ} {staged : List UInt8}
    {conversion : Conversion κ} (hprocess : Stage.process? stage staged = some conversion)
    (hwhole : conversion.consumed = staged.length) :
    (deliverConverted host r stage staged).host
      = (Host.write host r.endpoint conversion.output).2 := by
  unfold deliverConverted
  rw [hprocess]
  dsimp only
  rw [if_pos hwhole]
  generalize Host.write host r.endpoint conversion.output = written
  obtain ⟨answer, later⟩ := written
  rcases answer with (_ | _) | _ <;> rfl

/-- **What is offered is written**, and that is the last that a cycle does on its machine. -/
theorem writes_cycle {host after : σ} {r : DeviceRoute κ} {gain : Single} {data : List UInt8}
    {free : Nat} (hroom : Host.freeFrames host r.endpoint = (.ok free, after))
    (h : (r.cycle host gain).offered = some data) :
    (r.cycle host gain).host = (Host.write after r.endpoint data).2 := by
  have hoffers := offers_cycle h
  generalize r.cycle host gain = done at hoffers
  cases hoffers with
  | plain hasks =>
      obtain rfl := (Prod.mk.inj (hasks.room.symm.trans hroom)).2
      exact host_deliverPlain _ _ _
  | converted hasks _ _ hprocess hwhole houtput =>
      obtain rfl := (Prod.mk.inj (hasks.room.symm.trans hroom)).2
      rw [host_deliverConverted hprocess hwhole, houtput]
      rfl

end PcmRender.DeviceRoute
