/-
  PcmRender.Proofs.Waking — **no producer sleeps through what it waits for.**

  A producer that cannot go on reads the progress counter in its gate section, gives the gate back,
  and sleeps as long as the counter stays.  Anybody may come in between.  That does no harm, because
  what a producer waits for happens in gate sections too, and these move the counter:

      a cycle takes bytes out of the ring     on
      a switch ends                           on
      everything else                         never back

  So a counter that stays tells that nothing of this kind has happened (`NothingAwaited`): a producer
  that was parked on a full ring has missed no space, and one that was parked on a switch has the
  same switch before it (`SameSwitch`).

  `counterGoesOn_step` is about one move, and `nothingAwaited_run` about many; `parked_step` says how a
  producer comes to be parked, and `parked_run` finds the section in which that was.
-/
import PcmRender.Proofs.Cycle
import PcmRender.Proofs.Stall

namespace PcmRender

variable {σ κ : Type}

/-! ## §1. Sections and the counter. -/

namespace Session

/-- The counter does not go back between `s` and `t`, and it goes on if a switch ends there. -/
structure CounterGoesOn (s t : Session σ κ) : Prop where
  progress : s.progress ≤ t.progress
  ends : s.switching = true → t.switching = false → s.progress < t.progress

/-- What leaves the counter and the mark of a switch alone. -/
theorem CounterGoesOn.of_same {s t : Session σ κ} (hprogress : t.progress = s.progress)
    (hswitching : t.switching = s.switching) : CounterGoesOn s t where
  progress := Nat.le_of_eq hprogress.symm
  ends := fun hmarked hunmarked => by
    rw [hswitching, hmarked] at hunmarked
    exact absurd hunmarked (by simp)

theorem CounterGoesOn.refl (s : Session σ κ) : CounterGoesOn s s := .of_same rfl rfl

theorem CounterGoesOn.trans {s t u : Session σ κ} (h : CounterGoesOn s t)
    (k : CounterGoesOn t u) : CounterGoesOn s u where
  progress := Nat.le_trans h.progress k.progress
  ends := fun hmarked hunmarked => by
    -- The mark has gone in one of the two.
    cases hbetween : t.switching with
    | false => exact Nat.lt_of_lt_of_le (h.ends hmarked hbetween) k.progress
    | true => exact Nat.lt_of_le_of_lt h.progress (k.ends hbetween hunmarked)

/-- **The end of a switch wakes producers.** -/
theorem counterGoesOn_endSwitch (s : Session σ κ) : CounterGoesOn s s.endSwitch where
  progress := Nat.le_succ _
  ends := fun _ _ => Nat.lt_succ_self _

theorem counterGoesOn_beginSwitch (s : Session σ κ) : CounterGoesOn s s.beginSwitch where
  progress := Nat.le_refl _
  ends := fun _ hunmarked => absurd hunmarked (by simp [beginSwitch])

theorem counterGoesOn_drainExited (s : Session σ κ) (generation : Nat) :
    CounterGoesOn s (s.drainExited generation) := by
  rw [drainExited_eq]
  exact .of_same rfl rfl

theorem counterGoesOn_joinDrain (s : Session σ κ) : CounterGoesOn s s.joinDrain := by
  obtain ⟨log, hlog⟩ := s.joinDrain_eq
  rw [hlog]
  exact .of_same rfl rfl

theorem counterGoesOn_spawnRefused (s : Session σ κ) (generation : Nat) (reason : String) :
    CounterGoesOn s (s.spawnRefused generation reason) := by
  obtain ⟨log, hlog⟩ := spawnRefused_eq s generation reason
  rw [hlog]
  exact .of_same rfl rfl

theorem counterGoesOn_setFormat (s : Session σ κ) (format : Format) :
    CounterGoesOn s (s.setFormat format).2 := by
  unfold setFormat
  split
  · exact CounterGoesOn.refl s
  · split <;> exact .of_same rfl rfl

/-- Producers do not wake each other. -/
theorem counterGoesOn_feedSection (s : Session σ κ) (chunk : List UInt8) (now : Instant) :
    CounterGoesOn s (s.feedSection chunk now).2 := by
  unfold feedSection
  split
  · exact CounterGoesOn.refl s
  · split
    · exact CounterGoesOn.refl s
    · split
      · exact CounterGoesOn.refl s
      · split
        · unfold feedRoute
          dsimp only
          split <;> exact .of_same rfl rfl
        · exact CounterGoesOn.refl s
      · exact CounterGoesOn.refl s

section Machine

variable [Host σ]

theorem counterGoesOn_pause (s : Session σ κ) : CounterGoesOn s s.pause.2 := by
  unfold pause
  split
  · split <;> exact .of_same rfl rfl
  · exact CounterGoesOn.refl s

theorem counterGoesOn_stopSection (s : Session σ κ) : CounterGoesOn s s.stopSection.2 := by
  unfold stopSection
  split
  · have hstream : CounterGoesOn s s.stopStream := by
      unfold stopStream
      split
      · split <;> exact .of_same rfl rfl
      · exact CounterGoesOn.refl s
    exact hstream.trans (.of_same rfl rfl)
  · exact CounterGoesOn.refl s

theorem counterGoesOn_closeSection (s : Session σ κ) : CounterGoesOn s s.closeSection := by
  unfold closeSection
  split <;> exact .of_same rfl rfl

variable [Stage κ]

theorem counterGoesOn_openDevice (s : Session σ κ) (device : String) :
    CounterGoesOn s (s.openDevice device).2 := by
  unfold openDevice
  dsimp only
  split
  · unfold openEndpoint
    split <;> exact .of_same rfl rfl
  · exact .of_same rfl rfl
  · exact .of_same rfl rfl

theorem counterGoesOn_openSection (s : Session σ κ) : CounterGoesOn s s.openSection.2 := by
  unfold openSection
  split
  · exact .of_same rfl rfl
  · exact s.counterGoesOn_openDevice _
  · exact CounterGoesOn.refl s

theorem counterGoesOn_startSection (s : Session σ κ) : CounterGoesOn s s.startSection.2 := by
  unfold startSection
  split
  · exact CounterGoesOn.refl s
  · split
    · exact CounterGoesOn.refl s
    · exact .of_same rfl rfl
    · unfold startDevice
      dsimp only
      split <;> exact .of_same rfl rfl

end Machine

end Session

/-! ## §2. Cycles and the counter. -/

namespace DeviceRoute

variable [Host σ] {r : DeviceRoute κ}

/-- A cycle that took something out of the ring says so. -/
def ReportsTaking (done : Cycled σ κ) : Prop :=
  done.popped ≠ [] → ∃ removed, done.outcome = .ok removed ∧ 0 < removed

omit [Host σ] in
theorem reportsTaking_unmoved (host : σ) (r : DeviceRoute κ) (outcome : Except CycleFault Nat)
    (offered : Option (List UInt8)) : ReportsTaking (unmoved host r outcome offered) :=
  fun hpopped => absurd rfl hpopped

omit [Host σ] in
theorem reportsTaking_moved (host : σ) (r : DeviceRoute κ) (offered : List UInt8) (removed : Nat) :
    ReportsTaking (moved host r offered removed) := by
  intro hpopped
  refine ⟨removed, rfl, Nat.pos_of_ne_zero fun hzero => hpopped ?_⟩
  show r.ring.content.take removed = []
  rw [hzero, List.take_zero]

theorem reportsTaking_deliverPlain (host : σ) (r : DeviceRoute κ) (staged : List UInt8) :
    ReportsTaking (deliverPlain host r staged) := by
  unfold deliverPlain
  split
  · exact reportsTaking_unmoved _ _ _ _
  · exact reportsTaking_unmoved _ _ _ _
  · exact reportsTaking_moved _ _ _ _

variable [Stage κ]

theorem reportsTaking_deliverConverted (host : σ) (r : DeviceRoute κ) (stage : κ)
    (staged : List UInt8) :
    ReportsTaking (deliverConverted host r stage staged) := by
  unfold deliverConverted
  split
  · exact reportsTaking_unmoved _ _ _ _
  · dsimp only
    split
    · split
      · exact reportsTaking_unmoved _ _ _ _
      · exact reportsTaking_moved _ _ _ _
    · exact reportsTaking_unmoved _ _ _ _

/-- **A cycle that takes bytes out of the ring says so.** -/
theorem reportsTaking_cycle (host : σ) (r : DeviceRoute κ) (gain : Single) :
    ReportsTaking (r.cycle host gain) := by
  have houtcome := cycle_outcome host r gain
  generalize r.cycle host gain = done at houtcome
  cases houtcome with
  | idle => exact reportsTaking_unmoved _ _ _ _
  | unscaled => exact reportsTaking_unmoved _ _ _ _
  | plain => exact reportsTaking_deliverPlain _ _ _
  | converted => exact reportsTaking_deliverConverted _ _ _ _

end DeviceRoute

/-- **A turn of a drain task that takes bytes out of the ring wakes producers.** -/
theorem Session.counterGoesOn_drainTurn [Host σ] [Stage κ] (s : Session σ κ) (generation : Nat) :
    CounterGoesOn s (s.drainTurn generation).2
      ∧ ∀ r done, s.cycle? generation = some (r, done) → done.popped ≠ [] →
        s.progress < (s.drainTurn generation).2.progress := by
  unfold drainTurn
  cases hcycle : s.cycle? generation with
  | none => exact ⟨CounterGoesOn.refl s, fun _ _ hnone => absurd hnone (by simp)⟩
  | some found =>
      obtain ⟨r, done⟩ := found
      obtain ⟨_, _, _, hdone⟩ := cycle?_eq_some hcycle
      have htells := DeviceRoute.reportsTaking_cycle s.host r s.gain
      rw [← hdone] at htells
      dsimp only
      cases houtcome : done.outcome with
      | error fault =>
          refine ⟨.of_same rfl rfl, ?_⟩
          rintro _ _ hsame hpopped
          obtain ⟨rfl, rfl⟩ := Prod.mk.inj (Option.some.inj hsame)
          obtain ⟨removed, hok, _⟩ := htells hpopped
          exact absurd (houtcome.symm.trans hok) (by simp)
      | ok removed =>
          dsimp only
          unfold drained
          by_cases hsome : 0 < removed
          · rw [if_pos hsome]
            exact ⟨⟨Nat.le_succ _, fun _ _ => Nat.lt_succ_self _⟩,
              fun _ _ _ _ => Nat.lt_succ_self _⟩
          · rw [if_neg hsome]
            refine ⟨.of_same rfl rfl, ?_⟩
            rintro _ _ hsame hpopped
            obtain ⟨rfl, rfl⟩ := Prod.mk.inj (Option.some.inj hsame)
            obtain ⟨other, hok, hpos⟩ := htells hpopped
            rw [houtcome] at hok
            injection hok with hsame
            exact absurd (hsame ▸ hpos) hsome

/-! ## §3. Lifecycle calls and the counter. -/

namespace Errand

open Session

variable [Host σ] [Stage κ]

/-- **Of the moves of a call, the end of a switch is the one that wakes producers.** -/
theorem counterGoesOn_advance? {s : Session σ κ} {e : Errand} {joined : Bool} {done : Advance σ κ}
    (hdone : e.advance? s joined = some done) : CounterGoesOn s done.session := by
  obtain ⟨t, hacts, hrests⟩ := advance_acts hdone
  refine CounterGoesOn.trans ?_ (CounterGoesOn.of_same hrests.progress hrests.switching)
  cases hacts with
  | marked => exact s.counterGoesOn_beginSwitch
  | stopped => exact s.counterGoesOn_stopSection
  | awaited => exact CounterGoesOn.refl s
  | halted => exact s.counterGoesOn_joinDrain
  | closed => exact s.counterGoesOn_closeSection
  | opened => exact s.counterGoesOn_openSection
  | started => exact s.counterGoesOn_startSection
  | tidied => exact .of_same rfl rfl
  | hired => exact .of_same rfl rfl
  | unhired => exact CounterGoesOn.refl s
  | retracted _ generation reason => exact s.counterGoesOn_spawnRefused generation reason
  | undone => exact .of_same rfl rfl
  | ended => exact s.counterGoesOn_endSwitch

end Errand

/-! ## §4. Moves and the counter. -/

/-- The counter that a parked producer has read. -/
def Producer.seen? : Producer → Option Nat
  | .resting => none
  | .offering _ => none
  | .held _ seen => some seen
  | .blocked seen _ => some seen

/-- What a producer has found in the gate section that has parked it. -/
inductive Producer.Finds (s : Session σ κ) : Producer → Prop
  /-- A switch was under way. -/
  | held (chunk : List UInt8) (switching : s.switching = true) : Finds s (.held chunk s.progress)
  /-- The ring was full. -/
  | blocked (r : DeviceRoute κ) (unmarked : s.switching = false) (started : s.phase = .started)
      (device : s.route = .device r) (full : r.ring.free = 0) :
      Finds s (.blocked s.progress r.timing.period)

theorem Producer.Finds.seen? {s : Session σ κ} {point : Producer} (h : point.Finds s) :
    point.seen? = some s.progress := by
  cases h <;> rfl

/-- **A gate section that parks its producer** has found what the producer waits for, and read the
counter. -/
theorem Session.feedSection_parks (s : Session σ κ) (chunk : List UInt8) (now : Instant) :
    (∀ seen t, s.feedSection chunk now = (.awaitSwitch seen, t) →
        Producer.Finds s (.held chunk seen))
      ∧ ∀ seen period t, s.feedSection chunk now = (.awaitSpace seen period, t) →
        Producer.Finds s (.blocked seen period) := by
  unfold feedSection
  split
  · exact ⟨by simp, by simp⟩
  next hsome =>
    split
    next hmarked =>
      refine ⟨fun seen t heq => ?_, by simp⟩
      injection (Prod.mk.inj heq).1 with hseen
      rw [← hseen]
      exact .held chunk hmarked
    next hunmarked =>
      split
      · exact ⟨by simp, by simp⟩
      next r hr =>
        split
        next hstarted =>
          unfold feedRoute
          dsimp only
          split
          · exact ⟨by simp, by simp⟩
          next hnothing =>
            -- Nothing of a chunk with bytes fits only if there is no room at all.
            have hfull : r.ring.free = 0 := by
              rw [Ring.append_count] at hnothing
              have hbytes := List.length_pos_iff.mpr (mt List.isEmpty_iff.mpr hsome)
              omega
            refine ⟨by simp, fun seen period t heq => ?_⟩
            injection (Prod.mk.inj heq).1 with hseen hperiod
            rw [← hseen, ← hperiod]
            exact .blocked r (by simpa using hunmarked) hstarted hr hfull
        · exact ⟨by simp, by simp⟩
      · exact ⟨by simp, by simp⟩

namespace Crew

/-- A switch ends. -/
def SwitchEnds (c next : Crew σ κ) : Prop :=
  c.session.switching = true ∧ next.session.switching = false

variable [Host σ] [Stage κ] {c next last : Crew σ κ} {trace events : List Event} {move : Move σ}

/-- **A drain task that takes bytes out of the ring moves the counter on.** -/
theorem counterGoesOn_drain {index : Nat} {t : DrainThread} (ht : c.threads[index]? = some t)
    (hstep : c.drain index t = some (next, events)) :
    c.session.CounterGoesOn next.session
      ∧ (c.popped (.drain index) ≠ [] → c.session.progress < next.session.progress) := by
  have hsession := (drain_session hstep).1
  generalize next.session = s at hsession
  cases hsession with
  | same houtside =>
      exact ⟨Session.CounterGoesOn.refl _, fun hpopped => absurd (popped_outside ht houtside) hpopped⟩
  | paused houtside =>
      exact ⟨c.session.counterGoesOn_pause, fun hpopped => absurd (popped_outside ht houtside) hpopped⟩
  | left houtside =>
      exact ⟨c.session.counterGoesOn_drainExited _,
        fun hpopped => absurd (popped_outside ht houtside) hpopped⟩
  | turned hinside =>
      obtain ⟨hstirs, hmoves⟩ := c.session.counterGoesOn_drainTurn t.generation
      refine ⟨hstirs, fun hpopped => ?_⟩
      obtain ⟨r, done, hcycle, hdone⟩ := popped_inside ht hinside hpopped
      exact hmoves r done hcycle (hdone ▸ hpopped)

/-- **Every move of anyone leaves the counter or moves it on**, and it moves it on if it takes bytes
out of the ring. -/
theorem counterGoesOn_step (hstep : c.step move = some (next, events)) :
    c.session.CounterGoesOn next.session
      ∧ (c.popped move ≠ [] → c.session.progress < next.session.progress) := by
  cases move with
  | call request =>
      refine ⟨?_, fun hpopped => absurd rfl hpopped⟩
      obtain ⟨_, rfl, _⟩ := step_call hstep
      cases request with
      | setFormat format => exact c.session.counterGoesOn_setFormat format
      | _ => exact .of_same rfl rfl
  | advance =>
      refine ⟨?_, fun hpopped => absurd rfl hpopped⟩
      obtain ⟨done, hdone, rfl, _⟩ := advance_done hstep
      exact Errand.counterGoesOn_advance? hdone
  | drain index =>
      obtain ⟨t, ht, hdrain⟩ := step_drain hstep
      exact counterGoesOn_drain ht hdrain
  | offer producer chunk =>
      refine ⟨?_, fun hpopped => absurd rfl hpopped⟩
      obtain ⟨_, rfl, _⟩ := step_offer hstep
      exact Session.CounterGoesOn.refl _
  | produce producer now =>
      refine ⟨?_, fun hpopped => absurd rfl hpopped⟩
      cases produce_outcome hstep with
      | first chunk =>
          rw [session_feed]
          exact c.session.counterGoesOn_feedSection chunk now
      | second => exact Session.CounterGoesOn.refl _
  | gain gain =>
      obtain ⟨rfl, rfl⟩ := Prod.mk.inj (Option.some.inj hstep)
      exact ⟨.of_same rfl rfl, fun hpopped => absurd rfl hpopped⟩
  | elsewhere change =>
      obtain ⟨rfl, rfl⟩ := Prod.mk.inj (Option.some.inj hstep)
      exact ⟨.of_same rfl rfl, fun hpopped => absurd rfl hpopped⟩

/-! ## §5. Runs. -/

/-- A move in which nothing happens that a producer on a full ring waits for. -/
structure NothingAwaited (c : Crew σ κ) (move : Move σ) (_events : List Event) (next : Crew σ κ) :
    Prop where
  /-- No cycle takes a byte out of the ring. -/
  popped : c.popped move = []
  /-- No switch ends. -/
  unended : ¬ c.SwitchEnds next

/-- A move in which one and the same switch is under way. -/
structure SameSwitch (c : Crew σ κ) (move : Move σ) (events : List Event) (next : Crew σ κ) :
    Prop where
  /-- The mark is set before it, -/
  before : c.session.switching = true
  /-- and after it. -/
  after : next.session.switching = true
  /-- No other call begins, -/
  alone : ∀ request, move ≠ .call request
  /-- and the one that is under way does not return. -/
  unreturned : ∀ answer, .returned answer ∉ events

/-- A run with a property of all its moves. -/
inductive Throughout (P : Crew σ κ → Move σ → List Event → Crew σ κ → Prop) :
    Crew σ κ → List (Move σ) → Crew σ κ → Prop
  | nil (c : Crew σ κ) : Throughout P c [] c
  | cons {c next last : Crew σ κ} {move : Move σ} {events : List Event} {rest : List (Move σ)}
      (step : c.step move = some (next, events)) (now : P c move events next)
      (h : Throughout P next rest last) : Throughout P c (move :: rest) last

/-- **The counter never goes back in a run**, and the end of a switch in it has moved it on. -/
theorem counterGoesOn_run (moves : List (Move σ)) : ∀ {c last : Crew σ κ} {events : List Event},
    c.run moves = some (last, events) → c.session.CounterGoesOn last.session := by
  induction moves with
  | nil =>
      intro c last events hrun
      obtain ⟨rfl, rfl⟩ := Prod.mk.inj (Option.some.inj hrun)
      exact Session.CounterGoesOn.refl _
  | cons move rest ih =>
      intro c last events hrun
      obtain ⟨next, seen, more, hstep, hrest, rfl⟩ := run_cons hrun
      exact (counterGoesOn_step hstep).1.trans (ih hrest)

/-- A counter that is the same at both ends of a run has not moved in the first move of it. -/
theorem stays_step (hstep : c.step move = some (next, events)) {rest : List (Move σ)}
    {more : List Event} (hrest : next.run rest = some (last, more))
    (hstays : last.session.progress = c.session.progress) :
    next.session.progress = c.session.progress
      ∧ last.session.progress = next.session.progress := by
  have hfirst := (counterGoesOn_step hstep).1.progress
  have hlater := (counterGoesOn_run rest hrest).progress
  omega

/-- **If the counter stays, nothing has happened that a producer on a full ring waits for.** -/
theorem nothingAwaited_run (moves : List (Move σ)) : ∀ {c last : Crew σ κ} {events : List Event},
    c.run moves = some (last, events) → last.session.progress = c.session.progress →
      Throughout NothingAwaited c moves last := by
  induction moves with
  | nil =>
      intro c last events hrun _
      obtain ⟨rfl, rfl⟩ := Prod.mk.inj (Option.some.inj hrun)
      exact .nil c
  | cons move rest ih =>
      intro c last events hrun hstays
      obtain ⟨next, seen, more, hstep, hrest, rfl⟩ := run_cons hrun
      obtain ⟨hfirst, hlater⟩ := stays_step hstep hrest hstays
      obtain ⟨hstirs, hmoves⟩ := counterGoesOn_step hstep
      rw [hfirst] at hmoves
      refine .cons hstep ⟨?_, fun hends => ?_⟩ (ih hrest hlater)
      · by_cases hpopped : c.popped move = []
        · exact hpopped
        · exact absurd (hmoves hpopped) (Nat.lt_irrefl _)
      · exact absurd (hstirs.ends hends.1 hends.2) (by rw [hfirst]; exact Nat.lt_irrefl _)

/-- A call that returns leaves nobody at work. -/
theorem returned_step (h : c.Sound trace) (hstep : c.step move = some (next, events))
    {answer : Except Fault Unit} (hreturned : .returned answer ∈ events) :
    c.errand = .idle ∨ next.errand = .idle := by
  cases step_outcome hstep with
  | call request hidle => exact .inl hidle
  | advance hstep =>
      obtain ⟨done, hdone, rfl, rfl⟩ := advance_done hstep
      exact .inr (Errand.shows_advance? h.kept hdone _ hreturned)
  | drain index t _ hstep =>
      rcases events_drain hstep hreturned with hcycled | hleft
      · exact absurd hcycled (by simp)
      · exact absurd hleft (by simp)
  | offer => exact absurd hreturned (by simp)
  | produce producer now houtcome =>
      cases houtcome with
      | first chunk =>
          obtain ⟨_, _, heq, _⟩ := events_feed hreturned
          exact absurd heq (by simp)
      | second => exact absurd (List.mem_singleton.mp hreturned) (by simp)
  | steady => exact absurd hreturned (by simp)

omit [Host σ] [Stage κ] in
/-- While the mark is set a call is at work. -/
theorem Sound.busy (h : c.Sound trace) (hmarked : c.session.switching = true) :
    c.errand ≠ .idle := by
  intro hidle
  have hmark := h.kept.marked
  rw [hidle, hmarked] at hmark
  exact absurd hmark (by simp [Errand.marked])

/-- **A switch that does not end goes on.** -/
theorem sameSwitch_step (h : c.Sound trace) (hmarked : c.session.switching = true)
    (hstep : c.step move = some (next, events)) (hquiet : NothingAwaited c move events next) :
    SameSwitch c move events next := by
  have hnext : next.session.switching = true := by
    cases hmark : next.session.switching with
    | true => rfl
    | false => exact absurd ⟨hmarked, hmark⟩ hquiet.unended
  refine ⟨hmarked, hnext, ?_, ?_⟩
  · rintro request rfl
    exact h.busy hmarked (step_call hstep).1
  · intro answer hreturned
    rcases returned_step h hstep hreturned with hidle | hidle
    · exact h.busy hmarked hidle
    · exact (sound_step h hstep).busy hnext hidle

theorem sameSwitch_run {moves : List (Move σ)} (h : c.Sound trace)
    (hmarked : c.session.switching = true) (hquiet : Throughout NothingAwaited c moves last) :
    Throughout SameSwitch c moves last := by
  induction hquiet generalizing trace with
  | nil c => exact .nil c
  | cons hstep hnow _ ih =>
      have hsame := sameSwitch_step h hmarked hstep hnow
      exact .cons hstep hsame (ih (sound_step h hstep) hsame.after)

/-! ## §6. Parked producers. -/

omit [Host σ] [Stage κ] in
/-- A first section that parks its producer has found what it waits for. -/
theorem parked_feed (c : Crew σ κ) (producer : Nat) (chunk : List UInt8) (now : Instant)
    (hparked : ((c.feed producer chunk now).1.producers producer).seen? ≠ none) :
    ((c.feed producer chunk now).1.producers producer).Finds c.session := by
  obtain ⟨hswitch, hspace⟩ := c.session.feedSection_parks chunk now
  unfold feed at hparked ⊢
  generalize c.session.feedSection chunk now = x at hswitch hspace hparked ⊢
  obtain ⟨step, s⟩ := x
  cases step with
  | done answer =>
      dsimp only at hparked
      rw [place_self] at hparked
      exact absurd rfl hparked
  | awaitSwitch seen =>
      dsimp only
      rw [place_self]
      exact hswitch seen s rfl
  | awaitSpace seen period =>
      dsimp only
      rw [place_self]
      exact hspace seen period s rfl

/-- **How a producer comes to be parked**: it was so before, or this is the gate section that has
parked it. -/
theorem parked_step (hstep : c.step move = some (next, events)) {producer : Nat}
    (hparked : (next.producers producer).seen? ≠ none) :
    (c.producers producer = next.producers producer ∧ ∀ now, move ≠ .produce producer now)
      ∨ ∃ now, move = .produce producer now ∧ (next.producers producer).Finds c.session := by
  by_cases hgoes : ∃ now, move = .produce producer now
  · obtain ⟨now, rfl⟩ := hgoes
    refine .inr ⟨now, rfl, ?_⟩
    cases produce_outcome hstep with
    | first chunk => exact parked_feed c producer chunk now hparked
    | second => exact absurd (congrArg Producer.seen? (c.place_self producer _ _)) hparked
  · have hstays : ∀ now, move ≠ .produce producer now := fun now heq => hgoes ⟨now, heq⟩
    refine .inl ⟨(producers_step hstep (fun chunk heq => ?_) hstays).symm, hstays⟩
    -- A producer that comes has not read the counter.
    subst heq
    rw [(step_offer hstep).2.1] at hparked
    exact absurd (congrArg Producer.seen? (c.place_self producer _ _)) hparked

/-- In a run a producer was parked by a gate section that has found what it waits for, and it has
not gone on from then on; and if the counter is where this section has read it, all later moves have
been quiet. -/
def ParkedSince (quiet : Crew σ κ → Move σ → List Event → Crew σ κ → Prop) (c : Crew σ κ)
    (moves : List (Move σ)) (producer : Nat) (last : Crew σ κ) : Prop :=
  ∃ early now late mid seen after shown more, moves = early ++ .produce producer now :: late
    ∧ c.run early = some (mid, seen) ∧ mid.step (.produce producer now) = some (after, shown)
    ∧ after.run late = some (last, more) ∧ (∀ later, .produce producer later ∉ late)
    ∧ (last.producers producer).Finds mid.session
    ∧ (last.session.progressedSince mid.session.progress = false →
      Throughout quiet after late last)

theorem ParkedSince.cons {quiet : Crew σ κ → Move σ → List Event → Crew σ κ → Prop}
    {rest : List (Move σ)} {producer : Nat} (hstep : c.step move = some (next, events))
    (h : ParkedSince quiet next rest producer last) :
    ParkedSince quiet c (move :: rest) producer last := by
  obtain ⟨early, now, late, mid, seen, after, shown, more, hsplit, hrun, hparked⟩ := h
  exact ⟨move :: early, now, late, mid, _, after, shown, more, by rw [hsplit, List.cons_append],
    run_step hstep hrun, hparked⟩

omit [Host σ] [Stage κ] in
/-- The counter that a producer would sleep on is the one that it has read. -/
theorem stays_iff (s : Session σ κ) (seen : Nat) :
    s.progressedSince seen = false ↔ s.progress = seen := by
  unfold Session.progressedSince
  simp

/-- **A producer that is parked at the end of a run** was so from its beginning on, or was parked by
a gate section in it. -/
theorem parked_run (moves : List (Move σ)) :
    ∀ {c last : Crew σ κ} {events : List Event} {producer : Nat},
      c.run moves = some (last, events) → (last.producers producer).seen? ≠ none →
        (c.producers producer = last.producers producer ∧ ∀ now, .produce producer now ∉ moves)
          ∨ ParkedSince NothingAwaited c moves producer last := by
  induction moves with
  | nil =>
      intro c last events producer hrun _
      obtain ⟨rfl, rfl⟩ := Prod.mk.inj (Option.some.inj hrun)
      exact .inl ⟨rfl, by simp⟩
  | cons move rest ih =>
      intro c last events producer hrun hparked
      obtain ⟨next, shown, more, hstep, hrest, rfl⟩ := run_cons hrun
      rcases ih hrest hparked with ⟨hsame, hothers⟩ | hlater
      · rw [← hsame] at hparked
        rcases parked_step hstep hparked with ⟨hbefore, hother⟩ | ⟨now, rfl, hfinds⟩
        · refine .inl ⟨hbefore.trans hsame, fun now hmem => ?_⟩
          rcases List.mem_cons.mp hmem with heq | hlater
          · exact hother now heq.symm
          · exact hothers now hlater
        · refine .inr ⟨[], now, rest, c, [], next, shown, more, rfl, rfl, hstep, hrest, hothers,
            hsame ▸ hfinds, fun hstays => ?_⟩
          exact nothingAwaited_run rest hrest
            (stays_step hstep hrest ((stays_iff _ _).mp hstays)).2
      · exact .inr (hlater.cons hstep)

/-- **A producer that was parked on a switch has this switch before it** as long as the counter
stays. -/
theorem ParkedSince.same_switch {moves : List (Move σ)} {producer : Nat}
    (h : ParkedSince NothingAwaited c moves producer last) (hsound : c.Sound trace)
    {chunk : List UInt8} {seen : Nat} (hheld : last.producers producer = .held chunk seen) :
    ParkedSince SameSwitch c moves producer last
      ∧ (last.session.progressedSince seen = false → last.session.switching = true) := by
  obtain ⟨early, now, late, mid, past, after, shown, more, hsplit, hrun, hstep, hrest, hothers,
    hfinds, hquiet⟩ := h
  have hfound := hfinds
  rw [hheld] at hfound
  obtain ⟨hread, hmarked⟩ : seen = mid.session.progress ∧ mid.session.switching = true := by
    cases hfound with
    | held _ hmarked => exact ⟨rfl, hmarked⟩
  -- The mark is there as long as the counter has not moved.
  have hstill : ∀ t : Session σ κ, mid.session.CounterGoesOn t → t.progress = mid.session.progress →
      t.switching = true := by
    intro t hstirs hstays
    cases hmark : t.switching with
    | true => rfl
    | false => exact absurd (hstirs.ends hmarked hmark) (by omega)
  have hfirst := (counterGoesOn_step hstep).1
  refine ⟨⟨early, now, late, mid, past, after, shown, more, hsplit, hrun, hstep, hrest, hothers,
    hfinds, fun hstays => ?_⟩, fun hstays => ?_⟩
  · have hsame := (stays_iff _ _).mp hstays
    have hafter := hstill _ hfirst (stays_step hstep hrest hsame).1
    exact sameSwitch_run (sound_step (sound_run early hsound hrun) hstep) hafter (hquiet hstays)
  · rw [hread] at hstays
    exact hstill _ (hfirst.trans (counterGoesOn_run late hrest)) ((stays_iff _ _).mp hstays)

/-- What a parked producer has read is not ahead of the counter. -/
theorem ParkedSince.seen_le {quiet : Crew σ κ → Move σ → List Event → Crew σ κ → Prop}
    {moves : List (Move σ)} {producer seen : Nat} (h : ParkedSince quiet c moves producer last)
    (hseen : (last.producers producer).seen? = some seen) : seen ≤ last.session.progress := by
  obtain ⟨_, _, late, mid, _, after, _, _, _, _, hstep, hrest, _, hfinds, _⟩ := h
  obtain rfl := Option.some.inj (hfinds.seen?.symm.trans hseen)
  exact Nat.le_trans (counterGoesOn_step hstep).1.progress (counterGoesOn_run late hrest).progress

/-- **No wake-up is lost.**  Take any moves of lifecycle calls, of drain tasks and of producers on a
session from its creation.  A producer that is parked was parked by a gate section of its own that
has found the ring full or a switch under way.  If the counter on which it would sleep still has the
value that this section has read, then

  * on a full ring: no cycle has taken a byte out of the ring since, and no switch has ended;
  * on a switch: the same switch has been under way all the time, and still is.

Conversely every move that takes bytes out of the ring, and every end of a switch, moves the counter
past what any parked producer has read, and it stays past it. -/
theorem no_wakeup_is_lost {host : σ} {source : Format} {selected : Option String}
    {config : SessionConfig} {s : Session σ κ}
    (hcreate : Session.create host source selected config = .ok s) {moves : List (Move σ)}
    (hrun : Crew.run { session := s } moves = some (c, trace)) :
    (∀ producer seen period, c.producers producer = .blocked seen period →
        ParkedSince NothingAwaited { session := s } moves producer c)
      ∧ (∀ producer chunk seen, c.producers producer = .held chunk seen →
        ParkedSince SameSwitch { session := s } moves producer c
          ∧ (c.session.progressedSince seen = false → c.session.switching = true))
      ∧ ∀ move next events, c.step move = some (next, events) →
        c.popped move ≠ [] ∨ c.SwitchEnds next →
          ∀ producer seen, (c.producers producer).seen? = some seen →
            ∀ rest last more, next.run rest = some (last, more) →
              seen < last.session.progress ∧ last.session.progressedSince seen = true := by
  have hfresh := sound_create hcreate
  -- When the session was created, nobody was parked.
  have hparked : ∀ producer, (c.producers producer).seen? ≠ none →
      ParkedSince NothingAwaited { session := s } moves producer c := by
    intro producer hseen
    rcases parked_run moves hrun hseen with ⟨hrests, _⟩ | hsince
    · rw [← hrests] at hseen
      exact absurd rfl hseen
    · exact hsince
  refine ⟨fun producer seen period hblocked => ?_, fun producer chunk seen hheld => ?_,
    fun move next events hstep hwakes producer seen hseen rest last more hrest => ?_⟩
  · exact hparked producer (by rw [hblocked]; simp [Producer.seen?])
  · exact (hparked producer (by rw [hheld]; simp [Producer.seen?])).same_switch hfresh hheld
  · have hbefore := (hparked producer (by rw [hseen]; simp)).seen_le hseen
    obtain ⟨hstirs, hmoves⟩ := counterGoesOn_step hstep
    have hmoved : c.session.progress < next.session.progress :=
      hwakes.elim hmoves fun hends => hstirs.ends hends.1 hends.2
    have hlater := (counterGoesOn_run rest hrest).progress
    refine ⟨by omega, ?_⟩
    unfold Session.progressedSince
    simp only [bne_iff_ne]
    omega

/-- A producer finds the ring of the left device full, another one meets a switch to the right one,
and the switch goes on until all that is left is to end it. -/
def longSwitch : List (Move DeviceBank) :=
  rendering ++ [.offer 0 [1, 2], .produce 0 ⟨5, 0⟩, .call (.select (some "right")), .advance,
    .offer 1 [3, 4], .produce 1 ⟨6, 0⟩, .advance, .drain 0, .drain 0, .drain 0, .advance, .advance,
    .advance, .advance, .advance, .advance, .advance]

/-- Both producers sleep until then, and the end of the switch wakes them. -/
theorem no_wakeup_is_lost_longSwitch :
    ∃ c trace next,
      Session.create twoDevices (Format.pcm 8000 16 1) (some "left") {} = .ok leftSession
      ∧ Crew.run { session := leftSession } longSwitch = some (c, trace)
      ∧ ParkedSince NothingAwaited { session := leftSession } longSwitch 0 c
      ∧ ParkedSince SameSwitch { session := leftSession } longSwitch 1 c
      ∧ c.session.switching = true ∧ c.session.progress = 0
      ∧ c.step .advance = some (next, [.returned (.ok ())]) ∧ 0 < next.session.progress := by
  obtain ⟨c, trace, hrun⟩ :
      ∃ c trace, Crew.run { session := leftSession } longSwitch = some (c, trace) := ⟨_, _, rfl⟩
  obtain ⟨hspace, hswitch, hwakes⟩ := no_wakeup_is_lost
    (show Session.create twoDevices (Format.pcm 8000 16 1) (some "left") {} = .ok leftSession
      from rfl) hrun
  -- Where the run ends is computed by the kernel.
  have hends : (Crew.run { session := leftSession } longSwitch).map
      (fun p => (p.1.producers 0, p.1.producers 1, p.1.session.switching, p.1.session.progress))
      = some (.blocked 0 ⟨10000000⟩, .held [3, 4] 0, true, 0) := by decide +kernel
  have hending : (Crew.run { session := leftSession } longSwitch).map (fun p => p.1.errand)
      = some (.ending (.ok ())) := rfl
  rw [hrun] at hends hending
  obtain ⟨hblocked, hrest⟩ := Prod.mk.inj (Option.some.inj hends)
  obtain ⟨hheld, hmark⟩ := Prod.mk.inj hrest
  obtain ⟨hmarked, hcounter⟩ := Prod.mk.inj hmark
  obtain ⟨next, hstep, hnext⟩ : ∃ next, c.step .advance = some (next, [.returned (.ok ())])
      ∧ next.session = c.session.endSwitch := by
    refine ⟨{ c with
      session := c.session.endSwitch, errand := .idle, threads := c.threads ++ [] }, ?_, rfl⟩
    show c.advance = _
    have hlast : c.errand = .ending (.ok ()) := Option.some.inj hending
    unfold advance
    rw [hlast]
    rfl
  have hunmarked : c.SwitchEnds next := ⟨hmarked, by rw [hnext]; rfl⟩
  obtain ⟨hpast, _⟩ :=
    hwakes _ _ _ hstep (.inr hunmarked) 0 0 (by rw [hblocked]; rfl) [] _ _ rfl
  exact ⟨c, trace, next, rfl, hrun, hspace 0 _ _ hblocked, (hswitch 1 _ _ hheld).1, hmarked,
    hcounter, hstep, hpast⟩

end Crew

end PcmRender
