/-
  PcmRender.Proofs.Crew — **what holds at every moment, whoever moves.**

  `Crew.Sound` joins what a call and its session agree on to one fact about all drain tasks that
  ever got a thread: one that is not over is the one that the session knows of.  This is what makes
  generations safe although a task compares them outside of the gate: all other tasks are over, and
  a call that joins a task joins this one.

  Moves of producers are steady, moves of drain tasks are steady or take one mark away, and moves of
  the call are known from its points.  So every run of a crew is sound, from its first moment on.
-/
import PcmRender.Proofs.Coherence
import PcmRender.Proofs.Hiring

namespace PcmRender.Crew

variable {σ κ : Type}

/-! ## §1. Sound moments. -/

/-- A crew after everything that `trace` shows. -/
structure Sound (c : Crew σ κ) (trace : List Event) : Prop where
  /-- The call and the session agree. -/
  kept : Kept c.session c.errand trace
  /-- A drain task that is not over is the one that the session knows of. -/
  known : ∀ t ∈ c.threads, t.point ≠ .gone →
    c.session.task.map DrainTask.generation = some t.generation

/-- Every drain task that got a thread is over. -/
def AllThreadsOver (c : Crew σ κ) : Prop := ∀ t ∈ c.threads, t.point = .gone

theorem allThreadsOver_of_free {c : Crew σ κ} {trace : List Event} (h : c.Sound trace)
    (hfree : c.session.task = none) : c.AllThreadsOver := by
  intro t ht
  by_cases hover : t.point = .gone
  · exact hover
  · have hknown := h.known t ht hover
    rw [hfree] at hknown
    exact absurd hknown (by simp)

/-- Joining the drain task that the session knows of joins them all. -/
theorem allThreadsOver_of_joined {c : Crew σ κ} {trace : List Event} (h : c.Sound trace)
    (hjoined : c.joined = true) : c.AllThreadsOver := by
  intro t ht
  unfold joined at hjoined
  have hone := List.all_eq_true.mp hjoined t ht
  rw [Bool.or_eq_true, beq_iff_eq, bne_iff_ne] at hone
  rcases hone with hover | hother
  · exact hover
  · by_cases hover : t.point = .gone
    · exact hover
    · exact absurd (h.known t ht hover) hother

/-- A moment at which a session was just created. -/
theorem sound_create {host : σ} {source : Format} {selected : Option String}
    {config : SessionConfig} {s : Session σ κ}
    (h : Session.create host source selected config = .ok s) :
    Sound { session := s } [] := by
  have hcoherent := Session.coherent_create h
  obtain ⟨_, rfl⟩ := Session.create_ok h
  exact
    { kept :=
        { phaseFits := ⟨hcoherent.closed_iff, fun hstarted => absurd hstarted (by simp)⟩
          marked := rfl
          meets := fun _ => ⟨rfl, rfl⟩ }
      known := fun t ht => absurd ht (by simp) }

/-! ## §2. Producers, the gain and the machine. -/

/-- What is seen besides beginnings and stops changes nothing. -/
theorem Sound.seeing {c : Crew σ κ} {trace : List Event} (h : c.Sound trace) {events : List Event}
    (hev : ∀ now, events.foldl Event.rendering now = now) : c.Sound (trace ++ events) where
  kept := ⟨h.kept.phaseFits.seeing hev, h.kept.marked, h.kept.meets⟩
  known := h.known

/-- Steady moves of others keep a crew sound. -/
theorem Sound.of_steady {c : Crew σ κ} {trace : List Event} (h : c.Sound trace)
    {s : Session σ κ} (hsteady : c.session.Steady s) (producers : Nat → Producer)
    {events : List Event} (hev : ∀ now, events.foldl Event.rendering now = now) :
    Sound { c with session := s, producers := producers } (trace ++ events) := by
  have hmoved : Sound { c with session := s, producers := producers } trace := by
    refine ⟨h.kept.of_steady hsteady, ?_⟩
    show ∀ t ∈ c.threads, _ → s.task.map DrainTask.generation = _
    rw [hsteady.task]
    exact h.known
  exact hmoved.seeing hev

theorem place_self (c : Crew σ κ) (producer : Nat) (s : Session σ κ) (point : Producer) :
    (c.place producer s point).producers producer = point := if_pos rfl

theorem place_other (c : Crew σ κ) {producer other : Nat} (hne : other ≠ producer)
    (s : Session σ κ) (point : Producer) :
    (c.place producer s point).producers other = c.producers other := if_neg hne

/-- The first section of a feed puts its producer in some place. -/
theorem feed_place (c : Crew σ κ) (producer : Nat) (chunk : List UInt8) (now : Instant) :
    ∃ point, (c.feed producer chunk now).1
      = c.place producer (c.session.feedSection chunk now).2 point := by
  unfold feed
  generalize c.session.feedSection chunk now = x
  obtain ⟨step, t⟩ := x
  cases step <;> exact ⟨_, rfl⟩

theorem session_feed (c : Crew σ κ) (producer : Nat) (chunk : List UInt8) (now : Instant) :
    (c.feed producer chunk now).1.session = (c.session.feedSection chunk now).2 := by
  obtain ⟨point, hplace⟩ := c.feed_place producer chunk now
  rw [hplace]
  rfl

/-- What it shows is that the feed has returned. -/
theorem events_feed {c : Crew σ κ} {producer : Nat} {chunk : List UInt8} {now : Instant}
    {event : Event} (h : event ∈ (c.feed producer chunk now).2) :
    ∃ answer t, event = .answered producer answer
      ∧ c.session.feedSection chunk now = (.done answer, t) := by
  unfold feed at h
  generalize c.session.feedSection chunk now = x at h
  obtain ⟨step, t⟩ := x
  cases step with
  | done answer => exact ⟨answer, t, List.mem_singleton.mp h, rfl⟩
  | awaitSwitch seen => exact absurd h (by simp)
  | awaitSpace seen period => exact absurd h (by simp)

theorem sound_feed {c : Crew σ κ} {trace : List Event} (h : c.Sound trace) (producer : Nat)
    (chunk : List UInt8) (now : Instant) :
    (c.feed producer chunk now).1.Sound (trace ++ (c.feed producer chunk now).2) := by
  have hsteady := c.session.steady_feedSection chunk now
  unfold feed
  generalize c.session.feedSection chunk now = x at hsteady
  obtain ⟨answer, t⟩ := x
  cases answer with
  | done answer => exact h.of_steady hsteady _ fun _ => rfl
  | awaitSwitch seen => exact h.of_steady hsteady _ fun _ => rfl
  | awaitSpace seen period => exact h.of_steady hsteady _ fun _ => rfl

/-- What a producer does when it goes on. -/
inductive ProduceOutcome (c : Crew σ κ) (producer : Nat) (now : Instant) :
    Crew σ κ → List Event → Prop
  /-- It takes its first section. -/
  | first (chunk : List UInt8) (offered : (c.producers producer).offered? = some chunk) :
      ProduceOutcome c producer now (c.feed producer chunk now).1 (c.feed producer chunk now).2
  /-- It takes its second one. -/
  | second (seen : Nat) (period : Duration) (blocked : c.producers producer = .blocked seen period) :
      ProduceOutcome c producer now (c.place producer c.session .resting)
        [.answered producer (c.session.feedAgain now)]

theorem produce_outcome {c next : Crew σ κ} {events : List Event} {producer : Nat} {now : Instant}
    (hstep : c.produce producer now = some (next, events)) :
    ProduceOutcome c producer now next events := by
  unfold produce at hstep
  cases hat : c.producers producer with
  | resting =>
      rw [hat] at hstep
      exact absurd hstep (by simp)
  | offering chunk =>
      rw [hat] at hstep
      have hoffered : (c.producers producer).offered? = some chunk := by
        rw [hat]
        rfl
      have hfirst := @ProduceOutcome.first σ κ c producer now chunk hoffered
      rw [Option.some.inj hstep] at hfirst
      exact hfirst
  | held chunk seen =>
      rw [hat] at hstep
      have hoffered : (c.producers producer).offered? = some chunk := by
        rw [hat]
        rfl
      have hfirst := @ProduceOutcome.first σ κ c producer now chunk hoffered
      rw [Option.some.inj hstep] at hfirst
      exact hfirst
  | blocked seen period =>
      rw [hat] at hstep
      obtain ⟨rfl, rfl⟩ := Prod.mk.inj (Option.some.inj hstep)
      exact .second seen period hat

theorem sound_produce {c next : Crew σ κ} {trace events : List Event} (h : c.Sound trace)
    {producer : Nat} {now : Instant} (hstep : ProduceOutcome c producer now next events) :
    next.Sound (trace ++ events) := by
  cases hstep with
  | first chunk => exact sound_feed h producer chunk now
  | second => exact h.of_steady (Session.Steady.refl _) _ fun _ => rfl

/-! ## §3. Drain tasks. -/

variable [Host σ] [Stage κ]

/-- The session that a drain task leaves behind when it goes on. -/
inductive DrainSession (s : Session σ κ) (t : DrainThread) : Session σ κ → Prop
  /-- It looks at something, or ends. -/
  | same (outside : t.point ≠ .entering) : DrainSession s t s
  /-- It takes a turn. -/
  | turned (inside : t.point = .entering) : DrainSession s t (s.drainTurn t.generation).2
  /-- It waits for the device. -/
  | paused (outside : t.point ≠ .entering) : DrainSession s t s.pause.2
  /-- It takes its mark away. -/
  | left (outside : t.point ≠ .entering) : DrainSession s t (s.drainExited t.generation)

/-- **A drain task that goes on goes through one section at most**, and leaves the call alone. -/
theorem drain_session {c next : Crew σ κ} {events : List Event} {index : Nat} {t : DrainThread}
    (hstep : c.drain index t = some (next, events)) :
    DrainSession c.session t next.session ∧ next.errand = c.errand := by
  unfold drain at hstep
  cases hpoint : t.point with
  | looking =>
      rw [hpoint] at hstep
      obtain ⟨rfl, rfl⟩ := Prod.mk.inj (Option.some.inj hstep)
      exact ⟨.same (by simp [hpoint]), rfl⟩
  | checking =>
      rw [hpoint] at hstep
      obtain ⟨rfl, rfl⟩ := Prod.mk.inj (Option.some.inj hstep)
      exact ⟨.same (by simp [hpoint]), rfl⟩
  | entering =>
      have hturned := DrainSession.turned (s := c.session) hpoint
      rw [hpoint] at hstep
      dsimp only at hstep
      generalize c.session.drainTurn t.generation = x at hstep hturned
      obtain ⟨turn, s⟩ := x
      cases turn with
      | _ =>
          obtain ⟨rfl, rfl⟩ := Prod.mk.inj (Option.some.inj hstep)
          exact ⟨hturned, rfl⟩
  | resting =>
      have hpaused : DrainSession c.session t c.session.pause.2 := .paused (by simp [hpoint])
      rw [hpoint] at hstep
      dsimp only at hstep
      generalize c.session.pause = x at hstep hpaused
      obtain ⟨ready, s⟩ := x
      cases ready with
      | _ =>
          obtain ⟨rfl, rfl⟩ := Prod.mk.inj (Option.some.inj hstep)
          exact ⟨hpaused, rfl⟩
  | leaving =>
      rw [hpoint] at hstep
      obtain ⟨rfl, rfl⟩ := Prod.mk.inj (Option.some.inj hstep)
      exact ⟨.left (by simp [hpoint]), rfl⟩
  | finishing =>
      rw [hpoint] at hstep
      obtain ⟨rfl, rfl⟩ := Prod.mk.inj (Option.some.inj hstep)
      exact ⟨.same (by simp [hpoint]), rfl⟩
  | gone =>
      rw [hpoint] at hstep
      exact absurd hstep (by simp)

/-- What a drain task does when it goes on. -/
inductive DrainOutcome (c : Crew σ κ) (index : Nat) (t : DrainThread) :
    Crew σ κ → List Event → Prop
  /-- It looks, waits, or finds that it has to leave. -/
  | steady {s : Session σ κ} (point : DrainPoint) (steady : c.session.Steady s) :
      DrainOutcome c index t (c.reach index t s point) []
  /-- It runs a cycle, perhaps not to its end. -/
  | cycled {s : Session σ κ} (point : DrainPoint) (steady : c.session.Steady s)
      (r : DeviceRoute κ) (done : Cycled σ κ)
      (cycle : c.session.cycle? t.generation = some (r, done)) :
      DrainOutcome c index t (c.reach index t s point) [.cycled t.generation]
  /-- It takes its mark away. -/
  | leaving :
      DrainOutcome c index t (c.reach index t (c.session.drainExited t.generation) .finishing) []
  /-- Its thread ends. -/
  | gone : DrainOutcome c index t (c.reach index t c.session .gone) [.left t.generation]

theorem drain_outcome {c next : Crew σ κ} {events : List Event} {index : Nat} {t : DrainThread}
    (hstep : c.drain index t = some (next, events)) :
    t.point ≠ .gone ∧ DrainOutcome c index t next events := by
  unfold drain at hstep
  cases hpoint : t.point with
  | looking =>
      rw [hpoint] at hstep
      obtain ⟨rfl, rfl⟩ := Prod.mk.inj (Option.some.inj hstep)
      exact ⟨by simp, .steady _ (Session.Steady.refl _)⟩
  | checking =>
      rw [hpoint] at hstep
      obtain ⟨rfl, rfl⟩ := Prod.mk.inj (Option.some.inj hstep)
      exact ⟨by simp, .steady _ (Session.Steady.refl _)⟩
  | entering =>
      rw [hpoint] at hstep
      refine ⟨by simp, ?_⟩
      dsimp only at hstep
      -- With the gate in hand a task looks once more; it has run a cycle unless it retires.
      have hsteady := c.session.steady_drainTurn t.generation
      have hran : (c.session.drainTurn t.generation).1 ≠ .retired →
          ∃ r done, c.session.cycle? t.generation = some (r, done) := by
        intro hturn
        unfold Session.drainTurn at hturn
        cases hcycle : c.session.cycle? t.generation with
        | some found => exact ⟨found.1, found.2, rfl⟩
        | none =>
            rw [hcycle] at hturn
            exact absurd rfl hturn
      generalize c.session.drainTurn t.generation = x at hsteady hran hstep
      obtain ⟨turn, s⟩ := x
      cases turn with
      | cycled =>
          obtain ⟨rfl, rfl⟩ := Prod.mk.inj (Option.some.inj hstep)
          obtain ⟨r, done, hcycle⟩ := hran (by simp)
          exact .cycled _ hsteady r done hcycle
      | crashed =>
          obtain ⟨rfl, rfl⟩ := Prod.mk.inj (Option.some.inj hstep)
          obtain ⟨r, done, hcycle⟩ := hran (by simp)
          exact .cycled _ hsteady r done hcycle
      | retired =>
          obtain ⟨rfl, rfl⟩ := Prod.mk.inj (Option.some.inj hstep)
          exact .steady _ hsteady
  | resting =>
      rw [hpoint] at hstep
      refine ⟨by simp, ?_⟩
      dsimp only at hstep
      have hsteady := c.session.steady_pause
      generalize c.session.pause = x at hsteady hstep
      obtain ⟨ready, s⟩ := x
      cases ready with
      | true =>
          obtain ⟨rfl, rfl⟩ := Prod.mk.inj (Option.some.inj hstep)
          exact .steady _ hsteady
      | false =>
          obtain ⟨rfl, rfl⟩ := Prod.mk.inj (Option.some.inj hstep)
          exact .steady _ hsteady
  | leaving =>
      rw [hpoint] at hstep
      obtain ⟨rfl, rfl⟩ := Prod.mk.inj (Option.some.inj hstep)
      exact ⟨by simp, .leaving⟩
  | finishing =>
      rw [hpoint] at hstep
      obtain ⟨rfl, rfl⟩ := Prod.mk.inj (Option.some.inj hstep)
      exact ⟨by simp, .gone⟩
  | gone =>
      rw [hpoint] at hstep
      exact absurd hstep (by simp)

/-- A drain task shows its cycles and its end. -/
theorem events_drain {c next : Crew σ κ} {events : List Event} {index : Nat} {t : DrainThread}
    (hstep : c.drain index t = some (next, events)) {event : Event} (hevent : event ∈ events) :
    event = .cycled t.generation ∨ event = .left t.generation := by
  cases (drain_outcome hstep).2 with
  | steady => exact absurd hevent (by simp)
  | cycled => exact .inl (List.mem_singleton.mp hevent)
  | leaving => exact absurd hevent (by simp)
  | gone => exact .inr (List.mem_singleton.mp hevent)

omit [Host σ] [Stage κ] in
/-- A drain task that goes on stays the one that the session knows of. -/
theorem sound_reach {c : Crew σ κ} {trace : List Event} (h : c.Sound trace) {index : Nat}
    {t : DrainThread} (ht : c.threads[index]? = some t) (hrunning : t.point ≠ .gone)
    {s : Session σ κ} (hkept : Kept s c.errand trace)
    (htask : s.task.map DrainTask.generation = c.session.task.map DrainTask.generation)
    (point : DrainPoint) {events : List Event}
    (hev : ∀ now, events.foldl Event.rendering now = now) :
    (c.reach index t s point).Sound (trace ++ events) := by
  refine Sound.seeing ⟨hkept, ?_⟩ hev
  intro u hu hurunning
  show s.task.map DrainTask.generation = _
  rw [htask]
  rcases List.mem_or_eq_of_mem_set hu with hold | hnew
  · exact h.known u hold hurunning
  · rw [hnew]
    exact h.known t (List.mem_of_getElem? ht) hrunning

theorem sound_drain {c next : Crew σ κ} {trace events : List Event} (h : c.Sound trace)
    {index : Nat} {t : DrainThread} (ht : c.threads[index]? = some t)
    (hstep : c.drain index t = some (next, events)) : next.Sound (trace ++ events) := by
  obtain ⟨hrunning, houtcome⟩ := drain_outcome hstep
  cases houtcome with
  | steady point hsteady =>
      exact sound_reach h ht hrunning (h.kept.of_steady hsteady) hsteady.task point fun _ => rfl
  | cycled point hsteady =>
      exact sound_reach h ht hrunning (h.kept.of_steady hsteady) hsteady.task point fun _ => rfl
  | leaving =>
      -- This task is not over, so the session knows of it, and no call counts on its mark.
      have hbusy : c.session.task ≠ none := fun hfree =>
        hrunning (allThreadsOver_of_free h hfree t (List.mem_of_getElem? ht))
      have htask : (c.session.drainExited t.generation).task = c.session.task := by
        rw [Session.drainExited_eq]
      exact sound_reach h ht hrunning (h.kept.drainExited hbusy t.generation)
        (by rw [htask]) _ fun _ => rfl
  | gone => exact sound_reach h ht hrunning h.kept rfl _ fun _ => rfl

/-! ## §4. The call. -/

/-- A call goes on from where it is, and a drain task that it taskOutcome comes last. -/
theorem advance_done {c next : Crew σ κ} {events : List Event}
    (hstep : c.advance = some (next, events)) :
    ∃ done, c.errand.advance? c.session c.joined = some done
      ∧ next = { c with
          session := done.session
          errand := done.errand
          threads := c.threads ++ (done.spawned.map fun generation => { generation }).toList }
      ∧ events = done.events := by
  unfold advance at hstep
  obtain ⟨done, hdone, heq⟩ := Option.map_eq_some_iff.mp hstep
  obtain ⟨rfl, rfl⟩ := Prod.mk.inj heq
  exact ⟨done, hdone, rfl, rfl⟩

theorem sound_advance {c next : Crew σ κ} {trace events : List Event} (h : c.Sound trace)
    (hstep : c.advance = some (next, events)) : next.Sound (trace ++ events) := by
  obtain ⟨done, hdone, rfl, rfl⟩ := advance_done hstep
  refine ⟨Errand.kept_advance? h.kept hdone, ?_⟩
  cases Errand.taskOutcome_advance? h.kept hdone with
  | same hspawned htask =>
      intro t ht hrunning
      simp only [hspawned, Option.map_none, Option.toList_none, List.append_nil] at ht
      show done.session.task.map DrainTask.generation = _
      rw [htask]
      exact h.known t ht hrunning
  | ended hspawned hover =>
      intro t ht hrunning
      simp only [hspawned, Option.map_none, Option.toList_none, List.append_nil] at ht
      exact absurd (allThreadsOver_of_joined h hover t ht) hrunning
  | hired generation hspawned hfree htask =>
      intro t ht hrunning
      simp only [hspawned, Option.map_some, Option.toList_some, List.mem_append,
        List.mem_singleton] at ht
      -- The session knew of no task, so all that had a thread are over, and it knows the new one.
      rcases ht with hold | hnew
      · exact absurd (allThreadsOver_of_free h hfree t hold) hrunning
      · rw [hnew]
        exact htask

omit [Host σ] [Stage κ] in
theorem sound_beginSelect {c : Crew σ κ} {trace : List Event} (h : c.Sound trace)
    (hidle : c.errand = .idle) (target : Option String) :
    (c.beginSelect target).Sound trace := by
  have hkept := h.kept
  rw [hidle] at hkept
  have hnote := c.session.steady_note .info
    s!"Switching render device to {target.getD Session.select.placeholder} (was {c.session.phase.text})"
  have hunless := Session.FreeUnlessStarted.of_steady hkept.meets hnote
  unfold beginSelect
  dsimp only
  refine ⟨⟨hkept.phaseFits.of_steady hnote, ?_, ?_⟩, h.known⟩
  · rw [hnote.switching, hkept.marked]
    split <;> rfl
  · split
    · exact hunless
    · exact hunless

omit [Host σ] [Stage κ] in
theorem sound_begin {c : Crew σ κ} {trace : List Event} (h : c.Sound trace)
    (hidle : c.errand = .idle) (request : Request) :
    (c.begin request).1.Sound (trace ++ (c.begin request).2) := by
  have hkept := h.kept
  rw [hidle] at hkept
  have hfirst : ∀ e : Errand, e.marked = false → (c.session.FreeUnlessStarted → e.Meets c.session) →
      Sound { c with errand := e } (trace ++ []) := by
    intro e hmarked hmeets
    rw [List.append_nil]
    exact ⟨⟨hkept.phaseFits, hkept.marked.trans hmarked.symm, hmeets hkept.meets⟩, h.known⟩
  cases request with
  | openRoute => exact hfirst _ rfl id
  | start => exact hfirst _ rfl id
  | stop => exact hfirst _ rfl id
  | close => exact hfirst _ rfl id
  | reopen =>
      show (c.beginSelect _).Sound (trace ++ [])
      rw [List.append_nil]
      exact sound_beginSelect h hidle _
  | select target =>
      show (c.beginSelect _).Sound (trace ++ [])
      rw [List.append_nil]
      exact sound_beginSelect h hidle _
  | setFormat format =>
      have hsame : (c.session.setFormat format).2.phase = c.session.phase
          ∧ (c.session.setFormat format).2.route = c.session.route
          ∧ (c.session.setFormat format).2.generation = c.session.generation
          ∧ (c.session.setFormat format).2.switching = c.session.switching
          ∧ (c.session.setFormat format).2.task = c.session.task
          ∧ (c.session.setFormat format).2.draining = c.session.draining := by
        unfold Session.setFormat
        split
        · exact ⟨rfl, rfl, rfl, rfl, rfl, rfl⟩
        · split <;> exact ⟨rfl, rfl, rfl, rfl, rfl, rfl⟩
      obtain ⟨hphase, hroute, hgeneration, hswitching, htask, hdraining⟩ := hsame
      refine Sound.seeing ⟨⟨⟨?_, ?_⟩, ?_, ?_⟩, ?_⟩ fun _ => rfl
      · show (c.session.setFormat format).2.phase = _ ↔ (c.session.setFormat format).2.route = _
        rw [hphase, hroute]
        exact hkept.phaseFits.closed_iff
      · show (c.session.setFormat format).2.phase = _ → (∃ r, (c.session.setFormat format).2.route = _)
          → _ = some (c.session.setFormat format).2.generation
        rw [hphase, hroute, hgeneration]
        exact hkept.phaseFits.rendering
      · show (c.session.setFormat format).2.switching = c.errand.marked
        rw [hswitching, hidle]
        exact hkept.marked
      · show c.errand.Meets (c.session.setFormat format).2
        rw [hidle]
        show (c.session.setFormat format).2.phase ≠ _ → _ ∧ _
        rw [hphase, htask, hdraining]
        exact hkept.meets
      · show ∀ t ∈ c.threads, _ → (c.session.setFormat format).2.task.map _ = _
        rw [htask]
        exact h.known

omit [Host σ] [Stage κ] in
/-- A call shows nothing when it begins, unless it returns at once. -/
theorem events_begin {c : Crew σ κ} {request : Request} {event : Event}
    (hevent : event ∈ (c.begin request).2) : ∃ answer, event = .returned answer := by
  cases request with
  | setFormat format => exact ⟨_, List.mem_singleton.mp hevent⟩
  | _ => exact absurd hevent (by simp [begin])

/-! ## §5. Every run. -/

/-- A call begins where none is at work. -/
theorem step_call {c next : Crew σ κ} {events : List Event} {request : Request}
    (hstep : c.step (.call request) = some (next, events)) :
    c.errand = .idle ∧ next = (c.begin request).1 ∧ events = (c.begin request).2 := by
  unfold step at hstep
  cases hidle : c.errand with
  | idle =>
      simp only [hidle, Option.some.injEq] at hstep
      rw [hstep]
      exact ⟨rfl, rfl, rfl⟩
  | _ => exact absurd hstep (by simp [hidle])

/-- A drain task goes on if it ever got a thread. -/
theorem step_drain {c next : Crew σ κ} {events : List Event} {index : Nat}
    (hstep : c.step (.drain index) = some (next, events)) :
    ∃ t, c.threads[index]? = some t ∧ c.drain index t = some (next, events) := by
  unfold step at hstep
  cases ht : c.threads[index]? with
  | none => exact absurd hstep (by simp [ht])
  | some t =>
      simp only [ht] at hstep
      exact ⟨t, rfl, hstep⟩

/-- A producer comes with a chunk if it has none. -/
theorem step_offer {c next : Crew σ κ} {events : List Event} {producer : Nat} {chunk : List UInt8}
    (hstep : c.step (.offer producer chunk) = some (next, events)) :
    c.producers producer = .resting ∧ next = c.place producer c.session (.offering chunk)
      ∧ events = [] := by
  unfold step at hstep
  cases hat : c.producers producer with
  | resting =>
      simp only [hat, Option.some.injEq, Prod.mk.injEq] at hstep
      exact ⟨rfl, hstep.1.symm, hstep.2.symm⟩
  | _ => exact absurd hstep (by simp [hat])

/-- What a move can come to: the party that moves is there, and can move. -/
inductive StepOutcome (c : Crew σ κ) : Move σ → Crew σ κ → List Event → Prop
  /-- A call begins. -/
  | call (request : Request) (idle : c.errand = .idle) :
      StepOutcome c (.call request) (c.begin request).1 (c.begin request).2
  /-- It goes on. -/
  | advance {next : Crew σ κ} {events : List Event} (step : c.advance = some (next, events)) :
      StepOutcome c .advance next events
  /-- A drain task goes on. -/
  | drain {next : Crew σ κ} {events : List Event} (index : Nat) (t : DrainThread)
      (found : c.threads[index]? = some t) (step : c.drain index t = some (next, events)) :
      StepOutcome c (.drain index) next events
  /-- A producer comes with a chunk. -/
  | offer (producer : Nat) (chunk : List UInt8) :
      StepOutcome c (.offer producer chunk) (c.place producer c.session (.offering chunk)) []
  /-- It goes on. -/
  | produce {next : Crew σ κ} {events : List Event} (producer : Nat) (now : Instant)
      (step : ProduceOutcome c producer now next events) :
      StepOutcome c (.produce producer now) next events
  /-- The gain is changed, or something happens on the machine. -/
  | steady {s : Session σ κ} (move : Move σ) (others : ∀ index, move ≠ .drain index)
      (steady : c.session.Steady s) : StepOutcome c move { c with session := s } []

theorem step_outcome {c next : Crew σ κ} {events : List Event} {move : Move σ}
    (hstep : c.step move = some (next, events)) : StepOutcome c move next events := by
  cases move with
  | call request =>
      obtain ⟨hidle, rfl, rfl⟩ := step_call hstep
      exact .call request hidle
  | advance => exact .advance hstep
  | drain index =>
      obtain ⟨t, ht, hdrain⟩ := step_drain hstep
      exact .drain index t ht hdrain
  | offer producer chunk =>
      obtain ⟨_, rfl, rfl⟩ := step_offer hstep
      exact .offer producer chunk
  | produce producer now => exact .produce producer now (produce_outcome hstep)
  | gain gain =>
      obtain ⟨rfl, rfl⟩ := Prod.mk.inj (Option.some.inj hstep)
      exact .steady _ (by simp) (c.session.steady_setGain gain)
  | elsewhere change =>
      obtain ⟨rfl, rfl⟩ := Prod.mk.inj (Option.some.inj hstep)
      exact .steady _ (by simp) (c.session.steady_host _)

/-- A producer that neither comes nor goes on is where it was. -/
theorem producers_step {c next : Crew σ κ} {events : List Event} {move : Move σ}
    (hstep : c.step move = some (next, events)) {producer : Nat}
    (hcomes : ∀ chunk, move ≠ .offer producer chunk)
    (hgoes : ∀ now, move ≠ .produce producer now) :
    next.producers producer = c.producers producer := by
  cases step_outcome hstep with
  | call request => cases request <;> rfl
  | advance hstep =>
      obtain ⟨_, _, rfl, _⟩ := advance_done hstep
      rfl
  | drain index t _ hstep => cases (drain_outcome hstep).2 <;> rfl
  | offer other chunk => exact c.place_other (fun heq => hcomes chunk (by rw [heq])) _ _
  | produce other now houtcome =>
      have hne : producer ≠ other := fun heq => hgoes now (by rw [heq])
      cases houtcome with
      | first chunk =>
          obtain ⟨point, hplace⟩ := c.feed_place other chunk now
          rw [hplace]
          exact c.place_other hne _ _
      | second => exact c.place_other hne _ _
  | steady => rfl

/-- **Every move of anyone keeps a crew sound.** -/
theorem sound_step {c next : Crew σ κ} {trace events : List Event} (h : c.Sound trace)
    {move : Move σ} (hstep : c.step move = some (next, events)) :
    next.Sound (trace ++ events) := by
  cases step_outcome hstep with
  | call request hidle => exact sound_begin h hidle request
  | advance hstep => exact sound_advance h hstep
  | drain index t ht hstep => exact sound_drain h ht hstep
  | offer producer chunk => exact h.of_steady (Session.Steady.refl _) _ fun _ => rfl
  | produce producer now hstep => exact sound_produce h hstep
  | steady move _ hsteady => exact h.of_steady hsteady c.producers fun _ => rfl

/-- A run of several moves is its first move and the run of the others. -/
theorem run_cons {c last : Crew σ κ} {move : Move σ} {rest : List (Move σ)} {events : List Event}
    (hrun : c.run (move :: rest) = some (last, events)) :
    ∃ next seen more, c.step move = some (next, seen) ∧ next.run rest = some (last, more)
      ∧ events = seen ++ more := by
  unfold run at hrun
  simp only [Option.bind_eq_bind, Option.bind_eq_some_iff] at hrun
  obtain ⟨⟨next, seen⟩, hstep, ⟨last', more⟩, hrest, heq⟩ := hrun
  obtain ⟨rfl, rfl⟩ := Prod.mk.inj (Option.some.inj heq)
  exact ⟨next, seen, more, hstep, hrest, rfl⟩

/-- **Every run keeps a crew sound**, move after move. -/
theorem sound_run (moves : List (Move σ)) :
    ∀ {c last : Crew σ κ} {trace events : List Event},
      c.Sound trace → c.run moves = some (last, events) → last.Sound (trace ++ events) := by
  induction moves with
  | nil =>
      intro c last trace events h hrun
      obtain ⟨rfl, rfl⟩ := Prod.mk.inj (Option.some.inj hrun)
      rw [List.append_nil]
      exact h
  | cons move rest ih =>
      intro c last trace events h hrun
      obtain ⟨next, seen, more, hstep, hrest, rfl⟩ := run_cons hrun
      rw [← List.append_assoc]
      exact ih (sound_step h hstep) hrest

end PcmRender.Crew
