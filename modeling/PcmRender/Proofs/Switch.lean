/-
  PcmRender.Proofs.Switch — **producers never see a switch from inside.**

  A switch takes a started session through phases in which a feed would be turned away.  Producers
  are kept out by a mark that is set before the first of them and taken away behind the last:

      marking   started     feeds are served by the old route
      …         anything    the mark is set: feeds touch nothing and come again
      ending    started     feeds are served by the new route, unless the switch has failed

  `Errand.Serves` says for each point of a switch what is left to be done until the session serves
  producers again.  It is kept by every move as long as there are no other calls and no switch fails.
-/
import PcmRender.Proofs.Crew
import PcmRender.Stage.Linear

namespace PcmRender

variable {σ κ : Type}

/-! ## §1. Serving. -/

/-- A session that takes what it is fed: it has a route, and has started it. -/
def Session.Serving (s : Session σ κ) : Prop := s.phase = .started ∧ s.route ≠ .closed

/-- The route is closed in order to open and start the next one, or because that has failed. -/
def Purpose.Restarts : Purpose → Prop
  | .forGood => False
  | .select _ => False
  | .replace _ restart => restart = true
  | .giveUp _ => True

/-- Where a call is when there are only switches of a session that serves, and how far it serves. -/
def Errand.Serves (s : Session σ κ) : Errand → Prop
  | .idle => s.Serving
  | .marking _ restart => restart = true ∧ s.Serving
  | .halting next => ∃ purpose, next = some purpose ∧ purpose.Restarts
  | .awaiting next => ∃ purpose, next = some purpose ∧ purpose.Restarts
  | .joining next => ∃ purpose, next = some purpose ∧ purpose.Restarts
  | .closing purpose => purpose.Restarts
  | .opening restart => restart = some true
  | .starting switching => switching = true ∧ s.route ≠ .closed
  | .tidying switching _ => switching = true ∧ s.Serving
  | .spawning switching _ => switching = true ∧ s.Serving
  | .retracting switching _ _ => switching = true
  | .undoing switching _ => switching = true
  | .ending answer => answer = .ok () → s.Serving

/-- A move that begins no other call than a switch. -/
def Move.Switches : Move σ → Prop
  | .call (.select _) => True
  | .call .reopen => True
  | .call _ => False
  | _ => True

namespace Session

theorem Serving.of_steady {s t : Session σ κ} (h : s.Serving) (k : Steady s t) : t.Serving := by
  obtain ⟨hphase, hopen⟩ := h
  refine ⟨k.phase.trans hphase, ?_⟩
  rw [Ne, k.route.closed_iff]
  exact hopen

end Session

/-- Phase and route decide how far a session serves. -/
theorem Errand.Serves.of_same {s t : Session σ κ} {e : Errand} (h : e.Serves s)
    (hserving : s.Serving → t.Serving) (hopen : s.route ≠ .closed → t.route ≠ .closed) :
    e.Serves t := by
  cases e with
  | idle => exact hserving h
  | marking _ _ => exact ⟨h.1, hserving h.2⟩
  | starting _ => exact ⟨h.1, hopen h.2⟩
  | tidying _ _ => exact ⟨h.1, hserving h.2⟩
  | spawning _ _ => exact ⟨h.1, hserving h.2⟩
  | ending _ => exact fun hok => hserving (h hok)
  | halting _ => exact h
  | awaiting _ => exact h
  | joining _ => exact h
  | closing _ => exact h
  | opening _ => exact h
  | retracting _ _ _ => exact h
  | undoing _ _ => exact h

theorem Errand.Serves.of_steady {s t : Session σ κ} {e : Errand} (h : e.Serves s)
    (k : s.Steady t) : e.Serves t :=
  h.of_same (fun hs => hs.of_steady k) fun hopen => by
    rw [Ne, k.route.closed_iff]
    exact hopen

theorem Purpose.Restarts.marked {purpose : Purpose} (h : purpose.Restarts) :
    purpose.marked = true := by
  cases purpose with
  | forGood => exact absurd h id
  | select _ => exact absurd h id
  | replace _ _ => rfl
  | giveUp _ => rfl

/-- **Without the mark a session serves**, and no call is at work on its route. -/
theorem Errand.Serves.marked_or_serving {s : Session σ κ} {e : Errand} (h : e.Serves s) :
    e.marked = true ∨ (s.Serving ∧ (e = .idle ∨ ∃ target, e = .marking target true)) := by
  have hnext : ∀ {next : Option Purpose}, (∃ purpose, next = some purpose ∧ purpose.Restarts) →
      next.any Purpose.marked = true := by
    rintro _ ⟨purpose, rfl, hpurpose⟩
    exact hpurpose.marked
  cases e with
  | idle => exact .inr ⟨h, .inl rfl⟩
  | marking target restart =>
      obtain ⟨rfl, hserving⟩ := h
      exact .inr ⟨hserving, .inr ⟨target, rfl⟩⟩
  | halting next => exact .inl (hnext h)
  | awaiting next => exact .inl (hnext h)
  | joining next => exact .inl (hnext h)
  | closing purpose => exact .inl (Purpose.Restarts.marked h)
  | opening restart =>
      obtain rfl : restart = some true := h
      exact .inl rfl
  | starting switching => exact .inl h.1
  | tidying switching _ => exact .inl h.1
  | spawning switching _ => exact .inl h.1
  | retracting switching _ _ => exact .inl h
  | undoing switching _ => exact .inl h
  | ending _ => exact .inl rfl

/-! ## §2. One move of a switch. -/

namespace Errand

theorem serves_proceed (s : Session σ κ) {next : Option Purpose}
    (h : ∃ purpose, next = some purpose ∧ purpose.Restarts) :
    (proceed s next).errand.Serves (proceed s next).session := by
  obtain ⟨purpose, rfl, hpurpose⟩ := h
  exact hpurpose

theorem serves_released (s : Session σ κ) {purpose : Purpose} (h : purpose.Restarts) :
    (released s purpose).errand.Serves (released s purpose).session := by
  cases purpose with
  | forGood => exact absurd h id
  | select target => exact absurd h id
  | replace target restart =>
      obtain rfl : restart = true := h
      rfl
  | giveUp fault => exact fun hok => absurd hok (by simp)

theorem serves_failed (s : Session σ κ) (fault : Fault) :
    (failed s fault true).errand.Serves (failed s fault true).session := by
  cases fault with
  | error e => exact ⟨_, rfl, trivial⟩
  | overflow => exact fun hok => absurd hok (by simp)

variable [Host σ] [Stage κ] {s : Session σ κ}

/-- A switch opens its target, or fails. -/
theorem serves_openOutcome {t : Session σ κ} {answer : Except Fault Unit}
    (houtcome : s.OpenOutcome (answer, t)) :
    (opened t answer (some true)).errand.Serves (opened t answer (some true)).session := by
  cases houtcome with
  | refused fault => exact fun hok => absurd hok (by simp)
  | already hopen => exact ⟨rfl, hopen⟩
  | null => exact ⟨rfl, by simp [opened, Session.openNull, Session.note]⟩
  | device => exact ⟨rfl, by simp [opened, Session.adopt, Session.note]⟩

/-- **Every move of a switch brings it closer to serving**, unless the switch returns a failure. -/
theorem serves_advance? {e : Errand} (h : e.Serves s) {joined : Bool} {done : Advance σ κ}
    (hdone : e.advance? s joined = some done)
    (hok : ∀ answer, .returned answer ∈ done.events → answer = .ok ()) :
    done.errand.Serves done.session := by
  cases advance_outcome hdone with
  | marked target restart => exact ⟨_, rfl, h.1⟩
  | unstopped next => exact serves_proceed s h
  | stopped next => exact h
  | awaited next => exact h
  | halted next log => exact serves_proceed { s with task := none, log } h
  | @closed t purpose => exact serves_released t h
  | opened restart houtcome =>
      obtain rfl : restart = some true := h
      exact serves_openOutcome houtcome
  | @refused t fault switching =>
      obtain ⟨rfl, _⟩ := h
      exact serves_failed t fault
  | already switching hstarted =>
      obtain ⟨rfl, hopen⟩ := h
      exact fun _ => ⟨hstarted, hopen⟩
  | null switching _ _ hsteady =>
      -- A started null sink takes everything, so it serves like a device.
      obtain ⟨rfl, hopen⟩ := h
      have hserving : Session.Serving { s with phase := .started } := ⟨rfl, hopen⟩
      exact fun _ => hserving.of_steady hsteady
  | begun switching _ _ hr =>
      obtain ⟨rfl, _⟩ := h
      exact ⟨rfl, rfl, by simp [Session.beginRendering, hr]⟩
  | tidied switching generation => exact h
  | hired switching generation =>
      obtain ⟨rfl, hserving⟩ := h
      exact fun _ => hserving
  | unhired switching generation reason => exact h.1
  | retracted switching generation reason log => exact h
  | @undone t switching reason =>
      obtain rfl : switching = true := h
      exact serves_failed { t with phase := .opened } _
  | ended answer =>
      -- This is the only place where the answer of the switch decides.
      exact h (hok answer List.mem_cons_self)

end Errand

/-! ## §3. Producers. -/

namespace Session

/-- **While the mark is set a feed touches nothing**, and has to come again. -/
theorem feedSection_marked {s : Session σ κ} (hmark : s.switching = true) {chunk : List UInt8}
    (hchunk : chunk ≠ []) (now : Instant) :
    s.feedSection chunk now = (.awaitSwitch s.progress, s) := by
  have hsome : ¬chunk.isEmpty = true := by
    rw [List.isEmpty_iff]
    exact hchunk
  unfold feedSection
  rw [if_neg hsome, if_pos hmark]

/-- **A feed that is answered by a session that serves without the mark is not turned away.** -/
theorem feedSection_served {s t : Session σ κ} (hserves : s.switching = false → s.Serving)
    {chunk : List UInt8} {now : Instant} {answer : Except RenderError Feed}
    (hfed : s.feedSection chunk now = (.done answer, t)) : answer ≠ .error .notStarted := by
  unfold feedSection at hfed
  split at hfed
  · injection (Prod.mk.inj hfed).1 with hanswer
    rw [← hanswer]
    simp
  · split at hfed
    · exact absurd (Prod.mk.inj hfed).1 (by simp)
    next hunmarked =>
      obtain ⟨hphase, hopen⟩ := hserves (by simpa using hunmarked)
      split at hfed
      · injection (Prod.mk.inj hfed).1 with hanswer
        rw [← hanswer]
        simp
      next r _ =>
        rw [if_pos hphase] at hfed
        unfold feedRoute at hfed
        dsimp only at hfed
        split at hfed
        · injection (Prod.mk.inj hfed).1 with hanswer
          rw [← hanswer]
          simp
        · exact absurd (Prod.mk.inj hfed).1 (by simp)
      next hclosed => exact absurd hclosed hopen

/-- The second section of a feed takes nothing; at most it finds that the route has stalled. -/
theorem feedAgain_answers (s : Session σ κ) (now : Instant) :
    s.feedAgain now = .ok (.accepted 0) ∨ ∃ time, s.feedAgain now = .error (.writeStalled time) := by
  unfold feedAgain
  split
  next r _ =>
    split
    next time _ => exact .inr ⟨time, rfl⟩
    · exact .inl rfl
  · exact .inl rfl

end Session

namespace Crew

/-- A first section leaves the call where it is, and is steady. -/
theorem steady_feed (c : Crew σ κ) (producer : Nat) (chunk : List UInt8) (now : Instant) :
    (c.feed producer chunk now).1.errand = c.errand
      ∧ c.session.Steady (c.feed producer chunk now).1.session := by
  obtain ⟨point, hplace⟩ := c.feed_place producer chunk now
  rw [hplace]
  exact ⟨rfl, c.session.steady_feedSection chunk now⟩

/-- No producer is turned away where the session serves or is marked. -/
theorem served_produce {c next : Crew σ κ} {events : List Event} {producer : Nat} {now : Instant}
    (hserves : c.session.switching = false → c.session.Serving)
    (hstep : ProduceOutcome c producer now next events) (other : Nat) :
    .answered other (.error .notStarted) ∉ events := by
  intro hanswered
  cases hstep with
  | first chunk =>
      obtain ⟨answer, t, hevent, hfed⟩ := events_feed hanswered
      injection hevent with _ hanswer
      exact Session.feedSection_served hserves hfed hanswer.symm
  | second =>
      injection List.mem_singleton.mp hanswered with _ hanswer
      rcases c.session.feedAgain_answers now with htaken | ⟨time, hstalled⟩
      · rw [htaken] at hanswer
        exact absurd hanswer (by simp)
      · rw [hstalled] at hanswer
        exact absurd hanswer (by simp)

/-- **A producer that comes while the mark is set is held**, and nothing else happens. -/
theorem held_produce {c next : Crew σ κ} {events : List Event} {producer : Nat} {now : Instant}
    (hmark : c.session.switching = true) {chunk : List UInt8}
    (hoffered : (c.producers producer).offered? = some chunk) (hchunk : chunk ≠ [])
    (hstep : ProduceOutcome c producer now next events) :
    next.session = c.session ∧ events = []
      ∧ next.producers producer = .held chunk c.session.progress := by
  cases hstep with
  | first other hother =>
      obtain rfl : chunk = other := Option.some.inj (hoffered.symm.trans hother)
      unfold feed
      rw [Session.feedSection_marked hmark hchunk now]
      exact ⟨rfl, rfl, if_pos rfl⟩
  | second _ _ hblocked =>
      rw [hblocked] at hoffered
      exact absurd hoffered (by simp [Producer.offered?])

/-! ## §4. Every run of switches. -/

variable [Host σ] [Stage κ]

omit [Host σ] [Stage κ] in
/-- Without the mark a sound crew that only switches serves. -/
theorem Sound.serving {c : Crew σ κ} {trace : List Event} (h : c.Sound trace)
    (hserves : c.errand.Serves c.session) (hunmarked : c.session.switching = false) :
    c.session.Serving ∧ (c.errand = .idle ∨ ∃ target, c.errand = .marking target true) := by
  rcases hserves.marked_or_serving with hmarked | hserving
  · rw [← h.kept.marked, hunmarked] at hmarked
    exact absurd hmarked (by simp)
  · exact hserving

/-- **Every move keeps what a switch is to lead to**, as long as no switch fails. -/
theorem serves_step {c next : Crew σ κ} {events : List Event} (hserves : c.errand.Serves c.session)
    {move : Move σ} (hmove : move.Switches) (hstep : c.step move = some (next, events))
    (hok : ∀ answer, .returned answer ∈ events → answer = .ok ()) :
    next.errand.Serves next.session := by
  cases step_outcome hstep with
  | call request hidle =>
      rw [hidle] at hserves
      obtain ⟨hphase, hopen⟩ := hserves
      -- Only a closed session is switched without a mark, and one that serves is not closed.
      have hbegin : ∀ target, (c.beginSelect target).errand.Serves (c.beginSelect target).session := by
        intro target
        unfold beginSelect
        dsimp only
        rw [hphase, if_neg (by simp)]
        exact ⟨by simp, hphase, hopen⟩
      cases request with
      | select target => exact hbegin target
      | reopen => exact hbegin _
      | _ => exact absurd hmove id
  | advance hstep =>
      obtain ⟨done, hdone, rfl, rfl⟩ := advance_done hstep
      exact Errand.serves_advance? hserves hdone hok
  | drain index t _ hstep =>
      cases (drain_outcome hstep).2 with
      | steady _ hsteady => exact hserves.of_steady hsteady
      | cycled _ hsteady => exact hserves.of_steady hsteady
      | leaving =>
          show c.errand.Serves (c.session.drainExited t.generation)
          rw [Session.drainExited_eq]
          -- A mark of a drain task is not the mark of a switch.
          exact hserves.of_same id id
      | gone => exact hserves
  | offer => exact hserves
  | produce producer now hstep =>
      cases hstep with
      | first chunk =>
          obtain ⟨herrand, hsteady⟩ := steady_feed c producer chunk now
          rw [herrand]
          exact hserves.of_steady hsteady
      | second => exact hserves
  | steady _ _ hsteady => exact hserves.of_steady hsteady

/-- Nobody but a producer is answered, and no producer is turned away. -/
theorem served_step {c next : Crew σ κ} {trace events : List Event} (h : c.Sound trace)
    (hserves : c.errand.Serves c.session) {move : Move σ}
    (hstep : c.step move = some (next, events)) (producer : Nat) :
    .answered producer (.error .notStarted) ∉ events := by
  intro hanswered
  cases step_outcome hstep with
  | call request =>
      obtain ⟨_, hreturned⟩ := events_begin hanswered
      exact absurd hreturned (by simp)
  | advance hstep =>
      obtain ⟨done, hdone, rfl, rfl⟩ := advance_done hstep
      exact Errand.shows_advance? h.kept hdone _ hanswered
  | drain index t _ hstep =>
      rcases events_drain hstep hanswered with hcycled | hleft
      · exact absurd hcycled (by simp)
      · exact absurd hleft (by simp)
  | offer => exact absurd hanswered (by simp)
  | produce other now hstep =>
      exact served_produce (fun hunmarked => (h.serving hserves hunmarked).1) hstep producer hanswered
  | steady => exact absurd hanswered (by simp)

/-- **A run of switches that succeed serves all the time**, and turns no producer away. -/
theorem serves_run (moves : List (Move σ)) :
    ∀ {c last : Crew σ κ} {trace events : List Event},
      c.Sound trace → c.errand.Serves c.session → (∀ move ∈ moves, move.Switches) →
      c.run moves = some (last, events) →
      (∀ answer, .returned answer ∈ events → answer = .ok ()) →
        last.errand.Serves last.session
          ∧ ∀ producer, .answered producer (.error .notStarted) ∉ events := by
  induction moves with
  | nil =>
      intro c last trace events h hserves _ hrun _
      obtain ⟨rfl, rfl⟩ := Prod.mk.inj (Option.some.inj hrun)
      exact ⟨hserves, by simp⟩
  | cons move rest ih =>
      intro c last trace events h hserves hmoves hrun hok
      obtain ⟨next, seen, more, hstep, hrest, rfl⟩ := run_cons hrun
      have hnext : next.errand.Serves next.session := by
        refine serves_step hserves (hmoves move List.mem_cons_self) hstep ?_
        intro answer hseen
        exact hok answer (List.mem_append_left _ hseen)
      obtain ⟨hlast, hserved⟩ := ih (sound_step h hstep) hnext
        (fun m hm => hmoves m (List.mem_cons_of_mem _ hm)) hrest
        fun answer hmore => hok answer (List.mem_append_right _ hmore)
      refine ⟨hlast, ?_⟩
      intro producer hanswered
      rcases List.mem_append.mp hanswered with hseen | hmore
      · exact served_step h hserves hstep producer hseen
      · exact hserved producer hmore

/-- What producers meet at a moment of a run of switches. -/
structure Shielded (c : Crew σ κ) : Prop where
  /-- A feed whose first section meets the mark changes nothing of the session, is not answered, and
  comes again. -/
  held : c.session.switching = true → ∀ producer chunk now next events,
    (c.producers producer).offered? = some chunk → chunk ≠ [] →
      c.step (.produce producer now) = some (next, events) →
        next.session = c.session ∧ events = []
          ∧ next.producers producer = .held chunk c.session.progress
  /-- A feed whose first section is answered, and so took what it took, met an open route that was
  started, with no call at work on it. -/
  taken : ∀ producer chunk now next events answer,
    (c.producers producer).offered? = some chunk → chunk ≠ [] →
      c.step (.produce producer now) = some (next, events) → .answered producer answer ∈ events →
        c.session.Serving ∧ (c.errand = .idle ∨ ∃ target, c.errand = .marking target true)
  /-- The second section of a feed takes nothing, wherever it falls. -/
  late : ∀ producer seen period now next events,
    c.producers producer = .blocked seen period →
      c.step (.produce producer now) = some (next, events) →
        next.session = c.session ∧ ∀ answer, .answered producer answer ∈ events →
          answer = .ok (.accepted 0) ∨ ∃ time, answer = .error (.writeStalled time)
  /-- Whenever the mark is not set, there is an open route that is started, and no call is at work
  on it. -/
  unmarked : c.session.switching = false →
    c.session.Serving ∧ (c.errand = .idle ∨ ∃ target, c.errand = .marking target true)

/-- A sound crew that only switches is shielded. -/
theorem Sound.shielded {c : Crew σ κ} {trace : List Event} (h : c.Sound trace)
    (hserves : c.errand.Serves c.session) : c.Shielded where
  held hmark producer chunk now next events hoffered hchunk hstep := by
    have hproduce : c.produce producer now = some (next, events) := hstep
    exact held_produce hmark hoffered hchunk (produce_outcome hproduce)
  taken producer chunk now next events answer hoffered hchunk hstep hanswered := by
    have hproduce : c.produce producer now = some (next, events) := hstep
    by_cases hmark : c.session.switching = true
    · obtain ⟨_, hnothing, _⟩ := held_produce hmark hoffered hchunk (produce_outcome hproduce)
      rw [hnothing] at hanswered
      exact absurd hanswered (by simp)
    · exact h.serving hserves (by simpa using hmark)
  late producer seen period now next events hblocked hstep := by
    have hproduce : c.produce producer now = some (next, events) := hstep
    cases produce_outcome hproduce with
    | first chunk hoffered =>
        rw [hblocked] at hoffered
        exact absurd hoffered (by simp [Producer.offered?])
    | second =>
        refine ⟨rfl, fun answer hanswered => ?_⟩
        injection List.mem_singleton.mp hanswered with _ hanswer
        rw [hanswer]
        exact c.session.feedAgain_answers now
  unmarked := h.serving hserves

/-- **A switch is atomic for producers.**  Take a session that is started while no call is under way,
and let any number of producers, drain tasks and the machine move between the moves of switches that
all succeed, in any order.  Then no feed is turned away, and at every moment producers are shielded:
a feed that meets the mark of a switch is held, and one that is answered met an open route that is
started. -/
theorem switches_shield_producers {host : σ} {source : Format} {selected : Option String}
    {config : SessionConfig} {s : Session σ κ}
    (hcreate : Session.create host source selected config = .ok s)
    {history : List (Move σ)} {before : Crew σ κ} {past : List Event}
    (hhistory : Crew.run { session := s } history = some (before, past))
    (hidle : before.errand = .idle) (hstarted : before.session.phase = .started)
    {moves : List (Move σ)} (hmoves : ∀ move ∈ moves, move.Switches) {c : Crew σ κ}
    {trace : List Event} (hrun : before.run moves = some (c, trace))
    (hok : ∀ answer, .returned answer ∈ trace → answer = .ok ()) :
    (∀ producer, .answered producer (.error .notStarted) ∉ trace) ∧ c.Shielded := by
  have hsound : before.Sound ([] ++ past) := sound_run history (sound_create hcreate) hhistory
  have hopen : before.session.route ≠ .closed := hsound.kept.phaseFits.open_of_started hstarted
  have hserves : before.errand.Serves before.session := by
    rw [hidle]
    exact ⟨hstarted, hopen⟩
  obtain ⟨hlast, hserved⟩ := serves_run moves hsound hserves hmoves hrun hok
  exact ⟨hserved, (sound_run moves hsound hrun).shielded hlast⟩

/-- Two devices, the second with room for what it is given. -/
def twoDevices : DeviceBank where
  devices := [{ id := "left", name := "Left", bufferFrames := 8 },
    { id := "right", name := "Right", bufferFrames := 4, free := 4 }]

/-- The session is opened on the left device and started. -/
def rendering : List (Move DeviceBank) :=
  [.call .openRoute, .advance, .call .start, .advance, .advance, .advance]

/-- A producer comes while the session moves to the right device: it is held before the old route is
stopped, after, and before the new one is started, and is served behind the mark. -/
def handover : List (Move DeviceBank) :=
  [.offer 0 [1, 2, 3, 4], .call (.select (some "right")), .advance, .produce 0 ⟨0, 0⟩, .advance,
    .produce 0 ⟨0, 0⟩, .drain 0, .drain 0, .drain 0, .advance, .advance, .advance, .advance,
    .produce 0 ⟨0, 0⟩, .advance, .advance, .advance, .advance, .drain 1, .drain 1, .drain 1,
    .produce 0 ⟨0, 0⟩]

/-- A producer that comes before, within and behind a switch is answered once, with all that it
offered taken by the new route. -/
theorem switches_shield_producers_handover :
    ∃ (s : Session DeviceBank (LinearResampler Double Single))
      (before c : Crew DeviceBank (LinearResampler Double Single)) (past trace : List Event),
      Session.create twoDevices (Format.pcm 8000 16 1) (some "left") {} = .ok s
        ∧ Crew.run { session := s } rendering = some (before, past)
        ∧ before.run handover = some (c, trace)
        ∧ trace = [.stopped, .left 1, .halted, .begun 3, .spawned 3, .returned (.ok ()), .cycled 3,
          .answered 0 (.ok .consumed)]
        ∧ (∀ producer, .answered producer (.error .notStarted) ∉ trace) ∧ c.Shielded :=
  ⟨_, _, _, _, _, rfl, rfl, rfl, rfl,
    switches_shield_producers
      (show Session.create twoDevices (Format.pcm 8000 16 1) (some "left") {} = .ok _ from rfl)
      (show Crew.run _ rendering = some (_, _) from rfl) rfl rfl (by simp [handover, Move.Switches])
      (show Crew.run _ handover = some (_, _) from rfl) (by
        intro answer hanswer
        have hanswer : .returned answer ∈ [Event.stopped, .left 1, .halted, .begun 3, .spawned 3,
          .returned (.ok ()), .cycled 3, .answered 0 (.ok .consumed)] := hanswer
        simpa using hanswer)⟩

end Crew

end PcmRender
