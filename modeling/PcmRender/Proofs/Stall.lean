/-
  PcmRender.Proofs.Stall — **a feed reports a stall exactly when nothing has moved for too long.**

  While a watchdog is marked,

      no feed was told that a byte is taken, no cycle took one out of the ring, no stop has ended
      what renders

  all the time since the mark was set (`Still`), on one and the same route.  What a blocked feed
  reports is the age of the mark that it meets, if this is more than the pace of the route allows.
  The route may be another one than that on which it was blocked, and the mark that of another
  producer.

  A move keeps this (`guards_step`), and so does every run in which starts get their threads
  (`watch_run`).
-/
import PcmRender.Proofs.Onset
import PcmRender.Proofs.Switch

namespace PcmRender

variable {σ κ : Type}

/-! ## §1. The moves of everyone. -/

namespace Crew

section Books

variable [Host σ] [Stage κ]

/-- The bytes that a producer is told are taken, if this is its move. -/
def taken (c : Crew σ κ) : Move σ → List UInt8
  | .produce producer now =>
    match (c.producers producer).offered? with
    | some chunk => (c.session.feedSection chunk now).1.taken chunk
    | none => []
  | _ => []

/-- The bytes that a cycle takes out of the ring, if this move runs one. -/
def popped (c : Crew σ κ) : Move σ → List UInt8
  | .drain index =>
    match c.threads[index]? with
    | some ⟨generation, .entering⟩ =>
      match c.session.cycle? generation with
      | some (_, done) => done.popped
      | none => []
    | _ => []
  | _ => []

/-- A move in which nothing moves: no byte is taken from a producer or out of the ring, nothing is
stopped, and the watchdog of the route keeps its mark. -/
structure Still (c : Crew σ κ) (move : Move σ) (events : List Event) (next : Crew σ κ) : Prop where
  taken : c.taken move = []
  popped : c.popped move = []
  unstopped : .stopped ∉ events
  route : c.session.route.Continues next.session.route
  onset : next.session.onset = c.session.onset

/-- A run in which nothing moves. -/
inductive AllStill : Crew σ κ → List (Move σ) → Crew σ κ → Prop
  | nil (c : Crew σ κ) : AllStill c [] c
  | cons {c next last : Crew σ κ} {move : Move σ} {events : List Event} {rest : List (Move σ)}
      (step : c.step move = some (next, events)) (still : Still c move events next)
      (h : AllStill next rest last) : AllStill c (move :: rest) last

end Books

/-- A feed that finds the ring of the route full, and marks its watchdog. -/
structure Marks (c : Crew σ κ) (feeder : Nat) (since : Instant) (next : Crew σ κ) : Prop where
  offered : ∃ chunk, chunk ≠ [] ∧ (c.producers feeder).offered? = some chunk
  route : ∃ r, c.session.route = .device r ∧ r.ring.free = 0 ∧ r.onset = none
    ∧ next.session.route = .device (r.mark since.nanos)

/-- What a move makes of the mark: afterwards only what renders is watched, and a mark that is there
then was there before and nothing has moved, or a feed has found the ring full and set it. -/
def Guards [Host σ] [Stage κ] (c : Crew σ κ) (move : Move σ) (events : List Event)
    (next : Crew σ κ) : Prop :=
  next.session.MarkedOnlyStarted ∧ ∀ since, next.session.onset = some since →
    Still c move events next
      ∨ ∃ feeder now, move = .produce feeder now ∧ now.nanos = since ∧ Marks c feeder now next

variable [Host σ] [Stage κ] {c next : Crew σ κ} {trace events : List Event} {move : Move σ}

/-- **Only a producer that moves is answered.** -/
theorem answered_step (h : c.Sound trace) (hstep : c.step move = some (next, events))
    {producer : Nat} {answer : Except RenderError Feed}
    (hanswer : .answered producer answer ∈ events) :
    ∃ now, move = .produce producer now ∧ ProduceOutcome c producer now next events := by
  cases step_outcome hstep with
  | call request =>
      obtain ⟨_, hreturned⟩ := events_begin hanswer
      exact absurd hreturned (by simp)
  | advance hstep =>
      obtain ⟨done, hdone, rfl, rfl⟩ := advance_done hstep
      exact absurd (Errand.shows_advance? h.kept hdone _ hanswer) id
  | drain index t _ hstep =>
      rcases events_drain hstep hanswer with hcycled | hleft
      · exact absurd hcycled (by simp)
      · exact absurd hleft (by simp)
  | offer => exact absurd hanswer (by simp)
  | produce other now houtcome =>
      have hsame : producer = other := by
        cases houtcome with
        | first chunk =>
            obtain ⟨_, _, heq, _⟩ := events_feed hanswer
            injection heq
        | second =>
            have heq := List.mem_singleton.mp hanswer
            injection heq
      exact ⟨now, by rw [hsame], hsame ▸ houtcome⟩
  | steady => exact absurd hanswer (by simp)

/-- **What a stop shows is that nothing renders any more.** -/
theorem stopped_step (h : c.Sound trace) (hstep : c.step move = some (next, events))
    (hstopped : .stopped ∈ events) : next.session.phase ≠ .started := by
  cases step_outcome hstep with
  | call request =>
      obtain ⟨_, hreturned⟩ := events_begin hstopped
      exact absurd hreturned (by simp)
  | advance hstep =>
      obtain ⟨done, hdone, rfl, rfl⟩ := advance_done hstep
      exact Errand.shows_advance? h.kept hdone _ hstopped
  | drain index t _ hstep =>
      rcases events_drain hstep hstopped with hcycled | hleft
      · exact absurd hcycled (by simp)
      · exact absurd hleft (by simp)
  | offer => exact absurd hstopped (by simp)
  | produce other now houtcome =>
      cases houtcome with
      | first chunk =>
          obtain ⟨_, _, heq, _⟩ := events_feed hstopped
          exact absurd heq (by simp)
      | second => exact absurd (List.mem_singleton.mp hstopped) (by simp)
  | steady => exact absurd hstopped (by simp)

/-- Outside of a turn a drain task takes nothing out of the ring, -/
theorem popped_outside {index : Nat} {t : DrainThread} (ht : c.threads[index]? = some t)
    (houtside : t.point ≠ .entering) : c.popped (.drain index) = [] := by
  obtain ⟨generation, point⟩ := t
  unfold popped
  dsimp only
  rw [ht]
  cases point with
  | entering => exact absurd rfl houtside
  | _ => rfl

/-- and in a turn what its cycle takes. -/
theorem popped_inside {index : Nat} {t : DrainThread} (ht : c.threads[index]? = some t)
    (hinside : t.point = .entering) (hpopped : c.popped (.drain index) ≠ []) :
    ∃ r done, c.session.cycle? t.generation = some (r, done)
      ∧ c.popped (.drain index) = done.popped := by
  obtain ⟨generation, point⟩ := t
  obtain rfl : point = .entering := hinside
  unfold popped at hpopped ⊢
  dsimp only at hpopped ⊢
  rw [ht] at hpopped ⊢
  dsimp only at hpopped ⊢
  cases hcycle : c.session.cycle? generation with
  | none =>
      rw [hcycle] at hpopped
      exact absurd rfl hpopped
  | some found => exact ⟨found.1, found.2, rfl, rfl⟩

/-- What a drain task does when it goes on takes nothing while the mark stays. -/
theorem keepsOrClearsMark_drain {index : Nat} {t : DrainThread} (ht : c.threads[index]? = some t)
    (hstep : c.drain index t = some (next, events)) :
    c.session.KeepsOrClearsMark next.session
      ∧ (next.session.onset ≠ none → c.popped (.drain index) = []) := by
  have hsession := (drain_session hstep).1
  generalize next.session = s at hsession
  cases hsession with
  | same houtside => exact ⟨Session.KeepsOrClearsMark.refl _, fun _ => popped_outside ht houtside⟩
  | paused houtside => exact ⟨c.session.keepsOrClearsMark_pause, fun _ => popped_outside ht houtside⟩
  | left houtside =>
      exact ⟨c.session.keepsOrClearsMark_drainExited _, fun _ => popped_outside ht houtside⟩
  | turned hinside =>
      obtain ⟨hwatches, hnothing⟩ := c.session.keepsOrClearsMark_drainTurn t.generation
      refine ⟨hwatches, fun hmarked => ?_⟩
      by_cases hpopped : c.popped (.drain index) = []
      · exact hpopped
      · obtain ⟨r, done, hcycle, hdone⟩ := popped_inside ht hinside hpopped
        exact hdone.trans (hnothing hmarked r done hcycle)

/-- A move that keeps the watch guards the mark, if it takes nothing while the mark stays. -/
theorem guards_of_keepsOrClearsMark (h : c.Sound trace) (hwatched : c.session.MarkedOnlyStarted)
    (hstep : c.step move = some (next, events)) (hwatches : c.session.KeepsOrClearsMark next.session)
    (htaken : next.session.onset ≠ none → c.taken move = [])
    (hpopped : next.session.onset ≠ none → c.popped move = []) : Guards c move events next := by
  have hnext := hwatched.of_keepsOrClearsMark hwatches
  refine ⟨hnext, fun since hsince => .inl ?_⟩
  have hmarked : next.session.onset ≠ none := by rw [hsince]; simp
  cases hwatches with
  | clear hnone => exact absurd hnone hmarked
  | same honset _ hroute =>
      exact ⟨htaken hmarked, hpopped hmarked,
        fun hstopped => stopped_step h hstep hstopped (hnext hmarked), hroute, honset⟩

omit [Host σ] [Stage κ] in
/-- A call that begins leaves the route and the phase alone. -/
theorem keepsOrClearsMark_begin (c : Crew σ κ) (request : Request) :
    c.session.KeepsOrClearsMark (c.begin request).1.session := by
  cases request with
  | setFormat format =>
      show c.session.KeepsOrClearsMark (c.session.setFormat format).2
      unfold Session.setFormat
      split
      · exact Session.KeepsOrClearsMark.refl _
      · split
        · exact Session.KeepsOrClearsMark.of_same rfl rfl
        · exact Session.KeepsOrClearsMark.refl _
  | _ => exact Session.KeepsOrClearsMark.of_same rfl rfl

/-- **A producer guards the mark**: its first section sets it, clears it, or takes nothing. -/
theorem guards_produce (h : c.Sound trace) (hwatched : c.session.MarkedOnlyStarted) {producer : Nat}
    {now : Instant} (hstep : c.step (.produce producer now) = some (next, events)) :
    Guards c (.produce producer now) events next := by
  cases produce_outcome hstep with
  | second seen period hblocked =>
      refine guards_of_keepsOrClearsMark h hwatched hstep (Session.KeepsOrClearsMark.refl _)
        (fun _ => ?_) fun _ => rfl
      unfold taken
      dsimp only
      rw [hblocked]
      rfl
  | first chunk hoffered =>
      have hsession := session_feed c producer chunk now
      have htaken : c.taken (.produce producer now)
          = (c.session.feedSection chunk now).1.taken chunk := by
        unfold taken
        dsimp only
        rw [hoffered]
      cases c.session.feedSection_outcome chunk now with
      | clear hnone =>
          have hclear : (c.feed producer chunk now).1.session.onset = none := by
            rw [hsession]
            exact hnone
          exact guards_of_keepsOrClearsMark h hwatched hstep (.clear hclear)
            (fun hmarked => absurd hclear hmarked) fun _ => rfl
      | idle hsame hnothing =>
          rw [← hsession] at hsame
          exact guards_of_keepsOrClearsMark h hwatched hstep
            (by rw [hsame]; exact Session.KeepsOrClearsMark.refl _)
            (fun _ => htaken.trans hnothing) fun _ => rfl
      | full r hr hchunk hfull hnothing hstarted hphase hmarked =>
          rw [← hsession] at hphase hmarked
          cases honset : r.onset with
          | some since =>
              -- The mark of an earlier feed stays.
              rw [DeviceRoute.mark_marked honset now.nanos, ← hr] at hmarked
              exact guards_of_keepsOrClearsMark h hwatched hstep
                (Session.KeepsOrClearsMark.of_same hmarked (hphase.trans hstarted.symm))
                (fun _ => htaken.trans hnothing) fun _ => rfl
          | none =>
              refine ⟨fun _ => hphase, fun since hsince => .inr ⟨producer, now, rfl, ?_, ?_⟩⟩
              · rw [Session.onset_device hmarked, DeviceRoute.mark_unmarked honset now.nanos] at hsince
                exact Option.some.inj hsince
              · exact ⟨⟨chunk, hchunk, hoffered⟩, r, hr, hfull, honset, hmarked⟩

/-- **Every move guards the mark.** -/
theorem guards_step (h : c.Sound trace) (hwatched : c.session.MarkedOnlyStarted)
    (hhired : c.errand.refused = false) (hstep : c.step move = some (next, events)) :
    Guards c move events next := by
  have hstill := guards_of_keepsOrClearsMark h hwatched hstep
  cases move with
  | call request =>
      refine hstill ?_ (fun _ => rfl) fun _ => rfl
      obtain ⟨_, rfl, _⟩ := step_call hstep
      exact c.keepsOrClearsMark_begin request
  | advance =>
      refine hstill ?_ (fun _ => rfl) fun _ => rfl
      obtain ⟨done, hdone, rfl, _⟩ := advance_done hstep
      exact Errand.keepsOrClearsMark_advance? hwatched hhired hdone
  | drain index =>
      obtain ⟨t, ht, hdrain⟩ := step_drain hstep
      obtain ⟨hwatches, hpopped⟩ := keepsOrClearsMark_drain ht hdrain
      exact hstill hwatches (fun _ => rfl) hpopped
  | offer producer chunk =>
      refine hstill ?_ (fun _ => rfl) fun _ => rfl
      obtain ⟨_, rfl, _⟩ := step_offer hstep
      exact Session.KeepsOrClearsMark.refl _
  | produce producer now => exact guards_produce h hwatched hstep
  | gain gain =>
      obtain ⟨rfl, rfl⟩ := Prod.mk.inj (Option.some.inj hstep)
      exact hstill (Session.KeepsOrClearsMark.of_same rfl rfl) (fun _ => rfl) fun _ => rfl
  | elsewhere change =>
      obtain ⟨rfl, rfl⟩ := Prod.mk.inj (Option.some.inj hstep)
      exact hstill (Session.KeepsOrClearsMark.of_same rfl rfl) (fun _ => rfl) fun _ => rfl

/-! ## §2. Every run. -/

/-- Whether every start of a run gets a thread for its drain task. -/
def hired (c : Crew σ κ) : List (Move σ) → Bool
  | [] => !c.errand.refused
  | move :: rest => !c.errand.refused && (match c.step move with
    | some (next, _) => next.hired rest
    | none => true)

/-- In a run a feed has found the ring full and marked the watchdog at the time `since`, and nothing
has moved from then on. -/
def MarkedSince (c : Crew σ κ) (moves : List (Move σ)) (since : Nat) (last : Crew σ κ) : Prop :=
  ∃ early feeder now late mid seen after shown, moves = early ++ .produce feeder now :: late
    ∧ c.run early = some (mid, seen) ∧ mid.step (.produce feeder now) = some (after, shown)
    ∧ now.nanos = since ∧ Marks mid feeder now after ∧ AllStill after late last

theorem run_step {last : Crew σ κ} {rest : List (Move σ)} {more : List Event}
    (hstep : c.step move = some (next, events)) (hrest : next.run rest = some (last, more)) :
    c.run (move :: rest) = some (last, events ++ more) := by
  unfold run
  rw [hstep]
  show (next.run rest).bind _ = _
  rw [hrest]
  rfl

theorem hired_cons {rest : List (Move σ)} (h : c.hired (move :: rest) = true)
    (hstep : c.step move = some (next, events)) :
    c.errand.refused = false ∧ next.hired rest = true := by
  unfold hired at h
  rw [hstep, Bool.and_eq_true, Bool.not_eq_true'] at h
  exact h

theorem MarkedSince.cons {last : Crew σ κ} {rest : List (Move σ)} {since : Nat}
    (hstep : c.step move = some (next, events)) (h : MarkedSince next rest since last) :
    MarkedSince c (move :: rest) since last := by
  obtain ⟨early, feeder, now, late, mid, seen, after, shown, hsplit, hrun, hmark, hrest⟩ := h
  exact ⟨move :: early, feeder, now, late, mid, _, after, shown,
    by rw [hsplit, List.cons_append], run_step hstep hrun, hmark, hrest⟩

/-- **A mark at the end of a run** has been there from its beginning, or was set in it; and nothing
has moved since.  The induction goes along the run, from its first move on. -/
theorem watch_run (moves : List (Move σ)) :
    ∀ {c last : Crew σ κ} {trace events : List Event}, c.Sound trace → c.session.MarkedOnlyStarted →
      c.hired moves = true → c.run moves = some (last, events) →
        ∀ since, last.session.onset = some since →
          (c.session.onset = some since ∧ AllStill c moves last)
            ∨ MarkedSince c moves since last := by
  induction moves with
  | nil =>
      intro c last trace events _ _ _ hrun since hsince
      obtain ⟨rfl, rfl⟩ := Prod.mk.inj (Option.some.inj hrun)
      exact .inl ⟨hsince, .nil c⟩
  | cons move rest ih =>
      intro c last trace events h hwatched hhired hrun since hsince
      obtain ⟨next, seen, more, hstep, hrest, rfl⟩ := run_cons hrun
      obtain ⟨hfirst, hothers⟩ := hired_cons hhired hstep
      obtain ⟨hnext, hmarks⟩ := guards_step h hwatched hfirst hstep
      rcases ih (sound_step h hstep) hnext hothers hrest since hsince with
        ⟨honset, hall⟩ | hmarked
      · rcases hmarks since honset with hstill | ⟨feeder, now, rfl, hnow, hmark⟩
        · exact .inl ⟨hstill.onset.symm.trans honset, .cons hstep hstill hall⟩
        · exact .inr ⟨[], feeder, now, rest, c, [], next, seen, rfl, rfl, hstep, hnow, hmark, hall⟩
      · exact .inr (hmarked.cons hstep)

/-- A producer that found the ring full stays where it is while others move. -/
theorem blocked_step {producer : Nat} {seen : Nat} {period : Duration}
    (hblocked : c.producers producer = .blocked seen period)
    (hother : ∀ now, move ≠ .produce producer now) (hstep : c.step move = some (next, events)) :
    next.producers producer = .blocked seen period := by
  refine (producers_step hstep (fun chunk heq => ?_) hother).trans hblocked
  -- It has a chunk, and comes with no other one.
  subst heq
  rw [(step_offer hstep).1] at hblocked
  exact absurd hblocked (by simp)

theorem blocked_run {producer seen : Nat} {period : Duration} (rest : List (Move σ)) :
    ∀ {c last : Crew σ κ} {events : List Event}, c.producers producer = .blocked seen period →
      (∀ now, Move.produce producer now ∉ rest) → c.run rest = some (last, events) →
        last.producers producer = .blocked seen period := by
  induction rest with
  | nil =>
      intro c last events hblocked _ hrun
      obtain ⟨rfl, rfl⟩ := Prod.mk.inj (Option.some.inj hrun)
      exact hblocked
  | cons move rest ih =>
      intro c last events hblocked hothers hrun
      obtain ⟨next, _, _, hstep, hrest, _⟩ := run_cons hrun
      have hother : ∀ now, move ≠ .produce producer now := fun now heq =>
        hothers now (by rw [heq]; exact List.mem_cons_self)
      exact ih (blocked_step hblocked hother hstep)
        (fun now hnow => hothers now (List.mem_cons_of_mem _ hnow)) hrest

/-- **What a feed that finds the ring full comes to.**  It takes nothing, and waits; whatever others
do meanwhile, its second section takes nothing either, and reports a stall exactly if it meets a mark
that is older than the pace allows. -/
theorem blocked_feed {producer : Nat} {chunk : List UInt8} {now : Instant} {r : DeviceRoute κ}
    (hoffered : (c.producers producer).offered? = some chunk) (hchunk : chunk ≠ [])
    (hunmarked : c.session.switching = false) (hstarted : c.session.phase = .started)
    (hr : c.session.route = .device r) (hfull : r.ring.free = 0) :
    c.taken (.produce producer now) = []
      ∧ ∃ next, c.step (.produce producer now) = some (next, [])
        ∧ next.session.route = .device (r.mark now.nanos)
        ∧ ∀ rest last seen, next.run rest = some (last, seen) →
          (∀ later, Move.produce producer later ∉ rest) → ∀ later, ∃ after answer,
            last.step (.produce producer later) = some (after, [.answered producer answer])
              ∧ after.session = last.session
              ∧ ((∃ since, last.session.Expired later.nanos since
                  ∧ answer = .error (.writeStalled ⟨later.nanos - since⟩))
                ∨ ((∀ since, ¬ last.session.Expired later.nanos since)
                  ∧ answer = .ok (.accepted 0))) := by
  obtain ⟨t, hsection, hmarked, _⟩ :=
    Session.feedSection_full hr hstarted hunmarked hchunk hfull now
  have hfeed : c.feed producer chunk now
      = (c.place producer t (.blocked c.session.progress r.timing.period), []) := by
    unfold feed
    rw [hsection]
  refine ⟨?_, c.place producer t (.blocked c.session.progress r.timing.period), ?_, hmarked, ?_⟩
  · unfold taken
    dsimp only
    rw [hoffered]
    dsimp only
    rw [hsection]
    rfl
  · show c.produce producer now = _
    unfold produce
    cases hat : c.producers producer with
    | resting => rw [hat] at hoffered; exact absurd hoffered (by simp [Producer.offered?])
    | blocked _ _ => rw [hat] at hoffered; exact absurd hoffered (by simp [Producer.offered?])
    | offering other =>
        rw [hat] at hoffered
        obtain rfl : other = chunk := Option.some.inj hoffered
        exact congrArg some hfeed
    | held other _ =>
        rw [hat] at hoffered
        obtain rfl : other = chunk := Option.some.inj hoffered
        exact congrArg some hfeed
  · intro rest last seen hrun hothers later
    have hblocked := blocked_run rest (if_pos rfl) hothers hrun
    refine ⟨last.place producer last.session .resting, last.session.feedAgain later, ?_, rfl,
      last.session.feedAgain_cases later⟩
    show last.produce producer later = _
    unfold produce
    rw [hblocked]

/-- **What a reported stall tells**: a producer that was blocked met a mark that is too old. -/
theorem stall_step (h : c.Sound trace) (hstep : c.step move = some (next, events)) {producer : Nat}
    {time : Duration} (hanswer : .answered producer (.error (.writeStalled time)) ∈ events) :
    ∃ now since, move = .produce producer now
      ∧ (∃ seen period, c.producers producer = .blocked seen period)
      ∧ c.session.Expired now.nanos since ∧ since + time.nanos = now.nanos := by
  obtain ⟨now, hmove, houtcome⟩ := answered_step h hstep hanswer
  cases houtcome with
  | first chunk =>
      -- The first section of a feed reports no stall.
      obtain ⟨answer, t, heq, hsection⟩ := events_feed hanswer
      injection heq with _ hreport
      rw [← hreport] at hsection
      exact absurd hsection fun h => Session.feedSection_answer h
  | second seen period hblocked =>
      have heq := List.mem_singleton.mp hanswer
      injection heq with _ hreport
      rcases c.session.feedAgain_cases now with ⟨since, hexpired, hagain⟩ | ⟨_, hagain⟩
      · rw [hagain] at hreport
        have htime : time = ⟨now.nanos - since⟩ := by
          injection hreport with hreport
          injection hreport
        refine ⟨now, since, hmove, ⟨seen, period, hblocked⟩, hexpired, ?_⟩
        obtain ⟨r, _, _, hlate⟩ := hexpired
        rw [htime]
        show since + (now.nanos - since) = now.nanos
        omega
      · rw [hagain] at hreport
        exact absurd hreport (by simp)

/-- **Stalls are reported exactly.**  Take any moves of a lifecycle, of drain tasks and of producers
on a session from its creation, in which every start gets a thread.  A feed reports a stall only in
its second section, only if the route that is open then has a mark that is older than twice the longer
of its buffer and its period; what it reports is the age of this mark; and the mark was set by a feed
that found the ring of this route full, since when no feed was told that a byte is taken, no cycle
has taken one out of the ring, and nothing was stopped.  Conversely a feed that finds the ring full
takes nothing, and whatever happens before its second section, that one takes nothing, reports such a
mark if it meets one, and says that nothing was taken otherwise. -/
theorem stalls_are_exact {host : σ} {source : Format} {selected : Option String}
    {config : SessionConfig} {s : Session σ κ}
    (hcreate : Session.create host source selected config = .ok s) {moves : List (Move σ)}
    (hrun : Crew.run { session := s } moves = some (c, trace))
    (hhired : Crew.hired { session := s } moves = true) :
    (∀ move next events producer time, c.step move = some (next, events) →
      .answered producer (.error (.writeStalled time)) ∈ events →
        ∃ now since, move = .produce producer now
          ∧ (∃ seen period, c.producers producer = .blocked seen period)
          ∧ c.session.Expired now.nanos since ∧ since + time.nanos = now.nanos
          ∧ MarkedSince { session := s } moves since c)
      ∧ ∀ producer chunk now r, (c.producers producer).offered? = some chunk → chunk ≠ [] →
        c.session.switching = false → c.session.phase = .started →
        c.session.route = .device r → r.ring.free = 0 →
          c.taken (.produce producer now) = []
            ∧ ∃ next, c.step (.produce producer now) = some (next, [])
              ∧ next.session.route = .device (r.mark now.nanos)
              ∧ ∀ rest last seen, next.run rest = some (last, seen) →
                (∀ later, Move.produce producer later ∉ rest) → ∀ later, ∃ after answer,
                  last.step (.produce producer later) = some (after, [.answered producer answer])
                    ∧ after.session = last.session
                    ∧ ((∃ since, last.session.Expired later.nanos since
                        ∧ answer = .error (.writeStalled ⟨later.nanos - since⟩))
                      ∨ ((∀ since, ¬ last.session.Expired later.nanos since)
                        ∧ answer = .ok (.accepted 0))) := by
  have hfresh := sound_create hcreate
  have hnone := Session.onset_create hcreate
  refine ⟨?_, fun producer chunk now r hoffered hchunk hunmarked hstarted hr hfull =>
    blocked_feed hoffered hchunk hunmarked hstarted hr hfull⟩
  intro move next events producer time hstep hanswer
  obtain ⟨now, since, hmove, hblocked, hexpired, hage⟩ :=
    stall_step (sound_run moves hfresh hrun) hstep hanswer
  refine ⟨now, since, hmove, hblocked, hexpired, hage, ?_⟩
  obtain ⟨r, hr, honset, _⟩ := hexpired
  have hmarked : c.session.onset = some since := (Session.onset_device hr).trans honset
  have hwatched : s.MarkedOnlyStarted := fun hmark => absurd hnone hmark
  rcases watch_run moves hfresh hwatched hhired hrun since hmarked with ⟨hearly, _⟩ | hsince
  · -- The session had no mark when it was created.
    exact absurd (hnone.symm.trans hearly) (by simp)
  · exact hsince

/-- A session that is to render on the left device. -/
def leftSession : Session DeviceBank (LinearResampler Double Single) where
  host := twoDevices
  config := {}
  source := Format.pcm 8000 16 1
  selected := some "left"
  period := Timing.defaultPeriod

/-- The left device renders and takes nothing.  One producer finds the ring full and marks the
watchdog, another one finds it full later, and a cycle runs. -/
def standstill : List (Move DeviceBank) :=
  rendering ++ [.offer 0 [1, 2], .produce 0 ⟨5, 0⟩, .offer 1 [3, 4], .produce 1 ⟨1000, 0⟩, .drain 0,
    .drain 0, .drain 0]

/-- The second producer reports the stall, counted from the mark of the first one. -/
theorem stalls_are_exact_standstill :
    ∃ c trace next,
      Session.create twoDevices (Format.pcm 8000 16 1) (some "left") {} = .ok leftSession
      ∧ Crew.run { session := leftSession } standstill = some (c, trace)
      ∧ Crew.hired { session := leftSession } standstill = true
      ∧ c.step (.produce 1 ⟨20000006, 0⟩)
        = some (next, [.answered 1 (.error (.writeStalled ⟨20000001⟩))])
      ∧ MarkedSince { session := leftSession } standstill 5 c := by
  obtain ⟨c, trace, hrun⟩ :
      ∃ c trace, Crew.run { session := leftSession } standstill = some (c, trace) := ⟨_, _, rfl⟩
  have hhired : Crew.hired { session := leftSession } standstill = true := by decide +kernel
  -- What the run ends in is computed by the kernel, and the age of the mark from that.
  have hends : (Crew.run { session := leftSession } standstill).map
      (fun p => (p.1.producers 1, p.1.session.deviceRoute?.bind (·.stalledFor? 20000006)))
      = some (.blocked 0 ⟨10000000⟩, some ⟨20000001⟩) := by decide +kernel
  rw [hrun] at hends
  obtain ⟨hblocked, hlate⟩ := Prod.mk.inj (Option.some.inj hends)
  have hagain : c.session.feedAgain ⟨20000006, 0⟩ = .error (.writeStalled ⟨20000001⟩) := by
    rw [Session.feedAgain_eq, hlate]
  have hstep : c.step (.produce 1 ⟨20000006, 0⟩) = some (c.place 1 c.session .resting,
      [.answered 1 (.error (.writeStalled ⟨20000001⟩))]) := by
    rw [← hagain]
    show c.produce 1 _ = _
    unfold produce
    rw [hblocked]
  obtain ⟨hreports, _⟩ := stalls_are_exact
    (show Session.create twoDevices (Format.pcm 8000 16 1) (some "left") {} = .ok leftSession
      from rfl) hrun hhired
  obtain ⟨now, since, hmove, _, _, hage, hmarked⟩ :=
    hreports _ _ _ 1 _ hstep (List.mem_singleton.mpr rfl)
  injection hmove with _ hnow
  rw [← hnow] at hage
  obtain rfl : since = 5 := Nat.add_right_cancel hage
  exact ⟨c, trace, _, rfl, hrun, hhired, hstep, hmarked⟩

end Crew

end PcmRender
