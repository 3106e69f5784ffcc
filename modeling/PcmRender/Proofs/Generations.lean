/-
  PcmRender.Proofs.Generations — **one drain task at a time, and only for what renders.**

  A drain task is told to leave by a number that has moved on.  It reads this number outside of the
  gate, may be held up anywhere, and may be taken down by the device; and all tasks of a session
  share one mark.  What comes of this is nevertheless as orderly as if each of them were called off
  by name:

      a cycle      runs in the generation that was begun last, and not behind its stop
      a thread     is given to a task when all tasks before it are over
      a stop       returns when all tasks are over and none is marked
      a mark       is taken away by the task that it stands for, and by no other

  The first line holds because a task looks once more with the gate in hand; the others because a
  stop waits for the mark and then for the thread.
-/
import PcmRender.Proofs.Crew
import PcmRender.Stage.Linear

namespace PcmRender.Crew

variable {σ κ : Type} [Host σ] [Stage κ]

/-! ## §1. What an orderly move is. -/

/-- A move of someone from `c` to `next`, as far as drain tasks are concerned. -/
structure Orderly (c : Crew σ κ) (move : Move σ) (next : Crew σ κ) (events : List Event) :
    Prop where
  /-- A cycle is run by a drain task whose generation renders. -/
  cycle : ∀ generation, .cycled generation ∈ events →
    c.session.generation = generation ∧ c.session.phase = .started
      ∧ ∃ index t, move = .drain index ∧ c.threads[index]? = some t ∧ t.generation = generation
  /-- A thread is given when no drain task is alive. -/
  spawn : ∀ generation, .spawned generation ∈ events → c.AllThreadsOver
  /-- A stop that had something to stop ends when no drain task is alive or marked. -/
  halt : .halted ∈ events → next.AllThreadsOver ∧ next.session.draining = none
  /-- So it is when a call to stop returns, whether it had something to stop or not. -/
  stop : c.errand = .halting none ∨ c.errand = .joining none →
    ∀ answer, .returned answer ∈ events →
      next.session.phase ≠ .started ∧ next.AllThreadsOver ∧ next.session.draining = none
  /-- A drain task leaves the mark of another generation where it is. -/
  mark : ∀ index t other, move = .drain index → c.threads[index]? = some t →
    c.session.draining = some other → other ≠ t.generation → next.session.draining = some other

omit [Host σ] [Stage κ] in
/-- Moves of others that show nothing of calls and drain tasks are orderly. -/
theorem orderly_of_answers {c next : Crew σ κ} {move : Move σ} {events : List Event}
    (hmove : ∀ index, move ≠ .drain index)
    (hseen : ∀ event ∈ events, ∃ producer answer, event = .answered producer answer) :
    Orderly c move next events where
  cycle generation hcycled := by
    obtain ⟨_, _, hother⟩ := hseen _ hcycled
    exact absurd hother (by simp)
  spawn generation hspawned := by
    obtain ⟨_, _, hother⟩ := hseen _ hspawned
    exact absurd hother (by simp)
  halt hhalted := by
    obtain ⟨_, _, hother⟩ := hseen _ hhalted
    exact absurd hother (by simp)
  stop _ answer hreturned := by
    obtain ⟨_, _, hother⟩ := hseen _ hreturned
    exact absurd hother (by simp)
  mark index _ _ hdrain := absurd hdrain (hmove index)

/-! ## §2. Drain tasks. -/

/-- **A drain task runs cycles of its own generation while it renders**, and takes away its own mark
and no other. -/
theorem orderly_drain {c next : Crew σ κ} {events : List Event} {index : Nat} {t : DrainThread}
    (ht : c.threads[index]? = some t) (hstep : c.drain index t = some (next, events)) :
    Orderly c (.drain index) next events := by
  have houtcome := (drain_outcome hstep).2
  have hmark : ∀ other, c.session.draining = some other → other ≠ t.generation →
      next.session.draining = some other := by
    intro other hother hdiffers
    cases houtcome with
    | steady _ hsteady => exact hsteady.draining.trans hother
    | cycled _ hsteady => exact hsteady.draining.trans hother
    | leaving =>
        show (c.session.drainExited t.generation).draining = _
        rw [Session.drainExited_eq]
        show (if c.session.draining = some t.generation then none else c.session.draining) = _
        rw [hother, if_neg (by simpa using hdiffers)]
    | gone => exact hother
  have hshows : ∀ event ∈ events, event = .left t.generation
      ∨ (event = .cycled t.generation ∧ c.session.generation = t.generation
        ∧ c.session.phase = .started) := by
    intro event hevent
    cases houtcome with
    | steady => exact absurd hevent (by simp)
    | cycled _ _ r done hcycle =>
        obtain ⟨hgeneration, hphase, _, _⟩ := Session.cycle?_eq_some hcycle
        exact .inr ⟨List.mem_singleton.mp hevent, hgeneration, hphase⟩
    | leaving => exact absurd hevent (by simp)
    | gone => exact .inl (List.mem_singleton.mp hevent)
  refine ⟨fun generation hcycled => ?_, fun generation hspawned => ?_, fun hhalted => ?_,
    fun _ answer hreturned => ?_, fun other u mark hmove hu hmarked hdiffers => ?_⟩
  · rcases hshows _ hcycled with hleft | ⟨hsame, hgeneration, hphase⟩
    · exact absurd hleft (by simp)
    · injection hsame with hsame
      exact ⟨hgeneration.trans hsame.symm, hphase, index, t, rfl, ht, hsame.symm⟩
  · rcases hshows _ hspawned with hleft | ⟨hsame, _⟩
    · exact absurd hleft (by simp)
    · exact absurd hsame (by simp)
  · rcases hshows _ hhalted with hleft | ⟨hsame, _⟩
    · exact absurd hleft (by simp)
    · exact absurd hsame (by simp)
  · rcases hshows _ hreturned with hleft | ⟨hsame, _⟩
    · exact absurd hleft (by simp)
    · exact absurd hsame (by simp)
  · injection hmove with hindex
    rw [← hindex, ht] at hu
    injection hu with hu
    rw [← hu] at hdiffers
    exact hmark mark hmarked hdiffers

/-! ## §3. The call. -/

/-- A call to stop that returns leaves nothing rendering. -/
theorem stopped_of_returned {s : Session σ κ} {trace : List Event} {e : Errand}
    (h : Kept s e trace) (hstop : e = .halting none ∨ e = .joining none) {joined : Bool}
    {done : Advance σ κ} (hdone : e.advance? s joined = some done) {answer : Except Fault Unit}
    (hreturned : .returned answer ∈ done.events) : done.session.phase ≠ .started := by
  rcases hstop with rfl | rfl
  · cases Errand.advance_outcome hdone with
    | unstopped _ hidle => exact hidle
    | stopped => exact absurd hreturned (by simp)
  · cases Errand.advance_outcome hdone with
    | halted => exact h.meets.1

omit [Host σ] [Stage κ] in
/-- A crew at rest that does not render has no drain task alive or marked. -/
theorem rest_of_sound {c : Crew σ κ} {trace : List Event} (h : c.Sound trace)
    (hidle : c.errand = .idle) (hstopped : c.session.phase ≠ .started) :
    c.AllThreadsOver ∧ c.session.draining = none := by
  have hmeets := h.kept.meets
  rw [hidle] at hmeets
  obtain ⟨htask, hmark⟩ := hmeets hstopped
  exact ⟨allThreadsOver_of_free h htask, hmark⟩

theorem orderly_advance {c next : Crew σ κ} {trace events : List Event} (h : c.Sound trace)
    (hstep : c.advance = some (next, events)) : Orderly c .advance next events := by
  have hsound := sound_advance h hstep
  obtain ⟨done, hdone, rfl, rfl⟩ := advance_done hstep
  have hshows := Errand.shows_advance? h.kept hdone
  -- What the move shows is what it has done, so each clause is read off the events.
  refine ⟨fun generation hcycled => ?_, fun generation hspawned => ?_, fun hhalted => ?_,
    fun hstop answer hreturned => ?_, fun index _ _ hmove => ?_⟩
  · exact absurd (hshows _ hcycled) id
  · have hthread : done.spawned = some generation := hshows _ hspawned
    cases Errand.taskOutcome_advance? h.kept hdone with
    | same hnone _ =>
        rw [hnone] at hthread
        exact absurd hthread (by simp)
    | ended hnone _ =>
        rw [hnone] at hthread
        exact absurd hthread (by simp)
    | hired _ _ hfree _ => exact allThreadsOver_of_free h hfree
  · obtain ⟨hjoined, hnone, hmark⟩ := hshows _ hhalted
    refine ⟨?_, ?_⟩
    · intro t ht
      simp only [hnone, Option.map_none, Option.toList_none, List.append_nil] at ht
      exact allThreadsOver_of_joined h hjoined t ht
    · exact hmark
  · have hidle : done.errand = .idle := hshows _ hreturned
    have hstopped := stopped_of_returned h.kept hstop hdone hreturned
    exact ⟨hstopped, rest_of_sound hsound hidle hstopped⟩
  · exact absurd hmove (by simp)

/-! ## §4. Every run. -/

omit [Host σ] [Stage κ] in
/-- A call that begins shows at most that it returns at once. -/
theorem orderly_begin {c : Crew σ κ} (hidle : c.errand = .idle) (request : Request) :
    Orderly c (.call request) (c.begin request).1 (c.begin request).2 := by
  refine ⟨fun generation hcycled => ?_, fun generation hspawned => ?_, fun hhalted => ?_,
    fun hstop _ _ => ?_, fun index _ _ hmove => ?_⟩
  · obtain ⟨_, hother⟩ := events_begin hcycled
    exact absurd hother (by simp)
  · obtain ⟨_, hother⟩ := events_begin hspawned
    exact absurd hother (by simp)
  · obtain ⟨_, hother⟩ := events_begin hhalted
    exact absurd hother (by simp)
  · rw [hidle] at hstop
    exact absurd hstop (by simp)
  · exact absurd hmove (by simp)

/-- **Every move from a sound moment is orderly.** -/
theorem orderly_step {c next : Crew σ κ} {trace events : List Event} (h : c.Sound trace)
    {move : Move σ} (hstep : c.step move = some (next, events)) :
    Orderly c move next events := by
  cases step_outcome hstep with
  | call request hidle => exact orderly_begin hidle request
  | advance hstep => exact orderly_advance h hstep
  | drain index t ht hstep => exact orderly_drain ht hstep
  | offer producer chunk => exact orderly_of_answers (by simp) (by simp)
  | produce producer now hstep =>
      refine orderly_of_answers (by simp) ?_
      intro event hevent
      cases hstep with
      | first chunk =>
          obtain ⟨answer, _, heq, _⟩ := events_feed hevent
          exact ⟨_, _, heq⟩
      | second => exact ⟨_, _, List.mem_singleton.mp hevent⟩
  | steady move hmove _ => exact orderly_of_answers hmove (by simp)

/-- A cycle is all that is seen of its move, and runs in what renders by what was seen before. -/
theorem rendering_of_cycled {c next : Crew σ κ} {trace events : List Event} (h : c.Sound trace)
    {move : Move σ} (hstep : c.step move = some (next, events)) {generation : Nat}
    (hcycled : .cycled generation ∈ events) :
    events = [.cycled generation] ∧ rendering trace = some generation := by
  obtain ⟨_, _, index, t, rfl, ht, hsame⟩ := (orderly_step h hstep).cycle generation hcycled
  simp only [step, ht] at hstep
  cases (drain_outcome hstep).2 with
  | steady => exact absurd hcycled (by simp)
  | cycled _ _ r done hcycle =>
      obtain ⟨hgeneration, hstarted, hroute, _⟩ := Session.cycle?_eq_some hcycle
      have hrendering := h.kept.phaseFits.rendering hstarted ⟨r, hroute⟩
      rw [hgeneration, hsame] at hrendering
      exact ⟨by rw [hsame], hrendering⟩
  | leaving => exact absurd hcycled (by simp)
  | gone => exact absurd hcycled (by simp)

/-- **Wherever a run shows a cycle**, its generation renders by all that was seen before. -/
theorem rendering_run (moves : List (Move σ)) :
    ∀ {c last : Crew σ κ} {trace events : List Event},
      c.Sound trace → c.run moves = some (last, events) →
        ∀ before generation after, events = before ++ .cycled generation :: after →
          rendering (trace ++ before) = some generation := by
  induction moves with
  | nil =>
      intro c last trace events _ hrun before generation after hevents
      obtain ⟨-, rfl⟩ := Prod.mk.inj (Option.some.inj hrun)
      exact absurd hevents (by simp)
  | cons move rest ih =>
      intro c last trace events h hrun before generation after hevents
      obtain ⟨next, seen, more, hstep, hrest, rfl⟩ := run_cons hrun
      -- Either the cycle is shown by a later move, or by this one.
      rcases List.append_eq_append_iff.mp hevents with ⟨late, hbefore, hmore⟩ | ⟨early, hseen, hlate⟩
      · rw [hbefore, ← List.append_assoc]
        exact ih (sound_step h hstep) hrest late generation after hmore
      · cases early with
        | nil =>
            rw [List.append_nil] at hseen
            have hlater := ih (sound_step h hstep) hrest [] generation after hlate.symm
            rw [List.append_nil, hseen] at hlater
            exact hlater
        | cons first early =>
            rw [List.cons_append, List.cons.injEq] at hlate
            obtain ⟨rfl, -⟩ := hlate
            have hcycled : .cycled generation ∈ seen := by
              rw [hseen]
              simp
            obtain ⟨hone, hrendering⟩ := rendering_of_cycled h hstep hcycled
            rw [hseen] at hone
            -- A move that shows a cycle shows nothing else, so nothing of it comes before.
            have hempty : before = [] := by
              have hlength := congrArg List.length hone
              simp at hlength
              exact List.eq_nil_of_length_eq_zero (by omega)
            rw [hempty, List.append_nil]
            exact hrendering

/-- **Drain tasks keep order in every run.**  From the creation of a session on, let calls, drain
tasks, producers and the machine move in any order.  Then no cycle follows a stop before a new
generation is begun, and it is that generation's cycle; and every move that can come next is
orderly: cycles belong to the generation that renders, a thread is given only when all drain tasks
are over, a stop ends only when its task is over, and no task takes away the mark of another. -/
theorem created_run_orderly {host : σ} {source : Format} {selected : Option String}
    {config : SessionConfig} {s : Session σ κ}
    (hcreate : Session.create host source selected config = .ok s) {moves : List (Move σ)}
    {c : Crew σ κ} {trace : List Event} (hrun : Crew.run { session := s } moves = some (c, trace)) :
    (∀ before since after generation,
        trace = before ++ .stopped :: (since ++ .cycled generation :: after) →
          .begun generation ∈ since)
      ∧ ∀ move next events, c.step move = some (next, events) → Orderly c move next events := by
  have hsound : c.Sound ([] ++ trace) := sound_run moves (sound_create hcreate) hrun
  refine ⟨fun before since after generation htrace => ?_, fun move next events hstep =>
    orderly_step hsound hstep⟩
  have hsplit : trace = (before ++ .stopped :: since) ++ .cycled generation :: after := by
    rw [htrace, List.append_assoc, List.cons_append]
  have hrendering := rendering_run moves (sound_create hcreate) hrun _ _ _ hsplit
  rw [List.nil_append] at hrendering
  exact begun_of_rendering hrendering

/-- The drain task of the first start waits for the gate while a stop takes it; it finds that it has
to leave, and is joined before the second start gives a thread to its successor. -/
def restart : List (Move DeviceBank) :=
  [.call .openRoute, .advance, .call .start, .advance, .advance, .advance, .drain 0, .drain 0,
    .call .stop, .advance, .drain 0, .drain 0, .advance, .drain 0, .advance,
    .call .start, .advance, .advance, .advance, .drain 1, .drain 1, .drain 1]

/-- A restart on a device in memory is orderly, and its only cycle is the second task's. -/
theorem created_run_orderly_restart :
    ∃ (s : Session DeviceBank (LinearResampler Double Single))
      (c : Crew DeviceBank (LinearResampler Double Single)) (trace : List Event),
      Session.create Session.halfBrokenBank (Format.pcm 8000 16 1) (some "left") {} = .ok s
        ∧ Crew.run { session := s } restart = some (c, trace)
        ∧ trace = [.returned (.ok ()), .begun 1, .spawned 1, .returned (.ok ()), .stopped, .left 1,
          .halted, .returned (.ok ()), .begun 3, .spawned 3, .returned (.ok ()), .cycled 3]
        ∧ ∀ move next events, c.step move = some (next, events) → Orderly c move next events :=
  ⟨_, _, _, rfl, rfl, rfl,
    (created_run_orderly
      (show Session.create Session.halfBrokenBank (Format.pcm 8000 16 1) (some "left") {} = .ok _
        from rfl)
      (show Crew.run _ restart = some (_, _) from rfl)).2⟩

end PcmRender.Crew
