/-
  PcmRender.Proofs.Retrying — **a start that failed leaves nothing for the next one.**

  A start makes its route ready before it knows whether the stream will run and whether there is a
  thread: silence goes in front of what is queued, and the stage forgets.  If it fails the route stays
  so.  But what is ready is made ready by the next start as it is:

      rewound (rewound r)   =   rewound r

  so a start that is made again, however often it has failed before, begins on the same route as the
  first one would have.  Whether it succeeds is the machine's answer alone (`attempt`), and what it
  leaves is known but for the count of generations (`start_opened`).

  Main definitions:
    * `Session.attempt` — what the machine answers to a start,
    * `Session.FailedStarts` — starts that fail, one after the other,
    * `Session.AsIfFirst` — a start that is made later comes to the same.

  Main statement:
    * `failed_starts_are_forgotten` — for every session that is open on a device.
-/
import PcmRender.Proofs.Replacing
import PcmRender.Proofs.Room

namespace PcmRender.Session

variable {σ κ : Type}

/-! ## §1. Routes that are ready. -/

/-- What is ready stays as it is, if the stage has nothing more to forget. -/
theorem rewound_rewound [Stage κ]
    (hforget : ∀ stage : κ, Stage.reset (Stage.reset stage) = Stage.reset stage)
    (r : DeviceRoute κ) : rewound (rewound r) = rewound r := by
  have hring : r.ring.shiftToTail.shiftToTail = r.ring.shiftToTail :=
    Ring.shiftToTail_full r.ring.free_shiftToTail
  have hstage : (r.stage.map Stage.reset).map Stage.reset = r.stage.map Stage.reset := by
    cases r.stage with
    | none => rfl
    | some stage => exact congrArg some (hforget stage)
  unfold rewound
  dsimp only
  rw [hring, hstage]

/-! ## §2. One start. -/

/-- What the machine answers to a start on a stream, and the machine after it: the stream has to run, or
to run already, and there has to be a thread. -/
def attempt [Host σ] (host : σ) (stream : Endpoint) : Except Fault Unit × σ :=
  match Host.start host stream with
  | (.ok (), host) => hire host
  | (.error .alreadyStarted, host) => hire host
  | (.error cause, host) => (.error (.error cause), host)
where
  hire (host : σ) : Except Fault Unit × σ :=
    match Host.spawn host with
    | .ok () => (.ok (), host)
    | .error reason => (.error (.error (.io reason)), (Host.stop host stream).2)

/-- The session over a route that was made ready, and which renders in a generation or does not. -/
def readied [Stage κ] (s : Session σ κ) (r : DeviceRoute κ) (host : σ) (log : List LogLine)
    (generation : Nat) (renders : Bool) : Session σ κ :=
  { s with
    host, log, generation
    route := .device (rewound r)
    phase := bif renders then .started else .opened
    draining := bif renders then some generation else none
    task := bif renders then some { generation } else none }

variable [Host σ] [Stage κ] {s t : Session σ κ} {r : DeviceRoute κ}

/-- A generation that was begun renders if there is a thread, and else the start is undone. -/
theorem hire_readied (hphase : s.phase = .started) (hroute : s.route = .device (rewound r))
    (htask : s.task = none) (hmark : s.draining = some s.generation) :
    ∃ log, (match Host.spawn s.host with
      | .ok () => (.ok (), s.spawned s.generation)
      | .error reason =>
        (.error (.error (.io reason)), s.spawnFailedSection s.generation reason))
        = ((attempt.hire r.endpoint s.host).1, s.readied r (attempt.hire r.endpoint s.host).2 log
            s.generation (attempt.hire r.endpoint s.host).1.isOk) := by
  unfold attempt.hire
  cases Host.spawn s.host with
  | ok _ =>
      refine ⟨(s.spawned s.generation).log, ?_⟩
      show (_, s.spawned s.generation) = (_, { s with
        phase := .started, route := .device (rewound r), draining := some s.generation
        task := some { generation := s.generation }, log := (s.spawned s.generation).log })
      rw [← hphase, ← hroute, ← hmark]
      rfl
  | error reason =>
      obtain ⟨log, hlog⟩ := spawnRefused_eq s s.generation reason
      rw [if_pos hmark] at hlog
      refine ⟨log, ?_⟩
      show (_, (s.spawnRefused s.generation reason).undoStart) = (_, { s with
        host := (Host.stop s.host r.endpoint).2, phase := .opened, route := .device (rewound r)
        draining := none, task := none, log })
      unfold undoStart
      rw [hlog, ← htask]
      dsimp only
      rw [hroute]
      rfl

/-- The stream of a device that is started runs, or the machine says why not. -/
theorem startDevice_attempt (s : Session σ κ) (r : DeviceRoute κ) : ∃ host log,
    (attempt s.host r.endpoint = attempt.hire r.endpoint host
      ∧ s.startDevice r = (.ok (some (s.generation + 1)),
        ({ s.withRoute (rewound r) with host, log } : Session σ κ).beginRendering))
    ∨ ∃ cause, attempt s.host r.endpoint = (.error (.error cause), host)
      ∧ s.startDevice r = (.error (.error cause), { s.withRoute (rewound r) with host, log }) := by
  have hstream : Host.start (s.withRoute (rewound r)).host (rewound r).endpoint
      = Host.start s.host r.endpoint := rfl
  unfold attempt startDevice
  dsimp only
  rw [hstream]
  generalize Host.start s.host r.endpoint = answered
  obtain ⟨answer, host⟩ := answered
  cases answer with
  | ok _ => exact ⟨host, _, .inl ⟨rfl, rfl⟩⟩
  | error cause =>
      cases cause with
      | alreadyStarted => exact ⟨host, _, .inl ⟨rfl, rfl⟩⟩
      | _ => exact ⟨host, _, .inr ⟨_, rfl, rfl⟩⟩

/-- **What a start comes to is the answer of the machine.**  It leaves the route ready either way. -/
theorem start_opened (hopened : s.phase = .opened) (hroute : s.route = .device r) (hfree : s.Free) :
    ∃ log generation, s.start = ((attempt s.host r.endpoint).1, s.readied r
      (attempt s.host r.endpoint).2 log generation (attempt s.host r.endpoint).1.isOk) := by
  obtain ⟨htask, hmark⟩ := hfree
  unfold start startSection
  rw [if_neg (by simp [hopened]), hroute]
  dsimp only
  obtain ⟨host, log, ⟨hattempt, hdevice⟩ | ⟨cause, hattempt, hdevice⟩⟩ := startDevice_attempt s r
  · rw [hattempt, hdevice]
    obtain ⟨log', hhire⟩ := hire_readied
      (s := ({ s.withRoute (rewound r) with host, log } : Session σ κ).beginRendering.forgetTask)
      rfl rfl rfl rfl
    exact ⟨log', s.generation + 1, hhire⟩
  · rw [hattempt, hdevice]
    refine ⟨log, s.generation, ?_⟩
    show (_, ({ s.withRoute (rewound r) with host, log } : Session σ κ)) = (_, { s with
      host, phase := .opened, route := .device (rewound r), draining := none, task := none, log })
    rw [← hopened, ← hmark, ← htask]
    rfl

/-! ## §3. Many starts. -/

/-- The session on a machine in another state. -/
def onHost (s : Session σ κ) (host : σ) : Session σ κ := { s with host }

/-- Starts of the session `s` that have failed, one after the other.  Nothing else happens to the
session; what happens on the machine before each of them is open. -/
inductive FailedStarts (s : Session σ κ) : Session σ κ → Prop
  /-- There was none. -/
  | none : FailedStarts s s
  /-- One more has failed. -/
  | again {t u : Session σ κ} (change : σ → σ) {fault : Fault} (before : FailedStarts s t)
      (failed : (t.onHost (change t.host)).start = (.error fault, u)) : FailedStarts s u

/-- The session `s` before a start, or after some that have failed: its route may be ready already. -/
def Left (s : Session σ κ) (r : DeviceRoute κ) (t : Session σ κ) : Prop :=
  t = s ∨ ∃ host log generation, t = s.readied r host log generation false

section Again

variable (hforget : ∀ stage : κ, Stage.reset (Stage.reset stage) = Stage.reset stage)
  (hopened : s.phase = .opened) (hroute : s.route = .device r) (hfree : s.Free)

include hforget hopened hroute hfree

/-- **A start comes to the same, whether the route is ready already or not.** -/
theorem Left.start (h : s.Left r t) (now : σ) :
    ∃ log generation, (t.onHost now).start = ((attempt now r.endpoint).1, s.readied r
      (attempt now r.endpoint).2 log generation (attempt now r.endpoint).1.isOk) := by
  rcases h with rfl | ⟨host, log, generation, rfl⟩
  · exact start_opened (s := t.onHost now) hopened hroute hfree
  · obtain ⟨log', generation', hstart⟩ :=
      start_opened (s := (s.readied r host log generation false).onHost now) rfl rfl ⟨rfl, rfl⟩
    refine ⟨log', generation', hstart.trans ?_⟩
    unfold readied
    rw [rewound_rewound hforget]
    rfl

/-- **However often a start has failed**, no more is left than that the route was made ready.  The
induction is on the starts. -/
theorem left_of_failed (h : FailedStarts s t) : s.Left r t := by
  induction h with
  | none => exact .inl rfl
  | @again t u change fault _ hfailed ih =>
      obtain ⟨log, generation, hstart⟩ := ih.start hforget hopened hroute hfree (change t.host)
      obtain ⟨hanswer, rfl⟩ := Prod.mk.inj (hstart.symm.trans hfailed)
      rw [hanswer]
      exact .inr ⟨_, _, _, rfl⟩

end Again

/-! ## §4. Every session that is open on a device. -/

/-- A start of `t` comes to the same as one of `s`. -/
structure AsIfFirst (s t : Session σ κ) : Prop where
  /-- The session is open, -/
  opened : t.phase = .opened
  /-- and no drain task is known or marked. -/
  free : t.Free
  /-- On the same machine a start is answered the same, and leaves the same machine. -/
  answers : ∀ now, (t.onHost now).start.1 = (s.onHost now).start.1
    ∧ (t.onHost now).start.2.host = (s.onHost now).start.2.host
  /-- On any machines on which they succeed the session is the same afterwards, with its route and its
  watchdog, up to the count of generations. -/
  renders : ∀ now other x y, (t.onHost now).start = (.ok (), x) →
    (s.onHost other).start = (.ok (), y) →
    x.phase = .started ∧ x = { y with
      host := x.host, log := x.log, generation := x.generation
      draining := some x.generation, task := some { generation := x.generation } }

/-- **A start that is made again comes to the same.** -/
theorem asIfFirst_of_failed
    (hforget : ∀ stage : κ, Stage.reset (Stage.reset stage) = Stage.reset stage)
    (hopened : s.phase = .opened) (hroute : s.route = .device r) (hfree : s.Free)
    (h : FailedStarts s t) : AsIfFirst s t := by
  have hleft := left_of_failed hforget hopened hroute hfree h
  have hfirst := Left.start hforget hopened hroute hfree (.inl rfl : s.Left r s)
  have hagain := hleft.start hforget hopened hroute hfree
  refine ⟨?_, ?_, fun now => ?_, fun now other x y hx hy => ?_⟩
  · rcases hleft with rfl | ⟨_, _, _, rfl⟩
    · exact hopened
    · rfl
  · rcases hleft with rfl | ⟨_, _, _, rfl⟩
    · exact hfree
    · exact ⟨rfl, rfl⟩
  · obtain ⟨_, _, hs⟩ := hfirst now
    obtain ⟨_, _, ht⟩ := hagain now
    rw [hs, ht]
    exact ⟨rfl, rfl⟩
  · obtain ⟨_, _, hs⟩ := hfirst other
    obtain ⟨_, _, ht⟩ := hagain now
    obtain ⟨hok, rfl⟩ := Prod.mk.inj (ht.symm.trans hx)
    obtain ⟨hok', rfl⟩ := Prod.mk.inj (hs.symm.trans hy)
    rw [hok, hok']
    exact ⟨rfl, rfl⟩

/-- **Failed starts are invisible to a later one that succeeds.**  Take a session that is open on a
device: after any calls from its creation on, or, where calls, drain tasks and producers move at the
same time, at any moment at which no call is under way.  Its ring and its stage may hold anything, and
its watchdog may be marked.

However often it is then started in vain, because its stream does not run or because there is no thread,
the session is open and without a drain task.  The next start is answered as the first one would be; and
if it succeeds, all of the session is as if it had been the first, up to the machine, the log and the
count of generations. -/
theorem failed_starts_are_forgotten {τ α : Type} [Amplitude α] [ReadHead τ α] {host : σ}
    {source : Format} {selected : Option String} {config : SessionConfig}
    {s : Session σ (LinearResampler τ α)} (hcreate : create host source selected config = .ok s) :
    (∀ calls r t, (s.run calls).phase = .opened → (s.run calls).route = .device r →
      FailedStarts (s.run calls) t → AsIfFirst (s.run calls) t)
    ∧ ∀ moves (c : Crew σ (LinearResampler τ α)) trace r t,
      Crew.run { session := s } moves = some (c, trace) → c.errand = .idle →
      c.session.phase = .opened → c.session.route = .device r →
      FailedStarts c.session t → c.AllThreadsOver ∧ AsIfFirst c.session t := by
  have hforget : ∀ stage : LinearResampler τ α, Stage.reset (Stage.reset stage) = Stage.reset stage :=
    fun _ => rfl
  refine ⟨fun calls r t hopened hroute hfailed => ?_,
    fun moves c trace r t hrun hidle hopened hroute hfailed => ?_⟩
  · have hstanding := betweenCalls_run calls (coherent_create hcreate) (betweenCalls_create hcreate)
    have hfree := hstanding.freeUnlessStarted (by simp [hopened])
    exact asIfFirst_of_failed hforget hopened hroute hfree hfailed
  · have hfree := (Crew.betweenCalls_idle hcreate hrun hidle).freeUnlessStarted (by simp [hopened])
    have hsound := Crew.sound_run moves (Crew.sound_create hcreate) hrun
    exact ⟨Crew.allThreadsOver_of_free hsound hfree.1,
      asIfFirst_of_failed hforget hopened hroute hfree hfailed⟩

/-- A start after a change on the machine. -/
def startAfter (change : σ → σ) (s : Session σ κ) : Except Fault Unit × Session σ κ :=
  (s.onHost (change s.host)).start

/-- The faster speaker has rendered and was stopped, with a chunk in the ring and a frame in the
stage. -/
def stoppedSpeaker : Session DeviceBank (LinearResampler ℚ ℚ) :=
  fasterSpeaker.run [.openRoute, .start, .turn 1, .feed [1, 2, 3, 4] ⟨0, 0⟩, .stop]

/-- The stream of the speaker does not run. -/
def muted (b : DeviceBank) : DeviceBank := b.setFault "speaker" .start true

/-- It does, and there is no thread. -/
def crowded (b : DeviceBank) : DeviceBank :=
  { b.setFault "speaker" .start false with threads := false }

/-- The speaker was started in vain twice. -/
def vainSpeaker : Session DeviceBank (LinearResampler ℚ ℚ) :=
  (startAfter crowded (startAfter muted stoppedSpeaker).2).2

/-- Then there is a thread, and the session renders as if for the first time, but for one generation. -/
theorem failed_starts_are_forgotten_speaker :
    ∃ r x y, create fasterSpeaker.host (Format.pcm 8000 16 1) (some "speaker") {} = .ok fasterSpeaker
      ∧ stoppedSpeaker.phase = .opened ∧ stoppedSpeaker.route = .device r
      ∧ FailedStarts stoppedSpeaker vainSpeaker ∧ vainSpeaker.phase = .opened ∧ vainSpeaker.Free
      ∧ (vainSpeaker.onHost { vainSpeaker.host with threads := true }).start = (.ok (), x)
      ∧ stoppedSpeaker.start = (.ok (), y) ∧ x.generation = 4 ∧ y.generation = 3
      ∧ x.route = y.route ∧ x.buffered = 12 := by
  have hcreate : create fasterSpeaker.host (Format.pcm 8000 16 1) (some "speaker") {}
      = .ok fasterSpeaker := rfl
  have hopened : stoppedSpeaker.phase = .opened := by decide +kernel
  obtain ⟨r, hdevice⟩ : ∃ r, stoppedSpeaker.deviceRoute? = some r :=
    Option.isSome_iff_exists.mp (by decide +kernel)
  have hroute := deviceRoute?_eq_some hdevice
  have hmuted : (startAfter muted stoppedSpeaker).1
      = .error (.error (.device "speaker" "start fault")) := by decide +kernel
  have hcrowded : (startAfter crowded (startAfter muted stoppedSpeaker).2).1
      = .error (.error (.io DeviceBank.noThread)) := by decide +kernel
  have hvain : FailedStarts stoppedSpeaker vainSpeaker :=
    .again crowded (.again muted .none (Prod.ext hmuted rfl)) (Prod.ext hcrowded rfl)
  have hagain : (vainSpeaker.onHost { vainSpeaker.host with threads := true }).start.1 = .ok () := by
    decide +kernel
  have hfirst : stoppedSpeaker.start.1 = .ok () := by decide +kernel
  have hsame : AsIfFirst stoppedSpeaker vainSpeaker := (failed_starts_are_forgotten hcreate).1
    [.openRoute, .start, .turn 1, .feed [1, 2, 3, 4] ⟨0, 0⟩, .stop] r vainSpeaker hopened hroute hvain
  obtain ⟨_, hequal⟩ := hsame.renders { vainSpeaker.host with threads := true } stoppedSpeaker.host _ _
    (Prod.ext hagain rfl) (Prod.ext hfirst rfl)
  exact ⟨r, _, _, hcreate, hopened, hroute, hvain, hsame.opened, hsame.free, Prod.ext hagain rfl,
    Prod.ext hfirst rfl, by decide +kernel, by decide +kernel, (congrArg Session.route hequal).trans rfl,
    by decide +kernel⟩

end PcmRender.Session
