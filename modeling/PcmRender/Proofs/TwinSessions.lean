/-
  PcmRender.Proofs.TwinSessions — **two sessions on twin routes.**

  Two sessions with twin routes (Proofs/TwinRoutes) go through the same sections: what a producer is
  told, what a cycle takes out and what a start comes to is the same for both, so they keep the same
  books and stay abreast of each other.

  Main definitions:
    * `Session.Abreast` — two sessions that agree but for their streams,
    * `Session.Advance` — what a section or a run does to both.

  Main statements:
    * `Session.abreast_passing`, `Session.abreast_flow` — one section, and any sections.
-/
import PcmRender.Proofs.Framing
import PcmRender.Proofs.TwinRoutes

namespace PcmRender

/-! ## §1. Sections. -/

namespace Session

open DeviceRoute (Twins Paired)

variable {σ ρ τ α : Type} {R : σ → ρ → Prop} {received : σ → List UInt8} {heard : ρ → List UInt8}
  {s t : Session σ (LinearResampler τ α)} {p u : Session ρ (LinearResampler τ α)}
  {r twin : DeviceRoute (LinearResampler τ α)}

/-- A session on a route, and one on its twin that has come as far. -/
structure Abreast (R : σ → ρ → Prop) (s : Session σ (LinearResampler τ α))
    (p : Session ρ (LinearResampler τ α)) (r twin : DeviceRoute (LinearResampler τ α)) : Prop where
  hosts : R s.host p.host
  route : s.route = .device r
  other : p.route = .device twin
  twins : Twins r twin
  phase : p.phase = s.phase
  generation : p.generation = s.generation
  switching : p.switching = s.switching
  gain : p.gain = s.gain

/-- What sections with the books `l` do to both of them. -/
structure Advance (α : Type) [Amplitude α] (R : σ → ρ → Prop) (received : σ → List UInt8)
    (heard : ρ → List UInt8) (r twin : DeviceRoute (LinearResampler τ α))
    (s : Session σ (LinearResampler τ α)) (p : Session ρ (LinearResampler τ α))
    (t : Session σ (LinearResampler τ α)) (u : Session ρ (LinearResampler τ α)) (l : Ledger) :
    Prop where
  /-- They are abreast again, on the same routes. -/
  abreast : ∃ later last, Abreast R t u later last ∧ r.Continues later ∧ twin.Continues last
  /-- Whole frames were popped. -/
  whole : r.source.align ∣ l.popped.length
  /-- And they have arrived, scaled, on one side as they were and on the other transcoded. -/
  arrived : ∃ image, l.scaled? r.source = some image
    ∧ received t.host = received s.host ++ Format.transcode α r.source r.converted image
    ∧ heard u.host = heard p.host ++ image

variable [Amplitude α]

/-- Where nothing moves, only being abreast is to be shown. -/
theorem Abreast.still {later last : DeviceRoute (LinearResampler τ α)} (h : Abreast R t u later last)
    (hr : r.Continues later) (ht : twin.Continues last) (hreceived : received t.host = received s.host)
    (hheard : heard u.host = heard p.host) : Advance α R received heard r twin s p t u {} where
  abreast := ⟨later, last, h, hr, ht⟩
  whole := Nat.dvd_zero _
  arrived := by
    refine ⟨[], rfl, ?_, ?_⟩
    · rw [Format.transcode_nil, List.append_nil, hreceived]
    · rw [List.append_nil, hheard]

/-- Sections that touch neither the route nor the machine. -/
theorem Abreast.frame (h : Abreast R s p r twin) (hroute : t.route = s.route) (hlast : u.route = p.route)
    (hhost : t.host = s.host) (hother : u.host = p.host) (hphase : u.phase = t.phase)
    (hgeneration : u.generation = t.generation) (hswitching : u.switching = t.switching)
    (hgain : u.gain = t.gain) : Advance α R received heard r twin s p t u {} := by
  have habreast : Abreast R t u r twin :=
    ⟨by rw [hhost, hother]; exact h.hosts, hroute.trans h.route, hlast.trans h.other, h.twins,
      hphase, hgeneration, hswitching, hgain⟩
  exact habreast.still (DeviceRoute.Continues.refl r) (DeviceRoute.Continues.refl twin)
    (by rw [hhost]) (by rw [hother])

/-- **A feed is answered alike**, and puts the same bytes into both rings. -/
theorem abreast_feed (h : Abreast R s p r twin) (chunk : List UInt8) (now : Instant) :
    (p.feedSection chunk now).1.taken chunk = (s.feedSection chunk now).1.taken chunk
      ∧ Advance α R received heard r twin s p (s.feedSection chunk now).2 (p.feedSection chunk now).2
        { accepted := (s.feedSection chunk now).1.taken chunk } := by
  obtain ⟨stage, hthrough, hinput, houtput⟩ := h.twins.stage
  have hidle : Advance α R received heard r twin s p s p {} :=
    h.frame rfl rfl rfl rfl h.phase h.generation h.switching h.gain
  unfold feedSection
  by_cases hempty : chunk.isEmpty = true
  · rw [if_pos hempty, if_pos hempty]
    obtain rfl : chunk = [] := List.isEmpty_iff.mp hempty
    exact ⟨rfl, hidle⟩
  rw [if_neg hempty, if_neg hempty, h.switching]
  by_cases hswitch : s.switching = true
  · rw [if_pos hswitch, if_pos hswitch]
    exact ⟨rfl, hidle⟩
  rw [if_neg hswitch, if_neg hswitch, h.route, h.other]
  dsimp only
  rw [h.phase]
  by_cases hstarted : s.phase = .started
  · rw [if_pos hstarted, if_pos hstarted]
    have hring := r.continues_ring (r.ring.append chunk).2 (Ring.capacity_append r.ring chunk)
    have hcopy := twin.continues_ring (r.ring.append chunk).2
      (by rw [Ring.capacity_append, h.twins.ring])
    unfold feedRoute
    rw [h.twins.ring]
    dsimp only
    by_cases hcopied : 0 < (r.ring.append chunk).1
    · rw [if_pos hcopied, if_pos hcopied]
      have habreast : Abreast R (s.clearWatchdog { r with ring := (r.ring.append chunk).2 })
          (p.clearWatchdog { twin with ring := (r.ring.append chunk).2 }) _ _ :=
        { hosts := h.hosts
          route := rfl
          other := rfl
          twins := h.twins.of_continues (hring.trans (DeviceRoute.continues_clear _))
            (hcopy.trans (DeviceRoute.continues_clear _)) rfl rfl ⟨stage, hthrough, hinput, houtput⟩
          phase := h.phase
          generation := h.generation
          switching := h.switching
          gain := h.gain }
      have hmoved : Advance α R received heard r twin s p _ _ {} :=
        habreast.still (hring.trans (DeviceRoute.continues_clear _))
          (hcopy.trans (DeviceRoute.continues_clear _)) rfl rfl
      exact ⟨rfl, hmoved.abreast, hmoved.whole, hmoved.arrived⟩
    · rw [if_neg hcopied, if_neg hcopied]
      refine ⟨rfl, Abreast.still ?_ (r.continues_mark now.nanos) (twin.continues_mark now.nanos) rfl rfl⟩
      exact
        { hosts := h.hosts
          route := rfl
          other := rfl
          twins := h.twins.of_continues (r.continues_mark now.nanos) (twin.continues_mark now.nanos)
            h.twins.ring (by show some _ = some _; rw [h.twins.onset])
            ⟨stage, hthrough, hinput, houtput⟩
          phase := h.phase
          generation := h.generation
          switching := h.switching
          gain := h.gain }
  · rw [if_neg hstarted, if_neg hstarted]
    exact ⟨rfl, hidle⟩

/-- What stopping the stream of a route leaves. -/
theorem stopStream_frame {σ κ : Type} [Host σ] {s : Session σ κ} {r : DeviceRoute κ}
    (h : s.route = .device r) : s.stopStream.host = (Host.stop s.host r.endpoint).2
      ∧ s.stopStream.route = .device r.clear ∧ s.stopStream.generation = s.generation
      ∧ s.stopStream.switching = s.switching ∧ s.stopStream.gain = s.gain := by
  unfold stopStream
  rw [h]
  dsimp only
  split
  next host hasked =>
    rw [hasked]
    exact ⟨rfl, rfl, rfl, rfl, rfl⟩
  next host hasked =>
    rw [hasked]
    exact ⟨rfl, rfl, rfl, rfl, rfl⟩

/-- What a wait for the stream of a route leaves. -/
theorem pause_frame {σ κ : Type} [Host σ] {s : Session σ κ} {r : DeviceRoute κ}
    (h : s.route = .device r) :
    s.pause.2 = { s with host := (Host.waitReady s.host r.endpoint).2 } := by
  unfold pause
  rw [h]
  dsimp only
  split
  next host hasked => rw [hasked]
  next host hasked => rw [hasked]

/-- Whether a stream runs after it has answered a start. -/
def runs : Except RenderError Unit → Bool
  | .ok () => true
  | .error .alreadyStarted => true
  | .error _ => false

/-- **A start depends on what the stream answers**, and on nothing else outside of the session. -/
theorem startDevice_answered {σ κ : Type} [Host σ] [Stage κ] (s : Session σ κ) (r : DeviceRoute κ)
    {answer : Except RenderError Unit} {host : σ}
    (hasked : Host.start s.host r.endpoint = (answer, host)) :
    ∃ log, (s.startDevice r).2
      = if runs answer then
          ({ s.withRoute (rewound r) with host, log } : Session σ κ).beginRendering
        else { s.withRoute (rewound r) with host, log } := by
  unfold startDevice
  dsimp only
  rw [show Host.start (s.withRoute (rewound r)).host (rewound r).endpoint = _ from hasked]
  cases answer with
  | ok done => exact ⟨_, rfl⟩
  | error cause => cases cause <;> exact ⟨_, rfl⟩

variable [Host σ] [Host ρ]

/-- **A stop finds both routes as it left them.** -/
theorem abreast_stop (h : Abreast R s p r twin)
    (hp : Paired α R received heard r twin) :
    Advance α R received heard r twin s p s.stopSection.2 p.stopSection.2 {} := by
  obtain ⟨hs, hr, hgen, hswitch, hgain⟩ := stopStream_frame h.route
  obtain ⟨hother, ht, hgen', hswitch', hgain'⟩ := stopStream_frame h.other
  unfold stopSection
  rw [h.phase]
  by_cases hstarted : s.phase = .started
  · rw [if_pos hstarted, if_pos hstarted]
    refine Abreast.still ?_ r.continues_clear twin.continues_clear ?_ ?_
    · exact
        { hosts := by
            show R s.stopStream.host p.stopStream.host
            rw [hs, hother]
            exact hp.mirrors.stop h.hosts
          route := hr
          other := ht
          twins := h.twins.of_continues r.continues_clear twin.continues_clear h.twins.ring rfl
            h.twins.stage
          phase := rfl
          generation := by
            show p.stopStream.generation + 1 = s.stopStream.generation + 1
            rw [hgen, hgen', h.generation]
          switching := hswitch'.trans (h.switching.trans hswitch.symm)
          gain := hgain'.trans (h.gain.trans hgain.symm) }
    · show received s.stopStream.host = _
      rw [hs, hp.keeps.stop]
    · show heard p.stopStream.host = _
      rw [hother, hp.hears.stop]
  · rw [if_neg hstarted, if_neg hstarted]
    exact h.frame rfl rfl rfl rfl h.phase h.generation h.switching h.gain

/-- Nothing moves while drain tasks wait. -/
theorem abreast_pause (h : Abreast R s p r twin)
    (hp : Paired α R received heard r twin) :
    Advance α R received heard r twin s p s.pause.2 p.pause.2 {} := by
  rw [pause_frame h.route, pause_frame h.other]
  refine Abreast.still ?_ (DeviceRoute.Continues.refl r) (DeviceRoute.Continues.refl twin)
    (hp.keeps.waitReady _) (hp.hears.waitReady _)
  exact
    { hosts := hp.mirrors.waitReady h.hosts
      route := h.route
      other := h.other
      twins := h.twins
      phase := h.phase
      generation := h.generation
      switching := h.switching
      gain := h.gain }

/-- Nor when a start is undone. -/
theorem abreast_undo (h : Abreast R s p r twin)
    (hp : Paired α R received heard r twin) :
    Advance α R received heard r twin s p s.undoStart p.undoStart {} := by
  unfold undoStart
  rw [h.route, h.other]
  refine Abreast.still ?_ (DeviceRoute.Continues.refl r) (DeviceRoute.Continues.refl twin)
    (hp.keeps.stop _) (hp.hears.stop _)
  exact
    { hosts := hp.mirrors.stop h.hosts
      route := rfl
      other := rfl
      twins := h.twins
      phase := rfl
      generation := h.generation
      switching := h.switching
      gain := h.gain }

variable [ReadHead τ α]

/-- **A start puts the same silence into both rings**, and a reset stage converts what it did. -/
theorem abreast_start (h : Abreast R s p r twin) (hp : Paired α R received heard r twin) :
    Advance α R received heard r twin s p s.startSection.2 p.startSection.2 {} := by
  obtain ⟨answer, a', b', hstream, hother, hR'⟩ := hp.mirrors.start h.hosts
  have hreceived := hp.keeps.start s.host
  have hheard := hp.hears.start p.host
  rw [hstream] at hreceived
  rw [hother] at hheard
  obtain ⟨log, hstarted⟩ := s.startDevice_answered r hstream
  obtain ⟨last, hlast⟩ := p.startDevice_answered twin hother
  obtain ⟨stage, hthrough, hinput, houtput⟩ := h.twins.stage
  have hrewound : Twins (rewound r) (rewound twin) :=
    h.twins.of_continues (continues_rewound r) (continues_rewound twin)
      (congrArg Ring.shiftToTail h.twins.ring) h.twins.onset
      ⟨stage.reset, by show r.stage.map Stage.reset = _; rw [hthrough]; rfl, hinput, houtput⟩
  unfold startSection
  rw [h.phase]
  by_cases hrunning : s.phase = .started
  · rw [if_pos hrunning, if_pos hrunning]
    exact h.frame rfl rfl rfl rfl h.phase h.generation h.switching h.gain
  rw [if_neg hrunning, if_neg hrunning, h.route, h.other]
  dsimp only
  rw [hstarted, hlast]
  cases hruns : runs answer with
  | true =>
      refine Abreast.still ?_ (continues_rewound r) (continues_rewound twin) hreceived hheard
      exact
        { hosts := hR'
          route := rfl
          other := rfl
          twins := hrewound
          phase := rfl
          generation := congrArg (· + 1) h.generation
          switching := h.switching
          gain := h.gain }
  | false =>
      refine Abreast.still ?_ (continues_rewound r) (continues_rewound twin) hreceived hheard
      exact
        { hosts := hR'
          route := rfl
          other := rfl
          twins := hrewound
          phase := h.phase
          generation := h.generation
          switching := h.switching
          gain := h.gain }

/-- **A turn of a drain task moves the same bytes out of both rings.** -/
theorem abreast_turn (h : Abreast R s p r twin) (hp : Paired α R received heard r twin)
    (generation : Nat) : p.entry (.turn generation) = s.entry (.turn generation)
      ∧ Advance α R received heard r twin s p (s.drainTurn generation).2 (p.drainTurn generation).2
        (s.entry (.turn generation)) := by
  have hcurrent : p.isCurrent generation = s.isCurrent generation := by
    unfold isCurrent
    rw [h.generation, h.phase]
  have htogether := h.twins.cycle hp h.hosts s.gain
  have hcycle : s.cycle? generation
      = if s.isCurrent generation then some (r, r.cycle s.host s.gain) else none := by
    unfold cycle? deviceRoute?
    rw [h.route]
    rfl
  have hother : p.cycle? generation
      = if s.isCurrent generation then some (twin, twin.cycle p.host s.gain) else none := by
    unfold cycle? deviceRoute?
    rw [h.other, hcurrent, h.gain]
    rfl
  unfold drainTurn
  dsimp only [entry]
  rw [hcycle, hother]
  have hcont := (DeviceRoute.accounts_cycle s.host r s.gain).continues
  have hlast := (DeviceRoute.accounts_cycle p.host twin s.gain).continues
  generalize r.cycle s.host s.gain = done at htogether hcont
  generalize twin.cycle p.host s.gain = copy at htogether hlast
  by_cases hserves : s.isCurrent generation = true
  · rw [if_pos hserves, if_pos hserves]
    obtain ⟨image, hscaled, hreceived, hheard⟩ := htogether.arrived
    -- However the turn ends, it leaves the route and the machine as its cycle has left them.
    have hafter : ∀ (t : Session σ (LinearResampler τ α)) (u : Session ρ (LinearResampler τ α)),
        t.route = .device done.route → u.route = .device copy.route →
        t.host = done.host → u.host = copy.host → u.phase = t.phase →
        u.generation = t.generation → u.switching = t.switching → u.gain = t.gain →
        Advance α R received heard r twin s p t u { movements := [⟨s.gain, done.popped⟩] } := by
      intro t u ht hu hhost hhost' hphase hgeneration hswitching hgain
      refine ⟨⟨done.route, copy.route, ?_, hcont, hlast⟩, ?_, image, ?_, ?_, ?_⟩
      · exact ⟨by rw [hhost, hhost']; exact htogether.hosts, ht, hu, htogether.routes, hphase,
          hgeneration, hswitching, hgain⟩
      · show r.source.align ∣ (done.popped ++ []).length
        rw [List.append_nil]
        exact htogether.whole
      · have hone : Movement.scaled? r.source ⟨s.gain, done.popped⟩ = some image := hscaled
        simp [Ledger.scaled?, hone]
      · rw [hhost, hreceived]
      · rw [hhost', hheard]
    dsimp only
    refine ⟨by rw [htogether.popped, h.gain], ?_⟩
    rw [htogether.outcome]
    cases done.outcome with
    | ok removed =>
        dsimp only
        unfold drained
        by_cases hmoved : 0 < removed
        · rw [if_pos hmoved, if_pos hmoved]
          exact hafter _ _ rfl rfl rfl rfl h.phase h.generation h.switching h.gain
        · rw [if_neg hmoved, if_neg hmoved]
          exact hafter _ _ rfl rfl rfl rfl h.phase h.generation h.switching h.gain
    | error fault => exact hafter _ _ rfl rfl rfl rfl h.phase h.generation h.switching h.gain
  · rw [if_neg hserves, if_neg hserves]
    exact ⟨rfl, h.frame rfl rfl rfl rfl h.phase h.generation h.switching h.gain⟩

/-! ## §2. Runs. -/

/-- The same section on another machine, where `there` says what happens outside of the session. -/
def Passing.onto (there : (σ → σ) → ρ → ρ) : Passing σ → Passing ρ
  | .feed chunk now => .feed chunk now
  | .turn generation => .turn generation
  | .pause => .pause
  | .leave generation => .leave generation
  | .stop => .stop
  | .join => .join
  | .start => .start
  | .forget => .forget
  | .spawned generation => .spawned generation
  | .refused generation reason => .refused generation reason
  | .undo => .undo
  | .switching => .switching
  | .switched => .switched
  | .gain level => .gain level
  | .elsewhere change => .elsewhere (there change)

/-- A section that does outside of the sessions what keeps the machines related, and writes nothing
to the streams there. -/
def Passing.KeepsRelated (there : (σ → σ) → ρ → ρ) (R : σ → ρ → Prop) (received : σ → List UInt8)
    (heard : ρ → List UInt8) : Passing σ → Prop
  | .elsewhere change => (∀ {a b}, R a b → R (change a) (there change b))
    ∧ (∀ host, received (change host) = received host)
    ∧ ∀ host, heard (there change host) = heard host
  | _ => True

/-- **Every section keeps them abreast**, and has the same entry in both books. -/
theorem abreast_passing {there : (σ → σ) → ρ → ρ} (h : Abreast R s p r twin)
    (hp : Paired α R received heard r twin) {passing : Passing σ}
    (heven : passing.KeepsRelated there R received heard) :
    p.entry (passing.onto there) = s.entry passing
      ∧ Advance α R received heard r twin s p (s.passing passing) (p.passing (passing.onto there))
        (s.entry passing) := by
  have hframe : ∀ (t : Session σ (LinearResampler τ α)) (u : Session ρ (LinearResampler τ α)),
      t.route = s.route → u.route = p.route →
      t.host = s.host → u.host = p.host → u.phase = t.phase → u.generation = t.generation →
      u.switching = t.switching → u.gain = t.gain → Advance α R received heard r twin s p t u {} :=
    fun t u => h.frame
  cases passing with
  | feed chunk now =>
      have hfed : _ ∧ Advance α R received heard r twin s p _ _ _ := abreast_feed h chunk now
      obtain ⟨htaken, hmoved⟩ := hfed
      exact ⟨congrArg (fun taken => ({ accepted := taken } : Ledger)) htaken, hmoved⟩
  | turn generation => exact abreast_turn h hp generation
  | pause => exact ⟨rfl, abreast_pause h hp⟩
  | leave generation =>
      refine ⟨rfl, ?_⟩
      show Advance α R received heard r twin s p (s.drainExited generation) (p.drainExited generation) {}
      rw [drainExited_eq, drainExited_eq]
      exact hframe _ _ rfl rfl rfl rfl h.phase h.generation h.switching h.gain
  | stop => exact ⟨rfl, abreast_stop h hp⟩
  | join =>
      obtain ⟨log, hlog⟩ := joinDrain_eq s
      obtain ⟨last, hlast⟩ := joinDrain_eq p
      refine ⟨rfl, ?_⟩
      show Advance α R received heard r twin s p s.joinDrain p.joinDrain {}
      rw [hlog, hlast]
      exact hframe _ _ rfl rfl rfl rfl h.phase h.generation h.switching h.gain
  | start => exact ⟨rfl, abreast_start h hp⟩
  | forget => exact ⟨rfl, hframe _ _ rfl rfl rfl rfl h.phase h.generation h.switching h.gain⟩
  | spawned generation =>
      exact ⟨rfl, hframe _ _ rfl rfl rfl rfl h.phase h.generation h.switching h.gain⟩
  | refused generation reason =>
      obtain ⟨log, hlog⟩ := spawnRefused_eq s generation reason
      obtain ⟨last, hlast⟩ := spawnRefused_eq p generation reason
      refine ⟨rfl, ?_⟩
      show Advance α R received heard r twin s p (s.spawnRefused generation reason)
        (p.spawnRefused generation reason) {}
      rw [hlog, hlast]
      exact hframe _ _ rfl rfl rfl rfl h.phase h.generation h.switching h.gain
  | undo => exact ⟨rfl, abreast_undo h hp⟩
  | switching => exact ⟨rfl, hframe _ _ rfl rfl rfl rfl h.phase h.generation rfl h.gain⟩
  | switched => exact ⟨rfl, hframe _ _ rfl rfl rfl rfl h.phase h.generation rfl h.gain⟩
  | gain gain => exact ⟨rfl, hframe _ _ rfl rfl rfl rfl h.phase h.generation h.switching rfl⟩
  | elsewhere change =>
      obtain ⟨hR, hreceived, hheard⟩ := heven
      refine ⟨rfl, Abreast.still ?_ (DeviceRoute.Continues.refl r) (DeviceRoute.Continues.refl twin)
        (hreceived _) (hheard _)⟩
      exact
        { hosts := hR h.hosts
          route := h.route
          other := h.other
          twins := h.twins
          phase := h.phase
          generation := h.generation
          switching := h.switching
          gain := h.gain }

omit [Host σ] [Host ρ] [ReadHead τ α] in
/-- What sections do and then others, they all do. -/
theorem Advance.trans {v : Session σ (LinearResampler τ α)}
    {w : Session ρ (LinearResampler τ α)} {l m : Ledger} (hsupported : r.source.isSupported = true)
    (h : Advance α R received heard r twin s p t u l)
    (k : ∀ later last, Abreast R t u later last → r.Continues later → twin.Continues last →
      Advance α R received heard later last t u v w m) :
    Advance α R received heard r twin s p v w (l.append m) := by
  obtain ⟨⟨later, last, habreast, hr, ht⟩, hwhole, image, himage, hreceived, hheard⟩ := h
  obtain ⟨⟨final, other, habreast', hr', ht'⟩, hwhole', image', himage', hreceived', hheard'⟩ :=
    k later last habreast hr ht
  have hsize := r.source.sampleSize_pos hsupported
  -- What has arrived so far is cut between two samples.
  have hcut : r.source.sampleSize ∣ image.length := by
    rw [length_scaled? hsupported l himage]
    exact Nat.dvd_trans (r.source.sampleSize_dvd_align hsupported) hwhole
  have hconverted : later.converted = r.converted := by
    unfold DeviceRoute.converted
    rw [hr.source, hr.endpoint]
  rw [hr.source] at hwhole' himage' hreceived'
  rw [hconverted] at hreceived'
  refine ⟨⟨final, other, habreast', hr.trans hr', ht.trans ht'⟩, ?_, image ++ image',
    Ledger.scaled?_append himage himage', ?_, ?_⟩
  · rw [Ledger.popped_append, List.length_append]
    exact Nat.dvd_add hwhole hwhole'
  · rw [hreceived', hreceived, Format.transcode_append hsize hcut, List.append_assoc]
  · rw [hheard', hheard, List.append_assoc]

/-- **Any sections keep them abreast**, with the same books: along the list. -/
theorem abreast_flow (there : (σ → σ) → ρ → ρ) (run : List (Passing σ)) :
    ∀ {s : Session σ (LinearResampler τ α)} {p : Session ρ (LinearResampler τ α)}
      {r twin : DeviceRoute (LinearResampler τ α)}, Abreast R s p r twin →
        Paired α R received heard r twin →
          (∀ passing ∈ run, passing.KeepsRelated there R received heard) →
          (p.flow (run.map (Passing.onto there))).1 = (s.flow run).1
            ∧ Advance α R received heard r twin s p (s.flow run).2
              (p.flow (run.map (Passing.onto there))).2 (s.flow run).1 := by
  induction run with
  | nil =>
      intro s p r twin h _ _
      exact ⟨rfl, h.frame rfl rfl rfl rfl h.phase h.generation h.switching h.gain⟩
  | cons passing rest ih =>
      intro s p r twin h hp heven
      obtain ⟨hentry, hmoved⟩ := abreast_passing h hp (heven passing List.mem_cons_self)
      have hrest := fun p hp => heven p (List.mem_cons_of_mem _ hp)
      obtain ⟨later, last, habreast, hr, ht⟩ := hmoved.abreast
      obtain ⟨hbooks, _⟩ := ih habreast (hp.of_continues hr ht) hrest
      refine ⟨?_, hmoved.trans h.twins.supported fun later last habreast hr ht =>
        (ih habreast (hp.of_continues hr ht) hrest).2⟩
      show (p.entry (passing.onto there)).append _ = (s.entry passing).append _
      rw [hentry, hbooks]

end Session

end PcmRender
