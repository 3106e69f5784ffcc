/-
  PcmRender.Proofs.Hearing — **what a device receives of a session at full volume.**

  On a device without conversion, at full volume, one invariant holds whatever drain tasks, producers of
  whole frames and the machine do in turn (`Session.Heard`):

      accepted    whole frames
      queued      in step with them, with whole frames of silence between
      arrived     what cycles took out, byte for byte, because at full volume scaling changes nothing

  Each section keeps it, and so does the drain task of a session with a clock (`Session.heard_drains`).
  Stopping and closing the session add nothing to what its device has received (`Session.Heard.close`).

  Main statements:
    * `Session.Heard.passing`, `Session.Heard.flow` — one section, and a run,
    * `Session.Heard.framed`, `Session.Heard.close` — what has been received then, and after a close,
    * `SteppedSession.heard_close` — and what behind a stop and a close of a session with a clock.
-/
import PcmRender.Proofs.Coherence
import PcmRender.Proofs.Draining
import PcmRender.Proofs.Framing

namespace PcmRender

/-! ## §1. Full volume. -/

theorem Gain.scaleBytes?_one (f : Format) (data : List UInt8) :
    Gain.scaleBytes? f Single.one data = some data := by
  unfold Gain.scaleBytes?
  rw [if_pos (by decide)]

namespace Ledger

/-- **At full volume bytes arrive as they were taken out.** -/
theorem scaled?_one (source : Format) (l : Ledger) (h : ∀ m ∈ l.movements, m.gain = Single.one) :
    l.scaled? source = some l.popped := by
  obtain ⟨accepted, movements⟩ := l
  unfold scaled? popped
  dsimp only at h ⊢
  induction movements with
  | nil => rfl
  | cons m rest ih =>
      have hfirst : Movement.scaled? source m = some m.popped := by
        unfold Movement.scaled?
        rw [h m List.mem_cons_self, Gain.scaleBytes?_one]
      obtain ⟨pieces, hpieces, hflat⟩ :=
        Option.map_eq_some_iff.mp (ih fun other hother => h other (List.mem_cons_of_mem _ hother))
      rw [List.mapM_cons, hfirst, hpieces, List.flatMap_cons, ← hflat]
      rfl

end Ledger

namespace Session

variable {σ κ : Type} [Host σ]

omit [Host σ] in
theorem gain_feedSection (s : Session σ κ) (chunk : List UInt8) (now : Instant) :
    (s.feedSection chunk now).2.gain = s.gain := by
  unfold feedSection
  split
  · rfl
  · split
    · rfl
    · split
      · rfl
      · split
        · unfold feedRoute
          dsimp only
          split <;> rfl
        · rfl
      · rfl

theorem gain_stopSection (s : Session σ κ) : s.stopSection.2.gain = s.gain := by
  unfold stopSection stopStream
  split
  · split
    · split <;> rfl
    · rfl
  · rfl

theorem gain_pause (s : Session σ κ) : s.pause.2.gain = s.gain := by
  unfold pause
  split
  · split <;> rfl
  · rfl

variable [Stage κ]

theorem gain_drainTurn (s : Session σ κ) (generation : Nat) :
    (s.drainTurn generation).2.gain = s.gain := by
  unfold drainTurn
  split
  · dsimp only
    split
    · unfold drained
      split <;> rfl
    · rfl
  · rfl

theorem gain_startSection (s : Session σ κ) : s.startSection.2.gain = s.gain := by
  unfold startSection
  split
  · rfl
  · split
    · rfl
    · rfl
    · unfold startDevice
      dsimp only
      split <;> rfl

/-- **Only a change of the gain changes the gain.** -/
theorem gain_passing (s : Session σ κ) {passing : Passing σ} (h : ∀ gain, passing ≠ .gain gain) :
    (s.passing passing).gain = s.gain := by
  cases passing with
  | feed chunk now => exact gain_feedSection s chunk now
  | turn generation => exact gain_drainTurn s generation
  | pause => exact gain_pause s
  | leave generation =>
      show (s.drainExited generation).gain = s.gain
      rw [drainExited_eq]
  | stop => exact gain_stopSection s
  | join =>
      obtain ⟨log, hlog⟩ := joinDrain_eq s
      show s.joinDrain.gain = s.gain
      rw [hlog]
  | start => exact gain_startSection s
  | refused generation reason =>
      obtain ⟨log, hlog⟩ := spawnRefused_eq s generation reason
      show (s.spawnRefused generation reason).gain = s.gain
      rw [hlog]
  | gain gain => exact absurd rfl (h gain)
  | _ => rfl

theorem gain_entry (s : Session σ κ) (passing : Passing σ) :
    ∀ m ∈ (s.entry passing).movements, m.gain = s.gain := by
  intro m hm
  cases passing with
  | turn generation =>
      dsimp only [entry] at hm
      split at hm
      · rw [List.mem_singleton.mp hm]
      · exact absurd hm List.not_mem_nil
  | _ => exact absurd hm List.not_mem_nil

/-! ## §2. What is heard. -/

/-- A section that neither offers audio nor changes the gain, and writes to the stream at most through
the session. -/
def Passing.OffersNothing (received : σ → List UInt8) : Passing σ → Prop
  | .feed _ _ => False
  | .gain _ => False
  | passing => passing.WritesBySessionOnly received

omit [Host σ] in
theorem Passing.OffersNothing.quiet {received : σ → List UInt8} {passing : Passing σ}
    (h : passing.OffersNothing received) : passing.WritesBySessionOnly received := by
  cases passing with
  | elsewhere change => exact h
  | _ => trivial

/-- A session on a device without conversion at full volume, as `endpoint` is heard.  Whole frames were
accepted and stand in step in the stream, and beyond `before` the device has received what was taken
out. -/
structure Heard (received : σ → List UInt8) (frame : Nat) (endpoint : Endpoint) (before : List UInt8)
    (s : Session σ κ) (accepted : List UInt8) : Prop where
  stream : ∃ r popped, s.route = .device r ∧ r.endpoint = endpoint ∧ r.source.align = frame
    ∧ InStep received accepted popped r ∧ received s.host = before ++ popped
  whole : frame ∣ accepted.length
  gain : s.gain = Single.one

variable {received : σ → List UInt8} {frame : Nat} {endpoint : Endpoint}
  {before accepted : List UInt8} {s t : Session σ κ} {r : DeviceRoute κ}

omit [Stage κ] in
/-- Neither the phase of a session nor its drain task nor its log is heard. -/
theorem Heard.of_same (h : Heard received frame endpoint before s accepted) (hroute : t.route = s.route)
    (hhost : t.host = s.host) (hgain : t.gain = s.gain) :
    Heard received frame endpoint before t accepted := by
  obtain ⟨⟨r, popped, hr, hendpoint, hframe, hstep, harrived⟩, hwhole, hone⟩ := h
  exact ⟨⟨r, popped, hroute.trans hr, hendpoint, hframe, hstep, hhost ▸ harrived⟩, hwhole,
    hgain.trans hone⟩

/-- **A section keeps what is heard**, if it offers whole frames at most. -/
theorem Heard.passing (h : Heard received frame endpoint before s accepted) {passing : Passing σ}
    (hquiet : passing.WritesBySessionOnly received) (hgain : ∀ gain, passing ≠ .gain gain)
    (hoffered : ∀ chunk now, passing = .feed chunk now → frame ∣ chunk.length) :
    Heard received frame endpoint before (s.passing passing)
      (accepted ++ (s.entry passing).accepted) := by
  obtain ⟨⟨r, popped, hr, rfl, rfl, hstep, harrived⟩, hwhole, hone⟩ := h
  have haccepted : r.source.align ∣ (s.entry passing).accepted.length :=
    whole_accepted hstep hr hwhole hoffered
  have hboth : r.source.align ∣ accepted.length + (s.entry passing).accepted.length :=
    Nat.dvd_add hwhole haccepted
  obtain ⟨later, hlater, hcont, hnext⟩ := inStep_passing hstep hr passing fun _ => hboth
  obtain ⟨image, himage, hreceived⟩ := (carries_passing hr hstep.plain hquiet).arrived
  -- At full volume the image of what was taken out is what was taken out.
  have hplain : (s.entry passing).scaled? r.source = some (s.entry passing).popped :=
    Ledger.scaled?_one r.source _ fun m hm => (gain_entry s passing m hm).trans hone
  obtain rfl : (s.entry passing).popped = image := Option.some.inj (hplain.symm.trans himage)
  constructor
  · refine ⟨later, _, hlater, hcont.endpoint, by rw [hcont.source], hnext, ?_⟩
    rw [hreceived, harrived, List.append_assoc]
  · rw [List.length_append]
    exact hboth
  · exact (gain_passing s hgain).trans hone

/-- A section of somebody else adds nothing to what was accepted. -/
theorem Heard.aside (h : Heard received frame endpoint before s accepted) {passing : Passing σ}
    (haside : passing.OffersNothing received) :
    Heard received frame endpoint before (s.passing passing) accepted
      ∧ (s.entry passing).accepted = [] := by
  have hnone : (s.entry passing).accepted = [] := by
    cases passing with
    | feed chunk now => exact haside.elim
    | turn generation =>
        dsimp only [entry]
        split <;> rfl
    | _ => rfl
  refine ⟨?_, hnone⟩
  have hkept : Heard received frame endpoint before (s.passing passing)
      (accepted ++ (s.entry passing).accepted) := by
    refine h.passing haside.quiet ?_ ?_
    · rintro gain rfl
      exact haside
    · rintro chunk now rfl
      exact haside.elim
  rwa [hnone, List.append_nil] at hkept

/-- **So does a run of such sections.** -/
theorem Heard.flow (run : List (Passing σ)) : ∀ {s : Session σ κ},
    Heard received frame endpoint before s accepted →
      (∀ passing ∈ run, passing.OffersNothing received) →
      Heard received frame endpoint before (s.flow run).2 accepted
        ∧ (s.flow run).1.accepted = [] := by
  induction run with
  | nil =>
      intro s h _
      exact ⟨h, rfl⟩
  | cons passing rest ih =>
      intro s h haside
      obtain ⟨hstep, hnone⟩ := h.aside (haside passing List.mem_cons_self)
      obtain ⟨hlast, hrest⟩ := ih hstep fun other hother => haside other (List.mem_cons_of_mem _ hother)
      refine ⟨hlast, ?_⟩
      -- The books of the first section come in front of those of the rest.
      show (s.entry passing).accepted ++ ((s.passing passing).flow rest).1.accepted = []
      rw [hnone, hrest]
      rfl

/-- A start is a run of sections that the books say nothing of. -/
theorem start_flow (received : σ → List UInt8) (h : s.start = (.ok (), t)) :
    ∃ run, (∀ passing ∈ run, passing.OffersNothing received) ∧ s.flow run = ({}, t) := by
  unfold start at h
  cases hsection : s.startSection with
  | mk answer u =>
      have hu : s.passing .start = u := congrArg Prod.snd hsection
      rw [hsection] at h
      cases answer with
      | error fault => exact absurd (Prod.mk.inj h).1 (by simp)
      | ok begun =>
          cases begun with
          | none =>
              obtain rfl : u = t := (Prod.mk.inj h).2
              refine ⟨[.start], by simp [Passing.OffersNothing, Passing.WritesBySessionOnly], ?_⟩
              rw [← hu]
              rfl
          | some generation =>
              dsimp only at h
              split at h
              · obtain rfl : u.forgetTask.spawned generation = t := (Prod.mk.inj h).2
                refine ⟨[.start, .forget, .spawned generation],
                  by simp [Passing.OffersNothing, Passing.WritesBySessionOnly], ?_⟩
                rw [← hu]
                rfl
              · exact absurd (Prod.mk.inj h).1 (by simp)

/-- A session renders the format that it was opened for. -/
theorem opened_source (hclosed : s.route = .closed) (hopen : s.openSection = (.ok (), t))
    (hr : t.route = .device r) : r.source = s.source := by
  obtain ⟨_, _, _, _, hbuilt⟩ := opened_built hclosed hopen hr
  exact (DeviceRoute.build_ok hbuilt).2.2.1

/-- **Nothing is heard yet of a session that was just opened**: its ring is full of silent frames. -/
theorem heard_opened (hclosed : s.route = .closed) (hopen : s.openSection = (.ok (), t))
    (hr : t.route = .device r) (hplain : r.stage = none)
    (hkeeps : r.endpoint.Keeps r.source.align received) (hgain : t.gain = Single.one) :
    Heard received r.source.align r.endpoint (received t.host) t [] := by
  obtain ⟨hsupported, hsilent⟩ := opened_device hclosed hopen hr
  obtain ⟨frames, hframes⟩ := opened_capacity hclosed hopen hr
  have hnone : Framed r.source.align [] [] := .rest (r.source.align_pos hsupported)
  have hzeros := hnone.before_silent frames
  rw [List.append_nil, Nat.mul_comm, ← hframes, ← hsilent] at hzeros
  exact ⟨⟨r, [], hr, rfl, rfl,
    ⟨⟨hplain, hsupported, hkeeps⟩, ⟨frames, hframes⟩, Nat.dvd_zero _, hzeros⟩,
    (List.append_nil _).symm⟩, Nat.dvd_zero _, hgain⟩

/-- A turn of a drain task, and its way out, -/
theorem Heard.drainSection (h : Heard received frame endpoint before s accepted) (generation : Nat) :
    Heard received frame endpoint before (s.drainSection generation).2 accepted := by
  have hturn : Heard received frame endpoint before (s.drainTurn generation).2 accepted :=
    (h.aside (show Passing.OffersNothing received (.turn generation) from trivial)).1
  unfold Session.drainSection
  split
  next t hrun =>
    rw [hrun] at hturn
    exact hturn
  next t _ hrun =>
    rw [hrun] at hturn
    exact (hturn.aside (show Passing.OffersNothing received (.leave generation) from trivial)).1

/-- its wait, -/
theorem Heard.drainWait (h : Heard received frame endpoint before s accepted) (generation : Nat) :
    Heard received frame endpoint before (s.drainWait generation).2 accepted := by
  have hpause : Heard received frame endpoint before s.pause.2 accepted :=
    (h.aside (show Passing.OffersNothing received (.pause) from trivial)).1
  unfold Session.drainWait
  split
  next t hrun =>
    rw [hrun] at hpause
    exact hpause
  next t hrun =>
    rw [hrun] at hpause
    exact (hpause.aside (show Passing.OffersNothing received (.leave generation) from trivial)).1

/-- and a stop add nothing, -/
theorem Heard.stop (h : Heard received frame endpoint before s accepted) :
    Heard received frame endpoint before s.stop accepted := by
  have hstop : Heard received frame endpoint before s.stopSection.2 accepted :=
    (h.aside (show Passing.OffersNothing received (.stop) from trivial)).1
  unfold Session.stop
  split
  next t hrun =>
    rw [hrun] at hstop
    obtain ⟨log, hlog⟩ := joinDrain_eq ({ t with draining := none } : Session σ κ)
    unfold retireDrain
    rw [hlog]
    exact hstop.of_same rfl rfl rfl
  next t hrun =>
    rw [hrun] at hstop
    exact hstop

variable (received frame endpoint before accepted) in
/-- nor does whatever the drain task of a stepped session does. -/
theorem heard_drains :
    DrainInvariant fun s : Session σ κ => s.Heard received frame endpoint before accepted where
  begun := fun _ h => h.of_same rfl rfl rfl
  turn := fun generation h => h.drainSection generation
  wait := fun generation h => h.drainWait generation

end Session

/-- **The front of a framed stream is framed**, over a front of the frames. -/
theorem Framed.front {size : Nat} (hsize : 0 < size) {back : List UInt8} : ∀ (n : Nat)
    {base front : List UInt8}, front.length = n * size → Framed size base (front ++ back) →
      ∃ start, start <+: base ∧ size ∣ start.length ∧ Framed size start front := by
  intro n
  induction n with
  | zero =>
      intro base front hfront _
      obtain rfl : front = [] := List.length_eq_zero_iff.mp (by omega)
      exact ⟨[], List.nil_prefix, Nat.dvd_zero _, .rest hsize⟩
  | succ n ih =>
      intro base front hfront h
      rw [Nat.succ_mul] at hfront
      obtain ⟨first, rest, rfl, hfirst⟩ :
          ∃ first rest, front = first ++ rest ∧ first.length = size :=
        ⟨front.take size, front.drop size, (List.take_append_drop _ _).symm,
          by rw [List.length_take]; omega⟩
      have hrest : rest.length = n * size := by
        rw [List.length_append] at hfront
        omega
      rw [List.append_assoc] at h
      -- The first frame of the stream is one of the frames, or silence.
      generalize hstream : first ++ (rest ++ back) = stream at h
      cases h with
      | rest hshort =>
          rw [← hstream, List.length_append] at hshort
          omega
      | frame hwhole h =>
          obtain ⟨rfl, rfl⟩ := List.append_inj hstream (hfirst.trans hwhole.symm)
          obtain ⟨start, hstart, hunits, hframed⟩ := ih hrest h
          refine ⟨first ++ start, (List.prefix_append_right_inj first).mpr hstart, ?_,
            .frame hfirst hframed⟩
          rw [List.length_append, hfirst]
          exact Nat.dvd_add (Nat.dvd_refl size) hunits
      | silence h =>
          obtain ⟨rfl, rfl⟩ := List.append_inj hstream (by rw [hfirst, List.length_replicate])
          obtain ⟨start, hstart, hunits, hframed⟩ := ih hrest h
          exact ⟨start, hstart, hunits, .silence hframed⟩

/-- Beyond `before`, a stream has received whole frames from the beginning of some data, with whole
frames of silence between them. -/
def FramedStart (frame : Nat) (data before stream : List UInt8) : Prop :=
  ∃ heard start, stream = before ++ heard ∧ start <+: data ∧ frame ∣ start.length
    ∧ Framed frame start heard

theorem FramedStart.of_front {frame : Nat} {front data before stream : List UInt8}
    (h : FramedStart frame front before stream) (hfront : front <+: data) :
    FramedStart frame data before stream := by
  obtain ⟨heard, start, hstream, hstart, hunits, hframed⟩ := h
  exact ⟨heard, start, hstream, hstart.trans hfront, hunits, hframed⟩

namespace Session

variable {σ κ : Type} [Host σ] [Stage κ] {received : σ → List UInt8} {frame : Nat}
  {endpoint : Endpoint} {before accepted : List UInt8} {s : Session σ κ}

omit [Stage κ] in
/-- **What a device has received are whole frames of what was accepted.** -/
theorem Heard.framed (h : Heard received frame endpoint before s accepted) :
    FramedStart frame accepted before (received s.host) := by
  obtain ⟨⟨r, popped, _, _, rfl, hstep, harrived⟩, _, _⟩ := h
  obtain ⟨frames, hframes⟩ := hstep.border
  obtain ⟨start, hstart, hunits, hframed⟩ := Framed.front
    (r.source.align_pos hstep.plain.supported) frames (by rw [hframes, Nat.mul_comm]) hstep.framed
  exact ⟨popped, start, harrived, hstart, hunits, hframed⟩

/-- **A close adds nothing to it**, on a machine that leaves a stream what it has when it takes it
back. -/
theorem Heard.close (h : Heard received frame endpoint before s accepted)
    (hrelease : ∀ host, received (Host.release host endpoint) = received host) :
    FramedStart frame accepted before (received s.close.host) := by
  have hstopped := h.stop.framed
  obtain ⟨⟨r, _, hr, rfl, _⟩, _, _⟩ := h.stop
  have hclosed : s.close.host = Host.release s.stop.host r.endpoint := by
    unfold Session.close closeSection
    rw [hr]
    rfl
  rw [hclosed, hrelease]
  exact hstopped

end Session

/-! ## §3. A session with a clock. -/

namespace SteppedSession

variable {σ κ : Type} [Host σ] [Stage κ] {received : σ → List UInt8} {frame : Nat}
  {endpoint : Endpoint} {before accepted : List UInt8} {s : SteppedSession σ κ}

/-- Nothing runs on a closed session. -/
theorem host_settle (h : s.session.route = .closed) : s.settle.session.host = s.session.host := by
  unfold settle
  split
  next task _ =>
    split
    · have hnone : ({ s.session with task := some { task with fresh := false } } : Session σ κ).cycle?
          task.generation = none := by
        unfold Session.cycle? Session.deviceRoute?
        rw [show ({ s.session with task := some { task with fresh := false } } : Session σ κ).route
          = .closed from h]
        split <;> rfl
      unfold SteppedSession.map Session.drainSection Session.drainTurn
      dsimp only
      rw [hnone]
      dsimp only
      rw [Session.drainExited_eq]
    · rfl
  · rfl

/-- **Stopped and closed, a session has added nothing to what its device has received.** -/
theorem heard_close (h : s.session.Heard received frame endpoint before accepted)
    (hrelease : ∀ host, received (Host.release host endpoint) = received host) :
    FramedStart frame accepted before (received s.stop.2.close.2.session.host) := by
  have hstopped : s.stop.2.session.Heard received frame endpoint before accepted :=
    (Session.heard_drains received frame endpoint before accepted).settle
      (s := { s with session := s.session.stop }) h.stop
  have hclosed := hstopped.close hrelease
  rw [← host_settle (s := { s.stop.2 with session := s.stop.2.session.close })
    (Session.close_route _)] at hclosed
  exact hclosed

end SteppedSession

end PcmRender
