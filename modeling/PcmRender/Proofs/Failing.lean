/-
  PcmRender.Proofs.Failing — **a clip reports the first failure that it meets.**

  A clip meets failures in this order, and goes no further than the first:

      rate, format     before there is a session
      open, start      of the session
      read, offer      buffer after buffer and chunk after chunk, in turn

  What comes behind is the clean-up, which has its own failures and reports none of them.

  The faults that offers were answered with are written down beside the outlet (`Minuted`), and the
  failing read is found in the input (`readFault?`): nothing is read behind a failed offer, and nothing
  is offered behind a failed read, so that the two lists one behind the other are all failures in their
  order.

  Main statements:
    * `fill_first` — one buffer,
    * `Clip.pushChunk_first`, `Clip.pushAll_first`, `Clip.stream_first` — the loops, on any outlet,
    * `Session.openFault_of_openSection`, `Session.startFault_of_start` — what comes before them,
    * `ClipPlayer.render_first` — the clip as a whole.
-/
import PcmRender.Proofs.Gain
import PcmRender.Proofs.Viewing
import PcmRender.Proofs.Sections

namespace PcmRender

/-! ## §1. Reads. -/

/-- The failure of the first read that fails, if one does before the input ends. -/
def readFault? : List ReadEvent → Option Fault
  | [] => none
  | .bytes data :: rest => if data.isEmpty then none else readFault? rest
  | .interrupted :: rest => readFault? rest
  | .cancelled :: rest => readFault? rest
  | .failed text :: _ => some (.error (.io text))

/-- What filling a buffer of `room` bytes says about the failing read of its input. -/
structure Filled.First {ω : Type} (events : List ReadEvent) (room : Nat) (filled : Filled ω) :
    Prop where
  /-- A buffer fails with the first read that does. -/
  failed : ∀ text, filled.result = .error text → readFault? events = some (.error (.io text))
  /-- Where it cannot be filled none has failed. -/
  ended : ∀ data, filled.result = .ok data → data.length < room → readFault? events = none
  /-- Where it is full the failing read is still to come, and as much of the input is used up. -/
  full : ∀ data, filled.result = .ok data → ¬ data.length < room →
    readFault? filled.rest = readFault? events
      ∧ inputLength filled.rest + data.length = inputLength events

theorem readFault?_bytes {piece : List UInt8} (hsome : piece ≠ []) (rest : List ReadEvent) :
    readFault? (.bytes piece :: rest) = readFault? rest := by
  have hpiece : ¬ piece.isEmpty = true := fun h => hsome (List.isEmpty_iff.mp h)
  rw [readFault?, if_neg hpiece]

variable {ω : Type} [Outlet ω]

/-- **A buffer meets the failing read or leaves it to the next buffer**: along the reads. -/
theorem fill_first : ∀ (events : List ReadEvent) (outlet : ω) (room : Nat), 0 < room →
    (fill outlet room events).First events room := by
  intro events
  induction events with
  | nil =>
      intro outlet room hroom
      exact ⟨nofun, fun _ _ _ => rfl, fun data hdata hfull => by
        obtain rfl := Except.ok.inj hdata
        exact absurd hroom hfull⟩
  | cons event rest ih =>
      intro outlet room hroom
      cases event with
      | bytes piece =>
          by_cases hsome : piece = []
          · rw [hsome]
            refine ⟨nofun, fun _ _ _ => rfl, fun data hdata hfull => ?_⟩
            obtain rfl := Except.ok.inj hdata
            exact absurd hroom hfull
          have hread := readFault?_bytes hsome rest
          rw [fill_piece outlet hsome]
          by_cases hcut : room < piece.length
          · -- The read brings more than there is room for, and the rest of it waits.
            have hrest : piece.drop room ≠ [] := by
              rw [Ne, List.drop_eq_nil_iff]
              omega
            rw [if_pos hcut]
            refine ⟨nofun, fun data hdata hshort => ?_, fun data hdata _ => ⟨?_, ?_⟩⟩
            · rw [← Except.ok.inj hdata, List.length_take] at hshort
              omega
            · exact (readFault?_bytes hrest rest).trans hread.symm
            · rw [← Except.ok.inj hdata, List.length_take]
              show (piece.drop room).length + inputLength rest + _ = piece.length + inputLength rest
              rw [List.length_drop]
              omega
          rw [if_neg hcut]
          by_cases hexact : room = piece.length
          · rw [if_pos hexact]
            refine ⟨nofun, fun data hdata hshort => ?_, fun data hdata _ => ⟨hread.symm, ?_⟩⟩
            · rw [← Except.ok.inj hdata] at hshort
              omega
            · rw [← Except.ok.inj hdata]
              exact Nat.add_comm _ _
          · rw [if_neg hexact]
            obtain ⟨hfailed, hended, hfull⟩ := ih outlet (room - piece.length) (by omega)
            generalize fill outlet (room - piece.length) rest = more at hfailed hended hfull
            obtain ⟨result, left, after⟩ := more
            cases result with
            | error text => exact ⟨fun other hother => hread.trans (hfailed other hother), nofun, nofun⟩
            | ok data =>
                have hlength : (piece ++ data).length = piece.length + data.length := List.length_append
                refine ⟨nofun, fun all hall hshort => ?_, fun all hall hlong => ?_⟩
                · rw [← Except.ok.inj hall, hlength] at hshort
                  exact hread.trans (hended data rfl (by omega))
                · rw [← Except.ok.inj hall, hlength] at hlong ⊢
                  obtain ⟨hlater, hused⟩ := hfull data rfl (by omega)
                  refine ⟨hlater.trans hread.symm, ?_⟩
                  show inputLength left + _ = piece.length + inputLength rest
                  dsimp only at hused
                  omega
      | interrupted =>
          obtain ⟨hfailed, hended, hfull⟩ := ih outlet room hroom
          exact ⟨hfailed, hended, hfull⟩
      | failed text =>
          refine ⟨fun other hother => ?_, nofun, nofun⟩
          rw [← Except.error.inj hother]
          rfl
      | cancelled =>
          obtain ⟨hfailed, hended, hfull⟩ := ih (Outlet.requestCancel outlet) room hroom
          exact ⟨hfailed, hended, hfull⟩

/-! ## §2. Offers. -/

/-- An outlet, and the faults that it has answered offers with, one after the other. -/
structure Minuted (ω : Type) where
  outlet : ω
  faults : List Fault := []

namespace Minuted

/-- The faults behind one more answer. -/
def noting (faults : List Fault) : Except Fault Feed → List Fault
  | .ok _ => faults
  | .error fault => faults ++ [fault]

instance : Outlet (Minuted ω) where
  feed m chunk :=
    let (answer, outlet) := Outlet.feed m.outlet chunk
    (answer, { outlet, faults := noting m.faults answer })
  reopen m :=
    let (answer, outlet) := Outlet.reopen m.outlet
    (answer, { m with outlet })
  checkCancel m :=
    let (cancelled, outlet) := Outlet.checkCancel m.outlet
    (cancelled, { m with outlet })
  requestCancel m := { m with outlet := Outlet.requestCancel m.outlet }
  clock m := Outlet.clock m.outlet
  playOut m deadline :=
    let (cancelled, outlet) := Outlet.playOut m.outlet deadline
    (cancelled, { m with outlet })
  patience m := Outlet.patience m.outlet

/-- Writing faults down does not change what an outlet does. -/
theorem sees : Outlet.Sees (outlet : Minuted ω → ω) where
  feed _ _ := rfl
  checkCancel _ := rfl
  requestCancel _ := rfl
  clock _ := rfl
  playOut _ _ := rfl
  patience _ := rfl

/-- Filling a buffer offers nothing. -/
theorem faults_fill (events : List ReadEvent) (m : Minuted ω) (room : Nat) :
    (fill m room events).outlet.faults = m.faults :=
  fill_stays (fun other : Minuted ω => other.faults = m.faults) id events room rfl

end Minuted

namespace Clip

/-- The faults behind a chunk that was offered. -/
def Push.noting (faults : List Fault) : Push → List Fault
  | .failed fault => faults ++ [fault]
  | _ => faults

/-- **Offering a chunk ends with the first offer that fails**, and with no other: along the offers. -/
theorem pushChunk_first : ∀ (offers : Nat) (m : Minuted ω) (chunk : List UInt8),
    (pushChunk offers m chunk).2.faults = (pushChunk offers m chunk).1.noting m.faults := by
  intro offers
  induction offers with
  | zero =>
      intro m chunk
      cases chunk with
      | nil => rfl
      | cons => rfl
  | succ offers ih =>
      intro m chunk
      cases chunk with
      | nil => rfl
      | cons b rest =>
          unfold pushChunk
          have hlook : (Outlet.checkCancel m).2.faults = m.faults := rfl
          generalize Outlet.checkCancel m = looked at hlook
          obtain ⟨cancelled, looked⟩ := looked
          cases cancelled with
          | true => exact hlook
          | false =>
              dsimp only at hlook ⊢
              have hnoted : (Outlet.feed looked (b :: rest)).2.faults
                  = Minuted.noting looked.faults (Outlet.feed looked (b :: rest)).1 := rfl
              rw [hlook] at hnoted
              generalize Outlet.feed looked (b :: rest) = answered at hnoted
              obtain ⟨answer, fed⟩ := answered
              cases answer with
              | error fault => exact hnoted
              | ok taken =>
                  cases taken with
                  | consumed => exact hnoted
                  | accepted n =>
                      have hsame : fed.faults = m.faults := hnoted
                      rw [← hsame]
                      exact ih fed ((b :: rest).drop n)

/-! ## §3. Inputs. -/

/-- What a loop over an input has come to, when it comes to a fault or to a report: the fault is the
first one that it met, and behind a report there was none. -/
structure First {ρ : Type} (events : List ReadEvent) (m : Minuted ω) (cancelled : ρ → Bool)
    (done : Option (Except Fault ρ) × Minuted ω) : Prop where
  /-- An offer has failed, or no offer but a read. -/
  failed : ∀ e, done.1 = some (.error (.error e)) → done.2.faults = m.faults ++ [.error e]
    ∨ (done.2.faults = m.faults ∧ readFault? events = some (.error e))
  /-- No offer has failed; and no read does, unless the loop was left before. -/
  finished : ∀ report, done.1 = some (.ok report) → done.2.faults = m.faults
    ∧ (cancelled report = false → readFault? events = none)

section First

omit [Outlet ω]

variable {ρ : Type} {events : List ReadEvent} {m after : Minuted ω} {cancelled : ρ → Bool}

theorem First.of_fault {fault : Fault} (h : after.faults = m.faults ++ [fault]
    ∨ (after.faults = m.faults ∧ readFault? events = some fault)) :
    First events m cancelled (some (.error fault), after) where
  failed := fun e he => by
    rw [← Except.error.inj (Option.some.inj he)]
    exact h
  finished := fun _ hreport => absurd hreport (by simp)

theorem First.of_report {report : ρ} (hfaults : after.faults = m.faults)
    (hread : cancelled report = false → readFault? events = none) :
    First events m cancelled (some (.ok report), after) where
  failed := fun _ he => absurd he (by simp)
  finished := fun other hother => by
    rw [← Except.ok.inj (Option.some.inj hother)]
    exact ⟨hfaults, hread⟩

/-- Where patience has come to an end, and where numbers are too large, nothing is said. -/
theorem First.of_neither {result : Option (Except Fault ρ)}
    (herror : ∀ e, result ≠ some (.error (.error e))) (hreport : ∀ report, result ≠ some (.ok report)) :
    First events m cancelled (result, after) :=
  ⟨fun e he => absurd he (herror e), fun report hok => absurd hok (hreport report)⟩

/-- What is first behind no failure is first. -/
theorem First.behind {later : List ReadEvent} {done : Option (Except Fault ρ) × Minuted ω}
    (h : First later after cancelled done) (hsame : after.faults = m.faults)
    (hlater : readFault? later = readFault? events) : First events m cancelled done := by
  obtain ⟨hfailed, hfinished⟩ := h
  rw [hsame, hlater] at hfailed hfinished
  exact ⟨hfailed, hfinished⟩

end First

/-- **The loop over an input ends with the first failure**: along the buffers. -/
theorem pushAll_first {frame size : Nat} (hframe : 0 < frame) (hsize : frame ≤ size) :
    ∀ (reads : Nat) (m : Minuted ω) (events : List ReadEvent) (before : Progress),
      inputLength events < reads →
        First events m Progress.cancelled (pushAll frame size reads m events before) := by
  intro reads
  induction reads with
  | zero =>
      intro _ _ _ hreads
      exact absurd hreads (Nat.not_lt_zero _)
  | succ reads ih =>
      intro m events before hreads
      have hfaults := Minuted.faults_fill events m size
      obtain ⟨hfailed, hended, hfull⟩ := fill_first events m size (by omega)
      unfold pushAll
      generalize fill m size events = filled at hfaults hfailed hended hfull ⊢
      obtain ⟨result, rest, filled⟩ := filled
      dsimp only at hfaults hfailed hended hfull ⊢
      cases result with
      | error text => exact .of_fault (.inr ⟨hfaults, hfailed text rfl⟩)
      | ok data =>
          dsimp only
          rw [take_whole]
          by_cases hempty : (whole frame data).isEmpty = true
          · -- Less than a frame was left, which is less than a buffer.
            rw [if_pos hempty]
            have hshort : data.length < size := by
              have hnone := congrArg List.length (List.isEmpty_iff.mp hempty)
              rw [length_whole, List.length_nil, Nat.mul_eq_zero, Nat.div_eq_zero_iff] at hnone
              omega
            exact .of_report hfaults fun _ => hended data rfl hshort
          rw [if_neg hempty]
          have hpushed := pushChunk_first
            (((whole frame data).length + 1) * (Outlet.patience filled + 1)) filled (whole frame data)
          rw [hfaults] at hpushed
          generalize pushChunk (((whole frame data).length + 1) * (Outlet.patience filled + 1)) filled
            (whole frame data) = pushed at hpushed ⊢
          obtain ⟨push, after⟩ := pushed
          cases push with
          | exhausted => exact .of_neither (by simp) (by simp)
          | failed fault => exact .of_fault (.inl hpushed)
          | cancelled => exact .of_report hpushed (by simp)
          | taken =>
              have hsame : after.faults = m.faults := hpushed
              dsimp only
              by_cases hlast : data.length < size
              · rw [if_pos hlast]
                exact .of_report hsame fun _ => hended data rfl hlast
              · rw [if_neg hlast]
                obtain ⟨hlater, hused⟩ := hfull data rfl hlast
                exact (ih after rest _ (by omega)).behind hsame hlater

/-- The wait at the end meets no failure, and forgets no request to cancel. -/
theorem awaitPlayout_first (m : Minuted ω) (progress : Progress) (time : Duration) :
    (awaitPlayout m progress time).2.faults = m.faults
      ∧ ((awaitPlayout m progress time).1 = false → progress.cancelled = false) := by
  unfold awaitPlayout
  split
  next start hcancelled _ => exact ⟨rfl, fun _ => hcancelled⟩
  · exact ⟨rfl, id⟩

/-- **A stream reports the first failure that it meets**, on any outlet and whenever it is
cancelled. -/
theorem stream_first {format : Format} (hframe : 0 < format.align) (chunk : Nat)
    (tail : Option Duration) (m : Minuted ω) (events : List ReadEvent) :
    First events m ClipReport.cancelled (stream format chunk tail m events) := by
  have hsize : format.align ≤ chunkSize chunk format.align :=
    Nat.le_mul_of_pos_left _ (Nat.lt_of_lt_of_le Nat.zero_lt_one (Nat.le_max_right _ _))
  have hpushed := pushAll_first hframe hsize (inputLength events + 1) m events {} (Nat.lt_succ_self _)
  unfold stream
  dsimp only
  split
  · exact .of_neither (by simp) (by simp)
  generalize pushAll format.align (chunkSize chunk format.align) (inputLength events + 1) m events {}
    = pushed at hpushed ⊢
  obtain ⟨result, after⟩ := pushed
  cases result with
  | none => exact .of_neither (by simp) (by simp)
  | some result =>
      cases result with
      | error fault =>
          cases fault with
          | overflow => exact .of_neither (by simp) (by simp)
          | error e => exact .of_fault (hpushed.failed e rfl)
      | ok progress =>
          obtain ⟨hfaults, hread⟩ := hpushed.finished progress rfl
          dsimp only at hfaults ⊢
          cases format.bytesDuration? progress.bytes with
          | none => exact .of_neither (by simp) (by simp)
          | some duration =>
              cases tail with
              | none => exact .of_report hfaults hread
              | some tail =>
                  obtain ⟨hwait, hkept⟩ := awaitPlayout_first after progress (duration.plus tail)
                  exact .of_report (hwait.trans hfaults) fun hgone => hread (hkept hgone)

/-- Where there is an error, it is the first of the failures that were written down. -/
theorem head_of_error {format : Format} (hframe : 0 < format.align) {chunk : Nat}
    {tail : Option Duration} {outlet : ω} {events : List ReadEvent} {e : RenderError}
    (h : (stream format chunk tail outlet events).1 = some (.error (.error e))) :
    ((stream format chunk tail ({ outlet } : Minuted ω) events).2.faults
      ++ (readFault? events).toList).head? = some (.error e) := by
  have hfirst := stream_first hframe chunk tail ({ outlet } : Minuted ω) events
  have hview := stream_sees Minuted.sees format chunk tail ({ outlet } : Minuted ω) events
  dsimp only at hview
  rw [hview] at h
  rcases hfirst.failed e h with hoffer | ⟨hnone, hread⟩
  · rw [hoffer]
    rfl
  · rw [hnone, hread]
    rfl

end Clip

/-! ## §4. Opening and starting. -/

namespace Session

variable {σ κ : Type} [Host σ] {s : Session σ κ} {e : RenderError}

/-- Why an open session is not started: whether its stream can be stopped again does not count. -/
inductive StartFault (s : Session σ κ) (e : RenderError) : Prop
  /-- Its stream does not start. -/
  | refused {r : DeviceRoute κ} (route : s.route = .device r)
      (starts : (Host.start s.host r.endpoint).1 = .error e)
  /-- It runs, but there is no thread for its drain task. -/
  | unhired {r : DeviceRoute κ} (route : s.route = .device r)
      (starts : (Host.start s.host r.endpoint).1 = .ok ()
        ∨ (Host.start s.host r.endpoint).1 = .error .alreadyStarted) {reason : String}
      (spawns : Host.spawn (Host.start s.host r.endpoint).2 = .error reason) (told : e = .io reason)

variable [Stage κ]

/-- Why a device is not opened: what is given back then has nothing to do with it. -/
inductive OpenFault (s : Session σ κ) (device : String) (e : RenderError) : Prop
  /-- No endpoint was to be had. -/
  | refused (asked : (Negotiation.negotiate s.host device s.source s.config.buffer).result
      = .error (.error e))
  /-- There is no way to the endpoint, which is given back. -/
  | unbuilt {endpoint : Endpoint}
      (asked : (Negotiation.negotiate s.host device s.source s.config.buffer).result = .ok endpoint)
      (build : (DeviceRoute.build device s.source endpoint s.config.period :
        Except Fault (DeviceRoute κ)) = .error (.error e))

/-- **Opening reports why the device was not opened.** -/
theorem openFault_of_openSection (h : s.openSection.1 = .error (.error e)) :
    ∃ device, s.selected = some device ∧ s.OpenFault device e := by
  unfold openSection at h
  split at h
  · exact absurd h (by simp)
  next device _ hselected =>
    refine ⟨device, hselected, ?_⟩
    unfold openDevice at h
    dsimp only at h
    split at h
    next endpoint hasked =>
      unfold openEndpoint at h
      dsimp only at h
      split at h
      · exact absurd h (by simp)
      next cause hbuild =>
        obtain rfl := Fault.error.inj (Except.error.inj h)
        exact .unbuilt hasked hbuild
      · exact absurd h (by simp)
    next cause hasked =>
      obtain rfl := Fault.error.inj (Except.error.inj h)
      exact .refused hasked
    · exact absurd h (by simp)
  · exact absurd h (by simp)

/-- What starting a device route answers, by what its stream answers. -/
theorem startDevice_answer (s : Session σ κ) (r : DeviceRoute κ) :
    (∃ generation t, s.startDevice r = (.ok (some generation), t)
        ∧ t.host = (Host.start s.host r.endpoint).2
        ∧ ((Host.start s.host r.endpoint).1 = .ok ()
          ∨ (Host.start s.host r.endpoint).1 = .error .alreadyStarted))
      ∨ ∃ cause t, s.startDevice r = (.error (.error cause), t)
        ∧ (Host.start s.host r.endpoint).1 = .error cause := by
  unfold startDevice
  dsimp only
  rw [show (s.withRoute (rewound r)).host = s.host from rfl,
    show (rewound r).endpoint = r.endpoint from rfl]
  generalize Host.start s.host r.endpoint = answered
  obtain ⟨answer, host⟩ := answered
  cases answer with
  | ok => exact .inl ⟨_, _, rfl, rfl, .inl rfl⟩
  | error cause =>
      by_cases hrunning : cause = .alreadyStarted
      · subst hrunning
        exact .inl ⟨_, _, rfl, rfl, .inr rfl⟩
      · refine .inr ⟨cause, ({ s.withRoute (rewound r) with host }.note .error
          s!"Failed to start render stream on {(rewound r).device}: {cause.message}"), ?_, rfl⟩
        cases cause <;> first | rfl | exact absurd rfl hrunning

/-- **Starting reports why the session was not started.** -/
theorem startFault_of_start (hopen : s.route ≠ .closed) (h : s.start.1 = .error (.error e)) :
    s.StartFault e := by
  unfold start startSection at h
  by_cases hstarted : s.phase = .started
  · rw [if_pos hstarted] at h
    exact absurd h (by simp)
  rw [if_neg hstarted] at h
  cases hr : s.route with
  | closed => exact absurd hr hopen
  | null =>
      rw [hr] at h
      exact absurd h (by simp)
  | device r =>
      rw [hr] at h
      dsimp only at h
      rcases s.startDevice_answer r with ⟨generation, t, hbegun, hhost, hruns⟩
        | ⟨cause, t, hrefused, hcause⟩
      · rw [hbegun] at h
        dsimp only at h
        rw [show t.forgetTask.host = _ from hhost] at h
        split at h
        · exact absurd h (by simp)
        next reason hspawn =>
          have htold := Fault.error.inj (Except.error.inj h)
          exact .unhired hr hruns hspawn htold.symm
      · rw [hrefused] at h
        obtain rfl := Fault.error.inj (Except.error.inj h)
        exact .refused hr hcause

end Session

/-! ## §5. Clips. -/

section Clips

variable {σ κ : Type} [Host σ] [Stage κ]

/-- A first cycle closes no route. -/
theorem SteppedSession.settle_open {s : SteppedSession σ κ} (h : s.session.route ≠ .closed) :
    s.settle.session.route ≠ .closed := by
  unfold settle
  split
  next task _ =>
    split
    · have hturn := Session.steady_drainTurn { s.session with task := some { task with fresh := false } }
        task.generation
      have hopen := mt hturn.route.closed_iff.mp h
      show (Session.drainSection _ _).2.route ≠ .closed
      unfold Session.drainSection
      split
      next hrun =>
        rw [hrun] at hopen
        exact hopen
      next hrun =>
        rw [hrun] at hopen
        rw [Session.drainExited_eq]
        exact hopen
    · exact h
  · exact h

/-- The session that a player makes for a clip, before it is opened. -/
def ClipPlayer.fresh (p : ClipPlayer) (s : Session σ κ) : SteppedSession σ κ :=
  SteppedSession.mk (s.setGain p.gain) 0

/-- A clip meets the failure `e`, and none before it. -/
inductive ClipPlayer.MeetsFirst (κ : Type) [Stage κ] (p : ClipPlayer) (host : σ)
    (device : Option String) (tail : Option Duration) (format : Format) (input : Input)
    (e : RenderError) : Prop
  /-- Its rate is too high. -/
  | fast (fast : Clip.maxRate < format.rate)
      (told : e = .unsupportedFormat s!"clip rate {format.rate}Hz exceeds {Clip.maxRate}Hz")
  /-- Nobody can render its format. -/
  | refused (slow : format.rate ≤ Clip.maxRate) (unsupported : format.isSupported = false)
      (told : e = .unsupportedFormat format.text)
  /-- Its device cannot be opened. -/
  | unopened (slow : format.rate ≤ Clip.maxRate) {s : Session σ κ} {id : String}
      (create : Session.create host format device p.config = .ok s) (selected : device = some id)
      (cause : s.OpenFault id e)
  /-- Its session cannot be started. -/
  | unstarted (slow : format.rate ≤ Clip.maxRate) {s : Session σ κ} {t : SteppedSession σ κ}
      (create : Session.create host format device p.config = .ok s)
      (opens : (p.fresh s).openRoute = (.ok (), t)) (cause : t.session.StartFault e)
  /-- An offer fails, or a read. -/
  | amid (slow : format.rate ≤ Clip.maxRate) {s : Session σ κ} {t u : SteppedSession σ κ}
      (create : Session.create host format device p.config = .ok s)
      (opens : (p.fresh s).openRoute = (.ok (), t)) (starts : t.start = (.ok (), u))
      (first : ((Clip.stream format p.chunk tail
        ({ outlet := { session := u, cancelled := input.cancelled, cancelAt := input.cancelAt } } :
          Minuted (SessionOutlet σ κ)) input.events).2.faults
        ++ (readFault? input.events).toList).head? = some (.error e))

/-- What is open after a session was opened stays open until it is started. -/
theorem ClipPlayer.opened_open {p : ClipPlayer} {s : Session σ κ} {t : SteppedSession σ κ}
    (h : (p.fresh s).openRoute = (.ok (), t)) : t.session.route ≠ .closed := by
  obtain ⟨hanswer, rfl⟩ := Prod.mk.inj h
  refine SteppedSession.settle_open ?_
  have hsection := (s.setGain p.gain).openSection_outcome
  show (s.setGain p.gain).openSection.2.route ≠ .closed
  have hok : (s.setGain p.gain).openSection.1 = .ok () := hanswer
  generalize (s.setGain p.gain).openSection = x at hsection hok
  cases hsection with
  | refused => exact absurd hok (by simp)
  | already hopen => exact hopen
  | null => simp [Session.openNull, Session.note]
  | device => simp [Session.adopt, Session.note]

/-- **The error of a clip is the first failure that it met.** -/
theorem ClipPlayer.render_first (p : ClipPlayer) (host : σ) (device : Option String)
    (tail : Option Duration) (format : Format) (input : Input) {e : RenderError}
    (h : (p.render host device tail format fun _ => input : Rendered σ κ ClipReport).result
      = some (.error (.error e))) : p.MeetsFirst κ host device tail format input e := by
  unfold render at h
  by_cases hfast : Clip.maxRate < format.rate
  · rw [if_pos hfast] at h
    have htold := Fault.error.inj (Except.error.inj (Option.some.inj h))
    exact .fast hfast htold.symm
  rw [if_neg hfast] at h
  have hslow := Nat.le_of_not_lt hfast
  unfold withSession at h
  cases hcreate : (Session.create host format device p.config : Except _ (Session σ κ)) with
  | error refusal =>
      rw [hcreate] at h
      obtain rfl := Fault.error.inj (Except.error.inj (Option.some.inj h))
      unfold Session.create at hcreate
      split at hcreate
      · exact absurd hcreate (by simp)
      next hunsupported =>
        exact .refused hslow (Bool.not_eq_true _ ▸ hunsupported) (Except.error.inj hcreate).symm
  | ok s =>
      rw [hcreate] at h
      dsimp only at h
      cases hopen : (p.fresh s).openRoute with
      | mk answer t =>
          rw [show (SteppedSession.mk (s.setGain p.gain) 0).openRoute = _ from hopen] at h
          cases answer with
          | error fault =>
              obtain rfl := Except.error.inj (Option.some.inj h)
              obtain ⟨id, hselected, hcause⟩ :=
                Session.openFault_of_openSection (congrArg Prod.fst hopen)
              obtain ⟨_, hs⟩ := Session.create_ok hcreate
              have hdevice : device = some id := by
                rw [hs] at hselected
                exact hselected
              refine .unopened hslow hcreate hdevice ?_
              cases hcause with
              | refused hasked => exact .refused hasked
              | unbuilt hasked hbuild => exact .unbuilt hasked hbuild
          | ok =>
              dsimp only at h
              cases hstart : t.start with
              | mk answer u =>
                  rw [hstart] at h
                  cases answer with
                  | error fault =>
                      obtain rfl := Except.error.inj (Option.some.inj h)
                      exact .unstarted hslow hcreate hopen (Session.startFault_of_start
                        (opened_open hopen) (congrArg Prod.fst hstart))
                  | ok =>
                      have hframe := format.align_pos (Session.create_ok hcreate).1
                      exact .amid hslow hcreate hopen hstart (Clip.head_of_error hframe h)

end Clips

end PcmRender
