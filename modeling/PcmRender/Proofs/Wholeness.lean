/-
  PcmRender.Proofs.Wholeness — **a clip arrives whole.**

  A player offers the whole frames of its input, however they are read, until they are taken
  (`stream_books`).  So the pieces that its session took make up these frames, whenever there is a
  report.  Noting the pieces changes nothing, and the session that took them is the one that the player
  opened, started and hands back (`ClipPlayer.Renders`).

  What the device has received of it by then follows from the invariant of Proofs/Hearing, which every
  offer keeps: with the drain task of the session moving in step (`Recorded.books_heard`), and with
  whatever drain tasks and the machine do between the sections of the player
  (`SharedOutlet.books_accepted`).

  Main statements:
    * `Recorded.stream_whole` — what any outlet took of a clip with a report,
    * `ClipPlayer.render_renders` — where the report of a clip comes from,
    * `ClipPlayer.arrives_whole` — clips as they are played and checked, and as they are heard.
-/
import PcmRender.Proofs.Hearing
import PcmRender.Proofs.Viewing
import PcmRender.Session.Shared

namespace PcmRender

/-! ## §1. The pieces of a clip. -/

/-- A report of all whole frames of some data, which were taken piece by piece. -/
structure ClipReport.Whole (report : ClipReport) (frame : Nat) (data : List UInt8)
    (pieces : List (List UInt8)) : Prop where
  bytes : report.bytes = data.length / frame * frame
  taken : pieces.flatten = data.take report.bytes
  cancelled : report.cancelled = false

/-- **What an outlet took of a clip with a report are the whole frames of its data**, if nobody cancels
an outlet that is as `lasting` says. -/
theorem Recorded.stream_whole {ω : Type} [Outlet ω] (lasting : ω → Prop)
    (hfeed : ∀ o chunk, lasting o → lasting (Outlet.feed o chunk).2)
    (hlook : ∀ o, lasting o → (Outlet.checkCancel o).1 = false ∧ lasting (Outlet.checkCancel o).2)
    (hplay : ∀ o deadline, lasting o →
      (Outlet.playOut o deadline).1 = false ∧ lasting (Outlet.playOut o deadline).2)
    {format : Format} (hframe : 0 < format.align) (chunk : Nat) (tail : Option Duration) {outlet : ω}
    (hlasting : lasting outlet) {events : List ReadEvent} {data : List UInt8}
    (hevents : Brings events data) {report : ClipReport} {after : Recorded ω}
    (h : Clip.stream format chunk tail ({ outlet } : Recorded ω) events = (some (.ok report), after)) :
    report.Whole format.align data after.slices := by
  have hbooks : Outlet.Books 1 (fun r : Recorded ω => lasting r.outlet) (fun r => r.slices.flatten) :=
    Recorded.books hfeed (fun o ho => (hlook o ho).2) (fun o deadline ho => (hplay o deadline ho).2)
  have hfree : Outlet.Uncancelled (fun r : Recorded ω => lasting r.outlet) :=
    fun r hr => ⟨(hlook r.outlet hr).1, fun deadline => (hplay r.outlet deadline hr).1⟩
  have hfirst : (fun r : Recorded ω => lasting r.outlet) { outlet } := hlasting
  have hstreamed := Clip.stream_books hbooks (Nat.one_dvd format.align) hframe chunk tail hfirst hevents
  rw [h] at hstreamed
  obtain ⟨_, ⟨given, hgiven, _, hall⟩, hnobody⟩ := hstreamed
  have hgone : report.cancelled = false := hnobody hfree report rfl
  obtain ⟨heq, hbytes⟩ := hall report rfl hgone
  rw [Clip.length_whole] at hbytes
  refine ⟨hbytes, ?_, hgone⟩
  rw [hbytes]
  exact hgiven.trans heq

/-! ## §2. The session of a clip. -/

section Sessions

variable {σ κ : Type} [Host σ] [Stage κ]

/-- A player begins with a session of its own, which it opens and starts. -/
structure ClipPlayer.Begins (p : ClipPlayer) (host : σ) (format : Format)
    (opened started : Session σ κ) : Prop where
  opens : ∃ s, Session.create host format p.device p.config = .ok s
    ∧ (s.setGain p.gain).openRoute = (.ok (), opened)
  starts : opened.start = (.ok (), started)

/-- A session becomes the outlet of a clip when its drain task has run its first cycle. -/
def SteppedSession.running (started : Session σ κ) : SteppedSession σ κ :=
  settle { session := started }

/-- A clip was rendered from a session on.  Its report is that of the loop over its input, with that
session as the outlet; noting the pieces that the session takes beside it changes nothing; and the
session is handed back as the loop has left it, stopped and closed, with one more line in the log. -/
structure ClipPlayer.Renders (p : ClipPlayer) (format : Format) (tail : Option Duration)
    (input : Input) (session : SteppedSession σ κ) (report : ClipReport)
    (after : Recorded (SessionOutlet σ κ)) (done : Rendered σ κ ClipReport) : Prop where
  result : done.result = some (.ok report)
  streamed : Clip.stream format p.chunk tail (SessionOutlet.mk session input.cancelled input.cancelAt)
    input.events = (some (.ok report), after.outlet)
  noted : Clip.stream format p.chunk tail
    ({ outlet := ⟨session, input.cancelled, input.cancelAt⟩ } : Recorded (SessionOutlet σ κ))
    input.events = (some (.ok report), after)
  session : done.session = some (after.outlet.session.stop.2.close.2.map fun s =>
    { s with log := s.log ++ closingLine (.ok report) })

theorem ClipPlayer.Begins.supported {p : ClipPlayer} {host : σ} {format : Format}
    {opened started : Session σ κ} (h : p.Begins host format opened started) :
    format.isSupported = true := by
  obtain ⟨⟨_, hcreate, _⟩, _⟩ := h
  exact (Session.create_ok hcreate).1

/-- A new session has no drain task that could run while it is opened. -/
theorem SteppedSession.openRoute_created {host : σ} {format : Format} {device : Option String}
    {config : SessionConfig} {s : Session σ κ}
    (hcreate : Session.create host format device config = .ok s) (gain : Single) :
    (SteppedSession.mk (s.setGain gain) 0).openRoute
      = ((s.setGain gain).openRoute.1, ⟨(s.setGain gain).openRoute.2, 0⟩) := by
  have hfree : (s.setGain gain).openRoute.2.task = none := by
    obtain ⟨_, rfl⟩ := Session.create_ok hcreate
    exact Session.task_openSection _
  have hsettled : settle ⟨(s.setGain gain).openRoute.2, 0⟩ = ⟨(s.setGain gain).openRoute.2, 0⟩ := by
    unfold settle
    rw [hfree]
  show ((s.setGain gain).openRoute.1, settle ⟨(s.setGain gain).openRoute.2, 0⟩) = _
  rw [hsettled]

/-- A player that begins renders with the session that it has started. -/
theorem ClipPlayer.Begins.withSession_eq {p : ClipPlayer} {host : σ} {format : Format}
    {opened started : Session σ κ} (h : p.Begins host format opened started) {ρ : Type}
    (body : SteppedSession σ κ → Rendered σ κ ρ) :
    withSession host format p.device p.config p.gain body = body (.running started) := by
  obtain ⟨⟨s, hcreate, hopen⟩, hstart⟩ := h
  have hopened := SteppedSession.openRoute_created hcreate p.gain
  have hstarted : (SteppedSession.mk opened 0).start = (opened.start.1, .running opened.start.2) := rfl
  rw [hopen] at hopened
  rw [hstart] at hstarted
  unfold withSession
  rw [hcreate]
  dsimp only
  rw [hopened]
  dsimp only
  rw [hstarted]

/-- **There is no report without a session** that was opened and started. -/
theorem ClipPlayer.begins_of_report (p : ClipPlayer) {ρ : Type} {host : σ} {format : Format}
    {body : SteppedSession σ κ → Rendered σ κ ρ} {report : ρ}
    (h : (withSession host format p.device p.config p.gain body).result = some (.ok report)) :
    ∃ opened started : Session σ κ, p.Begins host format opened started := by
  unfold withSession at h
  split at h
  · exact absurd h (by simp)
  next s hcreate =>
    rw [SteppedSession.openRoute_created hcreate] at h
    cases hopen : (s.setGain p.gain).openRoute with
    | mk answer opened =>
        rw [hopen] at h
        cases answer with
        | error fault => exact absurd h (by simp [notRendered])
        | ok _ =>
            dsimp only at h
            cases hstart : opened.start with
            | mk answer started =>
                rw [show (SteppedSession.mk opened 0).start = (opened.start.1, .running opened.start.2)
                  from rfl, hstart] at h
                cases answer with
                | error fault => exact absurd h (by simp [notRendered])
                | ok _ => exact ⟨opened, started, ⟨s, hcreate, hopen⟩, hstart⟩

/-- **The report of a clip comes from the loop over its input on the session that is handed back.** -/
theorem ClipPlayer.render_renders (p : ClipPlayer) (host : σ) (device : Option String)
    (tail : Option Duration) (format : Format) (input : Input) {report : ClipReport}
    (h : (p.render host device tail format fun _ => input : Rendered σ κ ClipReport).result
      = some (.ok report)) :
    ∃ (opened started : Session σ κ) (after : Recorded (SessionOutlet σ κ)),
      ({ p with device } : ClipPlayer).Begins host format opened started
        ∧ p.Renders format tail input (.running started) report after
          (p.render host device tail format fun _ => input) := by
  by_cases hfast : Clip.maxRate < format.rate
  · unfold render at h
    rw [if_pos hfast] at h
    exact absurd h (by simp)
  have hrender : (p.render host device tail format fun _ => input : Rendered σ κ ClipReport)
      = withSession host format device p.config p.gain (p.renderOn format tail fun _ => input) :=
    if_neg hfast
  rw [hrender] at h ⊢
  obtain ⟨opened, started, hbegins⟩ := ({ p with device } : ClipPlayer).begins_of_report h
  have hsession := hbegins.withSession_eq (p.renderOn format tail fun _ => input)
  dsimp only at hsession
  rw [hsession] at h ⊢
  have hview := Clip.stream_sees Recorded.sees format p.chunk tail
    ({ outlet := ⟨.running started, input.cancelled, input.cancelAt⟩ } : Recorded (SessionOutlet σ κ))
    input.events
  obtain ⟨result, after, hnoted⟩ : ∃ result after, Clip.stream format p.chunk tail
      ({ outlet := ⟨.running started, input.cancelled, input.cancelAt⟩ } :
        Recorded (SessionOutlet σ κ)) input.events = (result, after) := ⟨_, _, rfl⟩
  rw [hnoted] at hview
  have hsame : (p.renderOn format tail (fun _ => input) (.running started)).result = result :=
    congrArg Prod.fst hview
  obtain rfl : result = some (.ok report) := hsame.symm.trans h
  refine ⟨opened, started, after, hbegins, h, hview, hnoted, ?_⟩
  unfold renderOn
  dsimp only at hview ⊢
  rw [hview]
  rfl

/-- **Whatever a clip came to, its session is handed back as the loop has left it**, stopped and closed,
with the lines in the log that close it. -/
theorem ClipPlayer.Begins.session_eq {p : ClipPlayer} {host : σ} {format : Format}
    {opened started : Session σ κ} (h : p.Begins host format opened started) {input : Input}
    {t : SteppedSession σ κ} (ht : (p.play host format input).session = some t) :
    ∃ (after : Recorded (SessionOutlet σ κ)) (lines : List LogLine),
      (Clip.stream format p.chunk (some p.tail)
        ({ outlet := ⟨.running started, input.cancelled, input.cancelAt⟩ } :
          Recorded (SessionOutlet σ κ)) input.events).2 = after
        ∧ t = after.outlet.session.stop.2.close.2.map fun s => { s with log := s.log ++ lines } := by
  unfold play playAfter render at ht
  split at ht
  · exact absurd ht (by simp)
  rw [h.withSession_eq] at ht
  have hview := Clip.stream_sees Recorded.sees format p.chunk (some p.tail)
    ({ outlet := ⟨.running started, input.cancelled, input.cancelAt⟩ } : Recorded (SessionOutlet σ κ))
    input.events
  unfold renderOn at ht
  dsimp only at hview ht
  rw [hview] at ht
  exact ⟨_, _, rfl, (Option.some.inj ht).symm⟩

/-- Nobody cancels a session now or later. -/
def SessionOutlet.Uncancelled (o : SessionOutlet σ κ) : Prop :=
  o.cancelled = false ∧ o.cancelAt = none

theorem SessionOutlet.uncancelled_playOut {o : SessionOutlet σ κ} (h : o.Uncancelled)
    (deadline : Nat) : (o.playOut deadline).1 = false ∧ (o.playOut deadline).2.Uncancelled := by
  obtain ⟨hnow, hlater⟩ := h
  unfold playOut
  dsimp only
  rw [hnow, hlater]
  split
  · exact ⟨rfl, rfl, rfl⟩
  · exact ⟨rfl, rfl, rfl⟩

/-- **A clip with a report was taken as a whole**: the pieces make up the whole frames of its data. -/
theorem ClipPlayer.Renders.whole {p : ClipPlayer} {format : Format} {tail : Option Duration}
    {events : List ReadEvent} {session : SteppedSession σ κ} {report : ClipReport}
    {after : Recorded (SessionOutlet σ κ)} {done : Rendered σ κ ClipReport}
    (h : p.Renders format tail { events } session report after done)
    (hsupported : format.isSupported = true) {data : List UInt8} (hevents : Brings events data) :
    report.Whole format.align data after.slices :=
  Recorded.stream_whole SessionOutlet.Uncancelled (fun _ _ hfree => hfree)
    (fun _ hfree => ⟨hfree.1, hfree⟩)
    (fun _ deadline hfree => SessionOutlet.uncancelled_playOut hfree deadline)
    (format.align_pos hsupported) p.chunk tail ⟨rfl, rfl⟩ hevents h.noted

end Sessions

/-! ## §3. A session that is heard while its drain task moves in step. -/

section Hearing

variable {σ κ : Type} [Host σ] [Stage κ] {received : σ → List UInt8} {frame : Nat}
  {endpoint : Endpoint} {before accepted : List UInt8}

omit [Host σ] [Stage κ] in
/-- A producer is told the same by a section and by the outlet. -/
theorem Outlet.takenBy_mapError (chunk : List UInt8) (answer : Except RenderError Feed) :
    Outlet.takenBy chunk (answer.mapError Fault.error) = (FeedStep.done answer).taken chunk := by
  cases answer with
  | error e => rfl
  | ok answer => cases answer <;> rfl

omit [Host σ] [Stage κ] in
/-- A second section takes nothing. -/
theorem Outlet.takenBy_feedAgain (chunk : List UInt8) (s : Session σ κ) (now : Instant) :
    Outlet.takenBy chunk ((s.feedAgain now).mapError Fault.error) = [] := by
  unfold Session.feedAgain
  split
  · split <;> rfl
  · rfl

/-- An offer of whole frames, which only its first section can take. -/
theorem Session.Heard.feedSection {s : Session σ κ}
    (h : s.Heard received frame endpoint before accepted) {chunk : List UInt8}
    (hchunk : frame ∣ chunk.length) (now : Instant) :
    (s.feedSection chunk now).2.Heard received frame endpoint before
        (accepted ++ (s.feedSection chunk now).1.taken chunk)
      ∧ frame ∣ ((s.feedSection chunk now).1.taken chunk).length := by
  have hfed : (s.passing (.feed chunk now)).Heard received frame endpoint before
      (accepted ++ (s.entry (.feed chunk now)).accepted) := by
    refine h.passing trivial (fun _ => nofun) ?_
    rintro offered _ ⟨⟩
    exact hchunk
  have hwhole := hfed.whole
  rw [List.length_append, Nat.dvd_add_right h.whole] at hwhole
  exact ⟨hfed, hwhole⟩

/-- What an offer takes is what its first section takes. -/
theorem SessionOutlet.takenBy_feed (o : SessionOutlet σ κ) (chunk : List UInt8) :
    Outlet.takenBy chunk (o.feed chunk).1
      = (o.session.session.feedSection chunk o.session.now).1.taken chunk := by
  unfold feed SteppedSession.feedAround
  generalize o.session.session.feedSection chunk o.session.now = x
  obtain ⟨answer, fed⟩ := x
  cases answer with
  | done answer => exact Outlet.takenBy_mapError chunk answer
  | awaitSpace seen period => exact Outlet.takenBy_feedAgain chunk _ _
  | awaitSwitch seen => rfl

/-- **An offer adds what its producer is told**, with a tick behind its first section. -/
theorem SessionOutlet.heard_feed {o : SessionOutlet σ κ}
    (h : o.session.session.Heard received frame endpoint before accepted) {chunk : List UInt8}
    (hchunk : frame ∣ chunk.length) :
    (o.feed chunk).2.session.session.Heard received frame endpoint before
        (accepted ++ Outlet.takenBy chunk (o.feed chunk).1)
      ∧ frame ∣ (Outlet.takenBy chunk (o.feed chunk).1).length := by
  obtain ⟨hfed, hwhole⟩ := h.feedSection hchunk o.session.now
  rw [SessionOutlet.takenBy_feed]
  exact ⟨(Session.heard_drains received frame endpoint before _).feedAround hfed, hwhole⟩

/-- **The pieces that a session takes are what it is heard of.** -/
theorem Recorded.books_heard (received : σ → List UInt8) (frame : Nat) (endpoint : Endpoint)
    (before : List UInt8) :
    Outlet.Books frame
      (fun r : Recorded (SessionOutlet σ κ) =>
        r.outlet.session.session.Heard received frame endpoint before r.slices.flatten)
      (fun r => r.slices.flatten) where
  feed r chunk h hchunk := by
    obtain ⟨hfed, hwhole⟩ := SessionOutlet.heard_feed h hchunk
    have hbooked : (r.slices ++ [Outlet.takenBy chunk (r.outlet.feed chunk).1]).flatten
        = r.slices.flatten ++ Outlet.takenBy chunk (r.outlet.feed chunk).1 := by
      rw [List.flatten_append, List.flatten_singleton]
    rw [← hbooked] at hfed
    exact ⟨hfed, hbooked, hwhole⟩
  checkCancel r h := ⟨h, rfl⟩
  playOut r deadline h := ⟨(Session.heard_drains _ _ _ _ _).playOut h deadline, rfl⟩

/-- A player that begins at full volume on a device without conversion is not heard yet. -/
theorem ClipPlayer.Begins.heard {p : ClipPlayer} {host : σ} {format : Format}
    {opened started : Session σ κ} (h : p.Begins host format opened started)
    (hgain : p.gain = Single.one) {r : DeviceRoute κ} (hr : opened.route = .device r)
    (hplain : r.stage = none) (hkeeps : r.endpoint.Keeps format.align received) :
    started.Heard received format.align r.endpoint (received opened.host) [] := by
  obtain ⟨⟨s, hcreate, hopen⟩, hstart⟩ := h
  obtain ⟨_, rfl⟩ := Session.create_ok hcreate
  rw [hgain] at hopen
  have hsource : r.source = format := Session.opened_source rfl hopen hr
  have hone : opened.gain = Single.one := by
    have hkept := Session.gain_openSection (Session.setGain
      ({ host, config := p.config, source := format, selected := p.device,
         period := p.config.period.kept } : Session σ κ) Single.one)
    rw [show Session.openSection _ = _ from hopen] at hkept
    rw [hkept]
    show Gain.limit Single.one = Single.one
    decide
  rw [← hsource] at hkeeps ⊢
  obtain ⟨run, haside, hrun⟩ := Session.start_flow received hstart
  obtain ⟨hheard, _⟩ := (Session.heard_opened rfl hopen hr hplain hkeeps hone).flow run haside
  rw [hrun] at hheard
  exact hheard

end Hearing

/-! ## §4. A session that is shared. -/

namespace SharedOutlet

variable {σ κ : Type} [Host σ] [Stage κ] {received : σ → List UInt8} {frame : Nat}
  {endpoint : Endpoint} {before : List UInt8} {o : SharedOutlet σ κ}

theorem cancelled_meet (o : SharedOutlet σ κ) : o.meet.cancelled = o.cancelled := by
  unfold meet
  split <;> rfl

theorem cancelled_feed (o : SharedOutlet σ κ) (chunk : List UInt8) :
    (o.feed chunk).2.cancelled = o.cancelled := by
  have hfed : (o.meet.pass (.feed chunk o.meet.now)).cancelled = o.cancelled := cancelled_meet o
  unfold feed
  dsimp only
  split
  · exact hfed
  · exact (cancelled_meet _).trans hfed
  · exact hfed

/-- A session at full volume whose stream is left to it by all others, and which nobody cancels. -/
structure Sound (received : σ → List UInt8) (frame : Nat) (endpoint : Endpoint) (before : List UInt8)
    (o : SharedOutlet σ κ) : Prop where
  heard : o.session.Heard received frame endpoint before o.books.accepted
  aside : ∀ next ∈ o.schedule, ∀ passing ∈ next.others, passing.OffersNothing received
  uncancelled : o.cancelled = false

theorem sound_meet (h : Sound received frame endpoint before o) :
    Sound received frame endpoint before o.meet ∧ o.meet.books.accepted = o.books.accepted := by
  obtain ⟨hheard, haside, hfree⟩ := h
  unfold meet
  cases hschedule : o.schedule with
  | nil => exact ⟨⟨hheard, haside, hfree⟩, rfl⟩
  | cons next rest =>
      rw [hschedule] at haside
      obtain ⟨hlater, hnone⟩ := hheard.flow next.others (haside next List.mem_cons_self)
      have hbooks : (o.books.append (o.session.flow next.others).1).accepted = o.books.accepted := by
        show o.books.accepted ++ (o.session.flow next.others).1.accepted = _
        rw [hnone, List.append_nil]
      rw [← hbooks] at hlater
      exact ⟨⟨hlater, fun other hother => haside other (List.mem_cons_of_mem _ hother), hfree⟩, hbooks⟩

/-- **The books of a shared session are books of an outlet**, whatever the others do meanwhile. -/
theorem books_accepted (received : σ → List UInt8) (frame : Nat) (endpoint : Endpoint)
    (before : List UInt8) :
    Outlet.Books frame (Sound (κ := κ) received frame endpoint before)
      (fun o => o.books.accepted) where
  feed o chunk h hchunk := by
    obtain ⟨hmet, hsame⟩ := sound_meet h
    obtain ⟨hheard, hwhole⟩ := hmet.heard.feedSection hchunk o.meet.now
    have hfed : Sound received frame endpoint before (o.meet.pass (.feed chunk o.meet.now)) :=
      ⟨hheard, hmet.aside, hmet.uncancelled⟩
    have hbooked : (o.meet.pass (.feed chunk o.meet.now)).books.accepted
        = o.books.accepted ++ (o.meet.session.feedSection chunk o.meet.now).1.taken chunk := by
      rw [← hsame]
      rfl
    show Sound received frame endpoint before (o.feed chunk).2
      ∧ (o.feed chunk).2.books.accepted = o.books.accepted ++ Outlet.takenBy chunk (o.feed chunk).1
      ∧ frame ∣ (Outlet.takenBy chunk (o.feed chunk).1).length
    unfold feed
    dsimp only
    -- Only the first section of a feed can take something; what comes behind it is told nothing.
    cases hsection : (o.meet.session.feedSection chunk o.meet.now).1 with
    | done answer =>
        rw [hsection] at hwhole hbooked
        dsimp only
        rw [Outlet.takenBy_mapError]
        exact ⟨hfed, hbooked, hwhole⟩
    | awaitSpace seen period =>
        rw [hsection] at hbooked
        obtain ⟨hlater, hkept⟩ := sound_meet hfed
        dsimp only
        rw [Outlet.takenBy_feedAgain, hkept]
        exact ⟨hlater, hbooked, Nat.dvd_zero _⟩
    | awaitSwitch seen =>
        rw [hsection] at hbooked
        exact ⟨hfed, hbooked, Nat.dvd_zero _⟩
  checkCancel o h := ⟨h, rfl⟩
  playOut o deadline h := sound_meet h

end SharedOutlet

/-! ## §5. Clips. -/

section Clips

variable {σ κ : Type} [Host σ] [Stage κ]

/-- **A clip arrives whole, whatever its reader does.**

Let an input bring some data before its first empty read, in pieces of any size and with any number of
interruptions, and let nobody cancel.  Whenever playing or checking it comes to a report, the session
that was opened and started for it, and that is handed back in the end, has taken the whole frames of the
data in its pieces, and these are what the report counts; so neither depends on how the input was read or
offered.  The same holds of a report whatever happens to the session meanwhile.

On a device that needs no conversion, at full volume, the device has received whole frames from the
beginning of the data, with whole frames of silence between them: when the session of a clip is handed
back, however the clip has ended; and whatever drain tasks and the machine do before, between and after
the offers. -/
theorem ClipPlayer.arrives_whole (p : ClipPlayer) (host : σ) (format : Format)
    {events : List ReadEvent} {data : List UInt8} (hevents : Brings events data) :
    (∀ report, (p.play host format { events } : Rendered σ κ ClipReport).result = some (.ok report) →
      ∃ (opened started : Session σ κ) (after : Recorded (SessionOutlet σ κ)),
        p.Begins host format opened started
        ∧ p.Renders format (some p.tail) { events } (.running started) report after
          (p.play host format { events })
        ∧ report.Whole format.align data after.slices)
    ∧ (∀ report, (p.check host format events : Rendered σ κ ClipReport).result = some (.ok report) →
      ∃ (opened started : Session σ κ) (after : Recorded (SessionOutlet σ κ)),
        ({ p with device := none } : ClipPlayer).Begins host format opened started
        ∧ p.Renders format none { events := events.filter (· != .cancelled) } (.running started) report
          after (p.check host format events)
        ∧ report.Whole format.align data after.slices)
    ∧ (format.isSupported = true → ∀ (session : Session σ κ) (amid : List (Interlude σ))
        (now : Instant) (patience : Nat) (report : ClipReport) (after : Recorded (SharedOutlet σ κ)),
      Clip.stream format p.chunk (some p.tail)
          ({ outlet := { session, schedule := amid, now, patience } } : Recorded (SharedOutlet σ κ))
          events = (some (.ok report), after) →
        report.Whole format.align data after.slices)
    ∧ ∀ (received : σ → List UInt8) (opened started : Session σ κ) (r : DeviceRoute κ),
      p.gain = Single.one → p.Begins host format opened started → opened.route = .device r →
      r.stage = none → r.endpoint.Keeps format.align received →
      ((∀ host, received (Host.release host r.endpoint) = received host) →
        ∀ t, (p.play host format { events } : Rendered σ κ ClipReport).session = some t →
          FramedStart format.align data (received opened.host) (received t.session.host))
      ∧ ∀ (amid : List (Interlude σ)) (now : Instant) (patience : Nat)
        (done : Option (Except Fault ClipReport) × SharedOutlet σ κ) (late : List (Session.Passing σ)),
      (∀ next ∈ amid, ∀ passing ∈ next.others, passing.OffersNothing received) →
      (∀ passing ∈ late, passing.OffersNothing received) →
      Clip.stream format p.chunk (some p.tail)
        ({ session := started, schedule := amid, now, patience } : SharedOutlet σ κ) events = done →
      FramedStart format.align data (received opened.host)
        (received (done.2.session.flow late).2.host)
      ∧ ∀ report, done.1 = some (.ok report) →
        report.Whole format.align data [done.2.books.accepted] := by
  refine ⟨fun report h => ?_, fun report h => ?_, ?_, ?_⟩
  · obtain ⟨opened, started, after, hbegins, hrenders⟩ := p.render_renders host _ _ format { events } h
    exact ⟨opened, started, after, hbegins, hrenders, hrenders.whole hbegins.supported hevents⟩
  · obtain ⟨opened, started, after, hbegins, hrenders⟩ := p.render_renders host _ _ format
      { events := events.filter (· != .cancelled) } h
    exact ⟨opened, started, after, hbegins, hrenders, hrenders.whole hbegins.supported hevents.filter⟩
  · intro hsupported session amid now patience report after h
    exact Recorded.stream_whole (fun o => o.cancelled = false)
      (fun o chunk hfree => (o.cancelled_feed chunk).trans hfree) (fun _ hfree => ⟨hfree, hfree⟩)
      (fun o _ hfree => ⟨hfree, o.cancelled_meet.trans hfree⟩) (format.align_pos hsupported) p.chunk
      (some p.tail) rfl hevents h
  intro received opened started r hgain hbegins hr hplain hkeeps
  have hheard := hbegins.heard hgain hr hplain hkeeps
  have hframe : 0 < format.align := format.align_pos hbegins.supported
  refine ⟨fun hrelease t ht => ?_, ?_⟩
  · obtain ⟨after, lines, hafter, rfl⟩ := hbegins.session_eq ht
    have hrunning := (Session.heard_drains received format.align r.endpoint (received opened.host) []).settle
      (s := { session := started }) hheard
    have hstreamed := Clip.stream_books
      (Recorded.books_heard received format.align r.endpoint (received opened.host)) (Nat.dvd_refl _)
      hframe p.chunk (some p.tail)
      (show Session.Heard _ _ _ _ ({ outlet := ⟨.running started, false, none⟩ } :
        Recorded (SessionOutlet σ κ)).outlet.session.session [] from hrunning) hevents
    obtain ⟨hend, ⟨given, hgiven, hfront, _⟩, _⟩ := hstreamed
    rw [hafter] at hend hgiven
    obtain rfl : after.slices.flatten = given := hgiven
    exact (SteppedSession.heard_close hend hrelease).of_front (hfront.trans (List.take_prefix _ _))
  intro amid now patience done late hamid hlate hdone
  have hsound : SharedOutlet.Sound received format.align r.endpoint (received opened.host)
      { session := started, schedule := amid, now, patience } := ⟨hheard, hamid, rfl⟩
  have hbooks := SharedOutlet.books_accepted (κ := κ) received format.align r.endpoint
    (received opened.host)
  have hstreamed := Clip.stream_books hbooks (Nat.dvd_refl _) hframe p.chunk (some p.tail) hsound
    hevents
  rw [hdone] at hstreamed
  obtain ⟨hend, ⟨given, hgiven, hfront, hall⟩, hnobody⟩ := hstreamed
  obtain rfl : done.2.books.accepted = given := hgiven
  constructor
  · -- Others add nothing to what was accepted, so this is what is heard in the end.
    obtain ⟨hlast, _⟩ := hend.heard.flow late hlate
    exact hlast.framed.of_front (hfront.trans (List.take_prefix _ _))
  · intro report hreport
    have hgone : report.cancelled = false :=
      hnobody (fun o h => ⟨h.uncancelled, fun _ => h.uncancelled⟩) report hreport
    obtain ⟨heq, hbytes⟩ := hall report hreport hgone
    rw [Clip.length_whole] at hbytes
    refine ⟨hbytes, ?_, hgone⟩
    rw [List.flatten_singleton, heq, hbytes]
    rfl

end Clips

/-- Two samples and a half, in reads that keep to no sample. -/
def slowReader : List ReadEvent :=
  [.bytes [1], .interrupted, .bytes [2, 3], .interrupted, .bytes [4, 5], .bytes [], .bytes [9]]

/-- A player that reads one sample at a time. -/
def smallChunks : ClipPlayer where
  device := some "speaker"
  chunk := 3

/-- A speaker that plays whatever it has received before it is asked for its room. -/
def promptSpeaker : DeviceBank where
  devices := [{ id := "speaker", name := "Speaker", bufferFrames := 4, free := 4, faults := [.refill] }]

/-- The silence of the ring is played, then a sample with one of silence behind it, then a sample. -/
def unevenTurns : List (Interlude DeviceBank) :=
  [⟨[.turn 1], ⟨0, 0⟩⟩, ⟨[.elsewhere (·.setFree "speaker" 2), .turn 1], ⟨0, 0⟩⟩,
    ⟨[.elsewhere (·.setFree "speaker" 1), .turn 1], ⟨0, 0⟩⟩]

/-- The two samples are taken when the clip is played and when it is checked, and they arrive, whether
the drain task moves in step with the player or not. -/
theorem ClipPlayer.arrives_whole_slowReader :
    (∃ (opened started : Session DeviceBank (LinearResampler Double Single))
        (after : Recorded (SessionOutlet DeviceBank (LinearResampler Double Single)))
        (t : SteppedSession DeviceBank (LinearResampler Double Single)),
      smallChunks.Begins promptSpeaker (Format.pcm 8000 16 1) opened started
        ∧ smallChunks.Renders (Format.pcm 8000 16 1) (some smallChunks.tail) { events := slowReader }
          (.running started) ⟨4, ⟨250000⟩, false⟩ after
          (smallChunks.play promptSpeaker (Format.pcm 8000 16 1) { events := slowReader })
        ∧ ClipReport.Whole ⟨4, ⟨250000⟩, false⟩ 2 [1, 2, 3, 4, 5] after.slices
        ∧ (smallChunks.play promptSpeaker (Format.pcm 8000 16 1) { events := slowReader }).session = some t
        ∧ t.session.host.written "speaker"
          = [0, 0, 0, 0, 0, 0, 0, 0, 1, 2, 0, 0, 0, 0, 0, 0, 3, 4, 0, 0, 0, 0, 0, 0]
        ∧ FramedStart 2 [1, 2, 3, 4, 5] [] (t.session.host.written "speaker"))
    ∧ (∃ (opened started : Session DeviceBank (LinearResampler Double Single))
        (after : Recorded (SessionOutlet DeviceBank (LinearResampler Double Single))),
      ({ smallChunks with device := none } : ClipPlayer).Begins promptSpeaker (Format.pcm 8000 16 1)
          opened started
        ∧ smallChunks.Renders (Format.pcm 8000 16 1) none
          { events := slowReader.filter (· != .cancelled) } (.running started) ⟨4, ⟨250000⟩, false⟩ after
          (smallChunks.check promptSpeaker (Format.pcm 8000 16 1) slowReader)
        ∧ ClipReport.Whole ⟨4, ⟨250000⟩, false⟩ 2 [1, 2, 3, 4, 5] after.slices)
    ∧ ∃ (opened started : Session DeviceBank (LinearResampler Double Single)) (done : _ × SharedOutlet
        DeviceBank (LinearResampler Double Single)),
      smallChunks.Begins Session.quietSpeaker.host (Format.pcm 8000 16 1) opened started
        ∧ Clip.stream (Format.pcm 8000 16 1) 3 (some smallChunks.tail)
          { session := started, schedule := unevenTurns, now := ⟨0, 0⟩, patience := 1 } slowReader = done
        ∧ (done.2.session.flow [.elsewhere (·.setFree "speaker" 1), .turn 1]).2.host.written "speaker"
          = [0, 0, 0, 0, 0, 0, 0, 0, 1, 2, 0, 0, 3, 4, 0, 0]
        ∧ FramedStart 2 [1, 2, 3, 4, 5] []
          ((done.2.session.flow [.elsewhere (·.setFree "speaker" 1), .turn 1]).2.host.written
            "speaker") := by
  have hbrings : Brings slowReader [1, 2, 3, 4, 5] :=
    .read (by decide) (.interrupted (.read (by decide) (.interrupted (.read (by decide)
      (.closed _)))))
  obtain ⟨hplay, hcheck, _, hheard⟩ := ClipPlayer.arrives_whole (σ := DeviceBank)
    (κ := LinearResampler Double Single) smallChunks promptSpeaker (Format.pcm 8000 16 1) hbrings
  refine ⟨?_, hcheck ⟨4, ⟨250000⟩, false⟩ rfl, ?_⟩
  · obtain ⟨opened, started, after, hbegins, hrenders, hwhole⟩ := hplay ⟨4, ⟨250000⟩, false⟩ rfl
    obtain ⟨t, ht⟩ : ∃ t, (smallChunks.play promptSpeaker (Format.pcm 8000 16 1)
        { events := slowReader } : Rendered DeviceBank (LinearResampler Double Single)
          ClipReport).session = some t := ⟨_, rfl⟩
    have hwritten : ((smallChunks.play promptSpeaker (Format.pcm 8000 16 1)
        { events := slowReader } : Rendered DeviceBank (LinearResampler Double Single)
          ClipReport).session.map fun t => t.session.host.written "speaker")
        = some [0, 0, 0, 0, 0, 0, 0, 0, 1, 2, 0, 0, 0, 0, 0, 0, 3, 4, 0, 0, 0, 0, 0, 0] := by
      decide +kernel
    rw [ht] at hwritten
    -- The player begins with one session only, and what this one opens can be computed.
    obtain ⟨⟨s, hcreate, hopen⟩, hstart⟩ := id hbegins
    obtain ⟨_, rfl⟩ := Session.create_ok hcreate
    obtain rfl : _ = opened := congrArg Prod.snd hopen
    obtain ⟨hplayed, _⟩ := hheard (fun b => b.written "speaker") _ started _ rfl hbegins rfl rfl
      (DeviceBank.keeps_written _)
    exact ⟨_, started, after, t, hbegins, hrenders, hwhole, ht, Option.some.inj hwritten,
      hplayed (fun b => b.written_release _) t ht⟩
  · obtain ⟨_, _, _, hshared⟩ := ClipPlayer.arrives_whole (σ := DeviceBank)
      (κ := LinearResampler Double Single) smallChunks Session.quietSpeaker.host
      (Format.pcm 8000 16 1) hbrings
    have hbegins : smallChunks.Begins Session.quietSpeaker.host (Format.pcm 8000 16 1)
        Session.quietSpeaker.openSection.2 Session.quietSpeaker.openSection.2.start.2 :=
      ⟨⟨_, rfl, rfl⟩, rfl⟩
    have hamid : ∀ next ∈ unevenTurns, ∀ passing ∈ next.others,
        passing.OffersNothing fun b : DeviceBank => b.written "speaker" := by
      simp [unevenTurns, Session.Passing.OffersNothing, Session.Passing.WritesBySessionOnly,
        DeviceBank.written_setFree]
    obtain ⟨_, hany⟩ := hshared _ _ _ _ rfl hbegins rfl rfl (DeviceBank.keeps_written _)
    obtain ⟨hframed, _⟩ := hany unevenTurns ⟨0, 0⟩ 1 _ [.elsewhere (·.setFree "speaker" 1), .turn 1]
      hamid (by simp [Session.Passing.OffersNothing, Session.Passing.WritesBySessionOnly,
        DeviceBank.written_setFree]) rfl
    exact ⟨_, _, _, hbegins, rfl, by decide +kernel, hframed⟩

end PcmRender
