/-
  PcmRender.Proofs.Threadless — **what is left of a start that gets no thread.**

  A session renders as soon as its stream runs, and before there is a thread for its drain task.  Until
  a start that gets none has taken everything back, producers are let in:

      start    feeds    forget    feeds    refused    feeds    undo
        └─ the session renders, its ring is full ─────────────┘

  The ring was filled up with silence, so none of these feeds gets a byte in, and all that they can do
  is to mark the watchdog.  The end of the start stops the stream again and forgets the drain task; the
  mark it leaves where it is, unlike a stop, which clears it.  So a chunk that is heard in between is
  what such a start leaves behind: observers are told of a stall of a session that does not render, and
  the first feed after the next start reports it.

  Main definitions:
    * `RefusedStart` — a start without a thread, and what is offered between its sections,
    * `Session.withMark` — a session and all that such feeds can change about it.

  Main statements:
    * `flow_feeds` — feeds on a full ring,
    * `flow_refusedStart` — the whole start, up to the log,
    * `onset_flow` — every mark is an old one or that of a feed,
    * `threadless_start_keeps_mark` — every such start, and what comes after it.
-/
import PcmRender.Proofs.Delivery
import PcmRender.Proofs.Diagnostics
import PcmRender.Proofs.Replacing

namespace PcmRender

variable {σ κ : Type}

/-! ## §1. A start that is refused. -/

/-- A chunk, and the time at which it is offered. -/
abbrev TimedChunk := List UInt8 × Instant

/-- A start that gets no thread, and what producers offer between its sections. -/
structure RefusedStart where
  /-- Why there is no thread. -/
  reason : String
  /-- While a drain task that is left over is joined. -/
  early : List TimedChunk := []
  /-- While a thread is asked for. -/
  middle : List TimedChunk := []
  /-- Before the stream is stopped again. -/
  late : List TimedChunk := []

namespace Session

/-- Producers offer chunks, one after the other. -/
def feeds (offers : List TimedChunk) : List (Passing σ) :=
  offers.map fun offer => .feed offer.1 offer.2

/-- The time of a chunk that is heard: there is something in it, and no switch keeps producers out. -/
def heard (s : Session σ κ) (offer : TimedChunk) : Option Instant :=
  if offer.1.isEmpty || s.switching then none else some offer.2

/-- Within a switch nobody is heard. -/
theorem settled_of_heard {s : Session σ κ} {offer : TimedChunk} {now : Instant}
    (h : s.heard offer = some now) : s.switching = false := by
  unfold heard at h
  split at h
  · exact absurd h (by simp)
  next hheard =>
    rw [Bool.or_eq_true, not_or] at hheard
    exact Bool.eq_false_iff.mpr hheard.2

end Session

namespace RefusedStart

/-- All that is offered. -/
def offers (w : RefusedStart) : List TimedChunk := w.early ++ w.middle ++ w.late

/-- The sections of the start of a generation, and of the producers between them. -/
def sections (w : RefusedStart) (generation : Nat) : List (Session.Passing σ) :=
  .start :: (Session.feeds w.early ++ .forget :: (Session.feeds w.middle
    ++ .refused generation w.reason :: (Session.feeds w.late ++ [.undo])))

/-- When the first chunk is heard. -/
def mark (w : RefusedStart) (s : Session σ κ) : Option Instant := w.offers.findSome? s.heard

end RefusedStart

/-! ## §2. Feeds on a full ring. -/

namespace Session

section Feeds

variable {s : Session σ κ} {r : DeviceRoute κ}

/-- A session on a route, with the mark that the first chunk that was heard has left. -/
def withMark (s : Session σ κ) (r : DeviceRoute κ) (mark : Option Instant) : Session σ κ :=
  { s with
    route := .device { r with onset := mark.map Instant.nanos }
    published := mark.bind Instant.published? }

/-- **A feed on a full ring** gets nothing in; it sets the mark if it is heard and there is none. -/
theorem feedSection_withMark (hphase : s.phase = .started) (hfull : r.ring.free = 0)
    (mark : Option Instant) (offer : TimedChunk) :
    ((s.withMark r mark).feedSection offer.1 offer.2).2 = s.withMark r (mark.or (s.heard offer))
      ∧ ((s.withMark r mark).feedSection offer.1 offer.2).1.taken offer.1 = [] := by
  obtain ⟨chunk, now⟩ := offer
  have hstarted : (s.withMark r mark).phase = .started := hphase
  have hsame : (s.withMark r mark).switching = s.switching := rfl
  unfold feedSection heard
  dsimp only
  by_cases hempty : chunk.isEmpty = true
  · rw [if_pos hempty, if_pos (by rw [hempty]; rfl), Option.or_none]
    exact ⟨rfl, List.isEmpty_iff.mp hempty⟩
  · by_cases hswitch : s.switching = true
    · rw [if_neg hempty, hsame, if_pos hswitch, if_pos (by rw [hswitch, Bool.or_true]), Option.or_none]
      exact ⟨rfl, rfl⟩
    · have hheard : ¬ (chunk.isEmpty || s.switching) = true := by
        rw [Bool.or_eq_true]
        exact not_or.mpr ⟨hempty, hswitch⟩
      have hnothing : ¬ 0 < (r.ring.append chunk).1 := by
        rw [Ring.append_count, hfull, Nat.min_zero]
        exact Nat.lt_irrefl 0
      rw [if_neg hempty, hsame, if_neg hswitch, if_neg hheard, hstarted]
      unfold withMark feedRoute
      dsimp only
      rw [if_pos rfl, if_neg hnothing]
      cases mark with
      | none => exact ⟨rfl, rfl⟩
      | some since => exact ⟨rfl, rfl⟩

variable [Host σ] [Stage κ]

/-- Sections after each other, and their books. -/
theorem flow_append (run later : List (Passing σ)) : ∀ s : Session σ κ,
    s.flow (run ++ later)
      = ((s.flow run).1.append ((s.flow run).2.flow later).1, ((s.flow run).2.flow later).2) := by
  induction run with
  | nil => exact fun s => rfl
  | cons passing rest ih =>
      intro s
      show ((s.entry passing).append ((s.passing passing).flow (rest ++ later)).1,
          ((s.passing passing).flow (rest ++ later)).2)
        = (((s.entry passing).append ((s.passing passing).flow rest).1).append
            ((((s.passing passing).flow rest).2).flow later).1,
          ((((s.passing passing).flow rest).2).flow later).2)
      rw [ih, Ledger.append_assoc]

/-- Sections that leave no entry in the books, one after the other. -/
theorem flow_nothing_cons {t u : Session σ κ} {passing : Passing σ} {rest : List (Passing σ)}
    (hentry : s.entry passing = {}) (hpassing : s.passing passing = t) (hrest : t.flow rest = ({}, u)) :
    s.flow (passing :: rest) = ({}, u) := by
  show ((s.entry passing).append ((s.passing passing).flow rest).1, ((s.passing passing).flow rest).2) = _
  rw [hentry, hpassing, hrest]
  rfl

theorem flow_nothing_append {t u : Session σ κ} {run later : List (Passing σ)}
    (hrun : s.flow run = ({}, t)) (hlater : t.flow later = ({}, u)) :
    s.flow (run ++ later) = ({}, u) := by
  rw [flow_append, hrun]
  dsimp only
  rw [hlater]
  rfl

/-- **Feeds on a full ring** leave the mark of the first of them that is heard, if there was none. -/
theorem flow_feeds (hphase : s.phase = .started) (hfull : r.ring.free = 0)
    (offers : List TimedChunk) : ∀ mark : Option Instant,
    (s.withMark r mark).flow (feeds offers)
      = ({}, s.withMark r (mark.or (offers.findSome? s.heard))) := by
  induction offers with
  | nil =>
      intro mark
      rw [List.findSome?_nil, Option.or_none]
      rfl
  | cons offer rest ih =>
      intro mark
      obtain ⟨hnext, htaken⟩ := feedSection_withMark hphase hfull mark offer
      have hentry : (s.withMark r mark).entry (.feed offer.1 offer.2) = {} := by
        show ({ accepted := _ } : Ledger) = {}
        rw [htaken]
      refine flow_nothing_cons hentry hnext ((ih _).trans ?_)
      rw [List.findSome?_cons, Option.or_assoc]
      cases s.heard offer with
      | none => rfl
      | some now => rfl

end Feeds

/-! ## §3. The whole start. -/

section Start

variable [Host σ] [Stage κ] {s t : Session σ κ} {r : DeviceRoute κ} {generation : Nat}

omit [Host σ] in
/-- A device starts to render with a full ring. -/
theorem free_rewound (r : DeviceRoute κ) : (rewound r).ring.free = 0 :=
  Ring.free_shiftToTail r.ring

/-- A start that has got its stream to run has begun a generation on a full ring, without a mark. -/
theorem begun_of_startSection (hopened : s.phase = .opened) (hroute : s.route = .device r)
    (hquiet : s.NoStall) (hstart : s.startSection = (.ok (some generation), t)) :
    generation = s.generation + 1 ∧ ∃ host log,
      t = ({ s with host, log } : Session σ κ).beginRendering.withMark (rewound r) none := by
  have honset : r.onset = none := (onset_device hroute).symm.trans hquiet.onset
  have hrewound : rewound r = { rewound r with onset := none } := by
    unfold rewound
    rw [← honset]
  unfold startSection at hstart
  rw [if_neg (by simp [hopened]), hroute] at hstart
  dsimp only at hstart
  obtain ⟨host, log, hbegun | ⟨e, hfailed⟩⟩ := startDevice_eq s r
  · obtain ⟨hgeneration, rfl⟩ := Prod.mk.inj (hbegun.symm.trans hstart)
    injection hgeneration with hgeneration
    refine ⟨(Option.some.inj hgeneration).symm, host, log, ?_⟩
    unfold withMark beginRendering withRoute
    dsimp only [Option.map_none, Option.bind_none]
    rw [← hrewound, hquiet.published]
  · exact absurd (hfailed.symm.trans hstart) (by simp)

/-- **A start that gets no thread** changes the machine, the generation and the log, and leaves the route
ready to render.  That is all, if no chunk is heard; and if one is, the mark of the first is left too. -/
theorem flow_refusedStart (hopened : s.phase = .opened) (hroute : s.route = .device r)
    (hquiet : s.NoStall) (hstart : s.startSection = (.ok (some generation), t)) (w : RefusedStart) :
    ∃ log, s.flow (w.sections generation) = ({}, { s with
      phase := .opened
      host := (Host.stop t.host r.endpoint).2
      route := .device { rewound r with onset := (w.mark s).map Instant.nanos }
      published := (w.mark s).bind Instant.published?
      generation, draining := none, task := none, log }) := by
  obtain ⟨rfl, host, log, hbegun⟩ := begun_of_startSection hopened hroute hquiet hstart
  let begun := ({ s with host, log } : Session σ κ).beginRendering
  have hfull := free_rewound r
  have hmark : w.mark s = ((w.early.findSome? s.heard).or (w.middle.findSome? s.heard)).or
      (w.late.findSome? s.heard) := by
    unfold RefusedStart.mark RefusedStart.offers
    rw [List.findSome?_append, List.findSome?_append]
  generalize hstretch : (w.early.findSome? s.heard).or (w.middle.findSome? s.heard) = stretch at hmark
  obtain ⟨log', hlog⟩ := spawnRefused_eq (begun.forgetTask.withMark (rewound r) stretch)
    (s.generation + 1) w.reason
  have hmine : (begun.forgetTask.withMark (rewound r) stretch).draining = some (s.generation + 1) := rfl
  rw [if_pos hmine] at hlog
  refine ⟨log', ?_⟩
  rw [hmark, hbegun]
  -- What is heard depends on the switch alone, which no section of the start changes.
  let refused := ({ begun.forgetTask with draining := none, log := log' } : Session σ κ)
  have hlate : (refused.withMark (rewound r) stretch).flow (feeds w.late)
      = ({}, refused.withMark (rewound r) (stretch.or (w.late.findSome? s.heard))) :=
    flow_feeds rfl hfull w.late stretch
  have hmiddle : (begun.forgetTask.withMark (rewound r) (w.early.findSome? s.heard)).flow
      (feeds w.middle) = ({}, begun.forgetTask.withMark (rewound r) stretch) := by
    rw [← hstretch]
    exact flow_feeds rfl hfull w.middle (w.early.findSome? s.heard)
  have hearly : (begun.withMark (rewound r) none).flow (feeds w.early)
      = ({}, begun.withMark (rewound r) (w.early.findSome? s.heard)) :=
    flow_feeds rfl hfull w.early none
  have hbegins : s.passing .start = begun.withMark (rewound r) none :=
    (congrArg Prod.snd hstart).trans hbegun
  exact flow_nothing_cons rfl hbegins <| flow_nothing_append hearly <| flow_nothing_cons rfl rfl <|
    flow_nothing_append hmiddle <| flow_nothing_cons rfl hlog <| flow_nothing_append hlate rfl

/-- Where nobody offers anything, this is what the call comes to. -/
theorem start_refusedStart (hstart : s.startSection = (.ok (some generation), t)) {w : RefusedStart}
    (halone : w.offers = []) (hspawn : Host.spawn t.host = .error w.reason) :
    s.start = (.error (.error (.io w.reason)), (s.flow (w.sections generation)).2) := by
  obtain ⟨reason, early, middle, late⟩ := w
  obtain ⟨hboth, rfl⟩ := List.append_eq_nil_iff.mp halone
  obtain ⟨rfl, rfl⟩ := List.append_eq_nil_iff.mp hboth
  have hbegins : s.passing .start = t := congrArg Prod.snd hstart
  show _ = (_, ((((s.passing .start).forgetTask).spawnRefused generation reason).undoStart))
  rw [hbegins]
  unfold start
  rw [hstart]
  dsimp only
  rw [show Host.spawn t.forgetTask.host = .error reason from hspawn]
  rfl

end Start

/-! ## §4. What becomes of a mark. -/

section Later

variable {s : Session σ κ}

/-- What keeps the watch leaves a mark where it is, if it does not clear it. -/
theorem KeepsOrClearsMark.onset_kept {t : Session σ κ} (h : KeepsOrClearsMark s t) {since : Nat}
    (hmarked : t.onset = some since) : s.onset = some since := by
  cases h with
  | clear hnone => exact absurd (hnone.symm.trans hmarked) (by simp)
  | same honset _ _ => exact honset.symm.trans hmarked

variable [Host σ] [Stage κ]

/-- A start does not touch the mark. -/
theorem onset_startSection (s : Session σ κ) : s.startSection.2.onset = s.onset := by
  unfold startSection
  split
  · rfl
  · cases hr : s.route with
    | closed => rfl
    | null => exact onset_congr hr.symm
    | device r =>
        have hmark : s.onset = r.onset := onset_device hr
        obtain ⟨host, log, hbegun | ⟨e, hfailed⟩⟩ := startDevice_eq s r
        · dsimp only
          rw [hbegun, hmark]
          rfl
        · dsimp only
          rw [hfailed, hmark]
          rfl

/-- **A mark behind a section** was there before it, or is that of a feed. -/
theorem onset_passing {passing : Passing σ} {since : Nat}
    (hmarked : (s.passing passing).onset = some since) :
    s.onset = some since ∨ ∃ chunk now, passing = .feed chunk now ∧ now.nanos = since := by
  cases passing with
  | feed chunk now =>
      cases s.feedSection_outcome chunk now with
      | clear hnone => exact absurd (hnone.symm.trans hmarked) (by simp)
      | idle hsame _ =>
          refine .inl ?_
          rw [← hsame]
          exact hmarked
      | full r hr _ _ _ _ _ hroute =>
          have hthere : (r.mark now.nanos).onset = some since :=
            (onset_device hroute).symm.trans hmarked
          cases honset : r.onset with
          | some earlier =>
              rw [DeviceRoute.mark_marked honset] at hthere
              exact .inl ((onset_device hr).trans hthere)
          | none =>
              rw [DeviceRoute.mark_unmarked honset] at hthere
              exact .inr ⟨chunk, now, rfl, Option.some.inj hthere⟩
  | turn generation => exact .inl ((s.keepsOrClearsMark_drainTurn generation).1.onset_kept hmarked)
  | pause => exact .inl (s.keepsOrClearsMark_pause.onset_kept hmarked)
  | leave generation => exact .inl ((s.keepsOrClearsMark_drainExited generation).onset_kept hmarked)
  | stop => exact .inl (s.keepsOrClearsMark_stopSection.onset_kept hmarked)
  | join => exact .inl ((onset_congr s.silent_joinDrain.route).symm.trans hmarked)
  | start => exact .inl (s.onset_startSection.symm.trans hmarked)
  | refused generation reason =>
      exact .inl ((onset_congr (s.silent_spawnRefused generation reason).route).symm.trans hmarked)
  | forget => exact .inl hmarked
  | spawned generation => exact .inl hmarked
  | undo => exact .inl hmarked
  | switching => exact .inl hmarked
  | switched => exact .inl hmarked
  | gain gain => exact .inl hmarked
  | elsewhere change => exact .inl hmarked

/-- **A mark behind some sections** was there before them, or is that of one of their feeds.  The
induction goes along the sections, from the first one on. -/
theorem onset_flow (run : List (Passing σ)) : ∀ {s : Session σ κ} {since : Nat},
    (s.flow run).2.onset = some since →
      s.onset = some since ∨ ∃ chunk now, .feed chunk now ∈ run ∧ now.nanos = since := by
  induction run with
  | nil => exact fun hmarked => .inl hmarked
  | cons passing rest ih =>
      intro s since hmarked
      rcases ih (s := s.passing passing) hmarked with hthere | ⟨chunk, now, hmem, hsince⟩
      · rcases onset_passing hthere with hearlier | ⟨chunk, now, rfl, hsince⟩
        · exact .inl hearlier
        · exact .inr ⟨chunk, now, List.mem_cons_self, hsince⟩
      · exact .inr ⟨chunk, now, List.mem_cons_of_mem _ hmem, hsince⟩

/-- **A mark outlives a start**, and the first feed after it reports the stall, once it is old enough. -/
theorem stalled_after_start {r : DeviceRoute κ} (hroute : s.route = .device r)
    (hstopped : s.phase ≠ .started) (hsettled : s.switching = false) {since generation : Nat}
    (hmarked : r.onset = some since) {t : Session σ κ}
    (hstart : s.startSection = (.ok (some generation), t)) {chunk : List UInt8} (hchunk : chunk ≠ [])
    (offered later : Instant)
    (hlate : 2 * max r.timing.bufferDuration.nanos r.timing.period.nanos < later.nanos - since) :
    ∃ u, t.feedSection chunk offered = (.awaitSpace t.progress r.timing.period, u)
      ∧ u.feedAgain later = .error (.writeStalled ⟨later.nanos - since⟩) := by
  unfold startSection at hstart
  rw [if_neg hstopped, hroute] at hstart
  dsimp only at hstart
  obtain ⟨host, log, hbegun | ⟨e, hfailed⟩⟩ := startDevice_eq s r
  · obtain ⟨_, rfl⟩ := Prod.mk.inj (hbegun.symm.trans hstart)
    have hbegins : (({ s.withRoute (rewound r) with host, log } : Session σ κ).beginRendering).route
        = .device (rewound r) := rfl
    obtain ⟨u, hfeed, hthere, _⟩ :=
      feedSection_full hbegins rfl hsettled hchunk (free_rewound r) offered
    have honset : (rewound r).onset = some since := hmarked
    rw [DeviceRoute.mark_marked honset] at hthere
    refine ⟨u, hfeed, ?_⟩
    rcases u.feedAgain_cases later with ⟨other, hexpired, hagain⟩ | ⟨hnone, _⟩
    · obtain ⟨_, hother, hmark, _⟩ := hexpired
      obtain rfl := Route.device.inj (hthere.symm.trans hother)
      rw [hagain, Option.some.inj (hmark.symm.trans honset)]
    · exact absurd ⟨_, hthere, honset, hlate⟩ (hnone since)
  · exact absurd (hfailed.symm.trans hstart) (by simp)

end Later

/-! ## §5. Every such start. -/

variable [Host σ] [Stage κ]

/-- **A start that gets no thread leaves the mark of the first chunk that is heard**, and nothing else.
Take any open device route whose watchdog is not marked, any start that gets its stream to run, and
any chunks that producers offer before the start is undone.  No byte of them is taken.  Afterwards the
session is open, its stream was told to stop, there is no drain task, and the ring is as the start has left
it; the watchdog and what observers are told tell of the first chunk with a byte in it, unless a switch
has kept producers out.  Where nothing is offered this is what the call comes to.

Any mark that is found after further sections is this one or that of a feed among them.  So without a
chunk that is heard no stall is reported that began before a later start; and with one, the first feed
after a later start reports such a stall, as soon as it is longer than the pace allows. -/
theorem threadless_start_keeps_mark {s t : Session σ κ} {r : DeviceRoute κ} {generation : Nat}
    (hopened : s.phase = .opened) (hroute : s.route = .device r) (hquiet : s.NoStall)
    (hstart : s.startSection = (.ok (some generation), t)) (w : RefusedStart) :
    ∃ u log, s.flow (w.sections generation) = ({}, u)
      ∧ u = { s with
          phase := .opened
          host := (Host.stop t.host r.endpoint).2
          route := .device { rewound r with onset := (w.mark s).map Instant.nanos }
          published := (w.mark s).bind Instant.published?
          generation, draining := none, task := none, log }
      ∧ (w.offers = [] → Host.spawn t.host = .error w.reason →
        s.start = (.error (.error (.io w.reason)), u))
      ∧ (∀ run since, (u.flow run).2.onset = some since →
        (w.mark s).map Instant.nanos = some since
          ∨ ∃ chunk now, .feed chunk now ∈ run ∧ now.nanos = since)
      ∧ ∀ since next v chunk offered later, w.mark s = some since →
        u.startSection = (.ok (some next), v) → chunk ≠ [] →
        2 * max r.timing.bufferDuration.nanos r.timing.period.nanos < later.nanos - since.nanos →
          ∃ x, v.feedSection chunk offered = (.awaitSpace v.progress r.timing.period, x)
            ∧ x.feedAgain later = .error (.writeStalled ⟨later.nanos - since.nanos⟩) := by
  obtain ⟨log, hflow⟩ := flow_refusedStart hopened hroute hquiet hstart w
  refine ⟨_, log, hflow, rfl, fun halone hspawn => ?_, fun run since hmarked => onset_flow run hmarked, ?_⟩
  · rw [start_refusedStart hstart halone hspawn, hflow]
  · intro since next v chunk offered later hmark hnext hchunk hlate
    obtain ⟨offer, _, hheard⟩ := List.exists_of_findSome?_eq_some hmark
    refine stalled_after_start (r := { rewound r with onset := some since.nanos }) ?_ ?_ ?_ rfl hnext
      hchunk offered later hlate
    · rw [hmark]
      rfl
    · simp
    · exact settled_of_heard hheard

/-- Chunks that come while a start waits in vain for its thread; the first one is empty. -/
def inVain : RefusedStart where
  reason := DeviceBank.noThread
  early := [([], ⟨1, 1⟩), ([1, 2], ⟨5, 7⟩)]
  late := [([3, 4], ⟨6, 8⟩)]

/-- The left device is opened, and such a start is left with the mark of the second chunk. -/
theorem threadless_start_keeps_mark_inVain :
    (Crew.leftSession.run [.openRoute]).phase = .opened
      ∧ (Crew.leftSession.run [.openRoute]).NoStall
      ∧ ∃ r t u log, (Crew.leftSession.run [.openRoute]).route = .device r
        ∧ (Crew.leftSession.run [.openRoute]).startSection = (.ok (some 1), t)
        ∧ (Crew.leftSession.run [.openRoute]).flow (inVain.sections 1) = ({}, u)
        ∧ u = { Crew.leftSession.run [.openRoute] with
            phase := .opened
            host := (Host.stop t.host r.endpoint).2
            route := .device { rewound r with onset := some 5 }
            published := some 7
            generation := 1, draining := none, task := none, log } := by
  have hquiet : (Crew.leftSession.run [.openRoute]).NoStall := ⟨rfl, rfl⟩
  obtain ⟨r, hroute⟩ : ∃ r, (Crew.leftSession.run [.openRoute]).route = .device r := ⟨_, rfl⟩
  obtain ⟨t, hstart⟩ : ∃ t, (Crew.leftSession.run [.openRoute]).startSection = (.ok (some 1), t) :=
    ⟨_, rfl⟩
  obtain ⟨u, log, hflow, hu, _⟩ := threadless_start_keeps_mark rfl hroute hquiet hstart inVain
  exact ⟨rfl, hquiet, r, t, u, log, hroute, hstart, hflow, hu⟩

end Session

namespace Crew

/-- The left device is opened and started while no thread can be had, and a producer comes before the
stream is stopped again. -/
def threadlessStart : List (Move DeviceBank) :=
  [.call .openRoute, .advance, .elsewhere fun b => { b with threads := false }, .call .start, .advance,
    .offer 0 [1, 2], .produce 0 ⟨5, 7⟩, .advance, .advance, .advance, .advance]

/-- A thread can be had, the device is started again, and another producer comes. -/
def startAgain : List (Move DeviceBank) :=
  [.produce 0 ⟨6, 7⟩, .elsewhere fun b => { b with threads := true }, .call .start, .advance, .advance,
    .advance, .offer 1 [3, 4], .produce 1 ⟨20000000, 27⟩, .produce 1 ⟨20000006, 27⟩]

/-- The left device runs and cannot be stopped, and no thread can be had. -/
def unstoppable : DeviceBank where
  devices := [{ id := "left", name := "Left", bufferFrames := 8, faults := [.stop] }]
  threads := false

/-- **A start that gets no thread is remembered.**  It has failed and the session is open, but it tells
of a stall; and the first feed after the next start, which succeeds, reports a stall of twenty
milliseconds when it has waited for six nanoseconds.  And the device of such a start runs on, if it
cannot be stopped. -/
theorem threadless_start_is_remembered :
    (∃ c trace last more,
      Session.create twoDevices (Format.pcm 8000 16 1) (some "left") {} = .ok leftSession
        ∧ Crew.run { session := leftSession } threadlessStart = some (c, trace)
        ∧ trace = [.returned (.ok ()), .begun 1, .returned (.error (.error (.io DeviceBank.noThread)))]
        ∧ c.session.phase = .opened ∧ c.session.task = none
        ∧ c.session.malfunctioning = true ∧ c.session.onset = some 5
        ∧ c.run startAgain = some (last, more)
        ∧ more = [.answered 0 (.ok (.accepted 0)), .begun 2, .spawned 2, .returned (.ok ()),
          .answered 1 (.error (.writeStalled ⟨20000001⟩))])
    ∧ (({ leftSession with host := unstoppable }).run [.openRoute, .start]).phase = .opened
    ∧ ∃ d ∈ (({ leftSession with host := unstoppable }).run [.openRoute, .start]).host.devices,
      d.running = true := by
  refine ⟨⟨_, _, _, _, rfl, rfl, rfl, rfl, rfl, rfl, rfl, rfl, rfl⟩, rfl, _, List.mem_singleton.mpr rfl, rfl⟩

end Crew

end PcmRender
