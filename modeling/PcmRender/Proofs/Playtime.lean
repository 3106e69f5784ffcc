/-
  PcmRender.Proofs.Playtime — **how long bytes play.**

  Bytes play as long as their whole frames do, the started nanosecond dropped.  On the way from the bytes
  to the time the frames are counted in 32 bits, so that the count begins again behind every 2^32 frames:

      frames           time
      below 2^32       exact, and never shorter for more bytes
      2^32             none at all
      beyond           that of the frames behind the last 2^32

  The product of the count with the nanoseconds of a second has 62 bits at most and is never cut.

  A clip reports the time of the bytes that it reports.  From the first chunk on it waits for this time and
  for its tail, and its session is not closed earlier; so a clip that plays for longer than 2^32 frames is
  cut off.  Any number of whole frames is reached: the null sink takes every clip to its end.

  Main statements:
    * `Format.bytesDuration?_eq`, `Format.bytesDuration?_exact_iff` — the time, and where it is exact,
    * `Format.monotoneUpTo_iff` — up to where more bytes never play shorter,
    * `Clip.stream_awaits` — what any clip reports and waits for,
    * `ClipPlayer.play_waits`, `ClipPlayer.check_reports` — clips as they are played and checked,
    * `ClipPlayer.playtimes_wrap` — all of it together.
-/
import Mathlib.Algebra.Group.Nat.Defs
import PcmRender.Proofs.Gain
import PcmRender.Proofs.Wholeness

namespace PcmRender

/-! ## §1. From bytes to time. -/

namespace Format

variable {f : Format}

/-- The nanoseconds that the whole frames of some bytes play, the started one dropped. -/
def playtime (f : Format) (bytes : Nat) : Nat := bytes / f.align * 1000000000 / f.rate

/-- The bytes of 2^32 frames, behind which the count of frames begins again. -/
def wrap (f : Format) : Nat := f.align * 2 ^ 32

/-- The counts that bytes come to are never too large to be timed. -/
theorem framesDuration?_word32 (f : Format) (n : Nat) :
    f.framesDuration? (word32 n) = some (f.framesDuration (word32 n)) := by
  have hword : word32 n < 2 ^ 32 := Nat.mod_lt _ (by decide)
  exact if_pos (.inr (show word32 n * 1000000000 < 2 ^ 64 by omega))

theorem div_mod_wrap (f : Format) (bytes : Nat) :
    bytes % f.wrap / f.align = word32 (bytes / f.align) :=
  Nat.mod_mul_right_div_self _ _ _

/-- **Bytes play as long as those behind the last wrap.** -/
theorem bytesDuration?_eq (hsupported : f.isSupported = true) (bytes : Nat) :
    f.bytesDuration? bytes = some ⟨f.playtime (bytes % f.wrap)⟩ := by
  have halign : f.align ≠ 0 := Nat.ne_of_gt (f.align_pos hsupported)
  have hrate : f.rate ≠ 0 := Nat.ne_of_gt (f.rate_pos hsupported)
  unfold bytesDuration? framesIn? framesDuration playtime
  rw [if_neg halign, Option.map_some, if_neg hrate, div_mod_wrap]

theorem lt_wrap_iff (hsupported : f.isSupported = true) {bytes : Nat} :
    bytes < f.wrap ↔ bytes / f.align < 2 ^ 32 := by
  rw [Nat.div_lt_iff_lt_mul (f.align_pos hsupported), Nat.mul_comm]
  rfl

/-- More bytes never play shorter. -/
theorem playtime_mono (f : Format) {a b : Nat} (h : a ≤ b) : f.playtime a ≤ f.playtime b :=
  Nat.div_le_div_right (Nat.mul_le_mul_right _ (Nat.div_le_div_right h))

/-- No rate is so high that 2^32 frames more play as long. -/
theorem playtime_lt_of_wrap (hrate : f.rate < 2 ^ 32) (hpos : 0 < f.rate) {a b : Nat}
    (h : a / f.align + 2 ^ 32 ≤ b / f.align) : f.playtime a < f.playtime b := by
  unfold playtime
  generalize a / f.align = few at h
  generalize b / f.align = many at h
  calc few * 1000000000 / f.rate
      < few * 1000000000 / f.rate + 1 := Nat.lt_succ_self _
    _ = (few * 1000000000 + f.rate) / f.rate := (Nat.add_div_right _ hpos).symm
    _ ≤ many * 1000000000 / f.rate := Nat.div_le_div_right (by omega)

/-- **The time of bytes is exact up to the wrap, and nowhere behind it.** -/
theorem bytesDuration?_exact_iff (hsupported : f.isSupported = true) (hrate : f.rate < 2 ^ 32)
    (bytes : Nat) :
    f.bytesDuration? bytes = some ⟨f.playtime bytes⟩ ↔ bytes / f.align < 2 ^ 32 := by
  rw [bytesDuration?_eq hsupported, ← lt_wrap_iff hsupported]
  constructor
  · intro h
    -- Behind the wrap the count is short by 2^32 frames, which no rate rounds away.
    refine Nat.not_le.mp fun hbehind => ?_
    have hframes : 2 ^ 32 ≤ bytes / f.align := by
      rw [← Nat.not_lt, lt_wrap_iff hsupported] at hbehind
      omega
    have hcount : bytes % f.wrap / f.align + 2 ^ 32 ≤ bytes / f.align := by
      rw [div_mod_wrap, word32, show Nat.pow 2 32 = 2 ^ 32 from rfl]
      omega
    have hshorter := playtime_lt_of_wrap hrate (f.rate_pos hsupported) hcount
    rw [Option.some.injEq, Duration.mk.injEq] at h
    omega
  · intro h
    rw [Nat.mod_eq_of_lt h]

/-- Up to a number of bytes, more bytes never play shorter. -/
def MonotoneUpTo (f : Format) (limit : Nat) : Prop :=
  ∀ ⦃a b : Nat⦄ ⦃c d : Duration⦄, a ≤ b → b ≤ limit → f.bytesDuration? a = some c →
    f.bytesDuration? b = some d → c ≤ d

/-- **More bytes never play shorter up to the wrap, and no further.** -/
theorem monotoneUpTo_iff (hsupported : f.isSupported = true) (hrate : f.rate < 2 ^ 32) (limit : Nat) :
    f.MonotoneUpTo limit ↔ limit / f.align < 2 ^ 32 := by
  rw [← lt_wrap_iff hsupported]
  constructor
  · intro h
    refine Nat.not_le.mp fun hbehind => ?_
    -- One frame less than 2^32 has a time, and 2^32 frames have none.
    have halign := f.align_pos hsupported
    have hwrap : f.wrap = f.align * (2 ^ 32 - 1) + f.align := by
      unfold wrap
      omega
    have hlast : f.playtime (f.align * (2 ^ 32 - 1)) ≤ f.playtime 0 := by
      have hbelow : f.align * (2 ^ 32 - 1) < f.wrap := by omega
      have hle := h (Nat.le_of_lt hbelow) hbehind
        (bytesDuration?_eq hsupported _) (bytesDuration?_eq hsupported _)
      rw [Nat.mod_eq_of_lt hbelow, Nat.mod_self] at hle
      exact hle
    have hsecond : 0 < f.playtime (f.align * (2 ^ 32 - 1)) := by
      unfold playtime
      rw [Nat.mul_div_cancel_left _ halign]
      exact Nat.div_pos (by omega) (f.rate_pos hsupported)
    have hnone : f.playtime 0 = 0 := by simp [playtime]
    omega
  · intro h a b c d hab hb hc hd
    rw [bytesDuration?_eq hsupported, Nat.mod_eq_of_lt (by omega)] at hc hd
    rw [← Option.some.inj hc, ← Option.some.inj hd]
    exact f.playtime_mono hab

end Format

/-! ## §2. What a clip waits for. -/

namespace Clip

variable {ω : Type} [Outlet ω]

/-- **A report and what it is made from**: the loop over the input has come to its end, and behind it the
clip has waited, if it is to sound. -/
theorem stream_report {format : Format} {chunk : Nat} {tail : Option Duration} {outlet after : ω}
    {events : List ReadEvent} {report : ClipReport}
    (h : stream format chunk tail outlet events = (some (.ok report), after)) :
    ∃ progress played,
      pushAll format.align (chunkSize chunk format.align) (inputLength events + 1) outlet events {}
          = (some (.ok progress), played)
        ∧ report.bytes = progress.bytes ∧ format.bytesDuration? report.bytes = some report.duration
        ∧ (report.cancelled, after) = tail.elim (progress.cancelled, played) fun time =>
          awaitPlayout played progress (report.duration.plus time) := by
  unfold stream at h
  dsimp only at h
  split at h
  · exact absurd h (by simp)
  split at h
  · exact absurd h (by simp)
  · exact absurd h (by simp)
  next progress played hpushed =>
    split at h
    · exact absurd h (by simp)
    next duration hduration =>
      obtain ⟨hreport, rfl⟩ := Prod.mk.inj h
      obtain rfl := Except.ok.inj (Option.some.inj hreport)
      exact ⟨progress, played, hpushed, rfl, hduration, by cases tail <;> rfl⟩

/-- A loop that has counted something has offered something. -/
theorem pushAll_offers (frame size : Nat) : ∀ (reads : Nat) (outlet : ω) (events : List ReadEvent)
    (before progress : Progress) (after : ω),
      pushAll frame size reads outlet events before = (some (.ok progress), after) →
        progress = before ∨ progress.firstFeed ≠ none := by
  intro reads
  induction reads with
  | zero =>
      rintro outlet events before progress after ⟨⟩
      exact .inl rfl
  | succ reads ih =>
      intro outlet events before progress after h
      obtain ⟨data, _, hbuffer⟩ := pushAll_buffered h
      cases hbuffer with
      | short hsame _ => exact .inl hsame
      | cut _ _ _ hnoted =>
          right
          rw [hnoted]
          simp
      | @taken _ behind counted _ _ _ hnoted hgoes =>
          have hsome : counted.firstFeed ≠ none := by
            rw [hnoted]
            simp
          right
          rcases hgoes with ⟨rfl, _⟩ | hlater
          · exact hsome
          · rcases ih behind _ counted progress after hlater with rfl | hoffered
            · exact hsome
            · exact hoffered

/-- **Behind the loop a clip waits**, or it was cancelled in it, or it has offered nothing. -/
theorem awaitPlayout_cases {played after : ω} {progress : Progress} {time : Duration} {cancelled : Bool}
    (h : (cancelled, after) = awaitPlayout played progress time)
    (hoffers : progress = {} ∨ progress.firstFeed ≠ none) :
    (∃ start, progress.firstFeed = some start
        ∧ (cancelled, after) = Outlet.playOut played (start + time.nanos))
      ∨ after = played ∧ (cancelled = true ∨ progress.firstFeed = none ∧ progress.bytes = 0) := by
  unfold awaitPlayout at h
  split at h
  next start _ hstart => exact .inl ⟨start, hstart, h⟩
  next hnot =>
    obtain ⟨rfl, rfl⟩ := Prod.mk.inj h
    refine .inr ⟨rfl, ?_⟩
    cases hgone : progress.cancelled with
    | true => exact .inl rfl
    | false =>
        have hnone : progress.firstFeed = none :=
          Option.eq_none_iff_forall_ne_some.mpr fun start hstart => hnot start hgone hstart
        rcases hoffers with rfl | hsome
        · exact .inr ⟨rfl, rfl⟩
        · exact absurd hnone hsome

end Clip

/-- An outlet with a clock beside it: when somebody first looked whether the clip is cancelled, and until
when it has been waited. -/
structure Clocked (ω : Type) where
  outlet : ω
  begun : Option Nat := none
  waits : List Nat := []

namespace Clocked

variable {ω : Type} [Outlet ω]

instance : Outlet (Clocked ω) where
  feed c chunk :=
    let (answer, outlet) := Outlet.feed c.outlet chunk
    (answer, { c with outlet })
  reopen c :=
    let (answer, outlet) := Outlet.reopen c.outlet
    (answer, { c with outlet })
  checkCancel c :=
    let (cancelled, outlet) := Outlet.checkCancel c.outlet
    (cancelled, { c with outlet, begun := some (c.begun.getD (Outlet.clock c.outlet)) })
  requestCancel c := { c with outlet := Outlet.requestCancel c.outlet }
  clock c := Outlet.clock c.outlet
  playOut c deadline :=
    let (cancelled, outlet) := Outlet.playOut c.outlet deadline
    (cancelled, { c with outlet, waits := c.waits ++ [deadline] })
  patience c := Outlet.patience c.outlet

/-- Looking at the clock does not change what an outlet does. -/
theorem sees : Outlet.Sees (outlet : Clocked ω → ω) where
  feed _ _ := rfl
  checkCancel _ := rfl
  requestCancel _ := rfl
  clock _ := rfl
  playOut _ _ := rfl
  patience _ := rfl

/-- Nobody waits while an input is read and offered. -/
theorem stays_waits (waits : List Nat) : Outlet.Stays fun c : Clocked ω => c.waits = waits where
  feed := fun _ h => h
  checkCancel := id
  requestCancel := id

/-- The first look stays the first. -/
theorem stays_begun (start : Nat) : Outlet.Stays fun c : Clocked ω => c.begun = some start where
  feed := fun _ h => h
  checkCancel := by
    intro c h
    show some (c.begun.getD _) = some start
    rw [h]
    rfl
  requestCancel := id

theorem begun_fill (events : List ReadEvent) (c : Clocked ω) (room : Nat) :
    (fill c room events).outlet.begun = c.begun :=
  fill_stays (fun other : Clocked ω => other.begun = c.begun) id events room rfl

end Clocked

namespace Clip

variable {ω : Type} [Outlet ω]

/-- A chunk is offered behind a look. -/
theorem begun_pushChunk {offers : Nat} (hoffers : 0 < offers) (c : Clocked ω) {chunk : List UInt8}
    (hsome : chunk ≠ []) :
    (pushChunk offers c chunk).2.begun = some (c.begun.getD (Outlet.clock c)) := by
  obtain ⟨more, rfl⟩ := Nat.exists_eq_add_one_of_ne_zero (Nat.ne_of_gt hoffers)
  obtain ⟨b, rest, rfl⟩ := List.exists_cons_of_ne_nil hsome
  have hlook : (Outlet.checkCancel c).2.begun = some (c.begun.getD (Outlet.clock c)) := rfl
  generalize c.begun.getD (Outlet.clock c) = start at hlook ⊢
  unfold pushChunk
  generalize Outlet.checkCancel c = looked at hlook
  obtain ⟨cancelled, looked⟩ := looked
  cases cancelled with
  | true => exact hlook
  | false =>
      have hfed : (Outlet.feed looked (b :: rest)).2.begun = some start := hlook
      dsimp only
      generalize Outlet.feed looked (b :: rest) = answered at hfed
      obtain ⟨answer, fed⟩ := answered
      cases answer with
      | error fault => exact hfed
      | ok taken =>
          cases taken with
          | consumed => exact hfed
          | accepted n => exact pushChunk_stays (Clocked.stays_begun start) more _ hfed

/-- **The loop over an input** begins with the first look and waits for nothing: along the buffers. -/
theorem begun_pushAll (frame size : Nat) : ∀ (reads : Nat) (c : Clocked ω) (events : List ReadEvent)
    (before progress : Progress) (after : Clocked ω), c.begun = before.firstFeed →
      pushAll frame size reads c events before = (some (.ok progress), after) →
        after.begun = progress.firstFeed := by
  -- On the buffers that are left: the clock and the progress agree on the first look between any two.
  intro reads
  induction reads with
  | zero =>
      rintro c events before progress after hc ⟨⟩
      exact hc
  | succ reads ih =>
      intro c events before progress after hc h
      have hfilled := (Clocked.begun_fill events c size).trans hc
      obtain ⟨data, _, hbuffer⟩ := pushAll_buffered h
      generalize fill c size events = filled at hfilled hbuffer
      cases hbuffer with
      | short hsame hleft =>
          rw [hsame, hleft]
          exact hfilled
      | cut hoffered hframes hpushed hnoted =>
          have hlook := begun_pushChunk hoffered filled.outlet hframes
          rw [hpushed, hfilled] at hlook
          rw [hnoted]
          exact hlook
      | @taken _ behind counted hoffered hframes hpushed hnoted hgoes =>
          have hlook := begun_pushChunk hoffered filled.outlet hframes
          rw [hpushed, hfilled] at hlook
          have hcounted : behind.begun = counted.firstFeed := by
            rw [hnoted]
            exact hlook
          rcases hgoes with ⟨rfl, rfl⟩ | hlater
          · exact hcounted
          · exact ih behind filled.rest counted progress after hcounted hlater

/-- What a clip with a report has waited for. -/
inductive Awaits (tail : Option Duration) (report : ClipReport) (after : Clocked ω) : Prop
  /-- Nothing: it is not to sound, it was cancelled, or nothing of it was offered. -/
  | nothing (quiet : after.waits = [])
      (why : tail = none ∨ report.cancelled = true ∨ after.begun = none ∧ report.bytes = 0)
  /-- Its time and its tail, from the first look on. -/
  | time {start : Nat} {rest : Duration} (sounds : tail = some rest) (begun : after.begun = some start)
      (once : after.waits = [start + (report.duration.nanos + rest.nanos)])

theorem awaits_clocked {format : Format} {chunk : Nat} {tail : Option Duration} {outlet : ω}
    {events : List ReadEvent} {report : ClipReport} {after : Clocked ω}
    (h : stream format chunk tail ({ outlet } : Clocked ω) events = (some (.ok report), after)) :
    Awaits tail report after := by
  obtain ⟨progress, played, hpushed, hbytes, _, hend⟩ := stream_report h
  have hbegun : played.begun = progress.firstFeed :=
    begun_pushAll _ _ _ _ _ _ _ _ rfl hpushed
  have hwaits : played.waits = [] := by
    have hstays : (pushAll format.align (chunkSize chunk format.align) (inputLength events + 1)
        ({ outlet } : Clocked ω) events {}).2.waits = [] :=
      pushAll_stays (Clocked.stays_waits []) _ _ _ _ _ rfl
    rw [hpushed] at hstays
    exact hstays
  cases tail with
  | none =>
      obtain ⟨_, rfl⟩ := Prod.mk.inj hend
      exact .nothing hwaits (.inl rfl)
  | some rest =>
      rcases awaitPlayout_cases hend (pushAll_offers _ _ _ _ _ _ _ _ hpushed) with
        ⟨start, hstart, hplayed⟩ | ⟨rfl, hwhy⟩
      · obtain ⟨_, rfl⟩ := Prod.mk.inj hplayed
        refine .time rfl (hbegun.trans hstart) ?_
        show played.waits ++ [_] = _
        rw [hwaits]
        rfl
      · refine .nothing hwaits (.inr (hwhy.imp_right ?_))
        rintro ⟨hnone, hcount⟩
        exact ⟨hbegun.trans hnone, hbytes.trans hcount⟩

/-- **A clip waits for the time that it reports**, as the clock beside its outlet tells. -/
theorem stream_awaits {format : Format} {chunk : Nat} {tail : Option Duration} {outlet after : ω}
    {events : List ReadEvent} {report : ClipReport}
    (h : stream format chunk tail outlet events = (some (.ok report), after)) :
    format.bytesDuration? report.bytes = some report.duration
      ∧ ∃ clocked : Clocked ω, clocked.outlet = after
        ∧ stream format chunk tail ({ outlet } : Clocked ω) events = (some (.ok report), clocked)
        ∧ Awaits tail report clocked := by
  obtain ⟨_, _, _, _, hduration, _⟩ := stream_report h
  have hview := stream_sees Clocked.sees format chunk tail ({ outlet } : Clocked ω) events
  rw [show Clocked.outlet ({ outlet } : Clocked ω) = outlet from rfl, h] at hview
  cases hdone : stream format chunk tail ({ outlet } : Clocked ω) events with
  | mk result clocked =>
      rw [hdone] at hview
      obtain ⟨rfl, rfl⟩ := Prod.mk.inj hview
      exact ⟨hduration, clocked, rfl, rfl, awaits_clocked hdone⟩

end Clip

/-! ## §3. Clips that are taken. -/

/-- An outlet takes every chunk as a whole, and nobody cancels it, as long as it is as `lasting` says. -/
structure Outlet.TakesAll {ω : Type} [Outlet ω] (lasting : ω → Prop) : Prop where
  feed : ∀ {outlet : ω} (chunk : List UInt8), lasting outlet →
    (Outlet.feed outlet chunk).1 = .ok .consumed ∧ lasting (Outlet.feed outlet chunk).2
  checkCancel : ∀ {outlet : ω}, lasting outlet →
    (Outlet.checkCancel outlet).1 = false ∧ lasting (Outlet.checkCancel outlet).2

namespace Clip

variable {ω : Type} [Outlet ω] {lasting : ω → Prop}

/-- One offer is enough. -/
theorem pushChunk_taken (h : Outlet.TakesAll lasting) {offers : Nat} (hoffers : 0 < offers)
    {outlet : ω} (ho : lasting outlet) (chunk : List UInt8) :
    ∃ after, pushChunk offers outlet chunk = (.taken, after) ∧ lasting after := by
  obtain ⟨more, rfl⟩ := Nat.exists_eq_add_one_of_ne_zero (Nat.ne_of_gt hoffers)
  cases chunk with
  | nil => exact ⟨outlet, rfl, ho⟩
  | cons b rest =>
      obtain ⟨hgoing, hlooked⟩ := h.checkCancel ho
      unfold pushChunk
      generalize Outlet.checkCancel outlet = looked at hgoing hlooked
      obtain ⟨cancelled, looked⟩ := looked
      obtain rfl : cancelled = false := hgoing
      obtain ⟨htaken, hfed⟩ := h.feed (b :: rest) hlooked
      dsimp only at htaken hfed ⊢
      generalize Outlet.feed looked (b :: rest) = answered at htaken hfed
      obtain ⟨answer, fed⟩ := answered
      obtain rfl : answer = .ok .consumed := htaken
      exact ⟨fed, rfl, hfed⟩

theorem pushAll_taken (h : Outlet.TakesAll lasting) (frame : Nat) {size : Nat} (hsize : 0 < size) :
    ∀ (reads : Nat) {outlet : ω} {events : List ReadEvent} {data : List UInt8} (before : Progress),
      lasting outlet → Brings events data →
        ∃ progress after, pushAll frame size reads outlet events before = (some (.ok progress), after) := by
  intro reads
  induction reads with
  | zero =>
      intro outlet events data before _ _
      exact ⟨before, outlet, rfl⟩
  | succ reads ih =>
      intro outlet events data before ho hevents
      obtain ⟨rest, hfill, hrest⟩ := fill_brings hevents outlet size hsize
      unfold pushAll
      rw [hfill]
      dsimp only
      split
      · exact ⟨_, _, rfl⟩
      obtain ⟨after, hpushed, hafter⟩ := pushChunk_taken h
        (Nat.mul_pos (Nat.succ_pos _) (Nat.succ_pos (Outlet.patience outlet))) ho
        ((data.take size).take ((data.take size).length / frame * frame))
      rw [hpushed]
      dsimp only
      split
      · exact ⟨_, _, rfl⟩
      next hfull =>
        rw [List.length_take] at hfull
        exact ih _ hafter (hrest (by omega))

/-- **A clip that is taken has a report.** -/
theorem stream_taken (h : Outlet.TakesAll lasting) {format : Format}
    (hsupported : format.isSupported = true) {chunk : Nat}
    (hsize : chunkSize chunk format.align ≤ Ring.maxCapacity) (tail : Option Duration) {outlet : ω}
    (ho : lasting outlet) {events : List ReadEvent} {data : List UInt8} (hevents : Brings events data) :
    ∃ report after, stream format chunk tail outlet events = (some (.ok report), after) := by
  have hpos : 0 < chunkSize chunk format.align :=
    Nat.mul_pos (Nat.lt_of_lt_of_le Nat.one_pos (Nat.le_max_right _ _)) (format.align_pos hsupported)
  obtain ⟨progress, played, hpushed⟩ := pushAll_taken h format.align hpos
    (inputLength events + 1) {} ho hevents
  unfold stream
  dsimp only
  rw [if_neg (Nat.not_lt.mpr hsize), hpushed]
  dsimp only
  rw [Format.bytesDuration?_eq hsupported]
  exact ⟨_, _, rfl⟩

end Clip

/-! ## §4. Clips as they are played. -/

section Clips

variable {σ κ : Type} [Host σ] [Stage κ]

/-- No lifecycle call moves the clock. -/
theorem SteppedSession.clock_call {ρ : Type} (s : SteppedSession σ κ)
    (run : Session σ κ → ρ × Session σ κ) : (s.call run).2.clock = s.clock := by
  show (settle { s with session := (run s.session).2 }).clock = s.clock
  unfold settle
  split
  · split <;> rfl
  · rfl

/-- Who is not cancelled waits to the end. -/
theorem SessionOutlet.le_clock_playOut {o : SessionOutlet σ κ} {deadline : Nat}
    (h : (o.playOut deadline).1 = false) : deadline ≤ (o.playOut deadline).2.session.clock := by
  unfold playOut at h ⊢
  dsimp only at h ⊢
  split
  next hover => exact hover
  next hearly =>
    rw [if_neg hearly] at h
    split
    next hcancelled =>
      rw [if_pos hcancelled] at h
      exact absurd h (by simp)
    next hgoing =>
      rw [if_neg hgoing] at h
      split
      next time htime =>
        rw [htime] at h
        dsimp only at h
        split
        next hbefore =>
          rw [if_pos hbefore] at h
          exact absurd h (by simp)
        · exact Nat.le_refl _
      · exact Nat.le_refl _

/-- **A clip has had its time before its session is given back.**  Whatever the input and the host do, a
clip reports the time of the bytes that it reports; and if it has counted something and was not cancelled,
it has waited for this time and for its tail. -/
theorem ClipPlayer.play_waits (p : ClipPlayer) (host : σ) (format : Format) (input : Input)
    {report : ClipReport}
    (h : (p.play host format input : Rendered σ κ ClipReport).result = some (.ok report)) :
    format.bytesDuration? report.bytes = some report.duration
      ∧ (report.cancelled = false → report.bytes ≠ 0 →
        ∃ t, (p.play host format input : Rendered σ κ ClipReport).session = some t
          ∧ report.duration.nanos + p.tail.nanos ≤ t.clock) := by
  obtain ⟨_, _, ⟨after, _⟩, _, hrenders⟩ := p.render_renders host p.device (some p.tail) format input h
  obtain ⟨progress, played, hpushed, hbytes, hduration, hend⟩ := Clip.stream_report hrenders.streamed
  refine ⟨hduration, fun hgone hsome => ⟨_, hrenders.session, ?_⟩⟩
  -- Neither the stop nor the close takes time.
  have hclock : after.session.stop.2.close.2.clock = after.session.clock := by
    rw [SteppedSession.close, SteppedSession.clock_call, SteppedSession.stop,
      SteppedSession.clock_call]
  show _ ≤ after.session.stop.2.close.2.clock
  rw [hclock]
  rcases Clip.awaitPlayout_cases hend (Clip.pushAll_offers _ _ _ _ _ _ _ _ hpushed) with
    ⟨start, _, hplayed⟩ | ⟨_, hcancelled | ⟨_, hnothing⟩⟩
  · have hwaited : (SessionOutlet.playOut played
        (start + (report.duration.plus p.tail).nanos)).1 = false :=
      (congrArg Prod.fst hplayed).symm.trans hgone
    have hlong := SessionOutlet.le_clock_playOut hwaited
    obtain rfl : after = (SessionOutlet.playOut played _).2 := congrArg Prod.snd hplayed
    exact Nat.le_trans (Nat.le_add_left _ start) hlong
  · rw [hgone] at hcancelled
    exact absurd hcancelled (by simp)
  · exact absurd (hbytes.trans hnothing) hsome

/-- A started session on the null sink, which nobody cancels. -/
structure SessionOutlet.OnNullSink (o : SessionOutlet σ κ) : Prop where
  route : o.session.session.route = .null
  settled : o.session.session.switching = false
  free : o.session.session.draining = none
  uncancelled : o.cancelled = false

/-- **The null sink takes every chunk as a whole.** -/
theorem SessionOutlet.takesAll_nullSink :
    Outlet.TakesAll (OnNullSink : SessionOutlet σ κ → Prop) where
  feed := by
    intro o chunk h
    have hsection : o.session.session.feedSection chunk o.session.now
        = (.done (.ok .consumed), o.session.session) := by
      unfold Session.feedSection
      rw [h.settled, h.route]
      split <;> rfl
    have hfeed : o.feed chunk = (.ok .consumed, o) := by
      unfold feed SteppedSession.feedAround
      rw [hsection]
      dsimp only
      unfold SteppedSession.tick
      rw [h.free]
      rfl
    show (o.feed chunk).1 = _ ∧ OnNullSink (o.feed chunk).2
    rw [hfeed]
    exact ⟨rfl, h⟩
  checkCancel := fun h => ⟨h.uncancelled, h⟩

/-- A session of its own on the null sink is opened and started, whatever the host is. -/
theorem withSession_nullSink (host : σ) {format : Format} (hsupported : format.isSupported = true)
    (config : SessionConfig) (gain : Single) :
    ∃ s : SteppedSession σ κ, (SessionOutlet.mk s false none).OnNullSink
      ∧ ∀ body : SteppedSession σ κ → Rendered σ κ ClipReport,
        withSession host format none config gain body = body s := by
  have hcreate : Session.create (κ := κ) host format none config
      = .ok { host, config, source := format, selected := none, period := config.period.kept } :=
    if_pos hsupported
  refine ⟨(SteppedSession.mk (Session.setGain
    { host, config, source := format, selected := none, period := config.period.kept } gain)
      0).openRoute.2.start.2, ⟨rfl, rfl, rfl, rfl⟩, fun body => ?_⟩
  unfold withSession
  rw [hcreate]
  rfl

/-- **Every input brings a clip to a report when it is checked**: of its whole frames, with the time of
those behind the last wrap. -/
theorem ClipPlayer.check_reports (p : ClipPlayer) (host : σ) {format : Format}
    (hsupported : format.isSupported = true) (hrate : format.rate ≤ Clip.maxRate)
    (hsize : Clip.chunkSize p.chunk format.align ≤ Ring.maxCapacity) {events : List ReadEvent}
    {data : List UInt8} (hevents : Brings events data) :
    (p.check host format events : Rendered σ κ ClipReport).result
      = some (.ok { bytes := data.length / format.align * format.align
                    duration := ⟨format.playtime (data.length % format.wrap)⟩
                    cancelled := false }) := by
  obtain ⟨s, hnull, hbody⟩ := withSession_nullSink (κ := κ) host hsupported p.config p.gain
  obtain ⟨report, after, hstream⟩ := Clip.stream_taken SessionOutlet.takesAll_nullSink hsupported hsize
    none hnull hevents.filter
  have hresult : (p.check host format events : Rendered σ κ ClipReport).result = some (.ok report) := by
    unfold check render
    rw [if_neg (Nat.not_lt.mpr hrate), hbody]
    show (Clip.stream format p.chunk none (SessionOutlet.mk s false none) _).1 = _
    rw [hstream]
  obtain ⟨_, _, after, _, hrenders⟩ := p.render_renders host none none format _ hresult
  have hwhole := hrenders.whole hsupported hevents.filter
  obtain ⟨_, _, _, _, hduration, _⟩ := Clip.stream_report hstream
  rw [Format.bytesDuration?_eq hsupported, hwhole.bytes] at hduration
  -- The part of a frame behind the whole ones has no time.
  have hframes : format.playtime (data.length / format.align * format.align % format.wrap)
      = format.playtime (data.length % format.wrap) := by
    unfold Format.playtime
    rw [Format.div_mod_wrap, Format.div_mod_wrap, Nat.mul_div_cancel _ (format.align_pos hsupported)]
  rw [hframes] at hduration
  rw [hresult, ← hwhole.bytes, Option.some.inj hduration, ← hwhole.cancelled]

/-- **Bytes play exactly as long as their frames, up to 2^32 frames and no further.**  In every format that
can be decoded, with a rate of 32 bits, any number of bytes has a time: the exact one of the bytes behind
the last multiple of 2^32 frames, computed without a product that leaves 64 bits.  It is the exact time of
all the bytes just if their frames are fewer than 2^32, and just up to there more bytes never play shorter.

So does a clip.  On any outlet, in chunks of any size and with any reads, it reports the time of the bytes
that it reports, and waits for this time and its tail from its first look on, if it is to sound and is not
cancelled.  A player does not give its session back earlier.  Any number of bytes comes to be reported:
every input that brings them, read in chunks that memory can hold, is checked to its end. -/
theorem ClipPlayer.playtimes_wrap {format : Format} (hsupported : format.isSupported = true)
    (hrate : format.rate < 2 ^ 32) :
    (∀ bytes, format.bytesDuration? bytes = some ⟨format.playtime (bytes % format.wrap)⟩
      ∧ Format.word32 (bytes / format.align) * 1000000000 < 2 ^ 64
      ∧ (format.bytesDuration? bytes = some ⟨format.playtime bytes⟩ ↔ bytes / format.align < 2 ^ 32))
    ∧ (∀ limit, format.MonotoneUpTo limit ↔ limit / format.align < 2 ^ 32)
    ∧ (∀ (ω : Type) [Outlet ω] (chunk : Nat) (tail : Option Duration) (outlet after : ω)
        (events : List ReadEvent) (report : ClipReport),
      Clip.stream format chunk tail outlet events = (some (.ok report), after) →
        format.bytesDuration? report.bytes = some report.duration
          ∧ ∃ clocked : Clocked ω, clocked.outlet = after
            ∧ Clip.stream format chunk tail ({ outlet } : Clocked ω) events
              = (some (.ok report), clocked)
            ∧ Clip.Awaits tail report clocked)
    ∧ ∀ (σ κ : Type) [Host σ] [Stage κ] (p : ClipPlayer) (host : σ),
      (∀ (input : Input) (report : ClipReport),
        (p.play host format input : Rendered σ κ ClipReport).result = some (.ok report) →
          format.bytesDuration? report.bytes = some report.duration
            ∧ (report.cancelled = false → report.bytes ≠ 0 →
              ∃ t, (p.play host format input : Rendered σ κ ClipReport).session = some t
                ∧ report.duration.nanos + p.tail.nanos ≤ t.clock))
      ∧ (format.rate ≤ Clip.maxRate → Clip.chunkSize p.chunk format.align ≤ Ring.maxCapacity →
        ∀ (events : List ReadEvent) (data : List UInt8), Brings events data →
          (p.check host format events : Rendered σ κ ClipReport).result
            = some (.ok { bytes := data.length / format.align * format.align
                          duration := ⟨format.playtime (data.length % format.wrap)⟩
                          cancelled := false })) := by
  refine ⟨fun bytes => ⟨Format.bytesDuration?_eq hsupported bytes, ?_,
    Format.bytesDuration?_exact_iff hsupported hrate bytes⟩,
    Format.monotoneUpTo_iff hsupported hrate,
    fun ω _ chunk tail outlet after events report => Clip.stream_awaits,
    fun σ κ _ _ p host => ⟨fun input report => p.play_waits host format input,
      fun hslow hsize events data => p.check_reports host hsupported hslow hsize⟩⟩
  have hcount : Format.word32 (bytes / format.align) < 2 ^ 32 := Nat.mod_lt _ (by decide)
  omega

end Clips

/-- One frame less than 2^32 plays for six days, and two samples play for a quarter of a millisecond; the
player gives its session back when these and the tail are over. -/
theorem ClipPlayer.playtimes_wrap_sixDays :
    (Format.pcm 8000 16 1).isSupported = true ∧ (Format.pcm 8000 16 1).rate < 2 ^ 32
      ∧ (Format.pcm 8000 16 1).bytesDuration? 8589934591 = some ⟨536870911875000⟩
      ∧ (Format.pcm 8000 16 1).MonotoneUpTo 8589934591
      ∧ Brings slowReader [1, 2, 3, 4, 5]
      ∧ (smallChunks.check Session.quietSpeaker.host (Format.pcm 8000 16 1) slowReader : Rendered
          DeviceBank (LinearResampler Double Single) ClipReport).result
        = some (.ok ⟨4, ⟨250000⟩, false⟩)
      ∧ ∃ t, (smallChunks.play Session.quietSpeaker.host (Format.pcm 8000 16 1) { events := slowReader } :
          Rendered DeviceBank (LinearResampler Double Single) ClipReport).session = some t
        ∧ 250000 + 200000000 ≤ t.clock := by
  have hsupported : (Format.pcm 8000 16 1).isSupported = true := by decide
  have hrate : (Format.pcm 8000 16 1).rate < 2 ^ 32 := by decide
  have hbrings : Brings slowReader [1, 2, 3, 4, 5] :=
    .read (by decide) (.interrupted (.read (by decide) (.interrupted (.read (by decide)
      (.closed _)))))
  obtain ⟨htimes, hlimits, _, hclips⟩ := ClipPlayer.playtimes_wrap hsupported hrate
  obtain ⟨hplay, hcheck⟩ := hclips DeviceBank (LinearResampler Double Single) smallChunks
    Session.quietSpeaker.host
  obtain ⟨t, hsession, hclock⟩ := (hplay { events := slowReader } ⟨4, ⟨250000⟩, false⟩ rfl).2 rfl
    (by decide)
  exact ⟨hsupported, hrate, (htimes 8589934591).2.2.mpr (by decide), (hlimits 8589934591).mpr (by decide),
    hbrings, hcheck (by decide) (by decide) _ _ hbrings, t, hsession, hclock⟩

/-- **2^32 frames play for no time.**  A clip of so many bytes, of one sample each at the lowest common rate,
would play for six days, in less than 2^49 nanoseconds; checked, it is reported to play for none. -/
theorem ClipPlayer.six_days_in_no_time :
    (Format.pcm 8000 8 1).isSupported = true
      ∧ (Format.pcm 8000 8 1).playtime 4294967296 = 536870912000000
      ∧ (Format.pcm 8000 8 1).bytesDuration? 4294967295 = some ⟨536870911875000⟩
      ∧ (Format.pcm 8000 8 1).bytesDuration? 4294967296 = some ⟨0⟩
      ∧ ∃ events data, Brings events data ∧ data.length = 4294967296
        ∧ (smallChunks.check Session.quietSpeaker.host (Format.pcm 8000 8 1) events : Rendered
            DeviceBank (LinearResampler Double Single) ClipReport).result
          = some (.ok { bytes := 4294967296, duration := ⟨0⟩, cancelled := false }) := by
  have hsupported : (Format.pcm 8000 8 1).isSupported = true := by decide
  obtain ⟨data, hlength⟩ : ∃ data : List UInt8, data.length = 4294967296 :=
    ⟨List.replicate 4294967296 0, List.length_replicate⟩
  have hsome : data ≠ [] := by
    rintro rfl
    exact absurd hlength (by decide)
  have hbrings : Brings [.bytes data] data := by
    have hread : Brings [.bytes data] (data ++ []) := .read hsome .ended
    rwa [List.append_nil] at hread
  have hchecked := smallChunks.check_reports (κ := LinearResampler Double Single)
    Session.quietSpeaker.host hsupported (by decide) (by decide) hbrings
  rw [hlength] at hchecked
  exact ⟨hsupported, rfl, rfl, rfl, _, data, hbrings, hlength, hchecked⟩

end PcmRender
