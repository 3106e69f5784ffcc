/-
  PcmRender.Proofs.Viewing — **what a clip does not change, and does not see, of its outlet.**

  A clip only makes the calls of its outlet.  So a fact that none of these calls changes stays to the end
  of the clip (`Outlet.Stays`); and of two outlets that answer alike the clip does the same with both
  (`Outlet.Sees`).  An outlet that writes down beside what it does answers as before, so that what holds
  of what is written down holds of every outlet (`Recorded`).

  Main statements:
    * `Clip.pushAll_stays` — what no call of a loop changes,
    * `Clip.stream_sees` — what a clip does with outlets that answer alike,
    * `Recorded.sees`, `Recorded.books` — writing down which pieces were taken.
-/
import PcmRender.Proofs.Pushing

namespace PcmRender

/-! ## §1. What stays. -/

/-- A fact about an outlet that stays while an input is read and offered, whoever cancels and when. -/
structure Outlet.Stays {ω : Type} [Outlet ω] (fact : ω → Prop) : Prop where
  feed : ∀ {outlet : ω} (chunk : List UInt8), fact outlet → fact (Outlet.feed outlet chunk).2
  checkCancel : ∀ {outlet : ω}, fact outlet → fact (Outlet.checkCancel outlet).2
  requestCancel : ∀ {outlet : ω}, fact outlet → fact (Outlet.requestCancel outlet)

namespace Clip

variable {ω : Type} [Outlet ω] {fact : ω → Prop}

theorem pushChunk_stays (h : Outlet.Stays fact) (offers : Nat) :
    ∀ {outlet : ω} (chunk : List UInt8), fact outlet → fact (pushChunk offers outlet chunk).2 := by
  induction offers with
  | zero =>
      intro outlet chunk ho
      cases chunk <;> exact ho
  | succ offers ih =>
      intro outlet chunk ho
      cases chunk with
      | nil => exact ho
      | cons b rest =>
          have hlook := h.checkCancel ho
          unfold pushChunk
          generalize Outlet.checkCancel outlet = looked at hlook
          obtain ⟨cancelled, looked⟩ := looked
          cases cancelled with
          | true => exact hlook
          | false =>
              have hfed := h.feed (b :: rest) hlook
              dsimp only at hfed ⊢
              generalize Outlet.feed looked (b :: rest) = answered at hfed
              obtain ⟨answer, fed⟩ := answered
              cases answer with
              | error => exact hfed
              | ok taken =>
                  cases taken with
                  | consumed => exact hfed
                  | accepted n => exact ih _ hfed

theorem pushAll_stays (h : Outlet.Stays fact) (frame size : Nat) (reads : Nat) :
    ∀ {outlet : ω} (events : List ReadEvent) (before : Progress), fact outlet →
      fact (pushAll frame size reads outlet events before).2 := by
  induction reads with
  | zero =>
      intro outlet events before ho
      exact ho
  | succ reads ih =>
      intro outlet events before ho
      have hfilled : fact (fill outlet size events).outlet :=
        fill_stays fact h.requestCancel events size ho
      unfold pushAll
      generalize fill outlet size events = filled at hfilled
      obtain ⟨result, rest, filled⟩ := filled
      cases result with
      | error => exact hfilled
      | ok data =>
          dsimp only at hfilled ⊢
          split
          · exact hfilled
          have hpushed := pushChunk_stays h
            (((data.take (data.length / frame * frame)).length + 1) * (Outlet.patience filled + 1))
            (data.take (data.length / frame * frame)) hfilled
          generalize pushChunk _ filled _ = pushed at hpushed
          obtain ⟨push, after⟩ := pushed
          cases push with
          | exhausted => exact hpushed
          | failed => exact hpushed
          | cancelled => exact hpushed
          | taken =>
              dsimp only
              split
              · exact hpushed
              · exact ih _ _ hpushed

end Clip

/-! ## §2. Outlets that look alike. -/

/-- What a loop asks of an outlet can be asked of its `view` instead. -/
structure Outlet.Sees {ω υ : Type} [Outlet ω] [Outlet υ] (view : ω → υ) : Prop where
  feed : ∀ outlet chunk,
    Outlet.feed (view outlet) chunk = Prod.map id view (Outlet.feed outlet chunk)
  checkCancel : ∀ outlet,
    Outlet.checkCancel (view outlet) = Prod.map id view (Outlet.checkCancel outlet)
  requestCancel : ∀ outlet,
    Outlet.requestCancel (view outlet) = view (Outlet.requestCancel outlet)
  clock : ∀ outlet, Outlet.clock (view outlet) = Outlet.clock outlet
  playOut : ∀ outlet deadline,
    Outlet.playOut (view outlet) deadline = Prod.map id view (Outlet.playOut outlet deadline)
  patience : ∀ outlet, Outlet.patience (view outlet) = Outlet.patience outlet

section Seeing

variable {ω υ : Type} [Outlet ω] [Outlet υ] {view : ω → υ}

theorem fill_sees (h : Outlet.Sees view) : ∀ (events : List ReadEvent) (outlet : ω) (room : Nat),
    fill (view outlet) room events = { result := (fill outlet room events).result
                                       rest := (fill outlet room events).rest
                                       outlet := view (fill outlet room events).outlet } := by
  intro events
  induction events with
  | nil =>
      intro outlet room
      rfl
  | cons event rest ih =>
      intro outlet room
      cases event with
      | bytes data =>
          unfold fill
          split
          · rfl
          · split
            · rfl
            · split
              · rfl
              · rw [ih]
      | interrupted => exact ih outlet room
      | failed text => rfl
      | cancelled =>
          show fill (Outlet.requestCancel (view outlet)) room rest = _
          rw [h.requestCancel]
          exact ih _ room

namespace Clip

theorem pushChunk_sees (h : Outlet.Sees view) : ∀ (offers : Nat) (outlet : ω) (chunk : List UInt8),
    pushChunk offers (view outlet) chunk = Prod.map id view (pushChunk offers outlet chunk) := by
  intro offers
  induction offers with
  | zero =>
      intro outlet chunk
      cases chunk <;> rfl
  | succ offers ih =>
      intro outlet chunk
      cases chunk with
      | nil => rfl
      | cons b rest =>
          unfold pushChunk
          rw [h.checkCancel]
          generalize Outlet.checkCancel outlet = looked
          obtain ⟨cancelled, looked⟩ := looked
          cases cancelled with
          | true => rfl
          | false =>
              dsimp only [Prod.map, id]
              rw [h.feed]
              generalize Outlet.feed looked (b :: rest) = answered
              obtain ⟨answer, fed⟩ := answered
              cases answer with
              | error fault => rfl
              | ok taken =>
                  cases taken with
                  | consumed => rfl
                  | accepted n => exact ih fed _

theorem pushAll_sees (h : Outlet.Sees view) (frame size : Nat) : ∀ (reads : Nat) (outlet : ω)
    (events : List ReadEvent) (before : Progress),
      pushAll frame size reads (view outlet) events before
        = Prod.map id view (pushAll frame size reads outlet events before) := by
  intro reads
  induction reads with
  | zero =>
      intro outlet events before
      rfl
  | succ reads ih =>
      intro outlet events before
      unfold pushAll
      rw [fill_sees h]
      generalize fill outlet size events = filled
      obtain ⟨result, rest, filled⟩ := filled
      cases result with
      | error text => rfl
      | ok data =>
          dsimp only
          split
          · rfl
          · rw [h.clock, h.patience, pushChunk_sees h]
            generalize pushChunk _ filled _ = pushed
            obtain ⟨push, after⟩ := pushed
            cases push with
            | exhausted => rfl
            | failed fault => rfl
            | cancelled => rfl
            | taken =>
                dsimp only [Prod.map, id]
                split
                · rfl
                · exact ih after rest _

/-- **A loop over an input does the same to an outlet and to its view.** -/
theorem stream_sees (h : Outlet.Sees view) (format : Format) (chunk : Nat) (tail : Option Duration)
    (outlet : ω) (events : List ReadEvent) :
    stream format chunk tail (view outlet) events
      = Prod.map id view (stream format chunk tail outlet events) := by
  unfold stream
  dsimp only
  split
  · rfl
  rw [pushAll_sees h]
  generalize pushAll format.align (chunkSize chunk format.align) (inputLength events + 1) outlet
    events {} = pushed
  obtain ⟨result, after⟩ := pushed
  cases result with
  | none => rfl
  | some result =>
      cases result with
      | error fault => rfl
      | ok progress =>
          dsimp only [Prod.map, id]
          cases format.bytesDuration? progress.bytes with
          | none => rfl
          | some duration =>
              cases tail with
              | none => rfl
              | some tail =>
                  dsimp only
                  unfold awaitPlayout
                  split
                  · rw [h.playOut]
                    rfl
                  · rfl

end Clip

end Seeing

/-! ## §3. What is written down beside an outlet. -/

/-- An outlet, and the pieces that it took, offer after offer. -/
structure Recorded (ω : Type) where
  outlet : ω
  slices : List (List UInt8) := []

namespace Recorded

variable {ω : Type} [Outlet ω]

instance : Outlet (Recorded ω) where
  feed r chunk :=
    let (answer, outlet) := Outlet.feed r.outlet chunk
    (answer, { outlet, slices := r.slices ++ [Outlet.takenBy chunk answer] })
  reopen r :=
    let (answer, outlet) := Outlet.reopen r.outlet
    (answer, { r with outlet })
  checkCancel r :=
    let (cancelled, outlet) := Outlet.checkCancel r.outlet
    (cancelled, { r with outlet })
  requestCancel r := { r with outlet := Outlet.requestCancel r.outlet }
  clock r := Outlet.clock r.outlet
  playOut r deadline :=
    let (cancelled, outlet) := Outlet.playOut r.outlet deadline
    (cancelled, { r with outlet })
  patience r := Outlet.patience r.outlet

/-- Writing down what is taken does not change what an outlet does. -/
theorem sees : Outlet.Sees (outlet : Recorded ω → ω) where
  feed _ _ := rfl
  checkCancel _ := rfl
  requestCancel _ := rfl
  clock _ := rfl
  playOut _ _ := rfl
  patience _ := rfl

/-- **The pieces are books of any outlet**, with whatever its calls do not change. -/
theorem books {lasting : ω → Prop}
    (hfeed : ∀ o chunk, lasting o → lasting (Outlet.feed o chunk).2)
    (hlook : ∀ o, lasting o → lasting (Outlet.checkCancel o).2)
    (hplay : ∀ o deadline, lasting o → lasting (Outlet.playOut o deadline).2) :
    Outlet.Books 1 (fun r : Recorded ω => lasting r.outlet) (fun r => r.slices.flatten) where
  feed r chunk hlasting _ := by
    refine ⟨hfeed r.outlet chunk hlasting, ?_, Nat.one_dvd _⟩
    show (r.slices ++ [Outlet.takenBy chunk (Outlet.feed r.outlet chunk).1]).flatten = _
    rw [List.flatten_append, List.flatten_singleton]
    rfl
  checkCancel r hlasting := ⟨hlook r.outlet hlasting, rfl⟩
  playOut r deadline hlasting := ⟨hplay r.outlet deadline hlasting, rfl⟩

end Recorded

end PcmRender
