/-
  PcmRender.Proofs.Counting — **what the report of a clip counts.**

  A chunk is counted when all of it was taken.  Between two offers of one chunk the player can find
  itself cancelled, and then what was taken of this chunk is not counted:

      accepted   =   counted  +  cut         cut = 0, or the clip was cancelled
                                             and cut is less than a chunk

  Whoever cancels does so at a moment of their own.  So the look whether a clip is cancelled may answer
  anything here, and an outlet that answers it after a number of looks (`CancelledLater`) stands for
  another thread.

  Main statements:
    * `Clip.stream_counts` — the report of any clip on any outlet,
    * `Clip.cut_chunk_uncounted` — a clip that was cut inside a chunk.
-/
import PcmRender.Proofs.Wholeness

namespace PcmRender

/-! ## §1. One buffer and one chunk. -/

section Filling

variable {ω : Type} [Outlet ω]

/-- A buffer is filled with as much as there is room for, at most. -/
theorem length_fill : ∀ (events : List ReadEvent) (outlet : ω) (room : Nat) {data : List UInt8},
    (fill outlet room events).result = .ok data → data.length ≤ room := by
  intro events
  induction events with
  | nil =>
      intro outlet room data h
      obtain rfl := Except.ok.inj h
      exact Nat.zero_le _
  | cons event rest ih =>
      intro outlet room data h
      cases event with
      | bytes piece =>
          unfold fill at h
          split at h
          · obtain rfl := Except.ok.inj h
            exact Nat.zero_le _
          split at h
          · obtain rfl := Except.ok.inj h
            exact List.length_take_le _ _
          split at h
          · next hexact =>
              obtain rfl := Except.ok.inj h
              exact Nat.le_of_eq hexact.symm
          · -- The rest of the buffer is filled behind this read.
            next hmore _ =>
              dsimp only at h
              cases hrest : (fill outlet (room - piece.length) rest).result with
              | error text =>
                  rw [hrest] at h
                  exact absurd (show Except.error text = Except.ok data from h) (by simp)
              | ok more =>
                  have hbehind := ih outlet _ hrest
                  rw [hrest] at h
                  obtain rfl := Except.ok.inj h
                  rw [List.length_append]
                  omega
      | interrupted => exact ih outlet room h
      | failed text => exact absurd h (by simp [fill])
      | cancelled => exact ih (Outlet.requestCancel outlet) room h

/-- Filling a buffer offers nothing. -/
theorem slices_fill (events : List ReadEvent) (r : Recorded ω) (room : Nat) :
    (fill r room events).outlet.slices = r.slices :=
  fill_stays (fun other : Recorded ω => other.slices = r.slices) id events room rfl

end Filling

/-- Nobody asks for cancelling between a look and the next one, if there is an offer between them. -/
def Outlet.CancelsAside (ω : Type) [Outlet ω] : Prop :=
  ∀ (outlet : ω) (chunk : List UInt8), (Outlet.checkCancel outlet).1 = false →
    (Outlet.checkCancel (Outlet.feed (Outlet.checkCancel outlet).2 chunk).2).1 = false

namespace Clip

variable {ω : Type} [Outlet ω]

/-- Every outlet keeps a record of what it takes. -/
theorem recorded_books : Outlet.Books 1 (fun _ : Recorded ω => True) (fun r => r.slices.flatten) :=
  @Recorded.books ω _ (fun _ => True) (fun _ _ _ => trivial) (fun _ _ => trivial)
    (fun _ _ _ => trivial)

/-- The bytes that an outlet has accepted. -/
def accepted (r : Recorded ω) : Nat := r.slices.flatten.length

omit [Outlet ω] in
theorem accepted_given {r after : Recorded ω} {given : List UInt8}
    (h : after.slices.flatten = r.slices.flatten ++ given) :
    accepted after = accepted r + given.length := by
  unfold accepted
  rw [h, List.length_append]

/-- **A chunk that is cut short was not taken as a whole.** -/
theorem pushChunk_cut : ∀ (offers : Nat) (r : Recorded ω) (chunk : List UInt8),
    (pushChunk offers r chunk).1 = .cancelled →
      accepted (pushChunk offers r chunk).2 < accepted r + chunk.length := by
  intro offers
  induction offers with
  | zero =>
      intro r chunk hcut
      cases chunk with
      | nil => exact absurd hcut (by simp [pushChunk])
      | cons b rest => exact absurd hcut (by simp [pushChunk])
  | succ offers ih =>
      intro r chunk hcut
      cases chunk with
      | nil => exact absurd hcut (by simp [pushChunk])
      | cons b rest =>
          have hlooked : accepted (Outlet.checkCancel r).2 = accepted r := rfl
          unfold pushChunk at hcut ⊢
          generalize Outlet.checkCancel r = looked at hlooked hcut ⊢
          obtain ⟨cancelled, looked⟩ := looked
          dsimp only at hlooked
          cases cancelled with
          | true =>
              -- The loop only looks while there is something left to offer.
              show accepted looked < accepted r + (b :: rest).length
              rw [hlooked, List.length_cons]
              omega
          | false =>
              have hfed : accepted (Outlet.feed looked (b :: rest)).2
                  = accepted looked + (Outlet.takenBy (b :: rest)
                    (Outlet.feed looked (b :: rest)).1).length := by
                unfold accepted
                rw [← List.length_append]
                exact congrArg List.length (recorded_books.feed looked (b :: rest) trivial
                  (Nat.one_dvd _)).2.1
              dsimp only at hcut ⊢
              generalize Outlet.feed looked (b :: rest) = answered at hfed hcut ⊢
              obtain ⟨answer, fed⟩ := answered
              cases answer with
              | error fault => exact absurd hcut (by simp)
              | ok answer =>
                  cases answer with
                  | consumed => exact absurd hcut (by simp)
                  | accepted n =>
                      have hparts : ((b :: rest).take n).length + ((b :: rest).drop n).length
                          = (b :: rest).length := by
                        rw [← List.length_append, List.take_append_drop]
                      have htaken : accepted fed = accepted looked + ((b :: rest).take n).length := hfed
                      have hbehind := ih fed _ hcut
                      dsimp only at hbehind ⊢
                      omega

/-- After a look that found no request to cancel, a chunk is not cut short if nobody cancels during its
offers. -/
theorem pushChunk_aside (h : Outlet.CancelsAside ω) : ∀ (offers : Nat) (outlet : ω)
    (chunk : List UInt8), (Outlet.checkCancel outlet).1 = false →
      (pushChunk offers outlet chunk).1 ≠ .cancelled := by
  intro offers
  induction offers with
  | zero =>
      intro outlet chunk _
      cases chunk <;> simp [pushChunk]
  | succ offers ih =>
      intro outlet chunk hlook
      cases chunk with
      | nil => simp [pushChunk]
      | cons b rest =>
          have hnext := h outlet (b :: rest) hlook
          unfold pushChunk
          generalize Outlet.checkCancel outlet = looked at hlook hnext ⊢
          obtain ⟨cancelled, looked⟩ := looked
          obtain rfl : cancelled = false := hlook
          dsimp only at hnext ⊢
          generalize Outlet.feed looked (b :: rest) = answered at hnext ⊢
          obtain ⟨answer, fed⟩ := answered
          cases answer with
          | error fault => simp
          | ok answer =>
              cases answer with
              | consumed => simp
              | accepted n => exact ih fed _ hnext

/-- A chunk of which something was taken before it was cut short was cut between two offers. -/
theorem accepted_of_cut (h : Outlet.CancelsAside ω) (offers : Nat) (r : Recorded ω)
    (chunk : List UInt8) (hcut : (pushChunk offers r chunk).1 = .cancelled) :
    accepted (pushChunk offers r chunk).2 = accepted r := by
  have hlook : (Outlet.checkCancel r).1 = true :=
    Bool.of_not_eq_false fun hlook => pushChunk_aside (fun r => h r.outlet) offers r chunk hlook hcut
  cases offers with
  | zero => cases chunk <;> rfl
  | succ offers =>
      cases chunk with
      | nil => rfl
      | cons b rest =>
          have hlooked : accepted (Outlet.checkCancel r).2 = accepted r := rfl
          unfold pushChunk
          generalize Outlet.checkCancel r = looked at hlook hlooked ⊢
          obtain ⟨cancelled, looked⟩ := looked
          obtain rfl : cancelled = true := hlook
          exact hlooked

/-! ## §2. The loop. -/

/-- What is not counted of the bytes accepted on the way: nothing, or less than a buffer if the clip
was cancelled between two offers. -/
structure Counted (size : Nat) (before : Progress) (r : Recorded ω) (progress : Progress)
    (after : Recorded ω) : Prop where
  counted : ∃ cut, accepted after + before.bytes = accepted r + progress.bytes + cut
    ∧ (cut ≠ 0 → progress.cancelled = true ∧ cut < size ∧ ¬ Outlet.CancelsAside ω)

/-- A loop that has offered nothing counts nothing. -/
theorem Counted.nothing {size : Nat} {before : Progress} {r after : Recorded ω}
    (h : after.slices = r.slices) : Counted size before r before after := by
  refine ⟨0, ?_, fun hcut => absurd rfl hcut⟩
  unfold accepted
  rw [h]
  rfl

/-- **The loop over an input** counts every chunk that was taken as a whole. -/
theorem pushAll_counted (frame size : Nat) : ∀ (reads : Nat) (r : Recorded ω)
    (events : List ReadEvent) (before progress : Progress) (after : Recorded ω),
      pushAll frame size reads r events before = (some (.ok progress), after) →
        Counted size before r progress after := by
  intro reads
  induction reads with
  | zero =>
      rintro r events before progress after ⟨⟩
      exact .nothing rfl
  | succ reads ih =>
      intro r events before progress after h
      have hslices := slices_fill events r size
      obtain ⟨data, hread, hbuffer⟩ := pushAll_buffered h
      have hsize : (whole frame data).length ≤ size :=
        Nat.le_trans (List.length_take_le' _ _) (length_fill events r size hread)
      generalize fill r size events = filled at hslices hbuffer
      have hfilled : accepted filled.outlet = accepted r := by
        unfold accepted
        rw [hslices]
      cases hbuffer with
      | short hsame hleft =>
          subst hsame hleft
          exact .nothing hslices
      | @cut offers _ _ hpushed hnoted =>
          -- This chunk is not counted, whatever was taken of it.
          have hoffered := pushChunk_books recorded_books offers filled.outlet (whole frame data)
            trivial (Nat.one_dvd _)
          have hless := pushChunk_cut offers filled.outlet (whole frame data)
          have hsame := fun haside => accepted_of_cut haside offers filled.outlet (whole frame data)
          rw [hpushed] at hoffered hless hsame
          obtain ⟨given, hgiven, _⟩ := hoffered.given
          have hcut : accepted after = accepted filled.outlet + given.length := accepted_given hgiven
          have hbelow : accepted after < accepted filled.outlet + (whole frame data).length := hless rfl
          subst hnoted
          refine ⟨given.length, ?_, fun hsome => ⟨rfl, by omega, fun haside => ?_⟩⟩
          · dsimp only
            omega
          · have hnone : accepted after = accepted filled.outlet := hsame haside rfl
            omega
      | @taken offers behind counted _ _ hpushed hnoted hgoes =>
          have hoffered := pushChunk_books recorded_books offers filled.outlet (whole frame data)
            trivial (Nat.one_dvd _)
          rw [hpushed] at hoffered
          obtain ⟨given, hgiven, _, hall⟩ := hoffered.given
          obtain rfl := hall rfl
          have hwhole : accepted behind = accepted filled.outlet + (whole frame data).length :=
            accepted_given hgiven
          have hcount : counted.bytes = before.bytes + (whole frame data).length := by rw [hnoted]
          rcases hgoes with ⟨hlast, hend⟩ | hlater
          · subst hlast hend
            refine ⟨0, ?_, fun hcut => absurd rfl hcut⟩
            omega
          · obtain ⟨cut, hrest, hwhy⟩ := ih behind filled.rest counted progress after hlater
            refine ⟨cut, ?_, hwhy⟩
            omega

/-! ## §3. Clips. -/

/-- **A report counts what was accepted, but for a chunk that was cut.**

Let a clip of any format be read in chunks of any size, and let its reads bring what they like, fail,
or be interrupted; let the outlet take any part of what it is offered, and let anybody cancel at any
moment.  Whenever there is a report, the bytes accepted by the outlet are the bytes of the report and a
rest.  If there is such a rest, it is less than a chunk, and the clip was cancelled between two offers;
where nobody does that, the report counts every byte that was accepted. -/
theorem stream_counts (format : Format) (chunk : Nat) (tail : Option Duration) (outlet : ω)
    (events : List ReadEvent) {report : ClipReport} {after : Recorded ω}
    (h : stream format chunk tail ({ outlet } : Recorded ω) events = (some (.ok report), after)) :
    ∃ cut, accepted after = report.bytes + cut
      ∧ (cut ≠ 0 → report.cancelled = true ∧ cut < chunkSize chunk format.align
        ∧ ¬ Outlet.CancelsAside ω) := by
  unfold stream at h
  dsimp only at h
  split at h
  · exact absurd h (by simp)
  split at h
  · exact absurd h (by simp)
  · exact absurd h (by simp)
  next progress played hpushed =>
    obtain ⟨cut, hcounted, hwhy⟩ := (pushAll_counted _ _ _ _ _ _ _ _ hpushed).counted
    have hsame : accepted played = progress.bytes + cut := by
      have hnone : accepted ({ outlet } : Recorded ω) = 0 := rfl
      rw [hnone] at hcounted
      dsimp only at hcounted
      omega
    split at h
    · exact absurd h (by simp)
    next duration _ =>
      cases tail with
      | none =>
          obtain ⟨rfl, rfl⟩ : _ = report ∧ played = after := by simpa using h
          exact ⟨cut, hsame, hwhy⟩
      | some tail =>
          -- The wait at the end takes nothing, and forgets no request to cancel.
          obtain ⟨_, hwait, hkept, _⟩ := awaitPlayout_books recorded_books played trivial progress
            (duration.plus tail)
          obtain ⟨rfl, rfl⟩ : _ = report ∧ (awaitPlayout played progress (duration.plus tail)).2
            = after := by simpa using h
          refine ⟨cut, ?_, fun hcut => ⟨hkept (hwhy hcut).1, (hwhy hcut).2⟩⟩
          unfold accepted at hsame ⊢
          rw [hwait, hsame]

end Clip

/-! ## §4. A clip that is cut. -/

/-- An outlet that somebody cancels after its player has looked a number of times. -/
structure CancelledLater (ω : Type) where
  outlet : ω
  looks : Nat

instance {ω : Type} [Outlet ω] : Outlet (CancelledLater ω) where
  feed c chunk :=
    let (answer, outlet) := Outlet.feed c.outlet chunk
    (answer, { c with outlet })
  reopen c :=
    let (answer, outlet) := Outlet.reopen c.outlet
    (answer, { c with outlet })
  checkCancel c :=
    let (cancelled, outlet) := Outlet.checkCancel c.outlet
    (cancelled || c.looks == 0, { outlet, looks := c.looks - 1 })
  requestCancel c := { c with outlet := Outlet.requestCancel c.outlet }
  clock c := Outlet.clock c.outlet
  playOut c deadline :=
    let (cancelled, outlet) := Outlet.playOut c.outlet deadline
    (cancelled || c.looks == 0, { c with outlet })
  patience c := Outlet.patience c.outlet

/-- A player that reads two samples at a time. -/
def twoAtOnce : ClipPlayer := { smallChunks with chunk := 4 }

/-- The ring has room for two samples, and then for one. -/
def scarceRoom : List (Interlude DeviceBank) :=
  [⟨[.elsewhere (·.setFree "speaker" 2), .turn 1], ⟨0, 0⟩⟩,
    ⟨[.elsewhere (·.setFree "speaker" 1), .turn 1], ⟨0, 0⟩⟩]

/-- The quiet speaker, opened and started, on which somebody makes room and somebody cancels. -/
def scarceSpeaker (schedule : List (Interlude DeviceBank)) (looks : Nat) :
    CancelledLater (SharedOutlet DeviceBank (LinearResampler Double Single)) where
  outlet := { session := Session.quietSpeaker.openSection.2.start.2, schedule, now := ⟨0, 0⟩,
              patience := 1 }
  looks

/-- Two samples are counted, and one more is accepted before the clip is cut. -/
theorem Clip.stream_counts_scarceRoom :
    ∃ report after, Clip.stream (Format.pcm 8000 16 1) 4 none
        ({ outlet := scarceSpeaker scarceRoom 2 } : Recorded _)
        [.bytes [1, 2, 3, 4], .bytes [5, 6, 7, 8]] = (some (.ok report), after)
      ∧ report.bytes = 4 ∧ after.slices = [[1, 2, 3, 4], [5, 6]]
      ∧ ∃ cut, accepted after = report.bytes + cut ∧ (cut ≠ 0 → report.cancelled = true) := by
  obtain ⟨cut, hsum, hcut⟩ := Clip.stream_counts (Format.pcm 8000 16 1) 4 none
    (scarceSpeaker scarceRoom 2) [.bytes [1, 2, 3, 4], .bytes [5, 6, 7, 8]] rfl
  exact ⟨_, _, rfl, rfl, rfl, cut, hsum, fun hsome => (hcut hsome).1⟩

/-- **A cut chunk is not counted.**  A player begins with a session of its own; the ring takes the first
of the two samples that it offers, and then the clip is cancelled.  The report counts nothing, though
the session has accepted a sample. -/
theorem Clip.cut_chunk_uncounted :
    twoAtOnce.Begins Session.quietSpeaker.host (Format.pcm 8000 16 1) Session.quietSpeaker.openSection.2
        Session.quietSpeaker.openSection.2.start.2
      ∧ ∃ after, Clip.stream (Format.pcm 8000 16 1) twoAtOnce.chunk (some twoAtOnce.tail)
          ({ outlet := scarceSpeaker scarceRoom.tail 1 } : Recorded _) [.bytes [1, 2, 3, 4]]
          = (some (.ok { bytes := 0, duration := ⟨0⟩, cancelled := true }), after)
        ∧ after.slices = [[1, 2]] :=
  ⟨⟨⟨_, rfl, rfl⟩, rfl⟩, _, rfl, rfl⟩

end PcmRender
