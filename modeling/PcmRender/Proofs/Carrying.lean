/-
  PcmRender.Proofs.Carrying — **a stream neither loses nor repeats input.**

  The loop over a stream carries three things round: how much was taken, the part of a frame that the
  reads have left behind, and what is still to be read.  They are the data:

      data   =   taken so far   ++   kept   ++   still to be read
                 whole frames        less than
                                     a frame

  A buffer holds a frame at least, so there is room behind what is kept.  What is offered begins where
  the last offer ended and ends at a frame, so the next round begins with whole frames again, however
  the outlet has cut them.

  There is one exception.  A push that is cancelled leaves frames behind that are neither offered again
  nor kept; then the loop comes round once more, finds itself cancelled as well, and ends before it
  reads (`Lap.Stopping`).

  Main definitions:
    * `Stream.Lap`, `Stream.lap` — where the loop stands, and one round of it.

  Main statements:
    * `Stream.pump_laps` — the loop is its rounds, one after the other,
    * `Stream.sound_lap`, `Stream.sound_reaches` — what a round keeps, and so do all,
    * `Stream.run_carries` — whole inputs.
-/
import PcmRender.Proofs.Noting
import PcmRender.Session.Shared

namespace PcmRender

namespace Stream

variable {ω : Type} [Outlet ω] {frame : Nat} {data : List UInt8}

/-! ## §1. Rounds. -/

/-- Where the loop stands when it comes round. -/
structure Lap (ω : Type) where
  outlet : ω
  /-- What is still to be read. -/
  input : List ReadEvent
  /-- The part of a frame that the reads before have left. -/
  kept : List UInt8 := []
  /-- The bytes taken so far. -/
  total : Nat := 0

/-- The space behind what is kept. -/
def Lap.room (size : Nat) (l : Lap ω) : Nat := size - l.kept.length

/-- One round: the loop ends, or it comes round once more. -/
def lap (frame size : Nat) (l : Lap ω) : (Option (Except Fault Nat) × ω) ⊕ Lap ω :=
  match Outlet.checkCancel l.outlet with
  | (true, outlet) => .inl (some (.ok l.total), outlet)
  | (false, outlet) =>
    let read := readOnce outlet (l.room size) l.input
    match read.result with
    | .error text => .inl (some (.error (.error (.io text))), read.outlet)
    | .ok data =>
      if data.isEmpty then .inl (some (.ok l.total), read.outlet)
      else
        let pending := l.kept ++ data
        let whole := pending.length / frame * frame
        let offers := (whole + 1) * (Outlet.patience read.outlet + 1)
        match push offers read.outlet (pending.take whole) 0 with
        | (some (.ok taken), outlet) =>
          .inr { outlet, input := read.rest, kept := pending.drop whole, total := l.total + taken }
        | (other, outlet) => .inl (other, outlet)

/-- The rounds to which the loop comes. -/
inductive Reaches (frame size : Nat) (first : Lap ω) : Lap ω → Prop
  /-- The first one, -/
  | first : Reaches frame size first first
  /-- and behind each the next. -/
  | next {l next : Lap ω} (h : Reaches frame size first l) (hround : lap frame size l = .inr next) :
      Reaches frame size first next

/-- The loop begins with a round. -/
theorem pump_succ (frame size reads : Nat) (l : Lap ω) :
    pump frame size (reads + 1) l.outlet l.input l.kept l.total
      = (lap frame size l).elim id fun next =>
        pump frame size reads next.outlet next.input next.kept next.total := by
  rw [pump]
  unfold lap Lap.room
  dsimp only
  generalize Outlet.checkCancel l.outlet = looked
  obtain ⟨cancelled, looked⟩ := looked
  cases cancelled with
  | true => rfl
  | false =>
      dsimp only
      generalize readOnce looked (size - l.kept.length) l.input = read
      obtain ⟨result, rest, outlet⟩ := read
      cases result with
      | error text => rfl
      | ok data =>
          dsimp only
          split
          · rfl
          · generalize push _ outlet _ 0 = pushed
            obtain ⟨result, after⟩ := pushed
            cases result with
            | none => rfl
            | some result => cases result <;> rfl

/-- A round that is not the last one reads something. -/
theorem inputLength_lap {size : Nat} {l next : Lap ω} (h : lap frame size l = .inr next) :
    inputLength next.input < inputLength l.input := by
  unfold lap at h
  generalize Outlet.checkCancel l.outlet = looked at h
  obtain ⟨cancelled, looked⟩ := looked
  cases cancelled with
  | true => exact absurd h nofun
  | false =>
      have hlength : ∀ {piece : List UInt8}, (readOnce looked (l.room size) l.input).result = .ok piece → _ :=
        readOnce_length l.input looked (l.room size)
      dsimp only at h
      generalize readOnce looked (l.room size) l.input = read at hlength h
      obtain ⟨result, rest, outlet⟩ := read
      cases result with
      | error text => exact absurd h nofun
      | ok piece =>
          dsimp only at h
          split at h
          · exact absurd h nofun
          next hsome =>
          have hpos : 0 < piece.length :=
            List.length_pos_iff.mpr fun hnil => hsome (List.isEmpty_iff.mpr hnil)
          have hread := hlength rfl
          split at h
          · obtain rfl := Sum.inr.inj h
            show inputLength rest < _
            dsimp only at hread
            omega
          · exact absurd h nofun

theorem Reaches.behind {size : Nat} {first second last : Lap ω}
    (hround : lap frame size first = .inr second) (h : Reaches frame size second last) :
    Reaches frame size first last := by
  induction h with
  | first => exact .next .first hround
  | next _ hlast ih => exact .next ih hlast

/-- **The loop is its rounds**: it comes to a round that is the last one, and ends as that one does. -/
theorem pump_laps (frame size : Nat) : ∀ (reads : Nat) (l : Lap ω), inputLength l.input < reads →
    ∃ last, Reaches frame size l last
      ∧ lap frame size last = .inl (pump frame size reads l.outlet l.input l.kept l.total) := by
  intro reads
  induction reads with
  | zero =>
      intro l hreads
      exact absurd hreads (Nat.not_lt_zero _)
  | succ reads ih =>
      intro l hreads
      rw [pump_succ]
      cases hround : lap frame size l with
      | inl done => exact ⟨l, .first, hround⟩
      | inr next =>
          have hless := inputLength_lap hround
          obtain ⟨last, hreaches, hlast⟩ := ih next (by omega)
          exact ⟨last, hreaches.behind hround, hlast⟩

/-! ## §2. What a round keeps. -/

/-- Nobody has cancelled, and the parts that the loop carries make up the data. -/
structure Lap.Going (frame : Nat) (data : List UInt8) (l : Lap (Noted ω)) : Prop where
  untold : l.outlet.told = false
  frames : frame ∣ l.outlet.taken.length
  parts : ∃ rest, Arrives l.input rest ∧ l.outlet.taken ++ (l.kept ++ rest) = data

/-- The loop was cancelled, and finds itself cancelled at its next look. -/
structure Lap.Stopping (l : Lap (Noted ω)) : Prop where
  told : l.outlet.told = true
  cancelled : (Outlet.checkCancel l.outlet).1 = true

/-- Where the loop can stand. -/
structure Lap.Sound (frame : Nat) (data : List UInt8) (l : Lap (Noted ω)) : Prop where
  carries : Carries frame data l.outlet
  counts : l.outlet.taken.length = l.total
  /-- Less than a frame is kept. -/
  short : l.kept.length < frame
  course : l.Going frame data ∨ l.Stopping

/-- How the loop can end. -/
structure Ends (frame : Nat) (data : List UInt8) (done : Option (Except Fault Nat) × Noted ω) :
    Prop where
  carries : Carries frame data done.2
  counts : ∀ total, done.1 = some (.ok total) → done.2.taken.length = total
  whole : ∀ total, done.1 = some (.ok total) → done.2.told = false →
    done.2.taken = Clip.whole frame data
  recovers : Outlet.Recovers ω → ∀ fault, done.1 ≠ some (.error fault)

/-- A loop behind everything that was to be read has taken all whole frames. -/
theorem Ends.done {n : Noted ω} {kept : List UInt8} {total : Nat} (hcarries : Carries frame data n)
    (hcounts : n.taken.length = total) (hframes : frame ∣ n.taken.length) (hshort : kept.length < frame)
    (hparts : n.taken ++ kept = data) : Ends frame data (some (.ok total), n) := by
  refine ⟨hcarries, ?_, fun _ _ _ => ?_, fun _ _ => nofun⟩
  · rintro _ ⟨⟩
    exact hcounts
  · have hframe : 0 < frame := by omega
    rw [← hparts, Clip.whole_append hframe hframes, Clip.whole_of_lt hshort, List.append_nil]

/-- **The part of a round behind its read**: the whole frames of what is pending are pushed, and less
than a frame is kept. -/
theorem sound_push (hfair : Outlet.Fair ω) (hframe : 0 < frame) {n : Noted ω}
    {pending behind : List UInt8} {input : List ReadEvent} (hcarries : Carries frame data n)
    (huntold : n.told = false) (hframes : frame ∣ n.taken.length)
    (hparts : n.taken ++ (pending ++ behind) = data) (harrives : Arrives input behind) (offers : Nat) :
    (∀ taken after, push offers n (Clip.whole frame pending) 0 = (some (.ok taken), after) →
      Lap.Sound frame data { outlet := after, input, kept := pending.drop (Clip.whole frame pending).length
                             total := n.taken.length + taken })
    ∧ ∀ result after, push offers n (Clip.whole frame pending) 0 = (result, after) →
      (∀ taken, result ≠ some (.ok taken)) → Ends frame data (result, after) := by
  have hsplit : Clip.whole frame pending ++ pending.drop (Clip.whole frame pending).length = pending :=
    List.prefix_iff_eq_append.mp (List.take_prefix _ _)
  have hwhole : frame ∣ (Clip.whole frame pending).length := by
    rw [Clip.length_whole]
    exact Nat.dvd_mul_left _ _
  have hnext : n.taken ++ Clip.whole frame pending <+: data := by
    rw [← hparts, ← hsplit, List.append_assoc, ← List.append_assoc n.taken, hsplit]
    exact List.prefix_append _ _
  have hpushes := push_carries hfair offers n _ 0 hcarries hnext (Nat.dvd_add hframes hwhole)
  constructor
  · intro taken after hpush
    rw [hpush] at hpushes
    obtain ⟨hsum, hcourse⟩ := hpushes.counts taken rfl
    dsimp only at hsum hcourse
    refine ⟨hpushes.carries, ?_, ?_, hcourse.imp ?_ fun h => ⟨h.1, h.2⟩⟩
    · dsimp only
      omega
    · show (pending.drop (Clip.whole frame pending).length).length < frame
      have hleft := Nat.mod_lt pending.length hframe
      have hdiv := Nat.div_add_mod' pending.length frame
      rw [Clip.length_whole, List.length_drop]
      omega
    · rintro ⟨htold, htaken⟩
      refine ⟨htold.trans huntold, ?_, behind, harrives, ?_⟩
      · show frame ∣ after.taken.length
        rw [htaken, List.length_append]
        exact Nat.dvd_add hframes hwhole
      · show after.taken ++ _ = data
        rw [htaken, List.append_assoc, ← List.append_assoc (Clip.whole frame pending), hsplit]
        exact hparts
  · intro result after hpush hnone
    rw [hpush] at hpushes
    exact ⟨hpushes.carries, fun total h => absurd h (hnone total), fun total h => absurd h (hnone total),
      hpushes.recovers⟩

/-- **A round keeps the parts together**, and if it is the last one, all whole frames were taken or the
loop was cancelled. -/
theorem sound_lap (hfair : Outlet.Fair ω) {size : Nat} (hsize : frame ≤ size) {l : Lap (Noted ω)}
    (h : l.Sound frame data) :
    (lap frame size l).elim (Ends frame data) (Lap.Sound frame data) := by
  obtain ⟨hcarries, hcounts, hshort, hcourse⟩ := h
  have hlooked : (Outlet.checkCancel l.outlet).2.offers = l.outlet.offers
      ∧ (Outlet.checkCancel l.outlet).2.told = (l.outlet.told || (Outlet.checkCancel l.outlet).1) :=
    ⟨rfl, rfl⟩
  unfold lap
  generalize hlook : Outlet.checkCancel l.outlet = looked at hlooked ⊢
  obtain ⟨cancelled, looked⟩ := looked
  obtain ⟨hoffers, htold⟩ := hlooked
  cases cancelled with
  | true =>
      rw [Bool.or_true] at htold
      refine ⟨hcarries.of_offers hoffers, ?_, fun _ _ hfree => ?_, fun _ _ => nofun⟩
      · rintro total ⟨⟩
        exact (congrArg (·.flatMap Offer.taken |>.length) hoffers).trans hcounts
      · exact absurd (htold.symm.trans hfree) nofun
  | false =>
      -- A loop that was cancelled does not come to read.
      rcases hcourse.symm with hstops | ⟨huntold, hframes, rest, harrives, hparts⟩
      · exact absurd ((congrArg Prod.fst hlook).symm.trans hstops.cancelled) nofun
      have hroom : 0 < l.room size := by
        unfold Lap.room
        omega
      obtain ⟨piece, behind, hresult, hrest, hend, hgoes⟩ := readOnce_arrives harrives looked hroom
      obtain ⟨hreadoffers, hreadtold⟩ := Noted.readOnce_notes l.input looked (l.room size)
      dsimp only
      generalize readOnce looked (l.room size) l.input = read at hresult hgoes hreadoffers hreadtold ⊢
      obtain ⟨result, input, outlet⟩ := read
      obtain rfl : result = .ok piece := hresult
      have hsame : outlet.offers = l.outlet.offers := hreadoffers.trans hoffers
      have htaken : outlet.taken = l.outlet.taken := congrArg (·.flatMap Offer.taken) hsame
      have hstill : outlet.told = false := by
        rw [hreadtold, htold, huntold]
        rfl
      replace hcarries := hcarries.of_offers hsame
      rw [← htaken] at hcounts hframes hparts
      dsimp only
      split
      · next hempty =>
        rw [hend (List.isEmpty_iff.mp hempty), List.append_nil] at hparts
        exact .done hcarries hcounts hframes hshort hparts
      next hsome =>
      have hpiece : piece ≠ [] := fun hnil => hsome (List.isEmpty_iff.mpr hnil)
      rw [hrest, ← List.append_assoc l.kept] at hparts
      rw [Clip.take_whole, ← Clip.length_whole frame (l.kept ++ piece)]
      generalize ((Clip.whole frame (l.kept ++ piece)).length + 1) * (Outlet.patience outlet + 1)
        = offers
      obtain ⟨hgo, hstop⟩ := sound_push hfair (by omega) hcarries hstill hframes hparts (hgoes hpiece)
        offers
      rw [hcounts] at hgo
      generalize push offers outlet (Clip.whole frame (l.kept ++ piece)) 0 = pushed at hgo hstop ⊢
      obtain ⟨result, after⟩ := pushed
      split
      · next taken _ hpushed =>
        obtain ⟨rfl, rfl⟩ := Prod.mk.inj hpushed
        exact hgo taken after rfl
      · next hnone hpushed =>
        obtain ⟨rfl, rfl⟩ := Prod.mk.inj hpushed
        exact hstop result after rfl hnone

/-- **All rounds keep the parts together.** -/
theorem sound_reaches (hfair : Outlet.Fair ω) {size : Nat} (hsize : frame ≤ size)
    {first l : Lap (Noted ω)} (h : first.Sound frame data) (hreaches : Reaches frame size first l) :
    l.Sound frame data := by
  induction hreaches with
  | first => exact h
  | next _ hround ih =>
      have hkept := sound_lap hfair hsize ih
      rw [hround] at hkept
      exact hkept

/-! ## §3. Whole inputs. -/

section Seeing

variable {υ : Type} [Outlet υ] {view : ω → υ}

theorem readOnce_sees (h : Outlet.Sees view) : ∀ (events : List ReadEvent) (outlet : ω) (room : Nat),
    readOnce (view outlet) room events = { result := (readOnce outlet room events).result
                                           rest := (readOnce outlet room events).rest
                                           outlet := view (readOnce outlet room events).outlet } := by
  intro events
  induction events with
  | nil =>
      intro outlet room
      rfl
  | cons event rest ih =>
      intro outlet room
      cases event with
      | bytes data =>
          unfold readOnce
          split <;> rfl
      | interrupted => rfl
      | failed text => rfl
      | cancelled =>
          show readOnce (Outlet.requestCancel (view outlet)) room rest = _
          rw [h.requestCancel]
          exact ih _ room

theorem push_sees (h : Outlet.Sees view)
    (hreopen : ∀ outlet, Outlet.reopen (view outlet) = Prod.map id view (Outlet.reopen outlet)) :
    ∀ (offers : Nat) (outlet : ω) (chunk : List UInt8) (taken : Nat),
      push offers (view outlet) chunk taken = Prod.map id view (push offers outlet chunk taken) := by
  intro offers
  induction offers with
  | zero =>
      intro outlet chunk taken
      cases chunk <;> rfl
  | succ offers ih =>
      intro outlet chunk taken
      cases chunk with
      | nil => rfl
      | cons b rest =>
          unfold push
          rw [h.checkCancel]
          generalize Outlet.checkCancel outlet = looked
          obtain ⟨cancelled, looked⟩ := looked
          cases cancelled with
          | true => rfl
          | false =>
              dsimp only [Prod.map, id]
              rw [h.feed]
              generalize Outlet.feed looked (b :: rest) = answered
              obtain ⟨answer, fed⟩ := answered
              cases answer with
              | ok answer =>
                  cases answer with
                  | consumed => rfl
                  | accepted n => exact ih fed _ _
              | error fault =>
                  cases fault with
                  | overflow => rfl
                  | error e =>
                      cases e with
                      | writeStalled time =>
                          dsimp only [Prod.map, id]
                          rw [hreopen]
                          generalize Outlet.reopen fed = reopened
                          obtain ⟨answer, reopened⟩ := reopened
                          cases answer with
                          | error fault => rfl
                          | ok _ => exact ih reopened _ _
                      | _ => rfl

theorem pump_sees (h : Outlet.Sees view)
    (hreopen : ∀ outlet, Outlet.reopen (view outlet) = Prod.map id view (Outlet.reopen outlet))
    (frame size : Nat) : ∀ (reads : Nat) (outlet : ω) (events : List ReadEvent) (kept : List UInt8)
    (total : Nat), pump frame size reads (view outlet) events kept total
      = Prod.map id view (pump frame size reads outlet events kept total) := by
  intro reads
  induction reads with
  | zero =>
      intro outlet events kept total
      rfl
  | succ reads ih =>
      intro outlet events kept total
      unfold pump
      rw [h.checkCancel]
      generalize Outlet.checkCancel outlet = looked
      obtain ⟨cancelled, looked⟩ := looked
      cases cancelled with
      | true => rfl
      | false =>
          dsimp only [Prod.map, id]
          rw [readOnce_sees h]
          generalize readOnce looked (size - kept.length) events = read
          obtain ⟨result, rest, read⟩ := read
          cases result with
          | error text => rfl
          | ok piece =>
              dsimp only
              split
              · rfl
              · rw [h.patience, push_sees h hreopen]
                generalize push _ read _ 0 = pushed
                obtain ⟨result, after⟩ := pushed
                cases result with
                | none => rfl
                | some result =>
                    cases result with
                    | error fault => rfl
                    | ok taken => exact ih after rest _ _

/-- **A stream does the same to an outlet and to its view.** -/
theorem run_sees (h : Outlet.Sees view)
    (hreopen : ∀ outlet, Outlet.reopen (view outlet) = Prod.map id view (Outlet.reopen outlet))
    (frame chunk : Nat) (outlet : ω) (events : List ReadEvent) :
    run frame chunk (view outlet) events = Prod.map id view (run frame chunk outlet events) := by
  unfold run
  dsimp only
  split
  · rfl
  · exact pump_sees h hreopen _ _ _ _ _ _ _

end Seeing

/-- **A stream neither loses nor repeats input.**

Let an input arrive in reads of any size, for any size of a frame and of the chunks; let somebody cancel
at any look or read, and let the outlet take any part of an offer, fail, or stall and be opened again.
What it was offered and what it took is noted beside it, which changes nothing.

However the loop ends, what was taken is a prefix of the data, and every offer began behind what was
taken before it and ended at a frame.  A total is the length of what was taken, and if no look has found
the stream cancelled it is all whole frames.  An outlet that recovers leads to no failure, but for a
buffer that is too large.  Every round has room for its read, and the loop is its rounds. -/
theorem run_carries (hfair : Outlet.Fair ω) (hframe : 0 < frame) (chunk : Nat) (outlet : ω)
    {events : List ReadEvent} (harrives : Arrives events data) :
    let size := Clip.chunkSize chunk frame
    let first : Lap (Noted ω) := { outlet := { outlet }, input := events }
    let done := run frame chunk ({ outlet } : Noted ω) events
    run frame chunk outlet events = (done.1, done.2.outlet)
      ∧ Carries frame data done.2
      ∧ (∀ total, done.1 = some (.ok total) → done.2.taken = data.take total
        ∧ done.2.taken.length = total
        ∧ (done.2.told = false → total = data.length / frame * frame))
      ∧ (Outlet.Recovers ω → ∀ fault, done.1 = some (.error fault) →
        fault = .overflow ∧ Ring.maxCapacity < size)
      ∧ (∀ l, Reaches frame size first l → 0 < l.room size)
      ∧ (size ≤ Ring.maxCapacity → ∃ last, Reaches frame size first last
        ∧ lap frame size last = .inl done) := by
  intro size first done
  have hsize : frame ≤ size := Nat.le_mul_of_pos_left _ (Nat.le_max_right _ _)
  have hempty : Carries frame data first.outlet := ⟨List.nil_prefix, nofun⟩
  have hfirst : first.Sound frame data :=
    ⟨hempty, rfl, hframe, .inl ⟨rfl, Nat.dvd_zero _, data, harrives, rfl⟩⟩
  have hrooms : ∀ l, Reaches frame size first l → 0 < l.room size := by
    intro l hreaches
    have hshort := (sound_reaches hfair hsize hfirst hreaches).short
    unfold Lap.room
    omega
  refine ⟨run_sees Noted.sees (fun _ => rfl) frame chunk { outlet } events, ?_⟩
  by_cases hlarge : Ring.maxCapacity < size
  · have hdone : done = (some (.error .overflow), { outlet }) := if_pos hlarge
    rw [hdone]
    refine ⟨hempty, nofun, ?_, hrooms, fun hfits => absurd hlarge (Nat.not_lt.mpr hfits)⟩
    rintro _ fault ⟨⟩
    exact ⟨rfl, hlarge⟩
  · have hdone : done = pump frame size (inputLength events + 1) { outlet } events [] 0 :=
      if_neg hlarge
    obtain ⟨last, hreaches, hlast⟩ := pump_laps frame size (inputLength events + 1) first
      (Nat.lt_succ_self _)
    have hends := sound_lap hfair hsize (sound_reaches hfair hsize hfirst hreaches)
    rw [hlast] at hends
    change Ends frame data (pump frame size (inputLength events + 1) { outlet } events [] 0) at hends
    rw [← hdone] at hends
    refine ⟨hends.carries, fun total htotal => ?_, fun hrecovers fault hfault => ?_, hrooms,
      fun _ => ⟨last, hreaches, ?_⟩⟩
    · have hcount := hends.counts total htotal
      refine ⟨?_, hcount, fun hfree => ?_⟩
      · rw [← hcount]
        exact List.prefix_iff_eq_take.mp hends.carries.taken
      · rw [← hcount, hends.whole total htotal hfree, Clip.length_whole]
    · exact absurd hfault (hends.recovers hrecovers fault)
    · rw [hlast, hdone]

end Stream

/-! ## §4. Outlets. -/

section Sessions

variable {σ κ : Type}

/-- A feed takes no more than it is offered. -/
theorem Session.accepted_feedSection (s : Session σ κ) (chunk : List UInt8) (now : Instant) {n : Nat}
    (h : (s.feedSection chunk now).1 = .done (.ok (.accepted n))) : n ≤ chunk.length := by
  unfold feedSection at h
  split at h
  · exact absurd h (by simp)
  split at h
  · exact absurd h (by simp)
  split at h
  · exact absurd h (by simp)
  · split at h
    · unfold feedRoute Ring.append at h
      dsimp only at h
      split at h
      · split at h
        · exact absurd h (by simp)
        · obtain rfl : _ = n := by simpa using h
          exact Nat.min_le_left _ _
      · exact absurd h (by simp)
    · exact absurd h (by simp)
  · exact absurd h (by simp)

theorem Session.accepted_feedAgain {s : Session σ κ} {now : Instant} {n : Nat}
    (h : s.feedAgain now = .ok (.accepted n)) : n = 0 := by
  unfold feedAgain at h
  split at h
  · split at h
    · exact absurd h nofun
    · exact (Feed.accepted.inj (Except.ok.inj h)).symm
  · exact (Feed.accepted.inj (Except.ok.inj h)).symm

theorem mapError_eq_ok {ε δ α : Type} {answer : Except ε α} {f : ε → δ} {a : α} :
    answer.mapError f = .ok a ↔ answer = .ok a := by
  cases answer with
  | error e =>
      show Except.error (f e) = .ok a ↔ Except.error e = .ok a
      simp
  | ok b =>
      show (Except.ok b : Except δ α) = .ok a ↔ Except.ok b = .ok a
      simp

variable [Host σ] [Stage κ]

/-- A session on which others work is fair, whatever they do. -/
theorem SharedOutlet.fair : Outlet.Fair (SharedOutlet σ κ) where
  counts o chunk n h := by
    change (o.feed chunk).1 = .ok (.accepted n) at h
    unfold feed at h
    dsimp only at h
    split at h
    · next answer hsection =>
      exact Session.accepted_feedSection _ _ _ (by rw [hsection, mapError_eq_ok.mp h])
    · have hnone := Session.accepted_feedAgain (mapError_eq_ok.mp h)
      omega
    · obtain rfl := Feed.accepted.inj (Except.ok.inj h)
      exact Nat.zero_le _
  stands _ h := h

/-- So is a session whose drain task keeps pace with its producer. -/
theorem SessionOutlet.fair : Outlet.Fair (SessionOutlet σ κ) where
  counts o chunk n h := by
    change (o.feed chunk).1 = .ok (.accepted n) at h
    unfold feed SteppedSession.feedAround at h
    dsimp only at h
    split at h
    · next answer _ hsection =>
      refine Session.accepted_feedSection o.session.session _ o.session.now ?_
      rw [hsection]
      exact congrArg FeedStep.done (mapError_eq_ok.mp h)
    · have hnone := Session.accepted_feedAgain (mapError_eq_ok.mp h)
      omega
    · obtain rfl := Feed.accepted.inj (Except.ok.inj h)
      exact Nat.zero_le _
  stands _ h := h

end Sessions

/-- An outlet whose answers are written down: how much it takes of an offer, or that it stalls.  When
they are used up, it takes all of an offer. -/
structure Scripted where
  answers : List (Option Nat)
  cancelled : Bool := false

instance : Outlet Scripted where
  feed s chunk :=
    match s.answers with
    | [] => (.ok .consumed, s)
    | some n :: rest => (.ok (.accepted (min n chunk.length)), { s with answers := rest })
    | none :: rest => (.error (.error (.writeStalled ⟨0⟩)), { s with answers := rest })
  reopen s := (.ok (), s)
  checkCancel s := (s.cancelled, s)
  requestCancel s := { s with cancelled := true }
  clock _ := 0
  playOut s _ := (s.cancelled, s)
  patience _ := 3

theorem Scripted.fair : Outlet.Fair Scripted where
  counts s chunk n h := by
    obtain ⟨answers, _⟩ := s
    rcases answers with _ | ⟨_ | k, rest⟩
    · exact absurd h nofun
    · exact absurd h nofun
    · obtain rfl := Feed.accepted.inj (Except.ok.inj h)
      exact Nat.min_le_right _ _
  stands _ h := h

theorem Scripted.recovers : Outlet.Recovers Scripted := by
  rintro ⟨_ | ⟨_ | k, rest⟩, _⟩ chunk
  · exact .inl ⟨_, rfl⟩
  · exact .inr ⟨_, rfl, rfl⟩
  · exact .inl ⟨_, rfl⟩

/-- Nine bytes in frames of two, in reads that keep to no frame.  Of the first offer nothing is taken and
then half a frame, then the outlet stalls; and somebody cancels while the second input is read. -/
theorem Stream.run_carries_scripted :
    (∃ done, Stream.run 2 5 ({ outlet := { answers := [some 0, some 1, none] } } : Noted Scripted)
        [.bytes [1, 2, 3], .bytes [4, 5, 6, 7, 8], .bytes [9]] = (some (.ok 8), done)
      ∧ done.offers.map Offer.chunk = [[1, 2], [1, 2], [2], [2], [3, 4, 5, 6], [7, 8]]
      ∧ Stream.Carries 2 [1, 2, 3, 4, 5, 6, 7, 8, 9] done
      ∧ done.taken = [1, 2, 3, 4, 5, 6, 7, 8])
    ∧ ∃ done, Stream.run 2 0 ({ outlet := { answers := [] } } : Noted Scripted)
        [.bytes [1, 2, 3], .cancelled, .bytes [4]] = (some (.ok 2), done)
      ∧ Stream.Carries 2 [1, 2, 3, 4] done ∧ done.taken = [1, 2] := by
  constructor
  · have harrives : Arrives [.bytes [1, 2, 3], .bytes [4, 5, 6, 7, 8], .bytes [9]]
        [1, 2, 3, 4, 5, 6, 7, 8, 9] :=
      .read (by decide) (.read (by decide) (.read (by decide) .ended))
    obtain ⟨_, hcarries, htotal, _⟩ := Stream.run_carries Scripted.fair (by decide : 0 < 2) 5
      { answers := [some 0, some 1, none] } harrives
    exact ⟨_, rfl, rfl, hcarries, (htotal 8 rfl).1⟩
  · have harrives : Arrives [.bytes [1, 2, 3], .cancelled, .bytes [4]] [1, 2, 3, 4] :=
      .read (by decide) (.cancelled (.read (by decide) .ended))
    obtain ⟨_, hcarries, htotal, _⟩ := Stream.run_carries Scripted.fair (by decide : 0 < 2) 0
      { answers := [] } harrives
    exact ⟨_, rfl, hcarries, (htotal 2 rfl).1⟩

end PcmRender
