/-
  PcmRender.Proofs.Pushing — **what a clip offers, and what is taken of it.**

  Three loops work on a clip.  The inner one fills a buffer from reads that may bring little or
  nothing at all; the middle one offers what the buffer holds until it is taken; the outer one does
  both, buffer after buffer.  Buffers hold whole frames, so

      taken   =   the whole frames of the data, or as much of them as was taken before the loop ended

  however the reads cut the data and however the outlet cuts the offers.

  What is taken is written down beside the outlet.  `Outlet.Books` is what such books have to keep,
  and a property of the outlet that lasts while whole frames are offered can be kept with them.

  Main statements:
    * `fill_brings` — a buffer filled from an input,
    * `pushChunk_books`, `pushAll_books`, `stream_books` — the loops,
    * `pushAll_buffered` — one buffer of the outer loop, if this comes to its end.
-/
import PcmRender.Clip

namespace PcmRender

/-! ## §1. Inputs. -/

/-- What an input brings before its first empty read, if no read fails and nobody cancels. -/
inductive Brings : List ReadEvent → List UInt8 → Prop
  /-- There is nothing more to read. -/
  | ended : Brings [] []
  /-- The input is at its end; what a read would bring then does not count. -/
  | closed (rest : List ReadEvent) : Brings (.bytes [] :: rest) []
  /-- A read brings something. -/
  | read {piece : List UInt8} {rest : List ReadEvent} {data : List UInt8} (some : piece ≠ [])
      (h : Brings rest data) : Brings (.bytes piece :: rest) (piece ++ data)
  /-- A read is interrupted. -/
  | interrupted {rest : List ReadEvent} {data : List UInt8} (h : Brings rest data) :
      Brings (.interrupted :: rest) data

theorem Brings.length_le {events : List ReadEvent} {data : List UInt8} (h : Brings events data) :
    data.length ≤ inputLength events := by
  induction h with
  | ended => exact Nat.le_refl _
  | closed rest => exact Nat.zero_le _
  | @read piece rest data _ _ ih =>
      show (piece ++ data).length ≤ piece.length + inputLength rest
      rw [List.length_append]
      omega
  | interrupted _ ih => exact ih

/-- Without the requests to cancel, an input brings the same. -/
theorem Brings.filter {events : List ReadEvent} {data : List UInt8} (h : Brings events data) :
    Brings (events.filter (· != .cancelled)) data := by
  induction h with
  | ended => exact .ended
  | closed rest => exact .closed _
  | read hsome _ ih => exact .read hsome ih
  | interrupted _ ih => exact .interrupted ih

section Filling

variable {ω : Type} [Outlet ω]

/-- The first read of a buffer. -/
theorem fill_piece (outlet : ω) {room : Nat} {piece : List UInt8} (hsome : piece ≠ [])
    (rest : List ReadEvent) :
    fill outlet room (.bytes piece :: rest)
      = if room < piece.length then ⟨.ok (piece.take room), .bytes (piece.drop room) :: rest, outlet⟩
        else if room = piece.length then ⟨.ok piece, rest, outlet⟩
        else { fill outlet (room - piece.length) rest with
          result := (fill outlet (room - piece.length) rest).result.map (piece ++ ·) } := by
  have hpiece : ¬ piece.isEmpty = true := fun h => hsome (List.isEmpty_iff.mp h)
  rw [fill, if_neg hpiece]

/-- **A filled buffer holds what the input brings**, as much of it as there is room for; behind a full
buffer the rest is still to come. -/
theorem fill_brings {events : List ReadEvent} {data : List UInt8} (h : Brings events data)
    (outlet : ω) : ∀ room : Nat, 0 < room →
      ∃ rest, fill outlet room events = ⟨.ok (data.take room), rest, outlet⟩
        ∧ (room ≤ data.length → Brings rest (data.drop room)) := by
  -- The induction goes along the reads; a read that is not the last one leaves less room.
  induction h with
  | ended =>
      intro room hroom
      rw [List.take_nil]
      exact ⟨[], rfl, fun hle => absurd hle (Nat.not_le.mpr hroom)⟩
  | closed rest =>
      intro room hroom
      rw [List.take_nil]
      exact ⟨rest, rfl, fun hle => absurd hle (Nat.not_le.mpr hroom)⟩
  | interrupted _ ih =>
      intro room hroom
      exact ih room hroom
  | @read piece rest data hsome hrest ih =>
      intro room hroom
      rw [fill_piece outlet hsome]
      by_cases hcut : room < piece.length
      · -- The read brings more than there is room for.
        rw [if_pos hcut, List.take_append_of_le_length (by omega),
          List.drop_append_of_le_length (by omega)]
        refine ⟨_, rfl, fun _ => .read ?_ hrest⟩
        rw [Ne, List.drop_eq_nil_iff]
        omega
      rw [if_neg hcut]
      by_cases hexact : room = piece.length
      · rw [if_pos hexact, hexact, List.take_left, List.drop_left]
        exact ⟨rest, rfl, fun _ => hrest⟩
      · obtain ⟨later, hfill, hlater⟩ := ih (room - piece.length) (by omega)
        have htake : (piece ++ data).take room = piece ++ data.take (room - piece.length) := by
          rw [List.take_append, List.take_of_length_le (by omega)]
        have hdrop : (piece ++ data).drop room = data.drop (room - piece.length) := by
          rw [List.drop_append, List.drop_of_length_le (by omega), List.nil_append]
        rw [if_neg hexact, hfill, htake, hdrop, List.length_append]
        exact ⟨later, rfl, fun hle => hlater (by omega)⟩

/-- What a request to cancel leaves as it is, filling a buffer does. -/
theorem fill_stays (fact : ω → Prop)
    (hcancel : ∀ {outlet : ω}, fact outlet → fact (Outlet.requestCancel outlet))
    (events : List ReadEvent) :
    ∀ {outlet : ω} (room : Nat), fact outlet → fact (fill outlet room events).outlet := by
  induction events with
  | nil =>
      intro outlet room ho
      exact ho
  | cons event rest ih =>
      intro outlet room ho
      cases event with
      | bytes piece =>
          unfold fill
          split
          · exact ho
          split
          · exact ho
          split
          · exact ho
          · exact ih _ ho
      | interrupted => exact ih room ho
      | failed text => exact ho
      | cancelled => exact ih room (hcancel ho)

end Filling

/-! ## §2. Books. -/

/-- The bytes of a chunk that a feed took. -/
def Feed.taken (chunk : List UInt8) : Feed → List UInt8
  | .consumed => chunk
  | .accepted n => chunk.take n

namespace Outlet

/-- The bytes of a chunk that were taken, by the answer to its offer. -/
def takenBy (chunk : List UInt8) : Except Fault Feed → List UInt8
  | .ok answer => answer.taken chunk
  | .error _ => []

variable {ω : Type} [Outlet ω]

/-- Books of an outlet: `taken` grows by what every answer says and by nothing else, as long as
chunks of whole units are offered; the outlet takes whole units of them, and stays as `lasting` says. -/
structure Books (unit : Nat) (lasting : ω → Prop) (taken : ω → List UInt8) : Prop where
  /-- An offer is written down. -/
  feed : ∀ outlet chunk, lasting outlet → unit ∣ chunk.length →
    lasting (Outlet.feed outlet chunk).2
      ∧ taken (Outlet.feed outlet chunk).2 = taken outlet ++ takenBy chunk (Outlet.feed outlet chunk).1
      ∧ unit ∣ (takenBy chunk (Outlet.feed outlet chunk).1).length
  /-- Looking for a request to cancel is not. -/
  checkCancel : ∀ outlet, lasting outlet → lasting (Outlet.checkCancel outlet).2
    ∧ taken (Outlet.checkCancel outlet).2 = taken outlet
  /-- Nor is waiting. -/
  playOut : ∀ outlet deadline, lasting outlet → lasting (Outlet.playOut outlet deadline).2
    ∧ taken (Outlet.playOut outlet deadline).2 = taken outlet

/-- Nobody cancels an outlet that is as `lasting` says. -/
def Uncancelled (lasting : ω → Prop) : Prop :=
  ∀ outlet, lasting outlet → (Outlet.checkCancel outlet).1 = false
    ∧ ∀ deadline, (Outlet.playOut outlet deadline).1 = false

end Outlet

namespace Clip

open Outlet (Books Uncancelled takenBy)

/-- The whole frames of some bytes. -/
def whole (frame : Nat) (data : List UInt8) : List UInt8 := data.take (data.length / frame * frame)

theorem length_whole (frame : Nat) (data : List UInt8) :
    (whole frame data).length = data.length / frame * frame := by
  unfold whole
  rw [List.length_take]
  exact Nat.min_eq_left (Nat.div_mul_le_self _ _)

/-- Bytes in front that are whole frames stay. -/
theorem whole_append {frame : Nat} (hframe : 0 < frame) {front : List UInt8}
    (hfront : frame ∣ front.length) (back : List UInt8) :
    whole frame (front ++ back) = front ++ whole frame back := by
  obtain ⟨n, hn⟩ := hfront
  have hcount : (front ++ back).length / frame * frame
      = front.length + back.length / frame * frame := by
    rw [List.length_append, hn, Nat.mul_add_div hframe, Nat.add_mul, Nat.mul_comm n]
  unfold whole
  rw [hcount, List.take_append, Nat.add_sub_cancel_left, List.take_of_length_le (by omega)]

theorem take_whole (frame : Nat) (data : List UInt8) :
    data.take (data.length / frame * frame) = whole frame data := rfl

theorem whole_of_lt {frame : Nat} {data : List UInt8} (h : data.length < frame) :
    whole frame data = [] := by
  unfold whole
  rw [Nat.div_eq_of_lt h, Nat.zero_mul, List.take_zero]

theorem whole_of_dvd {frame : Nat} {data : List UInt8} (h : frame ∣ data.length) :
    whole frame data = data := by
  unfold whole
  rw [Nat.div_mul_cancel h, List.take_length]

/-! ## §3. The loops. -/

variable {ω : Type} [Outlet ω] {unit : Nat} {lasting : ω → Prop} {taken : ω → List UInt8}

/-- What offering a chunk comes to: its beginning is taken, and all of it if that is what is said. -/
structure Offered (lasting : ω → Prop) (taken : ω → List UInt8) (outlet : ω) (chunk : List UInt8)
    (done : Push × ω) : Prop where
  stays : lasting done.2
  given : ∃ given, taken done.2 = taken outlet ++ given ∧ given <+: chunk
    ∧ (done.1 = .taken → given = chunk)
  uncancelled : Uncancelled lasting → done.1 ≠ .cancelled

omit [Outlet ω] in
theorem taken_nothing (taken : ω → List UInt8) (outlet : ω) (chunk : List UInt8) {push : Push}
    (h : push = .taken → chunk = []) : ∃ given, taken outlet = taken outlet ++ given
      ∧ given <+: chunk ∧ (push = .taken → given = chunk) :=
  ⟨[], (List.append_nil _).symm, List.nil_prefix, fun hall => (h hall).symm⟩

/-- The rest of a chunk is offered behind its beginning. -/
theorem Offered.behind {outlet fed : ω} {chunk : List UInt8} {n : Nat} {done : Push × ω}
    (h : Offered lasting taken fed (chunk.drop n) done) (hfed : taken fed = taken outlet ++ chunk.take n) :
    Offered lasting taken outlet chunk done := by
  obtain ⟨hstays, ⟨given, hgiven, hprefix, hall⟩, hnobody⟩ := h
  refine ⟨hstays, ⟨chunk.take n ++ given, ?_, ?_, fun hdone => ?_⟩, hnobody⟩
  · rw [hgiven, hfed, List.append_assoc]
  · have hboth := (List.prefix_append_right_inj (chunk.take n)).mpr hprefix
    rw [List.take_append_drop] at hboth
    exact hboth
  · rw [hall hdone, List.take_append_drop]

/-- **Offering a chunk**, as often as there is patience for. -/
theorem pushChunk_books (h : Books unit lasting taken) : ∀ (offers : Nat) (outlet : ω)
    (chunk : List UInt8), lasting outlet → unit ∣ chunk.length →
      Offered lasting taken outlet chunk (pushChunk offers outlet chunk) := by
  intro offers
  induction offers with
  | zero =>
      intro outlet chunk hlasting _
      cases chunk with
      | nil => exact ⟨hlasting, taken_nothing taken outlet [] (fun _ => rfl), fun _ => nofun⟩
      | cons b rest => exact ⟨hlasting, taken_nothing taken outlet _ nofun, fun _ => nofun⟩
  | succ offers ih =>
      intro outlet chunk hlasting hunits
      cases chunk with
      | nil => exact ⟨hlasting, taken_nothing taken outlet [] (fun _ => rfl), fun _ => nofun⟩
      | cons b rest =>
          -- First the loop looks whether it is cancelled, which takes nothing.
          obtain ⟨hlooked, hsame⟩ := h.checkCancel outlet hlasting
          have hcancel : Uncancelled lasting → (Outlet.checkCancel outlet).1 = false :=
            fun hnobody => (hnobody outlet hlasting).1
          unfold pushChunk
          generalize Outlet.checkCancel outlet = looked at hlooked hsame hcancel
          obtain ⟨cancelled, looked⟩ := looked
          cases cancelled with
          | true =>
              refine ⟨hlooked, ?_, fun hnobody => absurd (hcancel hnobody) (by simp)⟩
              rw [← hsame]
              exact taken_nothing taken looked _ nofun
          | false =>
              obtain ⟨hfed, hbooked, hwhole⟩ := h.feed looked (b :: rest) hlooked hunits
              dsimp only at hsame ⊢
              rw [hsame] at hbooked
              generalize Outlet.feed looked (b :: rest) = answered at hfed hbooked hwhole
              obtain ⟨answer, fed⟩ := answered
              dsimp only at hfed hbooked hwhole ⊢
              cases answer with
              | error fault =>
                  refine ⟨hfed, ⟨[], hbooked, List.nil_prefix, nofun⟩, fun _ => nofun⟩
              | ok answer =>
                  cases answer with
                  | consumed =>
                      exact ⟨hfed, ⟨_, hbooked, List.prefix_refl _, fun _ => rfl⟩, fun _ => nofun⟩
                  | accepted n =>
                      -- What was not taken is offered again, and is whole units still.
                      have hleft : unit ∣ ((b :: rest).drop n).length := by
                        have hparts : unit ∣ ((b :: rest).take n ++ (b :: rest).drop n).length := by
                          rw [List.take_append_drop]
                          exact hunits
                        rw [List.length_append] at hparts
                        exact (Nat.dvd_add_right hwhole).mp hparts
                      exact (ih fed _ hfed hleft).behind hbooked

/-- What the loop over an input comes to: the first whole frames are taken, and all of them if the
loop comes to its end and is not cancelled. -/
structure Pushed (frame : Nat) (lasting : ω → Prop) (taken : ω → List UInt8) (outlet : ω)
    (data : List UInt8) (before : Progress) (done : Option (Except Fault Progress) × ω) : Prop where
  stays : lasting done.2
  given : ∃ given, taken done.2 = taken outlet ++ given ∧ given <+: whole frame data
    ∧ ∀ p, done.1 = some (.ok p) → p.cancelled = false →
      given = whole frame data ∧ p.bytes = before.bytes + (whole frame data).length
  uncancelled : Uncancelled lasting → before.cancelled = false →
    ∀ p, done.1 = some (.ok p) → p.cancelled = false

/-- A chunk at which the loop stops. -/
theorem Offered.pushed {frame : Nat} {outlet after : ω} {chunk data : List UInt8} {push : Push}
    {before : Progress} {result : Option (Except Fault Progress)}
    (h : Offered lasting taken outlet chunk (push, after)) (hchunk : chunk <+: whole frame data)
    (hstop : ∀ p, result = some (.ok p) → p.cancelled = true ∧ push = .cancelled) :
    Pushed frame lasting taken outlet data before (result, after) := by
  obtain ⟨hstays, ⟨given, hgiven, hprefix, _⟩, hnobody⟩ := h
  refine ⟨hstays, ⟨given, hgiven, hprefix.trans hchunk, fun p hp hgone => ?_⟩, fun hfree _ p hp => ?_⟩
  · rw [(hstop p hp).1] at hgone
    exact absurd hgone (by simp)
  · exact absurd (hstop p hp).2 (hnobody hfree)

/-- A loop that stops in front of less than a frame has done what there was to do. -/
theorem pushed_short {frame : Nat} {outlet : ω} (hlasting : lasting outlet) {data : List UInt8}
    (hshort : data.length < frame) (before : Progress) :
    Pushed frame lasting taken outlet data before (some (.ok before), outlet) := by
  have hnone : whole frame data = [] := whole_of_lt hshort
  refine ⟨hlasting, ⟨[], (List.append_nil _).symm, List.nil_prefix, fun p hp _ => ?_⟩,
    fun _ hbefore p hp => ?_⟩
  · rw [hnone, ← Except.ok.inj (Option.some.inj hp)]
    exact ⟨rfl, rfl⟩
  · rw [← Except.ok.inj (Option.some.inj hp)]
    exact hbefore

/-- Behind whole frames that were taken the loop goes on with the rest. -/
theorem Pushed.behind {frame : Nat} {outlet after : ω} {front back data : List UInt8}
    {before next : Progress} {done : Option (Except Fault Progress) × ω}
    (h : Pushed frame lasting taken after back next done) (hdata : front ++ back = data)
    (hframe : 0 < frame) (hfront : frame ∣ front.length)
    (hafter : taken after = taken outlet ++ front) (hbytes : next.bytes = before.bytes + front.length)
    (hcancelled : next.cancelled = before.cancelled) :
    Pushed frame lasting taken outlet data before done := by
  obtain ⟨hstays, ⟨given, hgiven, hprefix, hall⟩, hnobody⟩ := h
  have hwhole := whole_append hframe hfront back
  rw [hdata] at hwhole
  refine ⟨hstays, ⟨front ++ given, ?_, ?_, fun p hp hgone => ?_⟩,
    fun hfree hbefore => hnobody hfree (hcancelled.trans hbefore)⟩
  · rw [hgiven, hafter, List.append_assoc]
  · rw [hwhole]
    exact (List.prefix_append_right_inj front).mpr hprefix
  · obtain ⟨heq, hcount⟩ := hall p hp hgone
    rw [hwhole, heq, hcount, hbytes, List.length_append]
    exact ⟨rfl, Nat.add_assoc _ _ _⟩

/-- **The loop over an input** offers the whole frames of its data, however they come. -/
theorem pushAll_books (h : Books unit lasting taken) {frame size : Nat} (hunit : unit ∣ frame)
    (hframe : 0 < frame) (hpos : 0 < size) (hsize : frame ∣ size) : ∀ (reads : Nat) (outlet : ω)
    (events : List ReadEvent) (data : List UInt8) (before : Progress), lasting outlet →
      Brings events data → data.length < reads →
        Pushed frame lasting taken outlet data before (pushAll frame size reads outlet events before) := by
  -- The induction goes along the buffers; each of them is whole frames except the last.
  intro reads
  induction reads with
  | zero =>
      intro _ _ data _ _ _ hreads
      exact absurd hreads (Nat.not_lt_zero _)
  | succ reads ih =>
      intro outlet events data before hlasting hevents hreads
      obtain ⟨rest, hfill, hrest⟩ := fill_brings hevents outlet size hpos
      unfold pushAll
      dsimp only
      rw [hfill]
      dsimp only
      rw [take_whole]
      by_cases hempty : (whole frame (data.take size)).isEmpty = true
      · -- Not a frame is left: a buffer of at least one frame holds less than that.
        have hshort : data.length < frame := by
          have hnone := congrArg List.length (List.isEmpty_iff.mp hempty)
          have hleast := Nat.le_of_dvd hpos hsize
          rw [length_whole, List.length_nil, Nat.mul_eq_zero, Nat.div_eq_zero_iff,
            List.length_take] at hnone
          omega
        rw [if_pos hempty]
        exact pushed_short hlasting hshort before
      rw [if_neg hempty]
      have hfront : frame ∣ (whole frame (data.take size)).length := by
        rw [length_whole]
        exact Nat.dvd_mul_left _ _
      have hpush := pushChunk_books h
        (((whole frame (data.take size)).length + 1) * (Outlet.patience outlet + 1)) outlet
        (whole frame (data.take size)) hlasting (Nat.dvd_trans hunit hfront)
      have hdata : whole frame (data.take size) ++ data.drop (whole frame (data.take size)).length
          = data :=
        List.prefix_iff_eq_append.mp ((List.take_prefix _ _).trans (List.take_prefix _ _))
      have hprefix : whole frame (data.take size) <+: whole frame data := by
        have hwhole := whole_append hframe hfront (data.drop (whole frame (data.take size)).length)
        rw [hdata] at hwhole
        rw [hwhole]
        exact List.prefix_append _ _
      generalize pushChunk (((whole frame (data.take size)).length + 1)
        * (Outlet.patience outlet + 1)) outlet (whole frame (data.take size)) = pushed at hpush ⊢
      obtain ⟨push, after⟩ := pushed
      cases push with
      | exhausted => exact hpush.pushed hprefix nofun
      | failed fault => exact hpush.pushed hprefix (fun p hp => absurd hp (by simp))
      | cancelled =>
          refine hpush.pushed hprefix fun p hp => ⟨?_, rfl⟩
          rw [← Except.ok.inj (Option.some.inj hp)]
      | taken =>
          obtain ⟨hstays, ⟨given, hgiven, _, hall⟩, _⟩ := hpush
          obtain rfl := hall rfl
          dsimp only at hstays hgiven ⊢
          by_cases hlast : (data.take size).length < size
          · -- The buffer could not be filled, so less than a frame is left behind it.
            have hshort : (data.drop (whole frame (data.take size)).length).length < frame := by
              have hleft := Nat.mod_lt data.length hframe
              have hsum := Nat.div_add_mod' data.length frame
              rw [List.length_take] at hlast
              rw [length_whole, List.length_drop, List.length_take, Nat.min_eq_right (by omega)]
              omega
            rw [if_pos hlast]
            exact (pushed_short hstays hshort _).behind hdata hframe hfront hgiven rfl rfl
          · have hfull : whole frame (data.take size) = data.take size ∧ size ≤ data.length := by
              rw [List.length_take] at hlast
              refine ⟨whole_of_dvd ?_, by omega⟩
              rw [List.length_take, Nat.min_eq_left (by omega)]
              exact hsize
            have hlength : (whole frame (data.take size)).length = size := by
              rw [hfull.1, List.length_take, Nat.min_eq_left hfull.2]
            have hback : data.drop (whole frame (data.take size)).length = data.drop size := by
              rw [hlength]
            rw [hback] at hdata
            rw [if_neg hlast]
            exact (ih after rest _ _ hstays (hrest hfull.2) (by rw [List.length_drop]; omega)).behind
              hdata hframe hfront hgiven rfl rfl

theorem awaitPlayout_books (h : Books unit lasting taken) (outlet : ω) (hlasting : lasting outlet)
    (progress : Progress) (time : Duration) :
    lasting (awaitPlayout outlet progress time).2
      ∧ taken (awaitPlayout outlet progress time).2 = taken outlet
      ∧ (progress.cancelled = true → (awaitPlayout outlet progress time).1 = true)
      ∧ (Uncancelled lasting → progress.cancelled = false →
        (awaitPlayout outlet progress time).1 = false) := by
  unfold awaitPlayout
  split
  next start hcancelled _ =>
    obtain ⟨hstays, hsame⟩ := h.playOut outlet (start + time.nanos) hlasting
    refine ⟨hstays, hsame, fun htrue => ?_, fun hfree _ => (hfree outlet hlasting).2 _⟩
    rw [hcancelled] at htrue
    exact absurd htrue (by simp)
  · exact ⟨hlasting, rfl, id, fun _ hfalse => hfalse⟩

/-- What playing an input comes to: the first whole frames of its data are taken, and all of them if
there is a report of a clip that was not cancelled. -/
structure Streamed (frame : Nat) (lasting : ω → Prop) (taken : ω → List UInt8) (outlet : ω)
    (data : List UInt8) (done : Option (Except Fault ClipReport) × ω) : Prop where
  stays : lasting done.2
  given : ∃ given, taken done.2 = taken outlet ++ given ∧ given <+: whole frame data
    ∧ ∀ report, done.1 = some (.ok report) → report.cancelled = false →
      given = whole frame data ∧ report.bytes = (whole frame data).length
  uncancelled : Uncancelled lasting → ∀ report, done.1 = some (.ok report) → report.cancelled = false

/-- A report of what the loop came to, after a wait that took nothing and forgot no request to
cancel. -/
theorem Pushed.streamed {frame : Nat} {outlet after last : ω} {data : List UInt8}
    {progress : Progress} {report : ClipReport}
    (h : Pushed frame lasting taken outlet data {} (some (.ok progress), after))
    (hbytes : report.bytes = progress.bytes) (hlast : lasting last) (hsame : taken last = taken after)
    (hkept : progress.cancelled = true → report.cancelled = true)
    (hfree : Uncancelled lasting → progress.cancelled = false → report.cancelled = false) :
    Streamed frame lasting taken outlet data (some (.ok report), last) := by
  obtain ⟨_, ⟨given, hgiven, hprefix, hall⟩, hnobody⟩ := h
  refine ⟨hlast, ⟨given, hsame.trans hgiven, hprefix, fun other hok hgone => ?_⟩,
    fun hnone other hok => ?_⟩
  · obtain rfl := Except.ok.inj (Option.some.inj hok)
    have hstill : progress.cancelled = false := by
      refine Bool.eq_false_iff.mpr fun hcancelled => ?_
      have hboth : true = false := (hkept hcancelled).symm.trans hgone
      exact absurd hboth (by simp)
    obtain ⟨heq, hcount⟩ := hall progress rfl hstill
    exact ⟨heq, hbytes.trans (hcount.trans (Nat.zero_add _))⟩
  · obtain rfl := Except.ok.inj (Option.some.inj hok)
    exact hfree hnone (hnobody hnone rfl progress rfl)

/-- Without a report there is only the beginning that was taken. -/
theorem Pushed.unfinished {frame : Nat} {outlet after : ω} {data : List UInt8}
    {pushed : Option (Except Fault Progress)} {result : Option (Except Fault ClipReport)}
    (h : Pushed frame lasting taken outlet data {} (pushed, after))
    (hnone : ∀ report, result ≠ some (.ok report)) :
    Streamed frame lasting taken outlet data (result, after) := by
  obtain ⟨hstays, ⟨given, hgiven, hprefix, _⟩, _⟩ := h
  exact ⟨hstays, ⟨given, hgiven, hprefix, fun report hok => absurd hok (hnone report)⟩,
    fun _ report hok => absurd hok (hnone report)⟩

/-- **Playing an input takes the whole frames of its data**, for any size of the chunks. -/
theorem stream_books (h : Books unit lasting taken) {format : Format} (hunit : unit ∣ format.align)
    (hframe : 0 < format.align) (chunk : Nat) (tail : Option Duration) {outlet : ω}
    (hlasting : lasting outlet) {events : List ReadEvent} {data : List UInt8}
    (hevents : Brings events data) :
    Streamed format.align lasting taken outlet data (stream format chunk tail outlet events) := by
  have hsize : format.align ∣ chunkSize chunk format.align := Nat.dvd_mul_left _ _
  have hpos : 0 < chunkSize chunk format.align := by
    have hone := Nat.le_max_right (chunk / format.align) 1
    exact Nat.mul_pos (by omega) hframe
  have hreads : data.length < inputLength events + 1 := Nat.lt_succ_of_le hevents.length_le
  have hpushed := pushAll_books h hunit hframe hpos hsize (inputLength events + 1) outlet events data
    {} hlasting hevents hreads
  unfold stream
  dsimp only
  split
  · exact ⟨hlasting, ⟨[], (List.append_nil _).symm, List.nil_prefix, nofun⟩, fun _ => nofun⟩
  generalize pushAll format.align (chunkSize chunk format.align) (inputLength events + 1) outlet
    events {} = pushed at hpushed ⊢
  obtain ⟨result, after⟩ := pushed
  cases result with
  | none => exact hpushed.unfinished nofun
  | some result =>
      cases result with
      | error fault => exact hpushed.unfinished nofun
      | ok progress =>
          dsimp only
          cases format.bytesDuration? progress.bytes with
          | none => exact hpushed.unfinished nofun
          | some duration =>
              cases tail with
              | none => exact hpushed.streamed rfl hpushed.stays rfl id fun _ hfalse => hfalse
              | some tail =>
                  obtain ⟨hlast, hsame, hkept, hfree⟩ :=
                    awaitPlayout_books h after hpushed.stays progress (duration.plus tail)
                  exact hpushed.streamed rfl hlast hsame hkept hfree

/-! ## §4. One buffer of a loop that ends. -/

/-- What becomes of a buffer in a loop that comes to its end with a progress. -/
inductive Buffered (frame size reads : Nat) (filled : Filled ω) (data : List UInt8)
    (before progress : Progress) (after : ω) : Prop
  /-- It holds less than a frame, and nothing of it is offered. -/
  | short (same : progress = before) (left : after = filled.outlet)
  /-- What is offered of it is cut short, and not counted. -/
  | cut {offers : Nat} (offered : 0 < offers) (frames : whole frame data ≠ [])
      (pushed : pushChunk offers filled.outlet (whole frame data) = (.cancelled, after))
      (noted : progress = { before with
        firstFeed := some (before.firstFeed.getD (Outlet.clock filled.outlet)), cancelled := true })
  /-- Its whole frames are taken and counted, and it is the last one or the loop goes on. -/
  | taken {offers : Nat} {behind : ω} {counted : Progress} (offered : 0 < offers)
      (frames : whole frame data ≠ [])
      (pushed : pushChunk offers filled.outlet (whole frame data) = (.taken, behind))
      (noted : counted = { before with
        bytes := before.bytes + (whole frame data).length
        firstFeed := some (before.firstFeed.getD (Outlet.clock filled.outlet)) })
      (goes : progress = counted ∧ after = behind
        ∨ pushAll frame size reads behind filled.rest counted = (some (.ok progress), after))

/-- **A loop that comes to its end with a progress**, buffer by buffer. -/
theorem pushAll_buffered {frame size reads : Nat} {outlet after : ω} {events : List ReadEvent}
    {before progress : Progress}
    (h : pushAll frame size (reads + 1) outlet events before = (some (.ok progress), after)) :
    ∃ data, (fill outlet size events).result = .ok data
      ∧ Buffered frame size reads (fill outlet size events) data before progress after := by
  unfold pushAll at h
  generalize fill outlet size events = filled at h ⊢
  obtain ⟨result, rest, filled⟩ := filled
  cases result with
  | error text => exact absurd h (by simp)
  | ok data =>
      refine ⟨data, rfl, ?_⟩
      dsimp only at h
      rw [take_whole] at h
      split at h
      · obtain ⟨rfl, rfl⟩ : before = progress ∧ filled = after := by simpa using h
        exact .short rfl rfl
      next hframes =>
        have hsome : whole frame data ≠ [] := fun hnone => hframes (List.isEmpty_iff.mpr hnone)
        have hoffered : 0 < ((whole frame data).length + 1) * (Outlet.patience filled + 1) :=
          Nat.mul_pos (Nat.succ_pos _) (Nat.succ_pos _)
        generalize ((whole frame data).length + 1) * (Outlet.patience filled + 1) = offers
          at hoffered h
        cases hpush : pushChunk offers filled (whole frame data) with
        | mk push pushed =>
            rw [hpush] at h
            cases push with
            | exhausted => exact absurd h (by simp)
            | failed fault => exact absurd h (by simp)
            | cancelled =>
                obtain ⟨rfl, rfl⟩ : _ = progress ∧ pushed = after := by simpa using h
                exact .cut hoffered hsome hpush rfl
            | taken =>
                dsimp only at h
                split at h
                · obtain ⟨rfl, rfl⟩ : _ = progress ∧ pushed = after := by simpa using h
                  exact .taken hoffered hsome hpush rfl (.inl ⟨rfl, rfl⟩)
                · exact .taken hoffered hsome hpush rfl (.inr h)

end Clip

end PcmRender
