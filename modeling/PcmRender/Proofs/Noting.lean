/-
  PcmRender.Proofs.Noting — **what is offered of a stream, and what is taken of it.**

  A read of a stream takes the next piece off its data.  What is offered of them is noted beside the
  outlet, with how much was taken before (`Noted`); so it can be said that every offer begins where the
  last one ended, and ends at a frame (`Stream.Carries`).  A chunk is offered until it is taken, also
  where the outlet stalls and has to be opened again.

  Main statements:
    * `readOnce_arrives` — one read,
    * `Stream.Carries.feed`, `Stream.push_carries` — one offer, and one chunk.
-/
import PcmRender.Proofs.Viewing
import PcmRender.Stream

namespace PcmRender

/-! ## §1. Reads. -/

/-- What an input brings until its end in reads that bring something.  Somebody may cancel while it is
read. -/
inductive Arrives : List ReadEvent → List UInt8 → Prop
  /-- There is nothing more to read. -/
  | ended : Arrives [] []
  /-- The input is at its end; what a read would bring then does not count. -/
  | closed (rest : List ReadEvent) : Arrives (.bytes [] :: rest) []
  /-- A read brings something. -/
  | read {piece : List UInt8} {rest : List ReadEvent} {data : List UInt8} (some : piece ≠ [])
      (h : Arrives rest data) : Arrives (.bytes piece :: rest) (piece ++ data)
  /-- Somebody cancels during a read. -/
  | cancelled {rest : List ReadEvent} {data : List UInt8} (h : Arrives rest data) :
      Arrives (.cancelled :: rest) data

section Reading

variable {ω : Type} [Outlet ω]

/-- **A read takes the next piece off what arrives**, and an empty piece is the end. -/
theorem readOnce_arrives {events : List ReadEvent} {data : List UInt8} (h : Arrives events data) :
    ∀ (outlet : ω) {room : Nat}, 0 < room → ∃ piece behind,
      (readOnce outlet room events).result = .ok piece ∧ data = piece ++ behind
        ∧ (piece = [] → data = [])
        ∧ (piece ≠ [] → Arrives (readOnce outlet room events).rest behind) := by
  induction h with
  | ended =>
      intro outlet room _
      exact ⟨[], [], rfl, rfl, fun _ => rfl, fun hsome => absurd rfl hsome⟩
  | closed rest =>
      intro outlet room hroom
      refine ⟨[], [], ?_, rfl, fun _ => rfl, fun hsome => absurd rfl hsome⟩
      unfold readOnce
      rw [if_neg (by simp)]
  | @read piece rest data hsome hrest _ =>
      intro outlet room hroom
      unfold readOnce
      by_cases hcut : room < piece.length
      · -- The read brings as much as there is room for.
        have htaken : piece.take room ≠ [] := by
          rw [Ne, List.take_eq_nil_iff]
          rintro (hnone | hnone)
          · omega
          · exact hsome hnone
        have hleft : piece.drop room ≠ [] := by
          rw [Ne, List.drop_eq_nil_iff]
          omega
        rw [if_pos hcut]
        refine ⟨_, piece.drop room ++ data, rfl, ?_, fun hnone => absurd hnone htaken,
          fun _ => .read hleft hrest⟩
        rw [← List.append_assoc, List.take_append_drop]
      · rw [if_neg hcut]
        exact ⟨_, data, rfl, rfl, fun hnone => absurd hnone hsome, fun _ => hrest⟩
  | cancelled _ ih =>
      intro outlet room hroom
      exact ih (Outlet.requestCancel outlet) hroom

/-- What a read brings is no longer to be read. -/
theorem readOnce_length : ∀ (events : List ReadEvent) (outlet : ω) (room : Nat) {piece : List UInt8},
    (readOnce outlet room events).result = .ok piece →
      piece.length + inputLength (readOnce outlet room events).rest = inputLength events := by
  intro events
  induction events with
  | nil =>
      rintro outlet room piece ⟨⟩
      rfl
  | cons event rest ih =>
      intro outlet room piece h
      cases event with
      | bytes data =>
          unfold readOnce at h ⊢
          by_cases hcut : room < data.length
          · rw [if_pos hcut] at h ⊢
            obtain rfl := Except.ok.inj h
            show (data.take room).length + ((data.drop room).length + inputLength rest)
              = data.length + inputLength rest
            rw [← Nat.add_assoc, ← List.length_append, List.take_append_drop]
          · rw [if_neg hcut] at h ⊢
            obtain rfl := Except.ok.inj h
            rfl
      | interrupted => exact absurd h nofun
      | failed text => exact absurd h nofun
      | cancelled => exact ih (Outlet.requestCancel outlet) room h

end Reading

/-! ## §2. Offers. -/

/-- A chunk that was offered. -/
structure Offer where
  /-- How much was taken before it. -/
  place : Nat
  chunk : List UInt8
  /-- What was taken of it. -/
  taken : List UInt8

/-- An outlet, with all that was offered to it, and whether a look has found it cancelled. -/
structure Noted (ω : Type) where
  outlet : ω
  offers : List Offer := []
  told : Bool := false

namespace Noted

variable {ω : Type}

/-- What was taken, offer after offer. -/
def taken (n : Noted ω) : List UInt8 := n.offers.flatMap Offer.taken

variable [Outlet ω]

instance : Outlet (Noted ω) where
  feed n chunk :=
    let (answer, outlet) := Outlet.feed n.outlet chunk
    let offer : Offer := ⟨n.taken.length, chunk, Outlet.takenBy chunk answer⟩
    (answer, { n with outlet, offers := n.offers ++ [offer] })
  reopen n :=
    let (answer, outlet) := Outlet.reopen n.outlet
    (answer, { n with outlet })
  checkCancel n :=
    let (cancelled, outlet) := Outlet.checkCancel n.outlet
    (cancelled, { n with outlet, told := n.told || cancelled })
  requestCancel n := { n with outlet := Outlet.requestCancel n.outlet }
  clock n := Outlet.clock n.outlet
  playOut n deadline :=
    let (cancelled, outlet) := Outlet.playOut n.outlet deadline
    (cancelled, { n with outlet })
  patience n := Outlet.patience n.outlet

/-- Taking notes does not change what an outlet does. -/
theorem sees : Outlet.Sees (outlet : Noted ω → ω) where
  feed _ _ := rfl
  checkCancel _ := rfl
  requestCancel _ := rfl
  clock _ := rfl
  playOut _ _ := rfl
  patience _ := rfl

theorem readOnce_notes : ∀ (events : List ReadEvent) (n : Noted ω) (room : Nat),
    (readOnce n room events).outlet.offers = n.offers
      ∧ (readOnce n room events).outlet.told = n.told := by
  intro events
  induction events with
  | nil =>
      intro n room
      exact ⟨rfl, rfl⟩
  | cons event rest ih =>
      intro n room
      cases event with
      | bytes data =>
          unfold readOnce
          split <;> exact ⟨rfl, rfl⟩
      | interrupted => exact ⟨rfl, rfl⟩
      | failed text => exact ⟨rfl, rfl⟩
      | cancelled => exact ih (Outlet.requestCancel n) room

theorem taken_feed (n : Noted ω) (chunk : List UInt8) :
    (Outlet.feed n chunk).2.taken = n.taken ++ Outlet.takenBy chunk (Outlet.feed n chunk).1 := by
  show (n.offers ++ [_]).flatMap Offer.taken = _
  rw [List.flatMap_append, List.flatMap_singleton]
  rfl

end Noted

/-- An outlet that takes no more than it is offered, and on which a request to cancel stands. -/
structure Outlet.Fair (ω : Type) [Outlet ω] : Prop where
  counts : ∀ (outlet : ω) (chunk : List UInt8) (n : Nat),
    (Outlet.feed outlet chunk).1 = .ok (.accepted n) → n ≤ chunk.length
  stands : ∀ outlet : ω, (Outlet.checkCancel outlet).1 = true →
    (Outlet.checkCancel (Outlet.checkCancel outlet).2).1 = true

/-- An outlet that never fails: it takes its part of an offer, or it stalls and can be opened again. -/
def Outlet.Recovers (ω : Type) [Outlet ω] : Prop :=
  ∀ (outlet : ω) (chunk : List UInt8), (∃ answer, (Outlet.feed outlet chunk).1 = .ok answer)
    ∨ ∃ time, (Outlet.feed outlet chunk).1 = .error (.error (.writeStalled time))
      ∧ (Outlet.reopen (Outlet.feed outlet chunk).2).1 = .ok ()

theorem Noted.fair {ω : Type} [Outlet ω] (h : Outlet.Fair ω) : Outlet.Fair (Noted ω) where
  counts n := h.counts n.outlet
  stands n := h.stands n.outlet

theorem Noted.recovers {ω : Type} [Outlet ω] (h : Outlet.Recovers ω) : Outlet.Recovers (Noted ω) :=
  fun n => h n.outlet

theorem Outlet.takenBy_prefix (chunk : List UInt8) (answer : Except Fault Feed) :
    Outlet.takenBy chunk answer <+: chunk := by
  cases answer with
  | error fault => exact List.nil_prefix
  | ok answer =>
      cases answer with
      | consumed => exact List.prefix_refl _
      | accepted n => exact List.take_prefix _ _

namespace Stream

/-- What is offered of some data, and what is taken of it. -/
structure Carries (frame : Nat) (data : List UInt8) {ω : Type} (n : Noted ω) : Prop where
  /-- Nothing is lost or repeated: what was taken is the data, as far as it was taken. -/
  taken : n.taken <+: data
  /-- Every offer begins behind what was taken before it, and ends at a frame of the data. -/
  offers : ∀ offer ∈ n.offers, offer.chunk <+: data.drop offer.place
    ∧ frame ∣ offer.place + offer.chunk.length

variable {ω : Type} [Outlet ω] {frame : Nat} {data : List UInt8}

omit [Outlet ω] in
theorem Carries.of_offers {n m : Noted ω} (h : Carries frame data n) (hsame : m.offers = n.offers) :
    Carries frame data m := by
  constructor
  · unfold Noted.taken
    rw [hsame]
    exact h.taken
  · rw [hsame]
    exact h.offers

/-- **An offer** of the next whole frames. -/
theorem Carries.feed {n : Noted ω} (h : Carries frame data n) {chunk : List UInt8}
    (hnext : n.taken ++ chunk <+: data) (hframes : frame ∣ n.taken.length + chunk.length) :
    Carries frame data (Outlet.feed n chunk).2 := by
  constructor
  · rw [Noted.taken_feed]
    exact ((List.prefix_append_right_inj _).mpr (Outlet.takenBy_prefix _ _)).trans hnext
  · intro offer hoffer
    rcases List.mem_append.mp hoffer with hearlier | hlast
    · exact h.offers offer hearlier
    · obtain rfl := List.mem_singleton.mp hlast
      refine ⟨?_, hframes⟩
      obtain ⟨rest, rfl⟩ := hnext
      dsimp only
      rw [List.append_assoc, List.drop_left]
      exact List.prefix_append _ _

/-- What pushing a chunk comes to: all of it was taken and nobody has cancelled, or the loop is about
to find itself cancelled. -/
structure Pushes (frame : Nat) (data : List UInt8) (n : Noted ω) (chunk : List UInt8) (before : Nat)
    (done : Option (Except Fault Nat) × Noted ω) : Prop where
  carries : Carries frame data done.2
  counts : ∀ total, done.1 = some (.ok total) →
    total + n.taken.length = before + done.2.taken.length
      ∧ (done.2.told = n.told ∧ done.2.taken = n.taken ++ chunk
        ∨ done.2.told = true ∧ (Outlet.checkCancel done.2).1 = true)
  recovers : Outlet.Recovers ω → ∀ fault, done.1 ≠ some (.error fault)

namespace Pushes

variable {n fed : Noted ω} {chunk : List UInt8} {before : Nat}

/-- All of a chunk was taken. -/
theorem all (hcarries : Carries frame data fed) (htaken : fed.taken = n.taken ++ chunk)
    (htold : fed.told = n.told) :
    Pushes frame data n chunk before (some (.ok (before + chunk.length)), fed) := by
  refine ⟨hcarries, ?_, fun _ _ => nofun⟩
  rintro total ⟨⟩
  refine ⟨?_, .inl ⟨htold, htaken⟩⟩
  rw [htaken, List.length_append]
  omega

/-- There was nothing to take. -/
theorem nothing (h : Carries frame data n) : Pushes frame data n [] before (some (.ok before), n) :=
  all h (List.append_nil _).symm rfl

/-- An outlet that recovers would not have failed. -/
theorem failed (hcarries : Carries frame data fed) (hlost : ¬ Outlet.Recovers ω) {fault : Fault} :
    Pushes frame data n chunk before (some (.error fault), fed) :=
  ⟨hcarries, nofun, fun hrecovers => absurd hrecovers hlost⟩

/-- What is pushed behind a part that was taken before. -/
theorem behind {front back : List UInt8} {next : Nat} {done : Option (Except Fault Nat) × Noted ω}
    (h : Pushes frame data fed back next done)
    (hchunk : front ++ back = chunk) (htaken : fed.taken = n.taken ++ front)
    (hnext : next = before + front.length) (htold : fed.told = n.told) :
    Pushes frame data n chunk before done := by
  refine ⟨h.carries, fun total hdone => ?_, h.recovers⟩
  obtain ⟨hcount, hwhy⟩ := h.counts total hdone
  rw [htaken, List.length_append] at hcount
  refine ⟨by omega, hwhy.imp_left ?_⟩
  rintro ⟨hsame, hall⟩
  rw [hsame, htold, hall, htaken, List.append_assoc, hchunk]
  exact ⟨rfl, rfl⟩

end Pushes

/-- **Pushing the next whole frames.** -/
theorem push_carries (hfair : Outlet.Fair ω) : ∀ (offers : Nat) (n : Noted ω) (chunk : List UInt8)
    (before : Nat), Carries frame data n → n.taken ++ chunk <+: data →
      frame ∣ n.taken.length + chunk.length →
        Pushes frame data n chunk before (push offers n chunk before) := by
  intro offers
  induction offers with
  | zero =>
      intro n chunk before h _ _
      cases chunk with
      | nil => exact .nothing h
      | cons b rest => exact ⟨h, nofun, fun _ _ => nofun⟩
  | succ offers ih =>
      intro n chunk before h hnext hframes
      cases chunk with
      | nil => exact .nothing h
      | cons b rest =>
          have hlooked : (Outlet.checkCancel n).2.offers = n.offers
              ∧ (Outlet.checkCancel n).2.told = (n.told || (Outlet.checkCancel n).1) := ⟨rfl, rfl⟩
          have hstands := (Noted.fair hfair).stands n
          unfold push
          generalize Outlet.checkCancel n = looked at hlooked hstands ⊢
          obtain ⟨cancelled, looked⟩ := looked
          obtain ⟨hsame, htold⟩ := hlooked
          dsimp only at hsame htold hstands
          have hsametaken : looked.taken = n.taken := congrArg (·.flatMap Offer.taken) hsame
          cases cancelled with
          | true =>
              refine ⟨h.of_offers hsame, ?_, fun _ _ => nofun⟩
              rintro total ⟨⟩
              exact ⟨by rw [hsametaken], .inr ⟨by rw [htold, Bool.or_true], hstands rfl⟩⟩
          | false =>
              rw [Bool.or_false] at htold
              rw [← hsametaken] at hnext hframes
              have hcarries := (h.of_offers hsame).feed hnext hframes
              have htaken := looked.taken_feed (b :: rest)
              have hfedtold : (Outlet.feed looked (b :: rest)).2.told = looked.told := rfl
              have hcount := (Noted.fair hfair).counts looked (b :: rest)
              have hmends := fun hrecovers => Noted.recovers (ω := ω) hrecovers looked (b :: rest)
              rw [hsametaken] at htaken
              rw [htold] at hfedtold
              dsimp only
              generalize Outlet.feed looked (b :: rest) = answered at hcarries htaken hfedtold hcount hmends ⊢
              obtain ⟨answer, fed⟩ := answered
              dsimp only at hcarries htaken hfedtold hcount hmends
              split
              · -- All of it was taken.
                next hanswer =>
                obtain ⟨rfl, rfl⟩ := Prod.mk.inj hanswer
                exact .all hcarries htaken hfedtold
              · -- A part was taken; what is left is offered next.
                next k _ hanswer =>
                obtain ⟨rfl, rfl⟩ := Prod.mk.inj hanswer
                have hsplit : (b :: rest).take k ++ (b :: rest).drop k = b :: rest :=
                  List.take_append_drop _ _
                have hlength : ((b :: rest).take k).length = k := List.length_take_of_le (hcount k rfl)
                replace htaken : fed.taken = n.taken ++ (b :: rest).take k := htaken
                refine (ih fed _ _ hcarries ?_ ?_).behind hsplit htaken (by rw [hlength]) hfedtold
                · rw [htaken, ← hsametaken, List.append_assoc, hsplit]
                  exact hnext
                · rw [htaken, ← hsametaken, List.length_append, Nat.add_assoc, ← List.length_append,
                    hsplit]
                  exact hframes
              · -- The outlet stalls; the same chunk is offered after it was opened again.
                next stalled _ hanswer =>
                obtain ⟨rfl, rfl⟩ := Prod.mk.inj hanswer
                have hreopened : (Outlet.reopen fed).2.offers = fed.offers
                    ∧ (Outlet.reopen fed).2.told = fed.told := ⟨rfl, rfl⟩
                generalize Outlet.reopen fed = reopened at hmends hreopened ⊢
                obtain ⟨answer, reopened⟩ := reopened
                obtain ⟨hoffers, hkept⟩ := hreopened
                replace htaken : reopened.taken = n.taken ++ [] :=
                  (congrArg (·.flatMap Offer.taken) hoffers).trans htaken
                have hagain : Carries frame data reopened := hcarries.of_offers hoffers
                cases answer with
                | error fault =>
                    refine .failed hagain fun hrecovers => ?_
                    obtain ⟨answer, hanswer⟩ | ⟨_, _, hopened⟩ := hmends hrecovers
                    · exact absurd hanswer nofun
                    · exact absurd hopened nofun
                | ok _ =>
                    have hall : reopened.taken = looked.taken := by
                      rw [htaken, List.append_nil, hsametaken]
                    exact (ih reopened _ before hagain (by rw [hall]; exact hnext)
                      (by rw [hall]; exact hframes)).behind (List.nil_append _) htaken rfl
                      (hkept.trans hfedtold)
              · next fault _ hstalled hanswer =>
                obtain ⟨rfl, rfl⟩ := Prod.mk.inj hanswer
                refine .failed hcarries fun hrecovers => ?_
                obtain ⟨answer, hanswer⟩ | ⟨time, hstall, _⟩ := hmends hrecovers
                · exact absurd hanswer nofun
                · exact absurd (Except.error.inj hstall) (hstalled time)

end Stream

end PcmRender
