/-
  PcmRender.Proofs.Weaving — **how silence is woven into what was accepted.**

  Count everything that passes the ring of an open route as one stream: what cycles took out so far,
  and behind it what is still queued.  A gate section can do three things to this stream:

      fed       what is accepted goes behind it
      rewound   a start puts silence at the border between what is out and what is queued, until the
                store is full
      cycled    a cycle puts silence behind it, and moves the border

  and what was put there stays.  Nothing is asked of the host, of a conversion or of the chunks that
  are fed, so this holds on every device route.

  Main statements:
    * `woven_passing` — every section is of one of the three kinds,
    * `padded_flow` — every run weaves zero bytes, and nothing else, into what was accepted.
-/
import PcmRender.Proofs.Delivery

namespace PcmRender

/-! ## §1. Three kinds of sections. -/

/-- What sections with the books `l` made of the ring of a route, which was `r` and is `later`. -/
inductive DeviceRoute.Woven (σ : Type) {κ : Type} [Host σ] [Stage κ] (r later : DeviceRoute κ)
    (l : Ledger) : Prop
  /-- What was accepted went behind what is queued, perhaps nothing. -/
  | fed (popped : l.popped = []) (content : later.ring.content = r.ring.content ++ l.accepted)
  /-- The rest of the store was filled with silence in front of what is queued. -/
  | rewound (accepted : l.accepted = []) (popped : l.popped = [])
      (content : later.ring.content = List.replicate r.ring.free 0 ++ r.ring.content)
  /-- A cycle has run. -/
  | cycled (host : σ) (gain : Single) (accepted : l.accepted = [])
      (popped : l.popped = (r.cycle host gain).popped)
      (ring : later.ring = (r.cycle host gain).route.ring)

/-- What a section weaves in is silence. -/
theorem DeviceRoute.Woven.padded {σ κ : Type} [Host σ] [Stage κ] {r later : DeviceRoute κ}
    {l : Ledger} (h : r.Woven σ later l) {base popped : List UInt8}
    (hpadded : Padded base (popped ++ r.ring.content)) :
    Padded (base ++ l.accepted) (popped ++ l.popped ++ later.ring.content) := by
  cases h with
  | fed hpopped hcontent =>
      rw [hpopped, hcontent, List.append_nil, ← List.append_assoc]
      exact hpadded.behind l.accepted
  | rewound haccepted hpopped hcontent =>
      rw [haccepted, hpopped, hcontent, List.append_nil, List.append_nil]
      exact hpadded.inside r.ring.free
  | cycled host gain haccepted hpopped hring =>
      obtain ⟨zeros, hcontent⟩ := (accounts_cycle host r gain).content
      rw [haccepted, hpopped, hring, List.append_nil, List.append_assoc, ← hcontent,
        ← List.append_assoc]
      exact hpadded.behind_silent zeros

namespace Session

variable {σ κ : Type} [Host σ] [Stage κ] {r : DeviceRoute κ}

/-- A session that stays on its route, which weaves its stream on. -/
def Weaves (r : DeviceRoute κ) (t : Session σ κ) (l : Ledger) : Prop :=
  ∃ later, t.route = .device later ∧ r.Continues later ∧ r.Woven σ later l

/-- Where the content of the ring stays, nothing is woven. -/
theorem Weaves.still {t : Session σ κ} {later : DeviceRoute κ} (hroute : t.route = .device later)
    (hcont : r.Continues later) (hcontent : later.ring.content = r.ring.content) :
    Weaves r t {} :=
  ⟨later, hroute, hcont, .fed rfl (by
    show _ = r.ring.content ++ []
    rw [List.append_nil, hcontent])⟩

theorem Weaves.frame {s t : Session σ κ} (hr : s.route = .device r) (hroute : t.route = s.route) :
    Weaves r t {} :=
  Weaves.still (hroute.trans hr) (DeviceRoute.Continues.refl r) rfl

/-- **A feed puts what it accepts behind the stream.** -/
theorem woven_feedSection {s : Session σ κ} (hr : s.route = .device r) (chunk : List UInt8)
    (now : Instant) :
    Weaves r (s.feedSection chunk now).2
      { accepted := (s.feedSection chunk now).1.taken chunk } := by
  have hidle : Weaves r s {} := Weaves.frame hr rfl
  unfold feedSection
  by_cases hempty : chunk.isEmpty = true
  · have hnil : chunk = [] := List.isEmpty_iff.mp hempty
    subst hnil
    exact hidle
  · rw [if_neg hempty]
    by_cases hswitch : s.switching = true
    · rw [if_pos hswitch]
      exact hidle
    · rw [if_neg hswitch, hr]
      dsimp only
      split
      · obtain ⟨htaken, later, hroute, hcont, hcontent, _⟩ := taken_feedRoute s r chunk now
        refine ⟨later, hroute, hcont, .fed rfl ?_⟩
        show _ = r.ring.content ++ FeedStep.taken _ _
        rw [htaken, hcontent]
      · exact hidle

/-- A stop clears the watchdog, and leaves the stream alone. -/
theorem woven_stopSection {s : Session σ κ} (hr : s.route = .device r) :
    Weaves r s.stopSection.2 {} := by
  unfold stopSection
  by_cases hstarted : s.phase = .started
  · rw [if_pos hstarted]
    have hcleared : s.stopStream.endRendering.route = .device r.clear := by
      show s.stopStream.route = _
      unfold stopStream
      rw [hr]
      dsimp only
      split <;> rfl
    exact Weaves.still hcleared r.continues_clear rfl
  · rw [if_neg hstarted]
    exact Weaves.frame hr rfl

theorem woven_pause {s : Session σ κ} (hr : s.route = .device r) : Weaves r s.pause.2 {} := by
  have hroute : s.pause.2.route = .device r := by
    unfold pause
    rw [hr]
    dsimp only
    split <;> rfl
  exact Weaves.frame hr (hroute.trans hr.symm)

/-- **A start puts silence in front of what is queued**, whether the stream runs then or not. -/
theorem woven_startSection {s : Session σ κ} (hr : s.route = .device r) :
    Weaves r s.startSection.2 {} := by
  -- The ring is filled before the device is asked to start, so a refusal leaves it full.
  have hrewound : ∀ t : Session σ κ, t.route = .device (rewound r) → Weaves r t {} := by
    intro t hroute
    exact ⟨rewound r, hroute, continues_rewound r,
      .rewound rfl rfl (Ring.content_shiftToTail r.ring)⟩
  unfold startSection
  by_cases hstarted : s.phase = .started
  · rw [if_pos hstarted]
    exact Weaves.frame hr rfl
  · rw [if_neg hstarted, hr]
    unfold startDevice
    dsimp only
    split
    · exact hrewound _ rfl
    · exact hrewound _ rfl
    · exact hrewound _ rfl

/-- **A turn of a drain task puts silence behind the stream**, and moves its border. -/
theorem woven_drainTurn {s : Session σ κ} (hr : s.route = .device r) (generation : Nat) :
    Weaves r (s.drainTurn generation).2 (s.entry (.turn generation)) := by
  unfold drainTurn
  dsimp only [entry]
  cases hcycle : s.cycle? generation with
  | none => exact Weaves.frame hr rfl
  | some found =>
      obtain ⟨before, done⟩ := found
      obtain ⟨_, _, hbefore, hdone⟩ := cycle?_eq_some hcycle
      obtain rfl : r = before := by
        rw [hr] at hbefore
        injection hbefore
      -- A turn ends in one of three ways, each time with the ring that the cycle has left.
      have hafter : ∀ t : Session σ κ, t.route = .device done.route →
          Weaves r t { movements := [⟨s.gain, done.popped⟩] } := by
        intro t hroute
        subst hdone
        refine ⟨_, hroute, (DeviceRoute.accounts_cycle s.host r s.gain).continues,
          .cycled s.host s.gain rfl ?_ rfl⟩
        show (r.cycle s.host s.gain).popped ++ [] = _
        rw [List.append_nil]
      dsimp only
      split
      · unfold drained
        split
        · exact hafter _ rfl
        · exact hafter _ rfl
      · exact hafter _ rfl

/-- **Every section weaves the stream on.** -/
theorem woven_passing {s : Session σ κ} (hr : s.route = .device r) (passing : Passing σ) :
    Weaves r (s.passing passing) (s.entry passing) := by
  cases passing with
  | feed chunk now => exact woven_feedSection hr chunk now
  | turn generation => exact woven_drainTurn hr generation
  | stop => exact woven_stopSection hr
  | start => exact woven_startSection hr
  | pause => exact woven_pause hr
  | leave generation =>
      show Weaves r (s.drainExited generation) {}
      rw [drainExited_eq]
      exact Weaves.frame hr rfl
  | join =>
      obtain ⟨log, hlog⟩ := joinDrain_eq s
      show Weaves r s.joinDrain {}
      rw [hlog]
      exact Weaves.frame hr rfl
  | refused generation reason =>
      obtain ⟨log, hlog⟩ := spawnRefused_eq s generation reason
      show Weaves r (s.spawnRefused generation reason) {}
      rw [hlog]
      exact Weaves.frame hr rfl
  | undo => exact Weaves.frame hr rfl
  | forget => exact Weaves.frame hr rfl
  | spawned generation => exact Weaves.frame hr rfl
  | switching => exact Weaves.frame hr rfl
  | switched => exact Weaves.frame hr rfl
  | gain gain => exact Weaves.frame hr rfl
  | elsewhere change => exact Weaves.frame hr rfl

/-! ## §2. Runs. -/

/-- **Every run weaves silence into what was accepted, and nothing else.**  The stream goes on from
where the sections before the run have left it. -/
theorem padded_flow (run : List (Passing σ)) : ∀ {s : Session σ κ} {r : DeviceRoute κ}
    {base popped : List UInt8}, s.route = .device r → Padded base (popped ++ r.ring.content) →
      ∃ later, (s.flow run).2.route = .device later
        ∧ Padded (base ++ (s.flow run).1.accepted)
          (popped ++ (s.flow run).1.popped ++ later.ring.content) := by
  induction run with
  | nil =>
      intro s r base popped hr hpadded
      refine ⟨r, hr, ?_⟩
      show Padded (base ++ []) (popped ++ [] ++ r.ring.content)
      rw [List.append_nil, List.append_nil]
      exact hpadded
  | cons passing rest ih =>
      intro s r base popped hr hpadded
      obtain ⟨next, hnext, _, hwoven⟩ := woven_passing hr passing
      obtain ⟨later, hlater, hstream⟩ := ih hnext (hwoven.padded hpadded)
      refine ⟨later, hlater, ?_⟩
      rw [List.append_assoc base, List.append_assoc popped] at hstream
      show Padded (base ++ ((s.entry passing).accepted ++ _))
        (popped ++ ((s.entry passing).movements ++ _).flatMap Movement.popped ++ later.ring.content)
      rw [List.flatMap_append]
      exact hstream

end Session

end PcmRender
