/-
  PcmRender.Proofs.Onset — **what a gate section does to the mark of the watchdog.**

  A feed that finds the ring full marks the watchdog of the route, and leaves a mark that it finds
  where it is.  Every other section that the mark outlives moves no audio:

      a feed that gets something in, a cycle that takes something out, a stop, a close     clear it
      a route that is opened                                                               has none
      anything else                                                                        leaves it

  `KeepsOrClearsMark` says this of one section.  It is stated together with what a mark is good for:
  only a session that renders has one (`MarkedOnlyStarted`).  That breaks where a start gets no thread
  and is undone, because this ends what renders without a stop; so those points of a call are left out
  (`Errand.refused`).
-/
import PcmRender.Proofs.Errand
import PcmRender.Session.Flow

namespace PcmRender

variable {σ κ : Type}

/-! ## §1. The mark of a session. -/

namespace Session

/-- When the watchdog of the device route was marked, if it is. -/
def onset (s : Session σ κ) : Option Nat := s.deviceRoute?.bind DeviceRoute.onset

theorem onset_device {s : Session σ κ} {r : DeviceRoute κ} (hr : s.route = .device r) :
    s.onset = r.onset := by
  unfold onset deviceRoute?
  rw [hr]
  rfl

theorem onset_closed {s : Session σ κ} (h : s.route = .closed) : s.onset = none := by
  unfold onset deviceRoute?
  rw [h]
  rfl

theorem onset_null {s : Session σ κ} (h : s.route = .null) : s.onset = none := by
  unfold onset deviceRoute?
  rw [h]
  rfl

theorem onset_congr {s t : Session σ κ} (h : t.route = s.route) : t.onset = s.onset := by
  unfold onset deviceRoute?
  rw [h]

/-- A session that was just created has no mark. -/
theorem onset_create {host : σ} {source : Format} {selected : Option String}
    {config : SessionConfig} {s : Session σ κ}
    (h : Session.create host source selected config = .ok s) : s.onset = none := by
  obtain ⟨_, rfl⟩ := create_ok h
  rfl

/-- Only what renders is watched. -/
def MarkedOnlyStarted (s : Session σ κ) : Prop := s.onset ≠ none → s.phase = .started

/-- What a section may do to the mark: it leaves it where it is on the same route, and what renders
goes on rendering; or there is none afterwards. -/
inductive KeepsOrClearsMark (s t : Session σ κ) : Prop
  | clear (onset : t.onset = none)
  | same (onset : t.onset = s.onset) (phase : s.phase = .started → t.phase = .started)
      (route : s.route.Continues t.route)

theorem KeepsOrClearsMark.refl (s : Session σ κ) : KeepsOrClearsMark s s :=
  .same rfl id (Route.Continues.refl _)

/-- The same route in the same phase has the same mark. -/
theorem KeepsOrClearsMark.of_same {s t : Session σ κ} (hroute : t.route = s.route)
    (hphase : t.phase = s.phase) : KeepsOrClearsMark s t :=
  .same (onset_congr hroute) (fun h => hphase.trans h) (by rw [hroute]; exact Route.Continues.refl _)

theorem KeepsOrClearsMark.trans {s t u : Session σ κ} (h : KeepsOrClearsMark s t)
    (k : KeepsOrClearsMark t u) : KeepsOrClearsMark s u := by
  cases k with
  | clear hnone => exact .clear hnone
  | same honset hphase hroute =>
      cases h with
      | clear hnone => exact .clear (honset.trans hnone)
      | same honset' hphase' hroute' =>
          exact .same (honset.trans honset') (fun hs => hphase (hphase' hs)) (hroute'.trans hroute)

theorem MarkedOnlyStarted.of_keepsOrClearsMark {s t : Session σ κ} (h : s.MarkedOnlyStarted)
    (k : KeepsOrClearsMark s t) : t.MarkedOnlyStarted := by
  intro hmarked
  cases k with
  | clear hnone => exact absurd hnone hmarked
  | same honset hphase _ =>
      rw [honset] at hmarked
      exact hphase (h hmarked)

/-- Where nothing renders there is no mark that a section could leave. -/
theorem KeepsOrClearsMark.of_stopped {s t : Session σ κ} (h : s.MarkedOnlyStarted)
    (hstopped : s.phase ≠ .started)
    (honset : t.onset = s.onset) : KeepsOrClearsMark s t := by
  have hnone : s.onset = none := by
    by_cases hmarked : s.onset = none
    · exact hmarked
    · exact absurd (h hmarked) hstopped
  exact .clear (honset.trans hnone)

end Session

/-! ## §2. The sections of producers. -/

namespace DeviceRoute

variable {r : DeviceRoute κ}

/-- A mark that is there stays. -/
theorem mark_marked {since : Nat} (h : r.onset = some since) (now : Nat) : r.mark now = r := by
  unfold mark
  rw [h]
  show { r with onset := some since } = r
  rw [← h]

theorem mark_unmarked (h : r.onset = none) (now : Nat) : (r.mark now).onset = some now := by
  unfold mark
  rw [h]
  rfl

end DeviceRoute

namespace Session

/-- **A feed that finds the ring full** takes nothing, and marks the watchdog unless it is marked. -/
theorem feedSection_full {s : Session σ κ} {r : DeviceRoute κ} (hr : s.route = .device r)
    (hstarted : s.phase = .started) (hunmarked : s.switching = false) {chunk : List UInt8}
    (hchunk : chunk ≠ []) (hfull : r.ring.free = 0) (now : Instant) :
    ∃ t, s.feedSection chunk now = (.awaitSpace s.progress r.timing.period, t)
      ∧ t.route = .device (r.mark now.nanos) ∧ t.phase = s.phase := by
  have hsome : ¬ chunk.isEmpty = true := fun hempty => hchunk (List.isEmpty_iff.mp hempty)
  have hnone : ¬ 0 < (r.ring.append chunk).1 := by
    rw [Ring.append_count, hfull, Nat.min_zero]
    exact Nat.lt_irrefl 0
  unfold feedSection
  rw [if_neg hsome, hunmarked, hr]
  dsimp only
  rw [if_neg (by simp), if_pos hstarted]
  unfold feedRoute
  dsimp only
  rw [if_neg hnone]
  exact ⟨_, rfl, rfl, rfl⟩

/-- What the first section of a feed may do to the mark. -/
inductive FeedOutcome (s : Session σ κ) (chunk : List UInt8) (now : Instant) (step : FeedStep)
    (t : Session σ κ) : Prop
  /-- There is none afterwards. -/
  | clear (onset : t.onset = none)
  /-- The feed did nothing. -/
  | idle (same : t = s) (taken : step.taken chunk = [])
  /-- The ring was full. -/
  | full (r : DeviceRoute κ) (route : s.route = .device r) (offered : chunk ≠ [])
      (free : r.ring.free = 0) (taken : step.taken chunk = []) (phase : s.phase = .started)
      (still : t.phase = .started) (marked : t.route = .device (r.mark now.nanos))

theorem feedSection_outcome (s : Session σ κ) (chunk : List UInt8) (now : Instant) :
    FeedOutcome s chunk now (s.feedSection chunk now).1 (s.feedSection chunk now).2 := by
  cases hr : s.route with
  | closed =>
      have hnone : s.onset = none := onset_closed hr
      unfold feedSection
      rw [hr]
      refine .clear ?_
      split
      · exact hnone
      · split <;> exact hnone
  | null =>
      have hnone : s.onset = none := onset_null hr
      unfold feedSection
      rw [hr]
      refine .clear ?_
      split
      · exact hnone
      · split <;> exact hnone
  | device r =>
      by_cases hempty : chunk.isEmpty = true
      · obtain rfl : chunk = [] := List.isEmpty_iff.mp hempty
        exact .idle rfl rfl
      · by_cases hswitch : s.switching = true
        · unfold feedSection
          rw [if_neg hempty, if_pos hswitch]
          exact .idle rfl rfl
        · by_cases hstarted : s.phase = .started
          · have hchunk : chunk ≠ [] := fun hnil => hempty (by rw [hnil]; rfl)
            by_cases hfull : r.ring.free = 0
            · obtain ⟨t, heq, hmarked, hphase⟩ :=
                feedSection_full hr hstarted (by simpa using hswitch) hchunk hfull now
              rw [heq]
              exact .full r hr hchunk hfull rfl hstarted (hphase.trans hstarted) hmarked
            · -- Something fits, and the mark goes.
              have hsome : 0 < (r.ring.append chunk).1 := by
                have hlength := List.length_pos_iff.mpr hchunk
                rw [Ring.append_count]
                omega
              unfold feedSection
              rw [if_neg hempty, if_neg hswitch, hr]
              dsimp only
              rw [if_pos hstarted]
              unfold feedRoute
              dsimp only
              rw [if_pos hsome]
              exact .clear rfl
          · unfold feedSection
            rw [if_neg hempty, if_neg hswitch, hr]
            dsimp only
            rw [if_neg hstarted]
            exact .idle rfl rfl

/-- **The first section of a feed never reports a stall.** -/
theorem feedSection_answer {s t : Session σ κ} {chunk : List UInt8} {now : Instant} {time : Duration}
    (h : s.feedSection chunk now = (.done (.error (.writeStalled time)), t)) : False := by
  unfold feedSection at h
  split at h
  · simp at h
  · split at h
    · simp at h
    · split at h
      · simp at h
      · split at h
        · unfold feedRoute at h
          dsimp only at h
          split at h <;> simp at h
        · simp at h
      · simp at h

/-- Whether a route has stood still for longer than its pace allows, and since when. -/
def Expired (s : Session σ κ) (now since : Nat) : Prop :=
  ∃ r, s.route = .device r ∧ r.onset = some since
    ∧ 2 * max r.timing.bufferDuration.nanos r.timing.period.nanos < now - since

/-- The second section of a feed asks the watchdog of the device route. -/
theorem feedAgain_eq (s : Session σ κ) (now : Instant) :
    s.feedAgain now = match s.deviceRoute?.bind (·.stalledFor? now.nanos) with
      | some time => .error (.writeStalled time)
      | none => .ok (.accepted 0) := by
  unfold feedAgain deviceRoute?
  cases s.route <;> rfl

/-- **What the second section of a feed reports.** -/
theorem feedAgain_cases (s : Session σ κ) (now : Instant) :
    (∃ since, s.Expired now.nanos since
        ∧ s.feedAgain now = .error (.writeStalled ⟨now.nanos - since⟩))
      ∨ ((∀ since, ¬ s.Expired now.nanos since) ∧ s.feedAgain now = .ok (.accepted 0)) := by
  unfold feedAgain
  cases hr : s.route with
  | closed =>
      exact .inr ⟨fun since ⟨r, hdevice, _⟩ => absurd (hr.symm.trans hdevice) (by simp), rfl⟩
  | null =>
      exact .inr ⟨fun since ⟨r, hdevice, _⟩ => absurd (hr.symm.trans hdevice) (by simp), rfl⟩
  | device r =>
      dsimp only
      unfold DeviceRoute.stalledFor?
      cases honset : r.onset with
      | none =>
          refine .inr ⟨?_, rfl⟩
          rintro since ⟨other, hother, hmarked, _⟩
          obtain rfl : r = other := Route.device.inj (hr.symm.trans hother)
          exact absurd (honset.symm.trans hmarked) (by simp)
      | some since =>
          dsimp only
          by_cases hlate : r.timing.watchdog < (⟨now.nanos - since⟩ : Duration)
          · rw [if_pos hlate]
            exact .inl ⟨since, ⟨r, hr, honset, hlate⟩, rfl⟩
          · rw [if_neg hlate]
            refine .inr ⟨?_, rfl⟩
            rintro other ⟨_, hother, hmarked, hover⟩
            obtain rfl := Route.device.inj (hr.symm.trans hother)
            obtain rfl := Option.some.inj (honset.symm.trans hmarked)
            exact hlate hover

end Session

/-! ## §3. The sections of drain tasks. -/

namespace DeviceRoute

variable [Host σ] {r : DeviceRoute κ}

/-- What a cycle may do to the mark: it clears it, or takes nothing out of the ring and leaves it. -/
def ClearsMarkIfTaking (r : DeviceRoute κ) (done : Cycled σ κ) : Prop :=
  done.route.onset = none ∨ (done.route.onset = r.onset ∧ done.popped = [])

omit [Host σ] in
theorem clearsMarkIfTaking_unmoved (host : σ) (r : DeviceRoute κ) (outcome : Except CycleFault Nat)
    (offered : Option (List UInt8)) : ClearsMarkIfTaking r (unmoved host r outcome offered) :=
  .inr ⟨rfl, rfl⟩

omit [Host σ] in
theorem clearsMarkIfTaking_moved (host : σ) (r : DeviceRoute κ) (offered : List UInt8)
    (removed : Nat) :
    ClearsMarkIfTaking r (moved host r offered removed) := by
  unfold moved advance
  by_cases hsome : 0 < removed
  · rw [if_pos hsome]
    exact .inl rfl
  · have hnone : removed = 0 := by omega
    subst hnone
    exact .inr ⟨rfl, rfl⟩

theorem clearsMarkIfTaking_deliverPlain (host : σ) (r : DeviceRoute κ) (staged : List UInt8) :
    ClearsMarkIfTaking r (deliverPlain host r staged) := by
  unfold deliverPlain
  split
  · exact clearsMarkIfTaking_unmoved _ r _ _
  · exact clearsMarkIfTaking_unmoved _ r _ _
  · exact clearsMarkIfTaking_moved _ r _ _

variable [Stage κ]

theorem clearsMarkIfTaking_deliverConverted (host : σ) (r : DeviceRoute κ) (stage : κ)
    (staged : List UInt8) :
    ClearsMarkIfTaking r (deliverConverted host r stage staged) := by
  unfold deliverConverted
  split
  · exact clearsMarkIfTaking_unmoved _ r _ _
  next conversion _ =>
    dsimp only
    split
    · split
      · exact clearsMarkIfTaking_unmoved _ { r with stage := some conversion.next } _ _
      · exact clearsMarkIfTaking_moved _ { r with stage := some conversion.next } _ _
    · exact clearsMarkIfTaking_unmoved _ { r with stage := some conversion.next } _ _

/-- **A cycle that removes bytes clears the mark**; the silence that it pads with does not. -/
theorem clearsMarkIfTaking_cycle (host : σ) (r : DeviceRoute κ) (gain : Single) :
    ClearsMarkIfTaking r (r.cycle host gain) := by
  have houtcome := cycle_outcome host r gain
  generalize r.cycle host gain = done at houtcome
  cases houtcome with
  | idle => exact clearsMarkIfTaking_unmoved _ r _ _
  | @unscaled _ requested => exact clearsMarkIfTaking_unmoved _ (r.padded requested) _ _
  | @plain _ requested => exact clearsMarkIfTaking_deliverPlain _ (r.padded requested) _
  | @converted _ requested => exact clearsMarkIfTaking_deliverConverted _ (r.padded requested) _ _

end DeviceRoute

namespace Session

/-- A drain task that leaves does not touch the route. -/
theorem keepsOrClearsMark_drainExited (s : Session σ κ) (generation : Nat) :
    KeepsOrClearsMark s (s.drainExited generation) := by
  rw [drainExited_eq]
  exact KeepsOrClearsMark.of_same rfl rfl

variable [Host σ]

theorem keepsOrClearsMark_pause (s : Session σ κ) : KeepsOrClearsMark s s.pause.2 := by
  unfold pause
  split
  · split <;> exact KeepsOrClearsMark.of_same rfl rfl
  · exact KeepsOrClearsMark.refl s

variable [Stage κ]

/-- **A turn of a drain task takes nothing while the mark stays.** -/
theorem keepsOrClearsMark_drainTurn (s : Session σ κ) (generation : Nat) :
    KeepsOrClearsMark s (s.drainTurn generation).2 ∧ ((s.drainTurn generation).2.onset ≠ none →
      ∀ r done, s.cycle? generation = some (r, done) → done.popped = []) := by
  unfold drainTurn
  cases hcycle : s.cycle? generation with
  | none => exact ⟨KeepsOrClearsMark.refl s, fun _ _ _ hnone => absurd hnone (by simp)⟩
  | some found =>
      obtain ⟨r, done⟩ := found
      obtain ⟨_, _, hr, hdone⟩ := cycle?_eq_some hcycle
      have hminds := DeviceRoute.clearsMarkIfTaking_cycle s.host r s.gain
      have hcont := (DeviceRoute.accounts_cycle s.host r s.gain).continues
      rw [← hdone] at hminds hcont
      -- Whatever becomes of the turn, its session is left with the route of the cycle.
      have hafter : ∀ t : Session σ κ, t.route = .device done.route → t.phase = s.phase →
          KeepsOrClearsMark s t ∧ (t.onset ≠ none → ∀ r' done', some (r, done) = some (r', done') →
            done'.popped = []) := by
        intro t hroute hphase
        rcases hminds with hnone | ⟨hsame, hpopped⟩
        · have honset : t.onset = none := (onset_device hroute).trans hnone
          exact ⟨.clear honset, fun hmarked => absurd honset hmarked⟩
        · refine ⟨.same ?_ (fun h => hphase.trans h) ?_, ?_⟩
          · rw [onset_device hroute, onset_device hr, hsame]
          · rw [hr, hroute]
            exact .device hcont
          · rintro _ _ _ heq
            obtain ⟨rfl, rfl⟩ := Prod.mk.inj (Option.some.inj heq)
            exact hpopped
      dsimp only
      split
      · unfold drained
        split
        · exact hafter _ rfl rfl
        · exact hafter _ rfl rfl
      · exact hafter _ rfl rfl

/-! ## §4. The sections of a lifecycle call. -/

omit [Stage κ] in
/-- **A stop clears the mark** of what it stops. -/
theorem keepsOrClearsMark_stopSection (s : Session σ κ) : KeepsOrClearsMark s s.stopSection.2 := by
  unfold stopSection
  by_cases hstarted : s.phase = .started
  · rw [if_pos hstarted]
    have hcleared : s.stopStream.onset = none := by
      unfold stopStream
      split
      · split <;> rfl
      next hnone =>
        unfold onset deviceRoute?
        split
        next r hr => exact absurd hr (hnone r)
        · rfl
    exact .clear hcleared
  · rw [if_neg hstarted]
    exact KeepsOrClearsMark.refl s

omit [Stage κ] in
theorem keepsOrClearsMark_closeSection (s : Session σ κ) : KeepsOrClearsMark s s.closeSection :=
  .clear (onset_closed (closeSection_route s))

/-- **A route that was just opened has no mark.** -/
theorem keepsOrClearsMark_openSection (s : Session σ κ) : KeepsOrClearsMark s s.openSection.2 := by
  have hsection := openSection_outcome s
  generalize s.openSection = x at hsection
  cases hsection with
  | refused fault hclosed hsteady =>
      exact .clear (onset_closed (hsteady.route.closed_iff.mpr hclosed))
  | already => exact KeepsOrClearsMark.refl s
  | null => exact .clear rfl
  | @device t _ _ r _ _ _ _ hbuilt _ =>
      obtain ⟨_, _, _, _, _, _, _, honset⟩ := DeviceRoute.build_ok hbuilt
      exact .clear ((onset_device (show (t.adopt r).route = .device r from rfl)).trans honset)

/-- A start leaves the mark; where nothing rendered there was none. -/
theorem keepsOrClearsMark_startSection {s : Session σ κ} (h : s.MarkedOnlyStarted) :
    KeepsOrClearsMark s s.startSection.2 := by
  unfold startSection
  by_cases hstarted : s.phase = .started
  · rw [if_pos hstarted]
    exact KeepsOrClearsMark.refl s
  · rw [if_neg hstarted]
    cases hr : s.route with
    | closed => exact KeepsOrClearsMark.refl s
    | null =>
        refine KeepsOrClearsMark.of_stopped h hstarted ?_
        exact onset_congr hr.symm
    | device r =>
        refine KeepsOrClearsMark.of_stopped h hstarted ?_
        rw [onset_device hr]
        dsimp only
        unfold startDevice
        dsimp only
        split <;> rfl

end Session

/-- Whether a start has got no thread for its drain task. -/
def Errand.refused : Errand → Bool
  | .retracting _ _ _ => true
  | .undoing _ _ => true
  | _ => false

namespace Errand

open Session

variable [Host σ] [Stage κ]

/-- **A lifecycle call keeps the watch**, unless it has to undo a start. -/
theorem keepsOrClearsMark_advance? {s : Session σ κ} (h : s.MarkedOnlyStarted) {e : Errand}
    (hhired : e.refused = false) {joined : Bool} {done : Advance σ κ}
    (hdone : e.advance? s joined = some done) : KeepsOrClearsMark s done.session := by
  obtain ⟨t, hacts, hrests⟩ := advance_acts hdone
  refine KeepsOrClearsMark.trans ?_ (KeepsOrClearsMark.of_same hrests.route hrests.phase)
  cases hacts with
  | marked => exact KeepsOrClearsMark.of_same rfl rfl
  | stopped => exact s.keepsOrClearsMark_stopSection
  | awaited => exact KeepsOrClearsMark.refl s
  | halted =>
      obtain ⟨log, hlog⟩ := s.joinDrain_eq
      rw [hlog]
      exact KeepsOrClearsMark.of_same rfl rfl
  | closed => exact s.keepsOrClearsMark_closeSection
  | opened => exact s.keepsOrClearsMark_openSection
  | started => exact keepsOrClearsMark_startSection h
  | tidied => exact KeepsOrClearsMark.of_same rfl rfl
  | hired => exact KeepsOrClearsMark.of_same rfl rfl
  | unhired => exact KeepsOrClearsMark.refl s
  -- Here a start without a thread ends what renders, and could leave the mark.
  | retracted => exact absurd hhired (by simp [refused])
  | undone => exact absurd hhired (by simp [refused])
  | ended => exact KeepsOrClearsMark.of_same rfl rfl

end Errand

end PcmRender
