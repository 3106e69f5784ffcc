/-
  PcmRender.Proofs.RouteKeeping — **what every change of a route keeps, every session keeps.**

  From the open that builds it to the close that gives it back, four things happen to a route:

      built      an open
      settled    feeds, marks and stops: the queue and the watchdog, never the stage
      rewound    a start: silence in front of what is queued, and the stage forgets
      cycled     a cycle of the drain task

  So a fact about routes that holds of every route that was built, and that the other three keep,
  holds of the route of a session at any time: after any number of cycles, restarts and switches,
  whoever makes them, and whatever happens on the machine.

  Main statements:
    * `RouteInvariant` — such a fact,
    * `RouteInvariant.invariant` — sessions keep it,
    * `RouteInvariant.of_runCrew` — the route of a session in use has it.
-/
import PcmRender.Proofs.Keeping

namespace PcmRender

open Session (rewound)

variable {σ κ : Type} [Host σ] [Stage κ]

/-- A fact about device routes that holds when they are built, and that whatever happens to them
keeps. -/
structure RouteInvariant (σ : Type) {κ : Type} [Host σ] [Stage κ] (fact : DeviceRoute κ → Prop) :
    Prop where
  built : ∀ {device : String} {source : Format} {endpoint : Endpoint} {usual : Duration}
    {r : DeviceRoute κ}, source.isSupported = true → endpoint.format.channels = source.channels →
      DeviceRoute.build device source endpoint usual = .ok r → fact r
  settled : ∀ {r later : DeviceRoute κ}, fact r → r.Continues later → later.stage = r.stage →
    fact later
  rewound : ∀ {r : DeviceRoute κ}, fact r → fact (rewound r)
  cycled : ∀ {r : DeviceRoute κ} (host : σ) (gain : Single), fact r →
    fact (r.cycle host gain).route

/-- What is built and does not change while a route is open. -/
theorem RouteInvariant.of_continues {fact : DeviceRoute κ → Prop}
    (built : ∀ {device : String} {source : Format} {endpoint : Endpoint} {usual : Duration}
      {r : DeviceRoute κ}, source.isSupported = true → endpoint.format.channels = source.channels →
        DeviceRoute.build device source endpoint usual = .ok r → fact r)
    (kept : ∀ {r later : DeviceRoute κ}, fact r → r.Continues later → fact later) :
    RouteInvariant σ fact where
  built := built
  settled h hcont _ := kept h hcont
  rewound {r} h := kept h (Session.continues_rewound r)
  cycled {r} host gain h := kept h (DeviceRoute.accounts_cycle host r gain).continues

/-- What holds of a stage that was reset holds of the stage of a route that was rewound. -/
theorem DeviceRoute.stage_rewound {fact : κ → Prop} {r : DeviceRoute κ}
    (h : ∀ stage, r.stage = some stage → fact (Stage.reset stage)) :
    ∀ stage, (rewound r).stage = some stage → fact stage := by
  intro stage hstage
  obtain ⟨before, hbefore, rfl⟩ := Option.map_eq_some_iff.mp hstage
  exact h before hbefore

namespace Session

/-- The route of a session, if it is one to a device, has a property. -/
def RouteHas (fact : DeviceRoute κ → Prop) (s : Session σ κ) : Prop :=
  ∀ r, s.route = .device r → fact r

variable {fact : DeviceRoute κ → Prop} {s t : Session σ κ}

omit [Host σ] [Stage κ] in
theorem RouteHas.of_same (h : s.RouteHas fact) (hroute : t.route = s.route) : t.RouteHas fact :=
  fun r hr => h r (hroute.symm.trans hr)

omit [Host σ] [Stage κ] in
theorem RouteHas.of_device {r : DeviceRoute κ} (h : fact r) (hroute : t.route = .device r) :
    t.RouteHas fact := by
  intro later hlater
  obtain rfl := Route.device.inj (hroute.symm.trans hlater)
  exact h

omit [Host σ] [Stage κ] in
theorem RouteHas.of_nowhere (h : ∀ r, t.route ≠ .device r) : t.RouteHas fact :=
  fun r hr => absurd hr (h r)

end Session

namespace RouteInvariant

open Session

variable {fact : DeviceRoute κ → Prop} {s : Session σ κ}

theorem stopSection (inv : RouteInvariant σ fact) (h : s.RouteHas fact) :
    s.stopSection.2.RouteHas fact := by
  unfold Session.stopSection
  split
  · show s.stopStream.RouteHas fact
    unfold stopStream
    split
    next r hr =>
      have hcleared : fact r.clear := inv.settled (h r hr) (DeviceRoute.continues_clear r) rfl
      split
      · exact .of_device hcleared rfl
      · exact .of_device hcleared rfl
    · exact h
  · exact h

theorem openSection (inv : RouteInvariant σ fact) (h : s.RouteHas fact) :
    s.openSection.2.RouteHas fact := by
  have houtcome := openSection_outcome s
  generalize s.openSection = done at houtcome
  cases houtcome with
  | refused fault hclosed hsteady =>
      exact .of_nowhere fun r hr => by
        rw [hsteady.route.closed_iff.mpr hclosed] at hr
        exact absurd hr (by simp)
  | already => exact h
  | null => exact .of_nowhere (by simp [openNull, note])
  | device _ _ hsupported hchannels hbuilt =>
      exact .of_device (inv.built hsupported hchannels hbuilt) rfl

theorem startSection (inv : RouteInvariant σ fact) (h : s.RouteHas fact) :
    s.startSection.2.RouteHas fact := by
  unfold Session.startSection
  split
  · exact h
  · split
    · exact h
    next hnull => exact .of_nowhere (by simp [note, hnull])
    next r hr =>
      have hrewound : fact (Session.rewound r) := inv.rewound (h r hr)
      unfold startDevice
      dsimp only
      split
      · exact .of_device hrewound rfl
      · exact .of_device hrewound rfl
      · exact .of_device hrewound rfl

theorem feedSection (inv : RouteInvariant σ fact) (h : s.RouteHas fact) (chunk : List UInt8)
    (now : Instant) : (s.feedSection chunk now).2.RouteHas fact := by
  unfold Session.feedSection
  split
  · exact h
  · split
    · exact h
    · split
      · exact h
      next r hr =>
        split
        · unfold feedRoute
          dsimp only
          split
          · have hring := r.continues_ring (r.ring.append chunk).2
              (Ring.capacity_append r.ring chunk)
            exact .of_device (inv.settled (h r hr)
              (hring.trans (DeviceRoute.continues_clear _)) rfl) rfl
          · exact .of_device (inv.settled (h r hr) (DeviceRoute.continues_mark r now.nanos) rfl) rfl
        · exact h
      · exact h

theorem drainTurn (inv : RouteInvariant σ fact) (h : s.RouteHas fact) (generation : Nat) :
    (s.drainTurn generation).2.RouteHas fact := by
  unfold Session.drainTurn
  cases hcycle : s.cycle? generation with
  | none => exact h
  | some found =>
      obtain ⟨r, done⟩ := found
      obtain ⟨_, _, hr, hdone⟩ := cycle?_eq_some hcycle
      have hcycled : fact done.route := by
        rw [hdone]
        exact inv.cycled s.host s.gain (h r hr)
      dsimp only
      split
      · unfold drained
        split
        · exact .of_device hcycled rfl
        · exact .of_device hcycled rfl
      · exact .of_device hcycled rfl

/-- **Sessions keep what their routes keep.** -/
theorem invariant (inv : RouteInvariant σ fact) :
    Session.Invariant (fun _ => True) (Session.RouteHas (σ := σ) fact) where
  silent h k := h.of_same k.route
  elsewhere _ h := h.of_same rfl
  stopSection := inv.stopSection
  closeSection {s} _ := .of_nowhere fun r hr => by
    rw [closeSection_route s] at hr
    exact absurd hr (by simp)
  openSection := inv.openSection
  startSection := inv.startSection
  undoStart h := h.of_same rfl
  feedSection chunk now h := inv.feedSection h chunk now
  drainTurn generation h := inv.drainTurn h generation
  pause {s} h := by
    refine h.of_same ?_
    unfold Session.pause
    split
    · split <;> rfl
    · rfl

/-- **The route of a session in use**, at whatever point everyone is. -/
theorem of_runCrew (inv : RouteInvariant σ fact) {host : σ} {source : Format}
    {selected : Option String} {config : SessionConfig}
    (hcreate : Session.create host source selected config = .ok s) {moves : List (Move σ)}
    {c : Crew σ κ} {trace : List Event} (hrun : Crew.run { session := s } moves = some (c, trace))
    {r : DeviceRoute κ} (hr : c.session.route = .device r) : fact r := by
  obtain ⟨_, rfl⟩ := create_ok hcreate
  have hfresh : Session.RouteHas fact
      ({ host, config, source, selected, period := config.period.kept } : Session σ κ) :=
    .of_nowhere (by simp)
  exact inv.invariant.runCrew moves hfresh (fun _ _ => trivial) hrun r hr

end RouteInvariant

end PcmRender
