/-
  PcmRender.Proofs.Confining — **a session starts no device but its own.**

  Whatever fails while a session lives, its starts and stops among it, no device runs that did not run
  before, but for the one of its own stream.

      open, start, stop       change no state but that of the device of the route
      close                   stops this device, whether or not the stream could be stopped
      cycles, waits, feeds    change none

  So a session without a route has left no device running.

  Main statements:
    * `Session.startsOnlyOwn_startSection`, `Session.startsOnlyOwn_closeSection`, … — one section,
    * `Session.invariant_startsOnlyOwn` — so every call, and every move of anyone,
    * `Session.StartsOnlyOwn.startsNone` — what is left without a route.
-/
import PcmRender.Proofs.Running

namespace PcmRender

/-! ## §1. Devices that ran before. -/

namespace RunStates

/-- State by state, what runs in the first list runs in the second one. -/
def Within (now before : RunStates) : Prop :=
  List.Forall₂ (fun state old => state.1 = old.1 ∧ (state.2 = true → old.2 = true)) now before

theorem Within.refl (states : RunStates) : states.Within states :=
  List.forall₂_same.mpr fun _ _ => ⟨rfl, id⟩

theorem Within.trans {a b c : RunStates} (h : a.Within b) (k : b.Within c) : a.Within c := by
  unfold Within at h k ⊢
  induction h generalizing c with
  | nil => exact k
  | cons hfirst _ ih =>
      cases k with
      | cons hnext hrest =>
          exact .cons ⟨hfirst.1.trans hnext.1, fun hon => hnext.2 (hfirst.2 hon)⟩ (ih hrest)

/-- Stopping one makes none run. -/
theorem put_within (id : String) (states : RunStates) : (states.put id false).Within states := by
  induction states with
  | nil => exact .nil
  | cons state rest ih =>
      unfold put
      split
      · exact .cons ⟨rfl, fun hoff => absurd hoff (by simp)⟩ (Within.refl rest)
      · exact .cons ⟨rfl, fun hon => hon⟩ ih

/-- With the same one stopped in both, what was within stays within. -/
theorem Within.put {a b : RunStates} (h : a.Within b) (id : String) :
    (a.put id false).Within (b.put id false) := by
  unfold Within at h ⊢
  induction h with
  | nil => exact .nil
  | @cons state old now before hfirst hrest ih =>
      unfold RunStates.put
      rw [hfirst.1]
      split
      · exact .cons ⟨rfl, fun hoff => absurd hoff (by simp)⟩ hrest
      · exact .cons hfirst ih

end RunStates

namespace DeviceBank

/-- Device by device, none runs in `after` that did not run in `before`. -/
def StartsNone (before after : DeviceBank) : Prop :=
  List.Forall₂ (fun d old : Device => d.id = old.id ∧ (d.running = true → old.running = true))
    after.devices before.devices

theorem startsNone_iff {before after : DeviceBank} :
    before.StartsNone after ↔ after.runStates.Within before.runStates := by
  unfold StartsNone RunStates.Within runStates
  rw [List.forall₂_map_left_iff, List.forall₂_map_right_iff]

theorem StartsNone.refl (b : DeviceBank) : b.StartsNone b := startsNone_iff.mpr (.refl _)

theorem StartsNone.trans {a b c : DeviceBank} (h : a.StartsNone b) (k : b.StartsNone c) :
    a.StartsNone c :=
  startsNone_iff.mpr ((startsNone_iff.mp k).trans (startsNone_iff.mp h))

/-- Asking for a stream starts no device, -/
theorem startsNone_activate (b : DeviceBank) (id : String) (f : Format) (buffer : Duration) :
    b.StartsNone (Host.activate b id f buffer).2 := by
  rw [startsNone_iff, (b.keepsRunStates_activate id f buffer).runStates]
  exact RunStates.Within.refl _

/-- and giving one back does not either. -/
theorem startsNone_release (b : DeviceBank) (e : Endpoint) : b.StartsNone (Host.release b e) := by
  rw [startsNone_iff, b.runStates_release e]
  exact RunStates.put_within _ _

/-- A call on one device changes no state but that of the device. -/
theorem runStates_on {ρ : Type} (b : DeviceBank) (id : String) (absent : ρ)
    (call : Device → ρ × Device) (hid : ∀ d, (call d).2.id = d.id) :
    (b.on id absent call).2.runStates.put id false = b.runStates.put id false := by
  unfold on
  cases hfound : b.find? id with
  | none => rfl
  | some d =>
      dsimp only
      rw [runStates_put b ((hid d).trans (id_of_find? hfound)), RunStates.put_put]

/-- Starting a stream changes the state of its device at most, -/
theorem runStates_start (b : DeviceBank) (e : Endpoint) :
    (Host.start b e).2.runStates.put e.device false = b.runStates.put e.device false :=
  b.runStates_on e.device _ Device.start fun d => (start_frame d).1

/-- and so does stopping it. -/
theorem runStates_stop (b : DeviceBank) (e : Endpoint) :
    (Host.stop b e).2.runStates.put e.device false = b.runStates.put e.device false :=
  b.runStates_on e.device _ Device.stop fun d => (stop_frame d).1

end DeviceBank

/-! ## §2. Sections. -/

namespace Session

variable {κ : Type} {before : RunStates} {s t : Session DeviceBank κ}

/-- The run states with the device of the route stopped. -/
def otherStates (s : Session DeviceBank κ) : RunStates :=
  match s.route with
  | .device r => s.host.runStates.put r.endpoint.device false
  | _ => s.host.runStates

/-- No device runs that did not run before, but for that of the route. -/
def StartsOnlyOwn (before : RunStates) (s : Session DeviceBank κ) : Prop :=
  s.otherStates.Within before

theorem otherStates_device {r : DeviceRoute κ} (hr : s.route = .device r) :
    s.otherStates = s.host.runStates.put r.endpoint.device false := by
  unfold otherStates
  rw [hr]

theorem otherStates_nowhere (h : ∀ r, s.route ≠ .device r) : s.otherStates = s.host.runStates := by
  unfold otherStates
  split
  next r hr => exact absurd hr (h r)
  · rfl

theorem otherStates_within (s : Session DeviceBank κ) : s.otherStates.Within s.host.runStates := by
  unfold otherStates
  split
  · exact RunStates.put_within _ _
  · exact RunStates.Within.refl _

/-- **Once the route is gone, all that runs ran before.** -/
theorem StartsOnlyOwn.startsNone {b : DeviceBank} (h : StartsOnlyOwn b.runStates s)
    (hclosed : s.route = .closed) : b.StartsNone s.host := by
  have hwithin : s.otherStates.Within b.runStates := h
  rw [otherStates_nowhere (by simp [hclosed])] at hwithin
  exact DeviceBank.startsNone_iff.mpr hwithin

/-- Sections that change at most the state of the device of the route. -/
theorem StartsOnlyOwn.of_otherStates (h : StartsOnlyOwn before s)
    (hsame : t.otherStates = s.otherStates) : StartsOnlyOwn before t := by
  unfold StartsOnlyOwn
  rw [hsame]
  exact h

/-- **Steady sections that change no state.** -/
theorem StartsOnlyOwn.of_steady (h : StartsOnlyOwn before s) (k : Steady s t)
    (hstates : t.host.runStates = s.host.runStates) : StartsOnlyOwn before t := by
  refine h.of_otherStates ?_
  unfold otherStates
  rw [hstates]
  cases hr : s.route with
  | closed => rw [k.route.closed_iff.mpr hr]
  | null => rw [k.route.null_iff.mpr hr]
  | device r =>
      obtain ⟨later, hlater, hcont⟩ := (hr ▸ k.route).device_of
      rw [hlater]
      show s.host.runStates.put later.endpoint.device false = _
      rw [hcont.endpoint]

/-- Sections that ask the stream of the route for something. -/
theorem StartsOnlyOwn.asking (h : StartsOnlyOwn before s) {r later : DeviceRoute κ}
    (hr : s.route = .device r) (hlater : t.route = .device later)
    (hendpoint : later.endpoint = r.endpoint)
    (hstates : t.host.runStates.put r.endpoint.device false
      = s.host.runStates.put r.endpoint.device false) : StartsOnlyOwn before t := by
  refine h.of_otherStates ?_
  rw [otherStates_device hlater, otherStates_device hr, hendpoint, hstates]

theorem startsOnlyOwn_stopSection (h : StartsOnlyOwn before s) :
    StartsOnlyOwn before s.stopSection.2 := by
  unfold stopSection
  split
  · unfold stopStream
    cases hr : s.route with
    | closed => exact h.of_otherStates (by unfold otherStates endRendering; rw [hr])
    | null => exact h.of_otherStates (by unfold otherStates endRendering; rw [hr])
    | device r =>
        have hstop := s.host.runStates_stop r.endpoint
        dsimp only
        split
        next host hasked =>
          rw [hasked] at hstop
          exact h.asking hr rfl rfl hstop
        next e host hasked =>
          rw [hasked] at hstop
          exact h.asking hr rfl rfl hstop
  · exact h

/-- **Giving the route back stops its device**, whatever became of stopping it. -/
theorem startsOnlyOwn_closeSection (h : StartsOnlyOwn before s) :
    StartsOnlyOwn before s.closeSection := by
  refine h.of_otherStates ?_
  rw [otherStates_nowhere (by simp [closeSection_route])]
  unfold closeSection otherStates
  cases hr : s.route with
  | closed => rfl
  | null => rfl
  | device r => exact s.host.runStates_release r.endpoint

theorem startsOnlyOwn_undoStart (h : StartsOnlyOwn before s) :
    StartsOnlyOwn before s.undoStart := by
  cases hr : s.route with
  | device r =>
      refine h.asking hr hr rfl ?_
      rw [host_undoStart hr]
      exact s.host.runStates_stop r.endpoint
  | _ =>
      have hhost := host_undoStart_nowhere (s := s) (by simp [hr])
      refine h.of_otherStates ?_
      unfold otherStates
      rw [hhost, show s.undoStart.route = s.route from rfl]

variable [Stage κ]

/-- **A start may make the device of its own route run**, and no other, whether it succeeds or not. -/
theorem startsOnlyOwn_startSection (h : StartsOnlyOwn before s) :
    StartsOnlyOwn before s.startSection.2 := by
  unfold startSection
  split
  · exact h
  cases hr : s.route with
  | closed => exact h
  | null => exact h.of_otherStates (by unfold otherStates note; rw [hr])
  | device r =>
      have hstart := s.host.runStates_start r.endpoint
      unfold startDevice
      dsimp only
      rw [show (s.withRoute (rewound r)).host = s.host from rfl,
        show (rewound r).endpoint = r.endpoint from rfl]
      split
      next host hasked =>
        rw [hasked] at hstart
        exact h.asking hr rfl rfl hstart
      next host hasked =>
        rw [hasked] at hstart
        exact h.asking hr rfl rfl hstart
      next e host _ hasked =>
        rw [hasked] at hstart
        exact h.asking hr rfl rfl hstart

/-- Opening makes no device run. -/
theorem startsOnlyOwn_openSection (h : StartsOnlyOwn before s) :
    StartsOnlyOwn before s.openSection.2 := by
  have hclosed : ∀ t : Session DeviceBank κ, s.route = .closed → s.host.StartsNone t.host →
      StartsOnlyOwn before t := by
    intro t hroute hhost
    have hstates : s.otherStates = s.host.runStates := otherStates_nowhere (by simp [hroute])
    have hwithin : s.otherStates.Within before := h
    rw [hstates] at hwithin
    exact (t.otherStates_within.trans (DeviceBank.startsNone_iff.mp hhost)).trans hwithin
  unfold openSection
  split
  next hroute _ => exact hclosed _ hroute (DeviceBank.StartsNone.refl _)
  next device hroute _ =>
    exact hclosed _ hroute (openDevice_relates DeviceBank.StartsNone.refl
      (fun _ _ _ => DeviceBank.StartsNone.trans) DeviceBank.startsNone_activate
      DeviceBank.startsNone_release s device)
  · exact h

/-- **No section makes another device run**, as long as nothing else starts one; that starting or
stopping fails makes no difference. -/
theorem invariant_startsOnlyOwn : Invariant (fun change => ∀ b, DeviceBank.StartsNone b (change b))
    (@StartsOnlyOwn κ before) where
  silent := fun h hbooks => h.of_otherStates (by unfold otherStates; rw [hbooks.host, hbooks.route])
  elsewhere := by
    intro s change hchange h
    have hwithin := DeviceBank.startsNone_iff.mp (hchange s.host)
    refine RunStates.Within.trans ?_ h
    show (otherStates { s with host := change s.host }).Within s.otherStates
    unfold otherStates
    dsimp only
    split
    · exact hwithin.put _
    · exact hwithin
  stopSection := startsOnlyOwn_stopSection
  closeSection := startsOnlyOwn_closeSection
  openSection := startsOnlyOwn_openSection
  startSection := startsOnlyOwn_startSection
  undoStart := startsOnlyOwn_undoStart
  feedSection := fun chunk now h =>
    h.of_steady (steady_feedSection _ chunk now) (by rw [host_feedSection])
  drainTurn := fun generation h =>
    h.of_steady (steady_drainTurn _ generation) (keepsRunStates_drainTurn _ generation).runStates
  pause := fun h => h.of_steady (steady_pause _) (keepsRunStates_pause _).runStates

end Session

end PcmRender
