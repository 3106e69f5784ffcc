/-
  PcmRender.Proofs.Stranding — **a session that a watch has lost is its owner's to open again.**

  A switch that cannot open or start its target leaves the session closed, with the target selected,
  and forgets that it was started.  From then on the two state machines pass each other by:

      the watch     looks at the selection, and goes on to select what its policy wants
      the session   is closed, where a switch changes the selection and no more

  So no event brings the session back, however many of its devices are there again.  What the watch
  does for its owner is to have the right device selected when he opens the session.

  Main statements:
    * `closed_perform`, `Watched.stranded_step`, `Watched.stranded_run` — closed until somebody opens,
    * `select_none_ok`, `after_wanted` — the device that is selected then,
    * `start_after_open` — opening and starting,
    * `only_the_owner_reopens` — the three together.
-/
import PcmRender.Proofs.Following
import PcmRender.Proofs.Running

namespace PcmRender

/-! ## §1. Closed sessions. -/

namespace Session

variable {σ κ : Type} [Host σ] [Stage κ] {s : Session σ κ}

/-- Whether a step opens a session that is closed. -/
def Call.opens : Call σ → Bool
  | .openRoute => true
  | _ => false

/-- A switch of a closed session does not open it. -/
theorem select_closed (h : s.phase = .closed) (target : Option String) :
    (s.select target).1 = .ok () ∧ (s.select target).2.route = .closed := by
  rw [select_eq, if_pos h]
  exact ⟨rfl, close_route _⟩

/-- **A closed session stays closed** until it is opened. -/
theorem closed_perform (h : Coherent s) (hclosed : s.route = .closed) {call : Call σ}
    (hcall : call.opens = false) : (s.perform call).route = .closed := by
  have hphase : s.phase = .closed := h.closed_iff.mpr hclosed
  have hexited : ∀ (t : Session σ κ) (generation : Nat), Steady s t →
      (t.drainExited generation).route = .closed := by
    intro t generation hsteady
    rw [drainExited_eq]
    exact hsteady.route.closed_iff.mpr hclosed
  cases call with
  | openRoute => exact absurd hcall (by simp [Call.opens])
  | start =>
      show s.start.2.route = .closed
      unfold start startSection
      rw [if_neg (by simp [hphase]), hclosed]
      exact hclosed
  | stop =>
      show s.stop.route = .closed
      unfold stop stopSection
      rw [if_neg (by simp [hphase])]
      exact hclosed
  | close => exact close_route s
  | reopen => exact (select_closed hphase s.selected).2
  | select target => exact (select_closed hphase target).2
  | setFormat format =>
      show (s.setFormat format).2.route = .closed
      unfold setFormat
      split
      · exact hclosed
      · split <;> exact hclosed
  | setGain gain => exact hclosed
  | feed chunk now => exact (steady_feedSection s chunk now).route.closed_iff.mpr hclosed
  | turn generation =>
      have hturn := steady_drainTurn s generation
      show (s.drainSection generation).2.route = .closed
      unfold drainSection
      generalize s.drainTurn generation = x at hturn
      obtain ⟨turn, t⟩ := x
      cases turn with
      | cycled => exact hturn.route.closed_iff.mpr hclosed
      | retired => exact hexited t generation hturn
      | crashed => exact hexited t generation hturn
  | wait generation =>
      have hpause := steady_pause s
      show (s.drainWait generation).2.route = .closed
      unfold drainWait
      generalize s.pause = x at hpause
      obtain ⟨ready, t⟩ := x
      cases ready with
      | true => exact hpause.route.closed_iff.mpr hclosed
      | false => exact hexited t generation hpause
  | elsewhere change => exact hclosed

/-- **The null sink is always there**: a switch to it does not fail. -/
theorem select_none_ok (s : Session σ κ) : (s.select none).1 = .ok () := by
  rw [select_eq]
  split
  · rfl
  · have hopen : (s.vacated none).openRoute = (.ok (), (s.vacated none).openNull) := by
      unfold openRoute openSection
      rw [route_vacated]
      rfl
    unfold resume
    rw [hopen]
    dsimp only
    split
    · rfl
    · rfl

end Session

/-! ## §2. A watch over a closed session. -/

/-- Whether the session is opened. -/
def Happening.opens {σ : Type} : Happening σ → Bool
  | .call made => made.opens
  | _ => false

namespace Watched

open Session (Coherent)

variable {σ κ : Type} [Host σ] [Stage κ] {policy : WatchPolicy} {w next : Watched σ κ}

/-- Whatever a watch does to a session, its parts agree. -/
theorem coherent_step (h : Coherent w.session) {happening : Happening σ}
    (hstep : w.step policy happening = some next) : Coherent next.session := by
  cases happening with
  | event event =>
      unfold step at hstep
      dsimp only at hstep
      split at hstep
      · exact absurd hstep (by simp)
      · obtain rfl := Option.some.inj hstep
        exact h
  | switch =>
      obtain ⟨target, _, rfl⟩ := Option.map_eq_some_iff.mp hstep
      rw [(w.switch_eq target).1]
      exact Session.coherent_select h target
  | call call =>
      obtain rfl := Option.some.inj hstep
      exact Session.coherent_perform h call

theorem coherent_run {happenings : List (Happening σ)} (h : Coherent w.session)
    (hrun : w.run policy happenings = some next) : Coherent next.session :=
  run_keeps (fun w => Coherent w.session) (fun _ => True)
    (fun _ _ _ hw _ hstep => coherent_step hw hstep) happenings h (fun _ _ => trivial) hrun

/-- The session that is watched has no route. -/
structure Stranded (w : Watched σ κ) : Prop where
  coherent : Coherent w.session
  closed : w.session.route = .closed

/-- **No event brings a session back**, nor does anything else but an open. -/
theorem stranded_step (h : Stranded w) {happening : Happening σ} (hopens : happening.opens = false)
    (hstep : w.step policy happening = some next) : Stranded next := by
  refine ⟨coherent_step h.coherent hstep, ?_⟩
  cases happening with
  | event event =>
      unfold step at hstep
      dsimp only at hstep
      split at hstep
      · exact absurd hstep (by simp)
      · obtain rfl := Option.some.inj hstep
        exact h.closed
  | switch =>
      obtain ⟨target, _, rfl⟩ := Option.map_eq_some_iff.mp hstep
      rw [(w.switch_eq target).1]
      exact (Session.select_closed (h.coherent.closed_iff.mpr h.closed) target).2
  | call call =>
      obtain rfl := Option.some.inj hstep
      exact Session.closed_perform h.coherent h.closed hopens

theorem stranded_run {happenings : List (Happening σ)} (h : Stranded w)
    (hopens : ∀ happening ∈ happenings, happening.opens = false)
    (hrun : w.run policy happenings = some next) : Stranded next :=
  run_keeps Stranded (fun happening => happening.opens = false)
    (fun _ _ _ hw hopens hstep => stranded_step hw hopens hstep) happenings h hopens hrun

/-- **A switch that failed strands the session.** -/
theorem stranded_switch (h : Coherent w.session) {target : Option String} {fault : Fault}
    {t : Session σ κ} (hfails : w.session.select target = (.error fault, t)) :
    Stranded (w.switch target) := by
  obtain ⟨hsession, _⟩ := w.switch_eq target
  refine ⟨?_, ?_⟩
  · rw [hsession]
    exact Session.coherent_select h target
  · rw [hsession, hfails]
    exact Session.closed_of_select_error hfails

end Watched

/-! ## §3. What is selected then. -/

namespace WatchPolicy

/-- Whether an event makes a device the one that a policy wants. -/
def wants (id : String) : WatchPolicy → DeviceEvent → Bool
  | followDefault, .defaultChanged found => found == some id
  | fixed wanted, event => wanted == id && event.brings wanted
  | _, _ => false

variable {policy : WatchPolicy} {selected : Option String}

theorem after_append (first second : List DeviceEvent) :
    policy.after selected (first ++ second) = policy.after (policy.after selected first) second :=
  List.foldl_append

/-- A policy that wants a device switches to it or to the null sink. -/
theorem target?_fixed {wanted : String} {event : DeviceEvent} {target : Option String}
    (h : (fixed wanted).target? selected event = some target) :
    target = none ∨ target = some wanted := by
  have hchanges := target?_changes h
  have hnext : (fixed wanted).next selected event = target := by
    unfold next
    rw [h]
    rfl
  rw [next_fixed] at hnext
  split at hnext
  · exact .inl hnext.symm
  · split at hnext
    · exact .inr hnext.symm
    · exact absurd hnext.symm hchanges

/-- **An event that makes a device the wanted one selects it**, if no other than the wanted one was
left selected under a policy that wants one. -/
theorem after_wanted (hleft : ∀ wanted, policy = fixed wanted → selected = some wanted)
    (front : List DeviceEvent) {event : DeviceEvent} {id : String}
    (h : policy.wants id event = true) : policy.after selected (front ++ [event]) = some id := by
  rw [after_concat]
  cases policy with
  | followDefault =>
      cases event with
      | defaultChanged found =>
          rw [next_default]
          exact beq_iff_eq.mp h
      | _ => exact absurd h (by simp [wants])
  | fixed wanted =>
      unfold wants at h
      rw [Bool.and_eq_true, beq_iff_eq] at h
      obtain ⟨rfl, hbrings⟩ := h
      have hrange := (holdsTo_after wanted selected).range front
      rw [hleft wanted rfl, or_self_left] at hrange
      rw [hleft wanted rfl, next_fixed]
      rcases hrange with hwanted | hnone
      · -- What brings a device does not take it.
        have hstays : event.takes (some wanted) = false := by
          cases event with
          | stateChanged other active => cases active <;> simp_all [DeviceEvent.brings, DeviceEvent.takes]
          | _ => simp_all [DeviceEvent.brings, DeviceEvent.takes]
        rw [hwanted, hstays]
        simp
      · rw [hnone, event.takes_none]
        simp [hbrings]

end WatchPolicy

/-! ## §4. Opening and starting. -/

namespace DeviceBank

theorem threads_start (b : DeviceBank) (e : Endpoint) : (Host.start b e).2.threads = b.threads := by
  show (b.on e.device (.error (missing e.device)) Device.start).2.threads = b.threads
  unfold on
  split <;> rfl

theorem dependable_of_plain {b : DeviceBank} (h : ∀ d ∈ b.devices, d.Plain) : b.StartsAndStops := by
  intro d hd
  unfold Device.has
  rw [(h d hd).1]
  exact ⟨rfl, rfl⟩

end DeviceBank

namespace Session

open Negotiation (knownFormats)

/-- A stream on a device that is there begins to render. -/
theorem startDevice_begins {κ : Type} [Stage κ] {s : Session DeviceBank κ} {r : DeviceRoute κ}
    (hworks : s.host.StartsAndStops)
    (hfound : (s.host.find? r.endpoint.device).isSome = true) :
    ∃ t : Session DeviceBank κ, s.startDevice r = (.ok (some (t.generation + 1)), t.beginRendering)
      ∧ t.route = .device (rewound r) ∧ t.host.threads = s.host.threads := by
  have houtcome := DeviceBank.start_outcome hworks r.endpoint
  have hthreads := s.host.threads_start r.endpoint
  unfold startDevice
  dsimp only
  rw [show (s.withRoute (rewound r)).host = s.host from rfl,
    show (rewound r).endpoint = r.endpoint from rfl]
  generalize Host.start s.host r.endpoint = x at houtcome hthreads
  cases houtcome with
  | absent hnone =>
      rw [hnone] at hfound
      exact absurd hfound (by simp)
  | running hruns =>
      rcases hruns with rfl | rfl
      · exact ⟨_, rfl, rfl, hthreads⟩
      · exact ⟨_, rfl, rfl, hthreads⟩

/-- **A session that is open on such a device can be started**, if there is a thread for it. -/
theorem start_on_device {κ : Type} [Stage κ] {s : Session DeviceBank κ} {r : DeviceRoute κ}
    (hstopped : s.phase ≠ .started) (hr : s.route = .device r) (hworks : s.host.StartsAndStops)
    (hfound : (s.host.find? r.endpoint.device).isSome = true) (hthreads : s.host.threads = true) :
    ∃ t, s.start = (.ok (), t) ∧ t.phase = .started ∧ t.route = .device (rewound r) := by
  obtain ⟨t, hbegun, hroute, hkept⟩ := startDevice_begins hworks hfound
  have hsection : s.startSection = (.ok (some (t.generation + 1)), t.beginRendering) := by
    unfold startSection
    rw [if_neg hstopped, hr]
    exact hbegun
  have hspawn : Host.spawn t.beginRendering.forgetTask.host = .ok () := if_pos (hkept.trans hthreads)
  refine ⟨t.beginRendering.forgetTask.spawned (t.generation + 1), ?_, rfl, hroute⟩
  unfold start
  rw [hsection]
  dsimp only
  rw [hspawn]

/-- A start that succeeds leaves the session rendering. -/
theorem phase_of_start_ok {σ κ : Type} [Host σ] [Stage κ] {s t : Session σ κ}
    (h : s.start = (.ok (), t)) : t.phase = .started := by
  have hsection := startSection_outcome s
  unfold start at h
  generalize s.startSection = x at hsection h
  cases hsection with
  | already hstarted =>
      obtain ⟨_, rfl⟩ := Prod.mk.inj h
      exact hstarted
  | refused fault => exact absurd (Prod.mk.inj h).1 (by simp)
  | null _ _ hsteady =>
      obtain ⟨_, rfl⟩ := Prod.mk.inj h
      exact hsteady.phase
  | device _ _ _ =>
      dsimp only at h
      split at h
      · obtain ⟨_, rfl⟩ := Prod.mk.inj h
        rfl
      · exact absurd (Prod.mk.inj h).1 (by simp)

/-- **What its owner has to do**, on any host: once an open and a start have succeeded, the session is
started on the device that it has selected. -/
theorem started_after_open {σ κ : Type} [Host σ] [Stage κ] {s t u : Session σ κ} (h : Coherent s)
    {id : String} (hselected : s.selected = some id) (hopen : s.openRoute = (.ok (), t))
    (hstart : t.start = (.ok (), u)) : u.phase = .started ∧ ∃ r, u.route = .device r ∧ r.device = id := by
  have hopened : Linked t ∧ t.selected = some id := by
    have hlinked := h.toLinked.openRoute
    have habides := keepsSelection_openRoute s
    rw [hopen] at hlinked habides
    exact ⟨hlinked, habides.selected.trans hselected⟩
  have hstarted : Linked u ∧ u.selected = some id := by
    have hlinked := hopened.1.start
    have habides := keepsSelection_start t
    rw [hstart] at hlinked habides
    exact ⟨hlinked, habides.selected.trans hopened.2⟩
  obtain ⟨hlinked, hsame⟩ := hstarted
  have hphase := phase_of_start_ok hstart
  refine ⟨hphase, ?_⟩
  cases hr : u.route with
  | closed =>
      rw [hlinked.closed_iff.mpr hr] at hphase
      exact absurd hphase (by simp)
  | null => exact absurd (hsame.symm.trans (hlinked.null hr)) (by simp)
  | device r => exact ⟨r, rfl, Option.some.inj ((hlinked.device r hr).symm.trans hsame)⟩

variable {τ α : Type} [Amplitude α] [ReadHead τ α]

/-- **An open and a start do succeed** on a device that can be used, at a pace that can be counted, if
there is a thread. -/
theorem start_after_open {s : Session DeviceBank (LinearResampler τ α)} {id : String} {d : Device}
    (hclosed : s.route = .closed) (hselected : s.selected = some id)
    (hsupported : s.source.isSupported = true) (hfit : 4 * s.source.channels ≤ 65535)
    (hplain : ∀ d ∈ s.host.devices, d.Plain) (hthreads : s.host.threads = true)
    (hd : s.host.find? id = some d) (husable : d.Usable s.source) :
    ∃ candidates f, Negotiation.candidates? s.source (knownFormats s.host id).1 = some candidates
      ∧ d.FirstTaken candidates f
      ∧ (Timing.Countable f d.bufferFrames d.period s.config.period →
        ∃ t u r, s.openRoute = (.ok (), t) ∧ t.start = (.ok (), u) ∧ u.phase = .started
          ∧ u.route = .device r ∧ r.device = id) := by
  obtain ⟨candidates, hcandidates, hranked⟩ := Negotiation.ranked_candidates? hsupported hfit
    (knownFormats s.host id).1
  have hopen := openDevice_plain hsupported hfit
    (fun e he => hplain e (List.mem_of_find?_eq_some he)) hcandidates hranked
  have hreadies := keepsAllStopped_openDevice s id
  rcases hopen with ⟨e, f, r, host, log, hopened, he, _, hfirst, _, hdevice, _⟩
    | ⟨e, f, _, _, he, _, hfirst, hlong⟩ | ⟨_, hunusable⟩
  · obtain rfl := Option.some.inj (he.symm.trans hd)
    refine ⟨candidates, f, hcandidates, hfirst, fun _ => ?_⟩
    rw [hopened] at hreadies
    have hroute : (s.openDevice id).2.route = .device r := by
      rw [hopened]
      rfl
    have hstream : r.endpoint.device = r.device := stream_openDevice hclosed hroute
    obtain ⟨u, hstarted, hphase, hrendering⟩ := start_on_device (s := { s with host, log }.adopt r)
      (by simp [adopt, note]) rfl (hreadies.startsAndStops (DeviceBank.dependable_of_plain hplain))
      (by rw [hstream, hdevice, hreadies.found, he]; rfl) (hreadies.threads.trans hthreads)
    exact ⟨_, u, rewound r, (openRoute_closed hclosed hselected).trans hopened, hstarted, hphase,
      hrendering, hdevice⟩
  · obtain rfl := Option.some.inj (he.symm.trans hd)
    exact ⟨candidates, f, hcandidates, hfirst, fun hcountable => absurd hcountable hlong⟩
  · exact absurd husable (hunusable d hd)

end Session

/-! ## §5. Sessions that a watch has lost. -/

namespace Watched

/-- **Only its owner opens a session again that a watch has lost.**  However a session came under a
watch, and whatever had happened to it: when a switch of the watch fails, the session is closed with the
target selected.  Through all events that follow, and whatever becomes of the devices, it stays closed as
long as nobody opens it.  After an event that makes a device the wanted one this device is selected, if
nobody but the watch selects.

On any host the session is started on the device that is selected then as soon as an open and a start of
its owner succeed.  In a bank of devices without faults they do succeed if the device can be used, frames
of so many channels fit, there is a thread, and the pace of the device can be counted in the format that
it is asked for first of those that it takes. -/
theorem only_the_owner_reopens (τ α : Type) [Amplitude α] [ReadHead τ α] :
    (∀ (σ κ : Type) [Host σ] [Stage κ] (host : σ) (source : Format) (selected : Option String)
        (config : SessionConfig) (s t : Session σ κ) (calls : List (Session.Call σ))
        (policy : WatchPolicy) (before later : List (Happening σ)) (w last : Watched σ κ)
        (target : Option String) (fault : Fault),
      Session.create host source selected config = .ok s →
      ({ session := s.run calls } : Watched σ κ).run policy before = some w →
      w.due = some target → w.session.select target = (.error fault, t) →
      (w.switch target).run policy later = some last →
      (∀ happening ∈ later, happening.opens = false) →
        (w.switch target).session.phase = .closed ∧ (w.switch target).session.selected = target
        ∧ last.session.phase = .closed ∧ last.session.route = .closed
        ∧ last.session.source.isSupported = true
        ∧ (∀ id opened started, last.session.selected = some id →
            last.session.openRoute = (.ok (), opened) → opened.start = (.ok (), started) →
              started.phase = .started ∧ ∃ r, started.route = .device r ∧ r.device = id)
        ∧ ((∀ happening ∈ before ++ later, happening.selects = false) →
            ∀ (front : List DeviceEvent) (event : DeviceEvent) (id : String),
              later.filterMap Happening.event? = front ++ [event] →
              policy.wants id event = true → last.due = none → last.session.selected = some id))
    ∧ ∀ (s : Session DeviceBank (LinearResampler τ α)) (id : String) (d : Device),
      s.route = .closed → s.selected = some id → s.source.isSupported = true →
      4 * s.source.channels ≤ 65535 → (∀ d ∈ s.host.devices, d.Plain) → s.host.threads = true →
      s.host.find? id = some d → d.Usable s.source →
        ∃ candidates f, Negotiation.candidates? s.source (Negotiation.knownFormats s.host id).1
            = some candidates
          ∧ d.FirstTaken candidates f
          ∧ (Timing.Countable f d.bufferFrames d.period s.config.period →
            ∃ t u r, s.openRoute = (.ok (), t) ∧ t.start = (.ok (), u) ∧ u.phase = .started
              ∧ u.route = .device r ∧ r.device = id) := by
  refine ⟨?_, fun s id d hclosed hselected hsupported hfit hplain hthreads hd husable =>
    Session.start_after_open hclosed hselected hsupported hfit hplain hthreads hd husable⟩
  intro σ κ _ _ host source selected config s t calls policy before later w last target fault hcreate
    hbefore hdue hfails hlater hopens
  have hwatched : Session.Coherent w.session :=
    coherent_run (Session.coherent_run calls (Session.coherent_create hcreate)) hbefore
  have hfailed : Stranded (w.switch target) := stranded_switch hwatched hfails
  have hlost : Stranded last := stranded_run hfailed hopens hlater
  refine ⟨hfailed.coherent.closed_iff.mpr hfailed.closed, selected_switch w target,
    hlost.coherent.closed_iff.mpr hlost.closed, hlost.closed, hlost.coherent.supported,
    fun id opened started hselected hopened hstarted =>
      Session.started_after_open hlost.coherent hselected hopened hstarted, ?_⟩
  intro hothers front event id hevents hwants hrest
  have hfollows := follows_run before (follows_fresh policy (s.run calls))
    (fun happening h => hothers happening (List.mem_append_left _ h)) hbefore
  have hstep : w.step policy .switch = some (w.switch target) := by
    unfold step
    rw [hdue]
    rfl
  have hswitched := follows_step hfollows rfl hstep
  have hfollowed := follows_run later hswitched
    (fun happening h => hothers happening (List.mem_append_right _ h)) hlater
  have htarget := hfollows.wanted target hdue
  rw [hfollowed.rest hrest, hevents, show (Happening.switch : Happening σ).event?.toList = [] from rfl,
    List.append_nil, WatchPolicy.after_append, ← htarget]
  -- Under a policy that wants a device, what cannot be switched to is this device.
  refine WatchPolicy.after_wanted (fun wanted hpolicy => ?_) front hwants
  obtain ⟨decision, _, hdecided⟩ := hfollows.decided target hdue
  rw [hpolicy] at hdecided
  rcases WatchPolicy.target?_fixed hdecided with rfl | hwanted
  · have hnone := w.session.select_none_ok
    rw [hfails] at hnone
    exact absurd hnone (by simp)
  · exact hwanted

/-- A device that takes anything takes the format of the source first. -/
theorem first_of_all_taken {d : Device} (haccepted : d.accepted = none) {source f : Format}
    (hsupported : source.isSupported = true) (hfit : 4 * source.channels ≤ 65535)
    {supported candidates : List Format}
    (hcandidates : Negotiation.candidates? source supported = some candidates)
    (hfirst : d.FirstTaken candidates f) : source = f := by
  obtain ⟨ranked, hranks, hranked⟩ := Negotiation.ranked_candidates? hsupported hfit supported
  obtain rfl := Option.some.inj (hcandidates.symm.trans hranks)
  obtain ⟨rest, rfl⟩ : ∃ rest, candidates = source :: rest := List.head?_eq_some_iff.mp hranked.first
  refine Device.FirstTaken.unique ⟨[], rest, rfl, by simp, fun _ hsome => ?_⟩ hfirst
  rw [haccepted] at hsome
  exact absurd hsome (by simp)

/-- A session that renders on the left device. -/
def leftRendering : Session DeviceBank (LinearResampler Double Single) :=
  Crew.leftSession.run [.openRoute, .start]

/-- The right device becomes the default while it is unplugged. -/
def unpluggedDefault : List (Happening DeviceBank) :=
  [.call (.elsewhere (·.setUnavailable "right" true)), .event (.defaultChanged (some "right"))]

/-- Then the left device is the default again. -/
def leftDefault : List (Happening DeviceBank) :=
  [.event (.defaultChanged (some "left")), .switch]

/-- The switch to the right device fails.  When the left one is the default again it is selected, and
its owner gets the session started on it. -/
theorem only_the_owner_reopens_leftDefault :
    ∃ (w last : Watched DeviceBank (LinearResampler Double Single)) (fault : Fault)
      (t u v : Session DeviceBank (LinearResampler Double Single))
      (r : DeviceRoute (LinearResampler Double Single)),
      leftRendering.phase = .started
        ∧ ({ session := leftRendering } : Watched DeviceBank _).run .followDefault unpluggedDefault
          = some w
        ∧ w.due = some (some "right") ∧ w.session.select (some "right") = (.error fault, t)
        ∧ (w.switch (some "right")).session.phase = .closed
        ∧ (w.switch (some "right")).session.selected = some "right"
        ∧ (w.switch (some "right")).run .followDefault leftDefault = some last
        ∧ last.session.phase = .closed ∧ last.session.selected = some "left"
        ∧ last.session.openRoute = (.ok (), u) ∧ u.start = (.ok (), v)
        ∧ v.phase = .started ∧ v.route = .device r ∧ r.device = "left" := by
  obtain ⟨hstrands, hreopens⟩ := only_the_owner_reopens Double Single
  have hcreate : Session.create Crew.twoDevices (Format.pcm 8000 16 1) (some "left") {}
      = .ok Crew.leftSession := rfl
  obtain ⟨w, hw⟩ : ∃ w, ({ session := leftRendering } : Watched DeviceBank _).run .followDefault
      unpluggedDefault = some w := ⟨_, rfl⟩
  obtain ⟨last, hlast⟩ : ∃ last, (w.switch (some "right")).run .followDefault leftDefault
      = some last := by
    obtain rfl := Option.some.inj hw
    exact ⟨_, rfl⟩
  have hstate : (({ session := leftRendering } : Watched DeviceBank _).run .followDefault
      unpluggedDefault).map (fun w => (w.due, (w.session.select (some "right")).1.isOk))
      = some (some (some "right"), false) := by decide +kernel
  have hlater : ((({ session := leftRendering } : Watched DeviceBank _).run .followDefault
      unpluggedDefault).bind fun w => ((w.switch (some "right")).run .followDefault leftDefault)).map
        (fun last => (last.due, last.session.host.threads, last.session.source,
          last.session.config.period,
          last.session.host.devices.all fun d => d.faults.isEmpty && d.stated.isNone))
      = some (none, true, Format.pcm 8000 16 1, Timing.defaultPeriod, true) := by decide +kernel
  have hleft : ((({ session := leftRendering } : Watched DeviceBank _).run .followDefault
      unpluggedDefault).bind fun w => ((w.switch (some "right")).run .followDefault leftDefault)).map
        (fun last => (last.session.host.find? "left").map fun d =>
          (d.unavailable, d.bufferFrames, d.accepted.isNone, d.period))
      = some (some (false, 8, true, some (Duration.ofMillis 10))) := by decide +kernel
  rw [hw] at hstate hlater hleft
  obtain ⟨hdue, hfailed⟩ := Prod.mk.inj (Option.some.inj hstate)
  simp only [Option.bind_some, hlast, Option.map_some, Option.some.injEq, Prod.mk.injEq] at hlater hleft
  obtain ⟨hrest, hthreads, hsource, husual, hdevices⟩ := hlater
  obtain ⟨d, hd, hshape⟩ := Option.map_eq_some_iff.mp hleft
  simp only [Prod.mk.injEq, Option.isNone_iff_eq_none] at hshape
  obtain ⟨havailable, hframes, haccepted, hperiod⟩ := hshape
  have hfit : 4 * last.session.source.channels ≤ 65535 := by
    rw [hsource]
    decide
  have hplain : ∀ d ∈ last.session.host.devices, d.Plain := by
    intro d hd
    have hclean := List.all_eq_true.mp hdevices d hd
    rw [Bool.and_eq_true, List.isEmpty_iff, Option.isNone_iff_eq_none] at hclean
    exact hclean
  cases hselect : w.session.select (some "right") with
  | mk answer t =>
      rw [hselect] at hfailed
      cases answer with
      | ok _ => exact absurd hfailed (by simp [Except.isOk, Except.toBool])
      | error fault =>
          obtain ⟨hfailing, hright, hclosed, hroute, hsupported, hagain, hselected⟩ :=
            hstrands DeviceBank _ Crew.twoDevices _ _ _ Crew.leftSession t [.openRoute, .start] .followDefault unpluggedDefault leftDefault w last
            (some "right") fault hcreate hw hdue hselect hlast
            (by simp [leftDefault, Happening.opens])
          have hleftmost := hselected (by simp [unpluggedDefault, leftDefault, Happening.selects,
            Session.Call.selects]) [] (.defaultChanged (some "left")) "left" rfl (by decide) hrest
          obtain ⟨candidates, f, hcandidates, hfirst, hopens⟩ := hreopens last.session "left" d
            hroute hleftmost hsupported hfit hplain hthreads hd ⟨havailable, by omega, .inl haccepted⟩
          -- The left device takes anything, so it is opened in the format of the source.
          obtain rfl := first_of_all_taken haccepted hsupported hfit hcandidates hfirst
          obtain ⟨u, v, r, hopened, hstarted, _⟩ := hopens (by
            rw [hsource, hframes, hperiod, husual]
            decide)
          obtain ⟨hphase, r, hon, hdevice⟩ := hagain "left" u v hleftmost hopened hstarted
          exact ⟨w, last, fault, t, u, v, r, by decide +kernel, hw, hdue, hselect, hfailing, hright,
            hlast, hclosed, hleftmost, hopened, hstarted, hphase, hon, hdevice⟩

/-- A watch abandons a session: a switch fails, later on an event makes a device the wanted one that
can be used, and the session is not started all the same. -/
def Abandons {τ α : Type} [Amplitude α] [ReadHead τ α] (policy : WatchPolicy)
    (s : Session DeviceBank (LinearResampler τ α)) (before later : List (Happening DeviceBank))
    (id : String) : Prop :=
  ∃ w target fault t last d, ({ session := s } : Watched DeviceBank _).run policy before = some w
    ∧ w.due = some target ∧ w.session.select target = (.error fault, t)
    ∧ (w.switch target).run policy later = some last ∧ last.due = none
    ∧ (∃ front event, later.filterMap Happening.event? = front ++ [event]
      ∧ policy.wants id event = true)
    ∧ last.session.host.find? id = some d ∧ d.Usable last.session.source
    ∧ last.session.phase ≠ .started

/-- The left device is removed, and the right one is added while it is unplugged; -/
def unpluggedRight : List (Happening DeviceBank) :=
  [.event (.removed "left"), .switch, .call (.elsewhere (·.setUnavailable "right" true)),
    .event (.added "right")]

/-- plugged in, it is added once more. -/
def pluggedRight : List (Happening DeviceBank) :=
  [.call (.elsewhere (·.setUnavailable "right" false)), .event (.added "right")]

/-- A run that ends like this has abandoned its session. -/
theorem abandons_of_end {τ α : Type} [Amplitude α] [ReadHead τ α] {policy : WatchPolicy}
    {s : Session DeviceBank (LinearResampler τ α)} {before later : List (Happening DeviceBank)}
    (target : Option String) {id : String} {frames : Nat} (front : List DeviceEvent)
    (event : DeviceEvent) (hevents : later.filterMap Happening.event? = front ++ [event])
    (hwants : policy.wants id event = true)
    (hfails : (({ session := s } : Watched DeviceBank _).run policy before).map
        (fun w => (w.due, (w.session.select target).1.isOk)) = some (some target, false))
    (hend : (({ session := s } : Watched DeviceBank _).run policy before).bind (fun w =>
        ((w.switch target).run policy later).map fun last => (last.due, last.session.phase,
          (last.session.host.find? id).map fun d => (d.unavailable, d.bufferFrames, d.accepted.isNone)))
      = some (none, .closed, some (false, frames, true))) (hframes : 0 < frames) :
    Abandons policy s before later id := by
  obtain ⟨w, hw, hlater⟩ := Option.bind_eq_some_iff.mp hend
  rw [hw] at hfails
  obtain ⟨hdue, hfailed⟩ := Prod.mk.inj (Option.some.inj hfails)
  obtain ⟨last, hlast, hstate⟩ := Option.map_eq_some_iff.mp hlater
  simp only [Prod.mk.injEq] at hstate
  obtain ⟨hrest, hclosed, hdevice⟩ := hstate
  obtain ⟨d, hd, hshape⟩ := Option.map_eq_some_iff.mp hdevice
  simp only [Prod.mk.injEq, Option.isNone_iff_eq_none] at hshape
  obtain ⟨havailable, rfl, haccepted⟩ := hshape
  cases hselect : w.session.select target with
  | mk answer t =>
      rw [hselect] at hfailed
      cases answer with
      | ok _ => exact absurd hfailed (by simp [Except.isOk, Except.toBool])
      | error fault =>
          exact ⟨w, target, fault, t, last, d, hw, hdue, hselect, hlast, hrest,
            ⟨front, event, hevents, hwants⟩, hd, ⟨havailable, hframes, .inl haccepted⟩,
            by rw [hclosed]; simp⟩

/-- **No watch brings a session back that it has lost**, whichever its policy. -/
theorem watches_abandon_sessions :
    leftRendering.phase = .started
      ∧ Abandons .followDefault leftRendering unpluggedDefault leftDefault "left"
      ∧ Abandons (.fixed "right") leftRendering unpluggedRight pluggedRight "right" := by
  refine ⟨by decide +kernel, ?_, ?_⟩
  · exact abandons_of_end (some "right") [] (.defaultChanged (some "left")) rfl (by decide)
      (by decide +kernel) (by decide +kernel) (show 0 < 8 by decide)
  · exact abandons_of_end (some "right") [] (.added "right") rfl (by decide)
      (by decide +kernel) (by decide +kernel) (show 0 < 4 by decide)

end Watched

end PcmRender
