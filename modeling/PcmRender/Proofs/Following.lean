/-
  PcmRender.Proofs.Following — **the selection is a function of the events.**

  A watch decides by looking at the selection, and a switch leaves its target selected whether or not
  it comes up.  So as long as nobody else selects, what is selected after some events is what the
  policy makes of them, and neither the devices nor the switches that failed have a say:

      follow the default   the last default device; none, if it has gone since
      one device           this one or none, once the first selection has gone

  Main statements:
    * `target?_changes` — a switch is only made to something else,
    * `after_quiet`, `after_changed` — the last default device,
    * `next_none_iff`, `next_wanted_iff` — the device of a policy that wants one,
    * `follows_step`, `follows_run` — one thing that happens, and many,
    * `selection_follows_events` — the session and its events.
-/
import Mathlib.Data.List.Induction
import PcmRender.Proofs.Selection
import PcmRender.Proofs.Stall
import PcmRender.Session.Watched

namespace PcmRender

/-! ## §1. What a policy makes of events. -/

namespace DeviceEvent

/-- Whether it takes the selected device away. -/
def takes (selected : Option String) : DeviceEvent → Bool
  | .removed id => selected == some id
  | .stateChanged id false => selected == some id
  | _ => false

/-- Whether it brings a device. -/
def brings (wanted : String) : DeviceEvent → Bool
  | .added id => id == wanted
  | .stateChanged id true => id == wanted
  | _ => false

/-- Whether it tells of another default device. -/
def isDefault : DeviceEvent → Bool
  | .defaultChanged _ => true
  | _ => false

theorem takes_none (event : DeviceEvent) : event.takes none = false := by
  unfold takes
  split <;> rfl

end DeviceEvent

namespace WatchPolicy

/-- The selection after an event. -/
def next (policy : WatchPolicy) (selected : Option String) (event : DeviceEvent) : Option String :=
  (policy.target? selected event).getD selected

/-- The selection after some events. -/
def after (policy : WatchPolicy) (selected : Option String) (events : List DeviceEvent) :
    Option String := events.foldl policy.next selected

variable {policy : WatchPolicy} {selected : Option String}

theorem after_concat (events : List DeviceEvent) (event : DeviceEvent) :
    policy.after selected (events ++ [event]) = policy.next (policy.after selected events) event := by
  unfold after
  rw [List.foldl_append]
  rfl

/-- **A switch is only made to something else.** -/
theorem target?_changes {event : DeviceEvent} {target : Option String}
    (h : policy.target? selected event = some target) : target ≠ selected := by
  have hlost : ∀ {id : String}, target?.lost selected id = some target → target ≠ selected := by
    intro id hlost
    unfold target?.lost at hlost
    split at hlost
    next hid =>
      rw [hid, ← Option.some.inj hlost]
      simp
    · exact absurd hlost (by simp)
  have hfound : ∀ {id : String}, target?.found policy selected id = some target →
      target ≠ selected := by
    intro id hfound
    unfold target?.found at hfound
    split at hfound
    · split at hfound
      next hwanted =>
        rw [hwanted.2, ← Option.some.inj hfound]
        simp
      · exact absurd hfound (by simp)
    · exact absurd hfound (by simp)
  cases event with
  | defaultChanged id =>
      unfold target? at h
      dsimp only at h
      split at h
      · split at h
        · exact absurd h (by simp)
        next hother =>
          rw [← Option.some.inj h]
          exact hother
      · exact absurd h (by simp)
  | removed id => exact hlost h
  | added id => exact hfound h
  | stateChanged id active =>
      cases active with
      | true => exact hfound h
      | false => exact hlost h
  | propertyChanged id => exact absurd h (by simp [target?])

/-! ## §2. Following the default. -/

theorem next_default (id : Option String) :
    followDefault.next selected (.defaultChanged id) = id := by
  unfold next target?
  dsimp only
  split
  next hsame => exact hsame.symm
  · rfl

theorem next_quiet {event : DeviceEvent} (h : event.isDefault = false) :
    followDefault.next selected event = if event.takes selected then none else selected := by
  cases event with
  | defaultChanged id => exact absurd h (by simp [DeviceEvent.isDefault])
  | removed id => by_cases hid : selected = some id <;> simp [next, target?, target?.lost,
      DeviceEvent.takes, hid]
  | added id => rfl
  | stateChanged id active =>
      cases active with
      | true => rfl
      | false => by_cases hid : selected = some id <;> simp [next, target?, target?.lost,
          DeviceEvent.takes, hid]
  | propertyChanged id => rfl

/-- **Events that tell of no other default device** can only take the selected one away. -/
theorem after_quiet (events : List DeviceEvent) :
    ∀ {selected : Option String}, (∀ event ∈ events, event.isDefault = false) →
      followDefault.after selected events
        = if events.any (·.takes selected) then none else selected := by
  induction events with
  | nil =>
      intro selected _
      rfl
  | cons event rest ih =>
      intro selected hquiet
      have hrest := fun later hlater => hquiet later (List.mem_cons_of_mem _ hlater)
      show followDefault.after (followDefault.next selected event) rest = _
      rw [next_quiet (hquiet event List.mem_cons_self), ih hrest, List.any_cons]
      cases htakes : event.takes selected with
      | true => simp
      | false => simp

/-- **Another default device** lets everything before it be forgotten. -/
theorem after_changed (before later : List DeviceEvent) (id : Option String) :
    followDefault.after selected (before ++ .defaultChanged id :: later)
      = followDefault.after id later := by
  unfold after
  rw [List.foldl_append, List.foldl_cons, next_default]

/-! ## §3. Wanting one device. -/

variable {wanted : String}

/-- **What changes the selection** where one device is wanted: the selected device goes, or the wanted
one comes while nothing is selected. -/
theorem next_fixed (event : DeviceEvent) : (fixed wanted).next selected event
    = if event.takes selected then none
      else if selected = none ∧ event.brings wanted = true then some wanted else selected := by
  have hfound : ∀ id : String,
      ((target?.found (fixed wanted) selected id).getD selected : Option String)
        = if selected = none ∧ (id == wanted) = true then some wanted else selected := by
    intro id
    unfold target?.found
    by_cases hid : id = wanted
    · subst hid
      by_cases hnone : selected = none <;> simp [hnone]
    · simp [hid]
  cases event with
  | defaultChanged id => simp [next, target?, DeviceEvent.takes, DeviceEvent.brings]
  | removed id => by_cases hid : selected = some id <;> simp [next, target?, target?.lost,
      DeviceEvent.takes, DeviceEvent.brings, hid]
  | added id => exact hfound id
  | stateChanged id active =>
      cases active with
      | true => exact hfound id
      | false => by_cases hid : selected = some id <;> simp [next, target?, target?.lost,
          DeviceEvent.takes, DeviceEvent.brings, hid]
  | propertyChanged id => simp [next, target?, DeviceEvent.takes, DeviceEvent.brings]

/-- It becomes none exactly when the selected device goes. -/
theorem next_none_iff (event : DeviceEvent) :
    (fixed wanted).next selected event = none ∧ selected ≠ none ↔ event.takes selected = true := by
  rw [next_fixed]
  cases htakes : event.takes selected with
  | true =>
      have hsome : selected ≠ none := fun hnone => by
        rw [hnone, event.takes_none] at htakes
        exact absurd htakes (by simp)
      simp [hsome]
  | false => by_cases hnone : selected = none <;> simp [hnone]

/-- It becomes the wanted device exactly when this one comes while nothing is selected. -/
theorem next_wanted_iff (event : DeviceEvent) :
    (fixed wanted).next selected event = some wanted ∧ selected ≠ some wanted
      ↔ selected = none ∧ event.brings wanted = true := by
  rw [next_fixed]
  by_cases hnone : selected = none
  · subst hnone
    simp [event.takes_none]
  · cases htakes : event.takes selected <;> simp [hnone]

end WatchPolicy

/-! ## §4. The watch. -/

/-- Whether the selection is changed from outside of the watch. -/
def Happening.selects {σ : Type} : Happening σ → Bool
  | .call made => made.selects
  | _ => false

/-- Whether the frames of whatever format is asked for fit into the formats of devices. -/
def Happening.narrow {σ : Type} : Happening σ → Bool
  | .call made => made.narrow
  | _ => true

namespace Watched

variable {σ κ : Type} [Host σ] [Stage κ] {policy : WatchPolicy} {initial : Option String}
  {events : List DeviceEvent} {w next : Watched σ κ}

/-- A watch has brought a session where its policy wants it after some events, or is about to. -/
structure Follows (policy : WatchPolicy) (initial : Option String) (events : List DeviceEvent)
    (w : Watched σ κ) : Prop where
  /-- At rest the session has the wanted selection. -/
  rest : w.due = none → w.session.selected = policy.after initial events
  /-- A switch that the watch is about to make was decided on an event, -/
  decided : ∀ target, w.due = some target →
    ∃ event ∈ events, policy.target? w.session.selected event = some target
  /-- is one to the wanted selection, -/
  wanted : ∀ target, w.due = some target → target = policy.after initial events
  /-- and changes the selection, -/
  changes : ∀ target, w.due = some target → w.session.selected ≠ target
  /-- whether it fails or not. -/
  reaches : ∀ target, w.due = some target → (w.switch target).session.selected = target

theorem switch_eq (w : Watched σ κ) (target : Option String) :
    (w.switch target).session = (w.session.select target).2 ∧ (w.switch target).due = none
      ∧ ((w.switch target).down = w.down
        ∨ ∃ t, w.session.select target = (.error .overflow, t)) := by
  unfold switch
  split
  next t hoverflow => exact ⟨by rw [hoverflow], rfl, .inr ⟨t, hoverflow⟩⟩
  next answer t _ hselect => exact ⟨by rw [hselect], rfl, .inl rfl⟩

theorem selected_switch (w : Watched σ κ) (target : Option String) :
    (w.switch target).session.selected = target := by
  rw [(w.switch_eq target).1]
  exact Session.selected_select w.session target

/-- **What a watch has followed it goes on to follow.** -/
theorem follows_step (h : Follows policy initial events w) {happening : Happening σ}
    (hothers : happening.selects = false) (hstep : w.step policy happening = some next) :
    Follows policy initial (events ++ happening.event?.toList) next := by
  cases happening with
  | event event =>
      unfold step at hstep
      dsimp only at hstep
      split at hstep
      · exact absurd hstep (by simp)
      next hrest =>
        obtain rfl := Option.some.inj hstep
        have hselected : w.session.selected = policy.after initial events := by
          refine h.rest ?_
          cases hdue : w.due with
          | none => rfl
          | some target => exact absurd (by simp [hdue]) hrest
        -- The decision is the one step that the policy makes.
        have hafter : policy.after initial (events ++ [event])
            = (policy.target? w.session.selected event).getD w.session.selected := by
          rw [WatchPolicy.after_concat, ← hselected]
          rfl
        refine ⟨fun hnone => ?_, fun target hdue => ?_, fun target hdue => ?_, fun target hdue => ?_,
          fun target _ => selected_switch _ target⟩
        · show _ = policy.after initial (events ++ [event])
          rw [hafter, show policy.target? w.session.selected event = none from hnone]
          rfl
        · exact ⟨event, List.mem_append_right _ List.mem_cons_self, hdue⟩
        · show _ = policy.after initial (events ++ [event])
          rw [hafter, show policy.target? w.session.selected event = some target from hdue]
          rfl
        · exact (WatchPolicy.target?_changes hdue).symm
  | switch =>
      obtain ⟨target, hdue, rfl⟩ := Option.map_eq_some_iff.mp hstep
      have hevents : events ++ (Happening.switch : Happening σ).event?.toList = events :=
        List.append_nil events
      rw [hevents]
      refine ⟨fun _ => ?_, ?_, ?_, ?_, ?_⟩
      · rw [selected_switch, h.wanted target hdue]
      all_goals
        intro other hother
        rw [(w.switch_eq target).2.1] at hother
        exact absurd hother (by simp)
  | call call =>
      obtain rfl := Option.some.inj hstep
      have hevents : events ++ (Happening.call call).event?.toList = events := List.append_nil events
      have hsame : (w.session.perform call).selected = w.session.selected :=
        Session.selected_perform w.session hothers
      rw [hevents]
      refine ⟨fun hnone => hsame.trans (h.rest hnone), fun target hdue => ?_, h.wanted,
        fun target hdue => ?_, fun target _ => selected_switch _ target⟩
      all_goals
        rw [show ({ w with session := w.session.perform call } : Watched σ κ).session.selected
          = w.session.selected from hsame]
      · exact h.decided target hdue
      · exact h.changes target hdue

/-- A watch begins at rest, with the selection that it finds. -/
theorem follows_fresh (policy : WatchPolicy) (s : Session σ κ) :
    Follows policy s.selected [] ({ session := s } : Watched σ κ) :=
  ⟨fun _ => rfl, by simp, by simp, by simp, by simp⟩

theorem follows_run (happenings : List (Happening σ)) :
    ∀ {events : List DeviceEvent} {w last : Watched σ κ}, Follows policy initial events w →
      (∀ happening ∈ happenings, happening.selects = false) →
      w.run policy happenings = some last →
      Follows policy initial (events ++ happenings.filterMap Happening.event?) last := by
  induction happenings with
  | nil =>
      intro events w last h _ hrun
      obtain rfl := Option.some.inj hrun
      rw [List.filterMap_nil, List.append_nil]
      exact h
  | cons happening rest ih =>
      intro events w last h hothers hrun
      obtain ⟨next, hstep, hrest⟩ := Option.bind_eq_some_iff.mp hrun
      have hlater := ih (follows_step h (hothers happening List.mem_cons_self) hstep)
        (fun later hlater => hothers later (List.mem_cons_of_mem _ hlater)) hrest
      rw [List.append_assoc] at hlater
      cases hevent : happening.event? with
      | none =>
          rw [List.filterMap_cons_none hevent]
          rwa [hevent] at hlater
      | some event =>
          rw [List.filterMap_cons_some hevent]
          rwa [hevent] at hlater

/-- **What every step keeps, a run keeps.** -/
theorem run_keeps (keeps : Watched σ κ → Prop) (allowed : Happening σ → Prop)
    (hstep : ∀ (w next : Watched σ κ) (happening : Happening σ), keeps w → allowed happening →
      w.step policy happening = some next → keeps next) (happenings : List (Happening σ)) :
    ∀ {w last : Watched σ κ}, keeps w → (∀ happening ∈ happenings, allowed happening) →
      w.run policy happenings = some last → keeps last := by
  induction happenings with
  | nil =>
      intro w last h _ hrun
      obtain rfl := Option.some.inj hrun
      exact h
  | cons happening rest ih =>
      intro w last h hallowed hrun
      obtain ⟨next, hnext, hrest⟩ := Option.bind_eq_some_iff.mp hrun
      exact ih (hstep w next happening h (hallowed happening List.mem_cons_self) hnext)
        (fun later hlater => hallowed later (List.mem_cons_of_mem _ hlater)) hrest

/-- The watch is about to switch to a device whose pace cannot be reckoned. -/
def MeetsUnpaced (w : Watched σ κ) : Prop :=
  ∃ device, w.due = some (some device) ∧ (w.session.vacated (some device)).Unpaced device

/-- **A watch over a source whose frames fit goes down only in front of such a device.** -/
theorem stays_up_step (hup : w.down = false) (hfits : 4 * w.session.source.channels ≤ 65535)
    {happening : Happening σ} (hnarrow : happening.narrow = true)
    (hstep : w.step policy happening = some next) :
    4 * next.session.source.channels ≤ 65535
      ∧ (next.down = false ∨ happening = .switch ∧ w.MeetsUnpaced) := by
  cases happening with
  | event event =>
      unfold step at hstep
      dsimp only at hstep
      split at hstep
      · exact absurd hstep (by simp)
      · obtain rfl := Option.some.inj hstep
        exact ⟨hfits, .inl hup⟩
  | switch =>
      obtain ⟨target, hdue, rfl⟩ := Option.map_eq_some_iff.mp hstep
      obtain ⟨hsession, _, hdown⟩ := w.switch_eq target
      refine ⟨?_, ?_⟩
      · rw [hsession, Session.source_select]
        exact hfits
      · rcases hdown with hsame | ⟨t, hoverflow⟩
        · exact .inl (hsame.trans hup)
        · rcases Session.select_overflow hoverflow with hwide | ⟨device, rfl, hunpaced⟩
          · omega
          · exact .inr ⟨rfl, device, hdue, hunpaced⟩
  | call call =>
      obtain rfl := Option.some.inj hstep
      exact ⟨Session.narrow_perform hfits hnarrow, .inl hup⟩

theorem stays_up_run (happenings : List (Happening σ)) :
    ∀ {w last : Watched σ κ}, w.down = false → 4 * w.session.source.channels ≤ 65535 →
      (∀ happening ∈ happenings, happening.narrow = true) → w.run policy happenings = some last →
      last.down = false ∨ ∃ front later earlier, happenings = front ++ .switch :: later
        ∧ w.run policy front = some earlier ∧ earlier.MeetsUnpaced := by
  induction happenings with
  | nil =>
      intro w last hup _ _ hrun
      obtain rfl := Option.some.inj hrun
      exact .inl hup
  | cons happening rest ih =>
      intro w last hup hfits hnarrow hrun
      obtain ⟨next, hstep, hrest⟩ := Option.bind_eq_some_iff.mp hrun
      obtain ⟨hfits', hup' | ⟨rfl, hmeets⟩⟩ :=
        stays_up_step hup hfits (hnarrow happening List.mem_cons_self) hstep
      · refine (ih hup' hfits' (fun later hlater => hnarrow later (List.mem_cons_of_mem _ hlater))
          hrest).imp_right ?_
        rintro ⟨front, later, earlier, rfl, hfront, hmeets⟩
        exact ⟨happening :: front, later, earlier, rfl,
          Option.bind_eq_some_iff.mpr ⟨next, hstep, hfront⟩, hmeets⟩
      · exact .inr ⟨[], rest, w, rfl, rfl, hmeets⟩

end Watched

/-! ## §5. The session and its events. -/

/-- A selection that follows the default device through every list of events. -/
structure FollowsDefault (initial : Option String)
    (after : List DeviceEvent → Option String) : Prop where
  /-- Until there is another default device the first selection stays, unless it goes. -/
  first : ∀ events, (∀ event ∈ events, event.isDefault = false) →
    after events = if events.any (·.takes initial) then none else initial
  /-- From then on it is the last default device, unless this one has gone since. -/
  last : ∀ before id later, (∀ event ∈ later, event.isDefault = false) →
    after (before ++ .defaultChanged id :: later) = if later.any (·.takes id) then none else id

/-- A selection that holds on to one device through every list of events. -/
structure HoldsTo (wanted : String) (initial : Option String)
    (after : List DeviceEvent → Option String) : Prop where
  /-- It begins with the first selection, -/
  first : after [] = initial
  /-- and is always this one, the wanted device, or none. -/
  range : ∀ events, after events = initial ∨ after events = some wanted ∨ after events = none
  /-- It becomes none exactly when the selected device goes, -/
  lost : ∀ events event, after (events ++ [event]) = none ∧ after events ≠ none
    ↔ event.takes (after events) = true
  /-- and the wanted device exactly when this one comes while there is none. -/
  found : ∀ events event, after (events ++ [event]) = some wanted ∧ after events ≠ some wanted
    ↔ after events = none ∧ event.brings wanted = true
  /-- Another default device does not move it. -/
  unmoved : ∀ events id, after (events ++ [.defaultChanged id]) = after events

namespace WatchPolicy

theorem followsDefault_after (initial : Option String) :
    FollowsDefault initial (followDefault.after initial) where
  first := fun events hquiet => after_quiet events hquiet
  last := fun before id later hquiet => by rw [after_changed, after_quiet later hquiet]

theorem holdsTo_after (wanted : String) (initial : Option String) :
    HoldsTo wanted initial ((fixed wanted).after initial) where
  first := rfl
  range := fun events => by
    -- The last event decides, so the induction is on the list from behind.
    induction events using List.reverseRecOn with
    | nil => exact .inl rfl
    | append_singleton events event ih =>
        rw [after_concat, next_fixed]
        split
        · exact .inr (.inr rfl)
        · split
          · exact .inr (.inl rfl)
          · exact ih
  lost := fun events event => by
    rw [after_concat]
    exact next_none_iff event
  found := fun events event => by
    rw [after_concat]
    exact next_wanted_iff event
  unmoved := fun events id => by
    rw [after_concat]
    rfl

variable {σ κ : Type} [Host σ] [Stage κ]

/-- A drain task that has just been started takes no part in it. -/
theorem keepsSelection_settle (s : SteppedSession σ κ) :
    s.session.KeepsSelection s.settle.session := by
  unfold SteppedSession.settle
  split
  next task _ =>
    split
    · exact Session.KeepsSelection.trans
        (t := { s.session with task := some { task with fresh := false } })
        ⟨rfl, rfl⟩ (Session.keepsSelection_drainSection _ _)
    · exact Session.KeepsSelection.refl _
  · exact Session.KeepsSelection.refl _

/-- A switch on the clock is the switch of the session. -/
theorem select_settled (s : SteppedSession σ κ) (target : Option String) :
    (s.select target).1 = (s.session.select target).1
      ∧ (s.session.select target).2.KeepsSelection (s.select target).2.session :=
  ⟨rfl, keepsSelection_settle { s with session := (s.session.select target).2 }⟩

/-- An event asks for a switch to a device whose pace cannot be reckoned. -/
def MeetsUnpaced (policy : WatchPolicy) (s : SteppedSession σ κ) (event : DeviceEvent) : Prop :=
  ∃ device, policy.target? s.session.selected event = some (some device)
    ∧ (s.session.vacated (some device)).Unpaced device

/-- An event that is applied makes the switch that the policy wants. -/
theorem applyOne_selects (policy : WatchPolicy) {s : SteppedSession σ κ}
    (hnarrow : 4 * s.session.source.channels ≤ 65535) {event : DeviceEvent}
    (hpaced : ¬ policy.MeetsUnpaced s event) :
    (policy.applyOne s event).1 = true
      ∧ (policy.applyOne s event).2.session.selected = policy.next s.session.selected event
      ∧ (policy.applyOne s event).2.session.source = s.session.source := by
  unfold MeetsUnpaced at hpaced
  unfold applyOne next
  cases htarget : policy.target? s.session.selected event with
  | none => exact ⟨rfl, rfl, rfl⟩
  | some target =>
      rw [htarget] at hpaced
      obtain ⟨hanswer, hsettled⟩ := select_settled s target
      have hselected : (s.select target).2.session.selected = target :=
        hsettled.selected.trans (Session.selected_select s.session target)
      have hsource : (s.select target).2.session.source = s.session.source :=
        hsettled.source.trans (Session.source_select s.session target)
      dsimp only
      split
      next t hoverflow =>
        rw [hoverflow] at hanswer
        rcases Session.select_overflow (Prod.ext hanswer.symm rfl) with hwide | ⟨device, rfl, hunpaced⟩
        · omega
        · exact absurd ⟨device, rfl, hunpaced⟩ hpaced
      next answer t _ hselect =>
        rw [hselect] at hselected hsource
        exact ⟨rfl, hselected, hsource⟩

theorem apply_cons {policy : WatchPolicy} {s : SteppedSession σ κ} {event : DeviceEvent}
    (hgoes : (policy.applyOne s event).1 = true) (rest : List DeviceEvent) :
    policy.apply s (event :: rest) = policy.apply (policy.applyOne s event).2 rest := by
  unfold apply
  generalize policy.applyOne s event = x at hgoes
  obtain ⟨goes, t⟩ := x
  obtain rfl : goes = true := hgoes
  cases rest <;> rfl

/-- **Events that are applied one after the other** come to what the policy makes of them, if none on
the way asks for a device whose pace cannot be reckoned. -/
theorem selected_apply (policy : WatchPolicy) (events : List DeviceEvent) :
    ∀ {s : SteppedSession σ κ}, 4 * s.session.source.channels ≤ 65535 →
      (policy.apply s events).session.selected = policy.after s.session.selected events
        ∨ ∃ front event later, events = front ++ event :: later
          ∧ policy.MeetsUnpaced (policy.apply s front) event := by
  induction events with
  | nil =>
      intro s _
      exact .inl rfl
  | cons event rest ih =>
      intro s hnarrow
      by_cases hmeets : policy.MeetsUnpaced s event
      · exact .inr ⟨[], event, rest, rfl, hmeets⟩
      · obtain ⟨hgoes, hselected, hsource⟩ := applyOne_selects policy hnarrow hmeets
        rw [apply_cons hgoes]
        refine (ih (by rw [hsource]; exact hnarrow)).imp (fun hrest => ?_) ?_
        · rw [hrest, hselected]
          rfl
        · rintro ⟨front, later, others, rfl, hlater⟩
          exact ⟨event :: front, later, others, rfl, by rw [apply_cons hgoes]; exact hlater⟩

end WatchPolicy

namespace Watched

variable {σ κ : Type} [Host σ] [Stage κ]

/-- **The selection is a function of the events.**  Whatever is selected first, whatever events come,
and whichever of the switches fail: as long as nobody but the watch selects, the session has selected
what the policy makes of the events so far, or the watch is about to select it.  Every switch that the
watch is about to make changes the selection.  For a source whose frames fit into what devices are
asked for the watch stays up, and events that are applied at once come to the same, unless a switch
was to a device whose pace cannot be reckoned.

What a policy makes of events: under the default policy it is the last default device, or the first
selection, unless that has gone since; under one that wants a device it is the first selection, this
device, or none, and it changes exactly when the selected device goes and when the wanted one comes
while there is none. -/
theorem selection_follows_events (policy : WatchPolicy) (s : Session σ κ) :
    (∀ (happenings : List (Happening σ)) (w : Watched σ κ),
      ({ session := s } : Watched σ κ).run policy happenings = some w →
      (∀ happening ∈ happenings, happening.selects = false) →
        Follows policy s.selected (happenings.filterMap Happening.event?) w
        ∧ (4 * s.source.channels ≤ 65535 →
            (∀ happening ∈ happenings, happening.narrow = true) → w.down = false
              ∨ ∃ front later earlier, happenings = front ++ .switch :: later
                ∧ ({ session := s } : Watched σ κ).run policy front = some earlier
                ∧ earlier.MeetsUnpaced))
    ∧ (4 * s.source.channels ≤ 65535 → ∀ clock events,
        (policy.apply { session := s, clock } events).session.selected
            = policy.after s.selected events
          ∨ ∃ front event later, events = front ++ event :: later
            ∧ policy.MeetsUnpaced (policy.apply { session := s, clock } front) event)
    ∧ (policy = .followDefault → FollowsDefault s.selected (policy.after s.selected))
    ∧ ∀ wanted, policy = .fixed wanted → HoldsTo wanted s.selected (policy.after s.selected) := by
  refine ⟨fun happenings w hrun hothers =>
    ⟨follows_run happenings (follows_fresh policy s) hothers hrun, ?_⟩, ?_, ?_, ?_⟩
  · exact fun hfits hnarrow => stays_up_run happenings rfl hfits hnarrow hrun
  · exact fun hfits clock events => WatchPolicy.selected_apply policy events hfits
  · rintro rfl
    exact WatchPolicy.followsDefault_after s.selected
  · rintro wanted rfl
    exact WatchPolicy.holdsTo_after wanted s.selected

/-- The right device becomes the default while it is unplugged, and is removed later on. -/
def lostDefault : List (Happening DeviceBank) :=
  [.call .openRoute, .call .start, .call (.elsewhere (·.setUnavailable "right" true)),
    .event (.defaultChanged (some "right")), .switch, .event (.removed "left"),
    .event (.removed "right"), .switch]

/-- The switch to the right device fails and leaves the session closed, with this device selected all
the same; once it is removed nothing is selected. -/
theorem selection_follows_events_lostDefault :
    (∀ happening ∈ lostDefault, happening.selects = false)
      ∧ (∃ w, ({ session := Crew.leftSession } : Watched DeviceBank _).run .followDefault
          (lostDefault.take 6) = some w
        ∧ w.session.phase = .closed ∧ w.session.selected = some "right" ∧ w.down = false)
      ∧ ∃ w, ({ session := Crew.leftSession } : Watched DeviceBank _).run .followDefault lostDefault
          = some w
        ∧ w.session.selected = none := by
  have hothers : ∀ happening ∈ lostDefault, happening.selects = false := by
    unfold lostDefault
    simp [Happening.selects, Session.Call.selects]
  obtain ⟨hrun, _⟩ := selection_follows_events .followDefault Crew.leftSession
  obtain ⟨w, hw⟩ : ∃ w, ({ session := Crew.leftSession } : Watched DeviceBank _).run .followDefault
      (lostDefault.take 6) = some w := ⟨_, rfl⟩
  obtain ⟨last, hlast⟩ : ∃ w, ({ session := Crew.leftSession } : Watched DeviceBank _).run
      .followDefault lostDefault = some w := ⟨_, rfl⟩
  obtain ⟨hfollows, _⟩ := hrun _ w hw fun h hh => hothers h (List.mem_of_mem_take hh)
  obtain ⟨hfollowed, _⟩ := hrun _ last hlast hothers
  have hstate : (({ session := Crew.leftSession } : Watched DeviceBank _).run .followDefault
      (lostDefault.take 6)).map (fun w => (w.session.phase, w.due, w.down))
      = some (.closed, none, false) := by decide +kernel
  have hrest : (({ session := Crew.leftSession } : Watched DeviceBank _).run .followDefault
      lostDefault).map Watched.due = some none := by decide +kernel
  rw [hw] at hstate
  rw [hlast] at hrest
  obtain ⟨hclosed, hstanding⟩ := Prod.mk.inj (Option.some.inj hstate)
  obtain ⟨hdue, hup⟩ := Prod.mk.inj hstanding
  exact ⟨hothers, ⟨w, hw, hclosed, (hfollows.rest hdue).trans (by decide), hup⟩, last, hlast,
    (hfollowed.rest (Option.some.inj hrest)).trans (by decide)⟩

end Watched

end PcmRender
