/-
  PcmRender.Proofs.Selection — **who decides where a session renders.**

  A session has a source and a selection, and keeps both through all that happens to it, with two
  exceptions that somebody has to ask for:

      select       another selection, whether or not its device can be opened and started
      set format   another source, while the session is closed

  What a switch comes to is said here as well.  A session that was closed stays closed.  Where the
  target could not be opened or started, the session is closed afterwards.  And a switch overflows
  only for a source whose frames would not fit into the formats that a device is asked for, or on a
  device whose pace cannot be reckoned.

  Main statements:
    * `keepsSelection_close`, `keepsSelection_start`, … — one call,
    * `selected_select`, `source_select` — a switch,
    * `selected_perform` — one step of a life,
    * `closed_of_select_error`, `select_overflow` — switches that fail.
-/
import PcmRender.Proofs.Coherence

namespace PcmRender

variable {σ κ : Type}

namespace Session

/-! ## §1. Calls that leave source and selection. -/

/-- Between `s` and `t` nobody has asked for another source or another device. -/
structure KeepsSelection (s t : Session σ κ) : Prop where
  source : t.source = s.source
  selected : t.selected = s.selected

variable {s t u : Session σ κ}

theorem KeepsSelection.refl (s : Session σ κ) : KeepsSelection s s := ⟨rfl, rfl⟩

theorem KeepsSelection.trans (h : KeepsSelection s t) (k : KeepsSelection t u) : KeepsSelection s u :=
  ⟨k.source.trans h.source, k.selected.trans h.selected⟩

theorem Steady.keepsSelection (h : Steady s t) : KeepsSelection s t := ⟨h.source, h.selected⟩

theorem keepsSelection_drainExited (s : Session σ κ) (generation : Nat) :
    KeepsSelection s (s.drainExited generation) := by
  rw [drainExited_eq]
  exact ⟨rfl, rfl⟩

variable [Host σ]

theorem keepsSelection_stop (s : Session σ κ) : KeepsSelection s s.stop := by
  have hsection := stopSection_outcome s
  unfold stop
  generalize s.stopSection = x at hsection
  cases hsection with
  | idle => exact KeepsSelection.refl s
  | @stopped t _ hsteady =>
      obtain ⟨log, hlog⟩ := retireDrain_eq t.endRendering
      dsimp only
      rw [hlog]
      exact hsteady.keepsSelection.trans ⟨rfl, rfl⟩

theorem keepsSelection_closeSection (s : Session σ κ) : KeepsSelection s s.closeSection := by
  have hsection := closeSection_outcome s
  generalize s.closeSection = t at hsection
  cases hsection with
  | idle => exact KeepsSelection.refl s
  | closed _ hsteady => exact ⟨hsteady.source, hsteady.selected⟩

theorem keepsSelection_close (s : Session σ κ) : KeepsSelection s s.close :=
  (keepsSelection_stop s).trans (keepsSelection_closeSection s.stop)

theorem keepsSelection_drainWait (s : Session σ κ) (generation : Nat) :
    KeepsSelection s (s.drainWait generation).2 := by
  have hpause := (steady_pause s).keepsSelection
  unfold drainWait
  generalize s.pause = x at hpause
  obtain ⟨ready, t⟩ := x
  cases ready with
  | true => exact hpause
  | false => exact hpause.trans (keepsSelection_drainExited t generation)

variable [Stage κ]

theorem keepsSelection_drainSection (s : Session σ κ) (generation : Nat) :
    KeepsSelection s (s.drainSection generation).2 := by
  have hturn := (steady_drainTurn s generation).keepsSelection
  unfold drainSection
  generalize s.drainTurn generation = x at hturn
  obtain ⟨turn, t⟩ := x
  cases turn with
  | cycled => exact hturn
  | retired => exact hturn.trans (keepsSelection_drainExited t generation)
  | crashed => exact hturn.trans (keepsSelection_drainExited t generation)

theorem keepsSelection_openRoute (s : Session σ κ) : KeepsSelection s s.openRoute.2 := by
  show KeepsSelection s s.openSection.2
  have hsection := openSection_outcome s
  generalize s.openSection = x at hsection
  cases hsection with
  | refused _ _ hsteady => exact hsteady.keepsSelection
  | already => exact KeepsSelection.refl s
  | null => exact ⟨rfl, rfl⟩
  | device _ _ _ _ _ hsteady => exact hsteady.keepsSelection.trans ⟨rfl, rfl⟩

theorem keepsSelection_start (s : Session σ κ) : KeepsSelection s s.start.2 := by
  have hsection := startSection_outcome s
  unfold start
  generalize s.startSection = x at hsection
  cases hsection with
  | already => exact KeepsSelection.refl s
  | refused _ _ hsteady => exact hsteady.keepsSelection
  | null _ _ hsteady => exact ⟨hsteady.source, hsteady.selected⟩
  | @device t r _ hsteady _ =>
      have hbegun : KeepsSelection s t.beginRendering.forgetTask :=
        hsteady.keepsSelection.trans ⟨rfl, rfl⟩
      dsimp only
      split
      · exact hbegun.trans ⟨rfl, rfl⟩
      next reason _ =>
        obtain ⟨u, hu, heq⟩ := spawnFailed_outcome t.beginRendering.forgetTask (s.generation + 1)
          reason
        rw [heq]
        exact hbegun.trans ⟨hu.source, hu.selected⟩

theorem keepsSelection_restart (s : Session σ κ) : KeepsSelection s s.restart.2 := by
  have hstart := keepsSelection_start s
  unfold restart
  generalize s.start = x at hstart
  obtain ⟨answer, t⟩ := x
  cases answer with
  | ok _ => exact hstart
  | error fault =>
      cases fault with
      | overflow => exact hstart
      | error e =>
          exact hstart.trans
            ((steady_note t _ _).keepsSelection.trans (keepsSelection_close _))

theorem keepsSelection_resume (s : Session σ κ) (before : Phase) :
    KeepsSelection s (s.resume before).2 := by
  have hopen := keepsSelection_openRoute s
  unfold resume
  generalize s.openRoute = x at hopen
  obtain ⟨answer, t⟩ := x
  cases answer with
  | error fault => exact hopen
  | ok _ =>
      dsimp only
      split
      · exact hopen.trans (keepsSelection_restart t)
      · exact hopen

/-! ## §2. A switch. -/

/-- The session in which a switch opens its target: closed, with the target selected. -/
def vacated (s : Session σ κ) (target : Option String) : Session σ κ :=
  { (s.note .info
      s!"Switching render device to {target.getD select.placeholder} (was {s.phase.text})").beginSwitch.close
    with selected := target }

omit [Stage κ] in
theorem source_vacated (s : Session σ κ) (target : Option String) :
    (s.vacated target).source = s.source := (keepsSelection_close _).source

omit [Stage κ] in
theorem route_vacated (s : Session σ κ) (target : Option String) :
    (s.vacated target).route = .closed := close_route _

/-- **What a switch comes to**: in a closed session the selection, and otherwise what becomes of the
vacated session. -/
theorem select_eq (s : Session σ κ) (target : Option String) :
    s.select target = if s.phase = .closed then
        (.ok (), { (s.note .info
          s!"Switching render device to {target.getD select.placeholder} (was {s.phase.text})").close
            with selected := target })
      else (((s.vacated target).resume s.phase).1, ((s.vacated target).resume s.phase).2.endSwitch) :=
  rfl

/-- **A switch selects its target**, whether or not it can be opened and started. -/
theorem selected_select (s : Session σ κ) (target : Option String) :
    (s.select target).2.selected = target := by
  rw [select_eq]
  split
  · rfl
  · exact (keepsSelection_resume (s.vacated target) s.phase).selected

theorem source_select (s : Session σ κ) (target : Option String) :
    (s.select target).2.source = s.source := by
  rw [select_eq]
  split
  · exact (keepsSelection_close _).source
  · exact (keepsSelection_resume (s.vacated target) s.phase).source.trans (source_vacated s target)

/-! ## §3. A life. -/

/-- Whether a step asks for another device. -/
def Call.selects : Call σ → Bool
  | .select _ => true
  | _ => false

/-- **Only a switch changes the selection.** -/
theorem selected_perform (s : Session σ κ) {call : Call σ} (hcall : call.selects = false) :
    (s.perform call).selected = s.selected := by
  cases call with
  | openRoute => exact (keepsSelection_openRoute s).selected
  | start => exact (keepsSelection_start s).selected
  | stop => exact (keepsSelection_stop s).selected
  | close => exact (keepsSelection_close s).selected
  | reopen => exact selected_select s s.selected
  | select target => exact absurd hcall (by simp [Call.selects])
  | setFormat format =>
      show (s.setFormat format).2.selected = s.selected
      unfold setFormat
      split
      · rfl
      · split <;> rfl
  | setGain gain => rfl
  | feed chunk now => exact (steady_feedSection s chunk now).selected
  | turn generation => exact (keepsSelection_drainSection s generation).selected
  | wait generation => exact (keepsSelection_drainWait s generation).selected
  | elsewhere change => rfl

/-- The frames of a format fit into whatever a device is asked for. -/
def Call.narrow : Call σ → Bool
  | .setFormat format => decide (4 * format.channels ≤ 65535)
  | _ => true

theorem narrow_perform {s : Session σ κ} (h : 4 * s.source.channels ≤ 65535) {call : Call σ}
    (hcall : call.narrow = true) : 4 * (s.perform call).source.channels ≤ 65535 := by
  have hsame : ∀ {t : Session σ κ}, t.source = s.source → 4 * t.source.channels ≤ 65535 :=
    fun ht => by rw [ht]; exact h
  cases call with
  | openRoute => exact hsame (keepsSelection_openRoute s).source
  | start => exact hsame (keepsSelection_start s).source
  | stop => exact hsame (keepsSelection_stop s).source
  | close => exact hsame (keepsSelection_close s).source
  | reopen => exact hsame (source_select s s.selected)
  | select target => exact hsame (source_select s target)
  | setFormat format =>
      show 4 * (s.setFormat format).2.source.channels ≤ 65535
      unfold setFormat
      split
      · exact h
      · split
        · exact of_decide_eq_true hcall
        · exact h
  | setGain gain => exact h
  | feed chunk now => exact hsame (steady_feedSection s chunk now).source
  | turn generation => exact hsame (keepsSelection_drainSection s generation).source
  | wait generation => exact hsame (keepsSelection_drainWait s generation).source
  | elsewhere change => exact h

/-! ## §4. Switches that fail. -/

/-- A device is to be opened, and the pace over the endpoint that is negotiated cannot be reckoned. -/
def Unpaced (s : Session σ κ) (device : String) : Prop :=
  ∃ endpoint, (Negotiation.negotiate s.host device s.source s.config.buffer).result = .ok endpoint
    ∧ DeviceRoute.Unpaced κ s.source endpoint s.config.period

/-- **Opening a device overflows exactly if its negotiation does, or the pace after it.** -/
theorem openDevice_overflow_iff (s : Session σ κ) (device : String) :
    (s.openDevice device).1 = .error .overflow
      ↔ (Negotiation.negotiate s.host device s.source s.config.buffer).result = .error .overflow
        ∨ s.Unpaced device := by
  unfold openDevice Unpaced
  dsimp only
  cases hresult : (Negotiation.negotiate s.host device s.source s.config.buffer).result with
  | error fault => cases fault <;> simp
  | ok endpoint =>
      have hbuild : (DeviceRoute.build device s.source endpoint s.config.period :
          Except Fault (DeviceRoute κ)) = .error .overflow
          ↔ DeviceRoute.Unpaced κ s.source endpoint s.config.period := DeviceRoute.build_overflow_iff
      unfold openEndpoint
      dsimp only
      split <;> simp_all

/-- An open overflows only for a source of too many channels, or at a pace that cannot be reckoned. -/
theorem openRoute_overflow {s t : Session σ κ} (h : s.openRoute = (.error .overflow, t)) :
    65535 < 4 * s.source.channels ∨ ∃ device, s.selected = some device ∧ s.Unpaced device := by
  have hopen : (s.openSection).1 = .error .overflow := congrArg Prod.fst h
  unfold openSection at hopen
  split at hopen
  · exact absurd hopen (by simp)
  next device _ hselected =>
    rcases (openDevice_overflow_iff s device).mp hopen with hresult | hunpaced
    · exact .inl (Negotiation.channels_of_negotiate_overflow hresult)
    · exact .inr ⟨device, hselected, hunpaced⟩
  · exact absurd hopen (by simp)

/-- A start does not overflow. -/
theorem start_ne_overflow (s : Session σ κ) : s.start.1 ≠ .error .overflow := by
  have hsection : s.startSection.1 ≠ .error .overflow := by
    unfold startSection
    split
    · exact fun h => absurd h (by simp)
    · split
      · exact fun h => absurd h (by simp)
      · exact fun h => absurd h (by simp)
      · unfold startDevice
        dsimp only
        split
        · exact fun h => absurd h (by simp [startDevice.begun])
        · exact fun h => absurd h (by simp [startDevice.begun])
        · exact fun h => absurd h (by simp)
  unfold start
  generalize s.startSection = x at hsection
  obtain ⟨answer, t⟩ := x
  cases answer with
  | error fault => exact fun h => hsection (congrArg Except.error (Except.error.inj h))
  | ok begun =>
      cases begun with
      | none => exact fun h => absurd h (by simp)
      | some generation =>
          dsimp only
          split
          · exact fun h => absurd h (by simp)
          · exact fun h => absurd h (by simp)

/-- A restart that is refused has closed the session. -/
theorem restart_refused {s t : Session σ κ} {fault : Fault} (h : s.restart = (.error fault, t)) :
    fault ≠ .overflow ∧ t.route = .closed := by
  have hnever := start_ne_overflow s
  unfold restart at h
  generalize s.start = x at hnever h
  obtain ⟨answer, u⟩ := x
  cases answer with
  | ok _ => exact absurd (Prod.mk.inj h).1 (by simp)
  | error cause =>
      cases cause with
      | overflow => exact absurd rfl hnever
      | error e =>
          obtain ⟨hfault, rfl⟩ := Prod.mk.inj h
          refine ⟨?_, close_route _⟩
          rw [← Except.error.inj hfault]
          simp

/-- What is refused when the old phase is to be reached again leaves a closed session closed. -/
theorem resume_refused {s t : Session σ κ} (hclosed : s.route = .closed) {before : Phase}
    {fault : Fault} (h : s.resume before = (.error fault, t)) :
    t.route = .closed ∧ (fault = .overflow → 65535 < 4 * s.source.channels
      ∨ ∃ device, s.selected = some device ∧ s.Unpaced device) := by
  have hopen := openSection_outcome s
  unfold resume at h
  cases hanswer : s.openRoute with
  | mk answer u =>
      rw [show s.openSection = (answer, u) from hanswer] at hopen
      rw [hanswer] at h
      cases answer with
      | error cause =>
          obtain ⟨hfault, rfl⟩ := Prod.mk.inj h
          obtain rfl := Except.error.inj hfault
          refine ⟨?_, fun hoverflow => openRoute_overflow (hoverflow ▸ hanswer)⟩
          cases hopen with
          | refused _ _ hsteady => exact hsteady.route.closed_iff.mpr hclosed
      | ok _ =>
          dsimp only at h
          split at h
          · obtain ⟨hfault, hroute⟩ := restart_refused h
            exact ⟨hroute, fun hoverflow => absurd hoverflow hfault⟩
          · exact absurd (Prod.mk.inj h).1 (by simp)

/-- **After a switch that failed nothing is open.** -/
theorem closed_of_select_error {s t : Session σ κ} {target : Option String} {fault : Fault}
    (h : s.select target = (.error fault, t)) : t.route = .closed := by
  rw [select_eq] at h
  split at h
  · exact absurd (Prod.mk.inj h).1 (by simp)
  · obtain ⟨hanswer, rfl⟩ := Prod.mk.inj h
    exact (resume_refused (route_vacated s target) (Prod.ext hanswer rfl)).1

/-- **A switch overflows only for a source of too many channels**, or where the pace of its target
cannot be reckoned. -/
theorem select_overflow {s t : Session σ κ} {target : Option String}
    (h : s.select target = (.error .overflow, t)) :
    65535 < 4 * s.source.channels
      ∨ ∃ device, target = some device ∧ (s.vacated target).Unpaced device := by
  rw [select_eq] at h
  split at h
  · exact absurd (Prod.mk.inj h).1 (by simp)
  · obtain ⟨hanswer, rfl⟩ := Prod.mk.inj h
    have hwhy := (resume_refused (route_vacated s target) (Prod.ext hanswer rfl)).2 rfl
    rw [source_vacated] at hwhy
    exact hwhy

end Session

end PcmRender
