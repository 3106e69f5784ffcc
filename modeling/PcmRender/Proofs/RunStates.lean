/-
  PcmRender.Proofs.RunStates — **which devices of a bank run.**

  A device in memory runs from the start of a stream on it to its stop, or until the stream is given
  back.  The *run states* of a bank tell no more than this: for each device its identifier, and whether
  it runs.  Most calls on a stream leave the run states as they are, and the others change one of them:

      start            the device runs
      stop, release    the device does not run
      anything else    changes none

  Of two devices with one identifier the first is the one that calls reach, so only its state ever
  changes.

  Main statements:
    * `RunStates.put_onlyRunning`, `RunStates.eq_of_mem_onlyRunning`, `RunStates.countP_onlyRunning` —
      at most one device runs,
    * `DeviceBank.KeepsRunStates` and the calls that change no state,
    * `DeviceBank.start_outcome`, `DeviceBank.stopsDevice_stop`, `DeviceBank.stopsDevice_release` — the
      others.
-/
import PcmRender.Proofs.Endpoint
import PcmRender.Proofs.Opening

namespace PcmRender

/-! ## §1. Run states. -/

/-- Devices by identifier, each with whether it runs. -/
abbrev RunStates := List (String × Bool)

namespace RunStates

/-- None of them runs. -/
def allStopped (states : RunStates) : RunStates := states.map fun state => (state.1, false)

/-- The first one of an identifier is running from now on, or is not. -/
def put (id : String) (on : Bool) : RunStates → RunStates
  | [] => []
  | state :: rest => if state.1 == id then (state.1, on) :: rest else state :: put id on rest

/-- None of them runs but this device, if there is one. -/
def onlyRunning (states : RunStates) : Option String → RunStates
  | none => states.allStopped
  | some id => states.allStopped.put id true

theorem allStopped_allStopped (states : RunStates) :
    states.allStopped.allStopped = states.allStopped := by
  unfold allStopped
  rw [List.map_map]
  rfl

theorem allStopped_put (id : String) (on : Bool) (states : RunStates) :
    (states.put id on).allStopped = states.allStopped := by
  induction states with
  | nil => rfl
  | cons state rest ih =>
      unfold put
      split
      · rfl
      · show (state.1, false) :: (put id on rest).allStopped = (state.1, false) :: allStopped rest
        rw [ih]

theorem allStopped_onlyRunning (states : RunStates) (device : Option String) :
    (states.onlyRunning device).allStopped = states.allStopped := by
  cases device with
  | none => exact allStopped_allStopped states
  | some id =>
      rw [show states.onlyRunning (some id) = states.allStopped.put id true from rfl, allStopped_put,
        allStopped_allStopped]

/-- Of two changes of one state the last one counts. -/
theorem put_put (id : String) (first last : Bool) (states : RunStates) :
    (states.put id first).put id last = states.put id last := by
  induction states with
  | nil => rfl
  | cons state rest ih =>
      cases hstate : state.1 == id with
      | true => simp [put, hstate]
      | false => simp [put, hstate, ih]

theorem put_allStopped (id : String) (states : RunStates) :
    states.allStopped.put id false = states.allStopped := by
  induction states with
  | nil => rfl
  | cons state rest ih =>
      show put id false ((state.1, false) :: allStopped rest) = (state.1, false) :: allStopped rest
      unfold put
      rw [ih, ite_self]

/-- The one that alone may run is stopped. -/
theorem put_onlyRunning {device : Option String} {id : String} (h : device = none ∨ device = some id)
    (states : RunStates) : (states.onlyRunning device).put id false = states.allStopped := by
  rcases h with rfl | rfl
  · exact put_allStopped id states
  · show (states.allStopped.put id true).put id false = states.allStopped
    rw [put_put, put_allStopped]

/-- A state after one was changed is the changed one, or was there before. -/
theorem mem_put {state : String × Bool} {id : String} {on : Bool} {states : RunStates}
    (h : state ∈ states.put id on) : state = (id, on) ∨ state ∈ states := by
  induction states with
  | nil => exact absurd h List.not_mem_nil
  | cons first rest ih =>
      unfold put at h
      cases hfirst : first.1 == id with
      | true =>
          rw [hfirst, if_pos rfl] at h
          rcases List.mem_cons.mp h with rfl | hrest
          · exact .inl (by rw [beq_iff_eq.mp hfirst])
          · exact .inr (List.mem_cons_of_mem _ hrest)
      | false =>
          rw [hfirst, if_neg (by simp)] at h
          rcases List.mem_cons.mp h with rfl | hrest
          · exact .inr List.mem_cons_self
          · exact (ih hrest).imp_right (List.mem_cons_of_mem _)

theorem not_mem_allStopped {id : String} {states : RunStates} : (id, true) ∉ states.allStopped := by
  unfold allStopped
  simp

/-- Only what may run does. -/
theorem eq_of_mem_onlyRunning {id : String} {device : Option String} {states : RunStates}
    (h : (id, true) ∈ states.onlyRunning device) : device = some id := by
  cases device with
  | none => exact absurd h not_mem_allStopped
  | some wanted =>
      rcases mem_put h with hsame | hstopped
      · rw [(Prod.mk.inj hsame).1]
      · exact absurd hstopped not_mem_allStopped

theorem countP_put_allStopped (id : String) (states : RunStates) :
    (states.allStopped.put id true).countP Prod.snd ≤ 1 := by
  induction states with
  | nil => exact Nat.zero_le 1
  | cons state rest ih =>
      have hnone : (allStopped rest).countP Prod.snd = 0 := by
        rw [List.countP_eq_zero]
        intro other hother
        obtain ⟨_, _, rfl⟩ := List.mem_map.mp hother
        exact Bool.false_ne_true
      show (put id true ((state.1, false) :: allStopped rest)).countP Prod.snd ≤ 1
      unfold put
      split
      · rw [List.countP_cons, hnone]
        exact Nat.le_refl 1
      · rw [List.countP_cons]
        exact ih

/-- At most one runs. -/
theorem countP_onlyRunning (device : Option String) (states : RunStates) :
    (states.onlyRunning device).countP Prod.snd ≤ 1 := by
  cases device with
  | none =>
      rw [show (states.onlyRunning none).countP Prod.snd = 0 from List.countP_eq_zero.mpr (by
        intro state hstate
        obtain ⟨_, _, rfl⟩ := List.mem_map.mp hstate
        exact Bool.false_ne_true)]
      exact Nat.zero_le 1
  | some id => exact countP_put_allStopped id states

/-- The first state of an identifier is the one that was changed. -/
theorem find?_put (id : String) (on : Bool) (states : RunStates) :
    (states.put id on).find? (·.1 == id)
      = (states.find? (·.1 == id)).map fun state => (state.1, on) := by
  induction states with
  | nil => rfl
  | cons state rest ih =>
      cases hstate : state.1 == id with
      | true => simp [put, hstate]
      | false => simp [put, hstate, ih]

theorem put_absent {id : String} {states : RunStates} (h : states.find? (·.1 == id) = none)
    (on : Bool) : states.put id on = states := by
  induction states with
  | nil => rfl
  | cons state rest ih =>
      rw [List.find?_cons] at h
      unfold put
      cases hstate : state.1 == id with
      | true =>
          rw [hstate] at h
          exact absurd h (by simp)
      | false =>
          rw [hstate] at h
          rw [if_neg (by simp), ih h]

end RunStates

/-! ## §2. Devices in memory. -/

namespace DeviceBank

/-- Which devices run. -/
def runStates (b : DeviceBank) : RunStates := b.devices.map fun d => (d.id, d.running)

/-- Starting and stopping work on every device. -/
def StartsAndStops (b : DeviceBank) : Prop :=
  ∀ d ∈ b.devices, d.has .start = false ∧ d.has .stop = false

theorem find?_runStates (b : DeviceBank) (id : String) :
    b.runStates.find? (·.1 == id) = (b.find? id).map fun d => (d.id, d.running) := by
  unfold runStates find?
  rw [List.find?_map]
  rfl

theorem runStates_put (b : DeviceBank) {id : String} {d : Device} (hd : d.id = id) :
    (b.put id d).runStates = b.runStates.put id d.running := by
  unfold runStates put
  dsimp only
  induction b.devices with
  | nil => rfl
  | cons e rest ih =>
      cases he : e.id == id with
      | true => simp [put.go, RunStates.put, hd, beq_iff_eq.mp he]
      | false => simp [put.go, RunStates.put, he, ih]

theorem runStates_put_same (b : DeviceBank) {id : String} {old d : Device}
    (h : b.find? id = some old) (hd : d.id = id) (hrunning : d.running = old.running) :
    (b.put id d).runStates = b.runStates := by
  have hold : b.put id old = b := put_same h
  rw [runStates_put b hd, hrunning, ← runStates_put b (id_of_find? h), hold]

theorem mem_put {b : DeviceBank} {id : String} {d e : Device} (h : e ∈ (b.put id d).devices) :
    e = d ∨ e ∈ b.devices := by
  unfold put at h
  dsimp only at h
  generalize b.devices = devices at h ⊢
  induction devices with
  | nil => exact .inr h
  | cons first rest ih =>
      unfold put.go at h
      split at h
      · exact (List.mem_cons.mp h).imp_right (List.mem_cons_of_mem _)
      · rcases List.mem_cons.mp h with rfl | hrest
        · exact .inr List.mem_cons_self
        · exact (ih hrest).imp_right (List.mem_cons_of_mem _)

/-- What happened between `b` and `c` has started no device and stopped none, and has not made
starting or stopping fail. -/
structure KeepsRunStates (b c : DeviceBank) : Prop where
  runStates : c.runStates = b.runStates
  startsAndStops : b.StartsAndStops → c.StartsAndStops

theorem KeepsRunStates.refl (b : DeviceBank) : KeepsRunStates b b := ⟨rfl, id⟩

theorem KeepsRunStates.trans {a b c : DeviceBank} (h : KeepsRunStates a b)
    (k : KeepsRunStates b c) : KeepsRunStates a c :=
  ⟨k.runStates.trans h.runStates, fun ha => k.startsAndStops (h.startsAndStops ha)⟩

/-- A device that is put in the place of another works as well if it has the same faults. -/
theorem StartsAndStops.put {b : DeviceBank} (h : b.StartsAndStops) {id : String} {old d : Device}
    (hold : b.find? id = some old) (hfaults : d.faults = old.faults) :
    (b.put id d).StartsAndStops := by
  intro e he
  rcases mem_put he with rfl | hin
  · have hworks := h old (List.mem_of_find?_eq_some hold)
    unfold Device.has at hworks ⊢
    rw [hfaults]
    exact hworks
  · exact h e hin

/-- A call that leaves the identifier, the faults and the running of every device alone. -/
theorem keepsRunStates_on {ρ : Type} (b : DeviceBank) (id : String) (absent : ρ)
    (call : Device → ρ × Device)
    (hcall : ∀ d, (call d).2.id = d.id ∧ (call d).2.running = d.running
      ∧ (call d).2.faults = d.faults) : KeepsRunStates b (b.on id absent call).2 := by
  unfold on
  cases h : b.find? id with
  | none => exact KeepsRunStates.refl b
  | some d =>
      obtain ⟨hid, hrunning, hfaults⟩ := hcall d
      exact ⟨runStates_put_same b h (hid.trans (id_of_find? h)) hrunning,
        fun hb => hb.put h hfaults⟩

/-- So does one that is made from outside. -/
theorem keepsRunStates_update (b : DeviceBank) (id : String) (change : Device → Device)
    (hchange : ∀ d, (change d).id = d.id ∧ (change d).running = d.running
      ∧ (change d).faults = d.faults) : KeepsRunStates b (b.update id change) := by
  unfold update
  cases h : b.find? id with
  | none => exact KeepsRunStates.refl b
  | some d =>
      obtain ⟨hid, hrunning, hfaults⟩ := hchange d
      exact ⟨runStates_put_same b h (hid.trans (id_of_find? h)) hrunning,
        fun hb => hb.put h hfaults⟩

theorem keepsRunStates_setUnavailable (b : DeviceBank) (id : String) (unavailable : Bool) :
    KeepsRunStates b (b.setUnavailable id unavailable) :=
  keepsRunStates_update b id _ fun _ => ⟨rfl, rfl, rfl⟩

theorem keepsRunStates_threads (b : DeviceBank) (threads : Bool) :
    KeepsRunStates b { b with threads } :=
  ⟨rfl, id⟩

theorem keepsRunStates_activate (b : DeviceBank) (id : String) (f : Format) (buffer : Duration) :
    KeepsRunStates b (Host.activate b id f buffer).2 := by
  refine keepsRunStates_on b id _ _ fun d => ?_
  unfold Device.activate
  split
  · exact ⟨rfl, rfl, rfl⟩
  · split
    · exact ⟨rfl, rfl, rfl⟩
    · split <;> exact ⟨rfl, rfl, rfl⟩

theorem keepsRunStates_freeFrames (b : DeviceBank) (e : Endpoint) :
    KeepsRunStates b (Host.freeFrames b e).2 := by
  refine keepsRunStates_on b e.device _ _ fun d => ?_
  unfold Device.freeFrames
  split
  · exact ⟨rfl, rfl, rfl⟩
  · dsimp only
    split <;> split <;> exact ⟨rfl, rfl, rfl⟩

theorem keepsRunStates_write (b : DeviceBank) (e : Endpoint) (data : List UInt8) :
    KeepsRunStates b (Host.write b e data).2 := by
  refine keepsRunStates_on b e.device _ _ fun d => ?_
  unfold Device.write
  split
  · exact ⟨rfl, rfl, rfl⟩
  · split <;> exact ⟨rfl, rfl, rfl⟩

theorem keepsRunStates_waitReady (b : DeviceBank) (e : Endpoint) :
    KeepsRunStates b (Host.waitReady b e).2 := by
  refine keepsRunStates_on b e.device _ _ fun d => ?_
  unfold Device.waitReady
  split <;> exact ⟨rfl, rfl, rfl⟩

/-- **What starting a stream comes to** where starting works: its device is not there, or runs
afterwards, and that alone has changed. -/
inductive StartOutcome (b : DeviceBank) (e : Endpoint) :
    Except RenderError Unit × DeviceBank → Prop
  | absent (absent : b.find? e.device = none) : StartOutcome b e (.error (missing e.device), b)
  | running {answer : Except RenderError Unit} {after : DeviceBank}
      (runs : answer = .ok () ∨ answer = .error .alreadyStarted)
      (runStates : after.runStates = b.runStates.put e.device true)
      (startsAndStops : after.StartsAndStops)
      (found : (after.find? e.device).isSome = true) : StartOutcome b e (answer, after)

theorem start_outcome {b : DeviceBank} (h : b.StartsAndStops) (e : Endpoint) :
    StartOutcome b e (Host.start b e) := by
  show StartOutcome b e (b.on e.device (.error (missing e.device)) Device.start)
  unfold on
  cases hfound : b.find? e.device with
  | none => exact .absent hfound
  | some d =>
      have hid := id_of_find? hfound
      have hworks := (h d (List.mem_of_find?_eq_some hfound)).1
      dsimp only
      unfold Device.start
      rw [hworks, if_neg (by simp)]
      by_cases hrunning : d.running = true
      · rw [if_pos hrunning]
        refine .running (.inr rfl) ?_ (h.put hfound rfl) (by rw [find?_put hfound hid]; rfl)
        rw [← hrunning]
        exact runStates_put b hid
      · rw [if_neg hrunning]
        exact .running (.inl rfl) (runStates_put b hid) (h.put hfound rfl)
          (by rw [find?_put (d := { d with running := true }) hfound hid]; rfl)

/-- What stops a device, if it is there, and does nothing else. -/
structure StopsDevice (id : String) (b c : DeviceBank) : Prop where
  runStates : c.runStates = b.runStates.put id false
  startsAndStops : c.StartsAndStops

/-- A device that is not there has no state. -/
theorem runStates_absent {b : DeviceBank} {id : String} (hid : b.find? id = none) :
    b.runStates = b.runStates.put id false := by
  refine (RunStates.put_absent ?_ false).symm
  rw [find?_runStates, hid]
  rfl

theorem stopsDevice_put {b : DeviceBank} (h : b.StartsAndStops) {id : String} {d : Device}
    (hid : b.find? id = some d) : StopsDevice id b (b.put id { d with running := false }) :=
  ⟨runStates_put b (show d.id = id from id_of_find? hid), h.put hid rfl⟩

/-- **Stopping a stream stops its device** where stopping works, -/
theorem stopsDevice_stop {b : DeviceBank} (h : b.StartsAndStops) (e : Endpoint) :
    StopsDevice e.device b (Host.stop b e).2 := by
  show StopsDevice e.device b (b.on e.device (.error (missing e.device)) Device.stop).2
  unfold on
  cases hfound : b.find? e.device with
  | none => exact ⟨runStates_absent hfound, h⟩
  | some d =>
      dsimp only
      unfold Device.stop
      rw [(h d (List.mem_of_find?_eq_some hfound)).2, if_neg (by simp)]
      exact stopsDevice_put h hfound

theorem runStates_release (b : DeviceBank) (e : Endpoint) :
    (Host.release b e).runStates = b.runStates.put e.device false := by
  show (b.update e.device fun d => { d with running := false }).runStates = _
  unfold update
  cases hfound : b.find? e.device with
  | none => exact runStates_absent hfound
  | some d => exact runStates_put b (show d.id = e.device from id_of_find? hfound)

/-- and giving it back does so too. -/
theorem stopsDevice_release {b : DeviceBank} (h : b.StartsAndStops) (e : Endpoint) :
    StopsDevice e.device b (Host.release b e) := by
  refine ⟨runStates_release b e, ?_⟩
  show (b.update e.device fun d => { d with running := false }).StartsAndStops
  unfold update
  cases hfound : b.find? e.device with
  | none => exact h
  | some d => exact h.put hfound rfl

theorem device_of_activate {b : DeviceBank} {id : String} {f : Format} {buffer : Duration}
    {endpoint : Endpoint} (h : (Host.activate b id f buffer).1 = .ok endpoint) :
    endpoint.device = id := by
  have houtcome := activate_outcome b id f buffer
  generalize Host.activate b id f buffer = x at houtcome h
  cases houtcome with
  | absent => exact absurd h (by simp)
  | unavailable => exact absurd h (by simp)
  | rejected => exact absurd h (by simp)
  | opened hfound =>
      injection h with h
      rw [← h]
      exact id_of_find? hfound

/-- Devices that differ in what runs have the same identifiers. -/
theorem isSome_find?_congr {b c : DeviceBank}
    (h : c.runStates.allStopped = b.runStates.allStopped) (id : String) :
    (c.find? id).isSome = (b.find? id).isSome := by
  have hstopped : ∀ a : DeviceBank,
      (a.runStates.allStopped.find? (·.1 == id)).isSome = (a.find? id).isSome := by
    intro a
    unfold RunStates.allStopped
    rw [List.find?_map, Option.isSome_map]
    show (a.runStates.find? (·.1 == id)).isSome = _
    rw [find?_runStates, Option.isSome_map]
  rw [← hstopped c, h, hstopped b]

/-- What asking for streams and giving them back does to a bank: it starts no device, so that where
none of them runs none does afterwards. -/
structure KeepsAllStopped (b c : DeviceBank) : Prop where
  threads : c.threads = b.threads
  startsAndStops : b.StartsAndStops → c.StartsAndStops
  found : ∀ id, (c.find? id).isSome = (b.find? id).isSome
  stays : b.StartsAndStops → b.runStates = b.runStates.allStopped → c.runStates = b.runStates

theorem KeepsAllStopped.refl (b : DeviceBank) : KeepsAllStopped b b :=
  ⟨rfl, id, fun _ => rfl, fun _ _ => rfl⟩

theorem KeepsAllStopped.trans {a b c : DeviceBank} (h : KeepsAllStopped a b)
    (k : KeepsAllStopped b c) : KeepsAllStopped a c where
  threads := k.threads.trans h.threads
  startsAndStops := fun ha => k.startsAndStops (h.startsAndStops ha)
  found := fun id => (k.found id).trans (h.found id)
  stays := fun ha hstopped => by
    have hb := h.stays ha hstopped
    rw [← hb] at hstopped
    exact (k.stays (h.startsAndStops ha) hstopped).trans hb

theorem keepsAllStopped_activate (b : DeviceBank) (id : String) (f : Format) (buffer : Duration) :
    KeepsAllStopped b (Host.activate b id f buffer).2 := by
  have hkeeps := keepsRunStates_activate b id f buffer
  refine ⟨?_, hkeeps.startsAndStops, isSome_find?_congr (congrArg _ hkeeps.runStates),
    fun _ _ => hkeeps.runStates⟩
  show (b.on id (.error (missing id)) (·.activate f)).2.threads = b.threads
  unfold on
  split <;> rfl

theorem keepsAllStopped_release (b : DeviceBank) (e : Endpoint) :
    KeepsAllStopped b (Host.release b e) := by
  have hstates : (Host.release b e).runStates = b.runStates.put e.device false := runStates_release b e
  refine ⟨?_, fun hb => (stopsDevice_release hb e).startsAndStops, isSome_find?_congr ?_,
    fun _ hstopped => ?_⟩
  · show (b.update e.device fun d => { d with running := false }).threads = b.threads
    unfold update
    split <;> rfl
  · rw [hstates, RunStates.allStopped_put]
  · rw [hstates, hstopped, RunStates.put_allStopped]

end DeviceBank

end PcmRender
