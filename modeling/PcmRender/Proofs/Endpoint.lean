/-
  PcmRender.Proofs.Endpoint — **what a stream keeps of what is written to it.**

  A session relies on one thing about the streams of its host: a write takes the first whole frames
  of what it is given and says how many, or fails and takes nothing, and no other call adds to what
  the stream has taken or removes from it.  `Endpoint.Keeps` is this contract, over a function that
  reads off a host what the stream has taken so far.  The devices held in memory honour it.
-/
import PcmRender.DeviceBank

namespace PcmRender

/-! ## §1. The contract. -/

/-- `received` tells what the stream `e` has taken: the first frames of `size` bytes of every write
that did not fail, and nothing else. -/
structure Endpoint.Keeps {σ : Type} [Host σ] (e : Endpoint) (size : Nat)
    (received : σ → List UInt8) : Prop where
  /-- A write takes the first frames, and says how many. -/
  write : ∀ host data taken after, Host.write host e data = (.ok taken, after) →
    taken * size ≤ data.length ∧ received after = received host ++ data.take (taken * size)
  /-- A write that fails takes nothing. -/
  refuse : ∀ host data fault after, Host.write host e data = (.error fault, after) →
    received after = received host
  /-- Asking for room takes nothing, -/
  freeFrames : ∀ host, received (Host.freeFrames host e).2 = received host
  /-- nor does starting, -/
  start : ∀ host, received (Host.start host e).2 = received host
  /-- nor stopping, -/
  stop : ∀ host, received (Host.stop host e).2 = received host
  /-- nor waiting. -/
  waitReady : ∀ host, received (Host.waitReady host e).2 = received host

/-! ## §2. Devices in memory. -/

namespace DeviceBank

theorem find?_go (id : String) {d : Device} (hd : d.id = id) :
    ∀ {devices : List Device} {old : Device}, devices.find? (·.id == id) = some old →
      (put.go id d devices).find? (·.id == id) = some d
  | e :: rest, old, h => by
      unfold put.go
      cases he : e.id == id with
      | true => simp [hd]
      | false =>
          rw [List.find?_cons, he] at h
          rw [if_neg (by simp), List.find?_cons, he]
          exact find?_go id hd h

/-- What stands in the place of a device that was there. -/
theorem find?_put {b : DeviceBank} {id : String} {old d : Device} (h : b.find? id = some old)
    (hd : d.id = id) : (b.put id d).find? id = some d := find?_go id hd h

theorem id_of_find? {b : DeviceBank} {id : String} {d : Device} (h : b.find? id = some d) :
    d.id = id := by
  have hfound := List.find?_some h
  simpa using hfound

/-- **What a call writes to a device** is what the call on the device alone writes. -/
theorem written_on {ρ : Type} (b : DeviceBank) (id : String) (absent : ρ)
    (call : Device → ρ × Device) (hid : ∀ d, (call d).2.id = d.id) {d : Device}
    (h : b.find? id = some d) : (b.on id absent call).2.written id = (call d).2.written := by
  unfold on
  rw [h]
  show ((((b.put id (call d).2).find? id).map Device.written).getD []) = _
  rw [find?_put h ((hid d).trans (id_of_find? h))]
  rfl

/-- A call that writes to no device leaves what was written. -/
theorem written_on_same {ρ : Type} (b : DeviceBank) (id : String) (absent : ρ)
    (call : Device → ρ × Device) (hid : ∀ d, (call d).2.id = d.id)
    (hwritten : ∀ d, (call d).2.written = d.written) :
    (b.on id absent call).2.written id = b.written id := by
  cases h : b.find? id with
  | none =>
      unfold on
      rw [h]
  | some d =>
      rw [written_on b id absent call hid h, hwritten d]
      unfold written
      rw [h]
      rfl

/-- A change of a device from outside that writes nothing to it, -/
theorem written_update (b : DeviceBank) (id : String) (change : Device → Device)
    (hid : ∀ d, (change d).id = d.id) (hwritten : ∀ d, (change d).written = d.written) :
    (b.update id change).written id = b.written id := by
  unfold update
  cases h : b.find? id with
  | none => rfl
  | some d =>
      have hput : (b.put id (change d)).find? id = some (change d) :=
        find?_put h ((hid d).trans (id_of_find? h))
      unfold written
      rw [hput, h]
      exact congrArg (fun bytes => (some bytes).getD []) (hwritten d)

/-- such as setting its room, -/
theorem written_setFree (b : DeviceBank) (id : String) (frames : Nat) :
    (b.setFree id frames).written id = b.written id :=
  b.written_update id _ (fun _ => rfl) fun _ => rfl

/-- or giving its stream back. -/
theorem written_release (b : DeviceBank) (e : Endpoint) :
    (Host.release b e).written e.device = b.written e.device :=
  b.written_update e.device _ (fun _ => rfl) fun _ => rfl

theorem id_write (f : Format) (data : List UInt8) (d : Device) : (d.write f data).2.id = d.id := by
  unfold Device.write
  split
  · rfl
  · split <;> rfl

/-- Being asked for its room, -/
theorem freeFrames_frame (d : Device) :
    d.freeFrames.2.id = d.id ∧ d.freeFrames.2.written = d.written := by
  unfold Device.freeFrames
  split
  · exact ⟨rfl, rfl⟩
  · dsimp only
    split <;> split <;> exact ⟨rfl, rfl⟩

/-- being started, -/
theorem start_frame (d : Device) : d.start.2.id = d.id ∧ d.start.2.written = d.written := by
  unfold Device.start
  split
  · exact ⟨rfl, rfl⟩
  · split <;> exact ⟨rfl, rfl⟩

/-- being stopped -/
theorem stop_frame (d : Device) : d.stop.2.id = d.id ∧ d.stop.2.written = d.written := by
  unfold Device.stop
  split <;> exact ⟨rfl, rfl⟩

/-- and being waited for leave a device its name, and its bytes. -/
theorem waitReady_frame (d : Device) :
    d.waitReady.2.id = d.id ∧ d.waitReady.2.written = d.written := by
  unfold Device.waitReady
  split <;> exact ⟨rfl, rfl⟩

/-- A device takes the first whole frames, and says how many. -/
theorem write_ok {d after : Device} {f : Format} {data : List UInt8} {taken : Nat}
    (h : d.write f data = (.ok taken, after)) :
    taken * f.align ≤ data.length
      ∧ after.written = d.written ++ data.take (taken * f.align) := by
  unfold Device.write at h
  by_cases hfault : d.has .write = true
  · rw [if_pos hfault] at h
    exact absurd h (by simp)
  · rw [if_neg hfault] at h
    unfold Format.framesIn? at h
    by_cases halign : f.align = 0
    · rw [if_pos halign] at h
      exact absurd h (by simp)
    · rw [if_neg halign] at h
      simp only [Prod.mk.injEq, Except.ok.injEq] at h
      obtain ⟨htaken, hafter⟩ := h
      -- The count is cut to 32 bits, which can only make it smaller, and a second cut is idle.
      have hword : Format.word32 (data.length / f.align) < Nat.pow 2 32 :=
        Nat.mod_lt _ (by decide)
      have hsmall : Format.word32 taken = taken := Nat.mod_eq_of_lt (by omega)
      have hfits : taken ≤ data.length / f.align := by
        have hle : Format.word32 (data.length / f.align) ≤ data.length / f.align :=
          Nat.mod_le _ _
        omega
      refine ⟨Nat.le_trans (Nat.mul_le_mul_right _ hfits) (Nat.div_mul_le_self _ _), ?_⟩
      rw [← hafter, htaken]
      unfold Format.bytesOf
      rw [hsmall]

/-- A write that fails leaves a device as it was. -/
theorem write_error {d after : Device} {f : Format} {data : List UInt8} {fault : EndpointFault}
    (h : d.write f data = (.error fault, after)) : after = d := by
  unfold Device.write at h
  split at h
  · exact (Prod.mk.inj h).2.symm
  · split at h
    · exact (Prod.mk.inj h).2.symm
    · exact absurd (Prod.mk.inj h).1 (by simp)

/-- A write to a stream of a bank is a write to its device, if the device is there. -/
theorem write_cases {b after : DeviceBank} {e : Endpoint} {data : List UInt8}
    {answer : Except EndpointFault Nat} (h : Host.write b e data = (answer, after)) :
    (after = b ∧ answer = .error (.failed (missing e.device)))
      ∨ ∃ d : Device, (d.write e.activated data).1 = answer ∧ b.written e.device = d.written
        ∧ after.written e.device = (d.write e.activated data).2.written := by
  have hafter : (b.on e.device _ (·.write e.activated data)).2 = after := congrArg Prod.snd h
  have hanswer : (b.on e.device _ (·.write e.activated data)).1 = answer := congrArg Prod.fst h
  cases hd : b.find? e.device with
  | none =>
      unfold on at hafter hanswer
      rw [hd] at hafter hanswer
      exact .inl ⟨hafter.symm, hanswer.symm⟩
  | some d =>
      refine .inr ⟨d, ?_, ?_, ?_⟩
      · unfold on at hanswer
        rw [hd] at hanswer
        exact hanswer
      · unfold written
        rw [hd]
        rfl
      · rw [← hafter]
        exact written_on b e.device _ _ (id_write _ _) hd

/-- **A device in memory keeps what is written to it.** -/
theorem keeps_written (e : Endpoint) :
    e.Keeps e.activated.align (fun b : DeviceBank => b.written e.device) where
  write host data taken after h := by
    rcases write_cases h with ⟨_, hmissing⟩ | ⟨d, hanswer, hbefore, hafter⟩
    · exact absurd hmissing (by simp)
    · obtain ⟨hfits, hwritten⟩ := write_ok (Prod.ext hanswer rfl)
      exact ⟨hfits, by rw [hafter, hbefore, hwritten]⟩
  refuse host data fault after h := by
    rcases write_cases h with ⟨hsame, _⟩ | ⟨d, hanswer, hbefore, hafter⟩
    · rw [hsame]
    · have hsame : (d.write e.activated data).2 = d := write_error (Prod.ext hanswer rfl)
      show after.written e.device = host.written e.device
      rw [hafter, hbefore, hsame]
  freeFrames host :=
    written_on_same host e.device _ _ (fun d => (freeFrames_frame d).1) fun d => (freeFrames_frame d).2
  start host :=
    written_on_same host e.device _ _ (fun d => (start_frame d).1) fun d => (start_frame d).2
  stop host :=
    written_on_same host e.device _ _ (fun d => (stop_frame d).1) fun d => (stop_frame d).2
  waitReady host :=
    written_on_same host e.device _ _ (fun d => (waitReady_frame d).1) fun d => (waitReady_frame d).2

end DeviceBank

end PcmRender
