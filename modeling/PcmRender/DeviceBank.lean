/-
  PcmRender.DeviceBank — **devices held in memory.**

  A bank is a host without sound hardware.  Each of its devices is a buffer whose free space is set
  from outside, and keeps every byte written to it.  Faults can be switched on per device, so that
  a session can be watched on hardware that fails; a device can be made to take some formats only,
  or to state another format than the one it was activated in.

  The first device with an identifier is the one it names, and the first of all is the default.

  Main definitions:
    * `Device`, `DeviceBank` — the state,
    * `DeviceBank.setFree`, `DeviceBank.failWaits`, … — what is done to the devices from outside,
    * the `Host` instance.
-/
import PcmRender.Host

namespace PcmRender

/-! ## §1. Devices. -/

/-- A fault that can be switched on for a device. -/
inductive DeviceFault
  /-- Asking for its free frames fails. -/
  | free
  /-- Writing fails. -/
  | write
  /-- Starting fails. -/
  | start
  /-- Stopping fails. -/
  | stop
  /-- Activating fails. -/
  | activate
  /-- Asking for the supported formats fails. -/
  | supported
  /-- It has no name. -/
  | nameless
  /-- Asking for its free frames takes the calling task down. -/
  | crash
  /-- Asking for its free frames makes its whole buffer free. -/
  | refill
deriving DecidableEq, Inhabited, Repr

/-- A device in memory. -/
structure Device where
  /-- Its identifier. -/
  id : String
  /-- Its name for users. -/
  name : String
  /-- The formats it takes; all of them if there is no list. -/
  accepted : Option (List Format) := none
  /-- How many frames its buffer holds. -/
  bufferFrames : Nat
  /-- The period it reports. -/
  period : Option Duration := some (Duration.ofMillis 10)
  /-- How many frames of its buffer are free. -/
  free : Nat := 0
  /-- The bytes written since it was last activated. -/
  written : List UInt8 := []
  /-- Whether it runs. -/
  running : Bool := false
  /-- How often it was activated. -/
  activations : Nat := 0
  /-- Whether it is unplugged. -/
  unavailable : Bool := false
  /-- Whether it has asked for audio since the last wait. -/
  signalled : Bool := false
  /-- Whether waiting for it fails. -/
  waitsFail : Bool := false
  /-- The format its endpoints state, if not the one they were activated in. -/
  stated : Option Format := none
  /-- The faults that are switched on. -/
  faults : List DeviceFault := []
deriving Inhabited, Repr

namespace Device

/-- The number of a device that asks for more than it can hold. -/
def unlimited : Nat := Nat.pow 2 32 - 1

/-- The device with this much of its buffer free, asking for audio. -/
def setFree (d : Device) (frames : Nat) : Device :=
  { d with free := min frames d.bufferFrames, signalled := true }

/-- Whether a fault is switched on. -/
def has (d : Device) (fault : DeviceFault) : Bool := fault ∈ d.faults

/-- The error of a call that a fault stops. -/
def faultError (d : Device) (call : String) : RenderError := .device d.id (call ++ " fault")

/-! ## §2. Calls on one device. -/

/-- Activates it in a format. -/
def activate (d : Device) (f : Format) : Except RenderError Endpoint × Device :=
  if d.has .activate then (.error (d.faultError "activate"), d)
  else if d.unavailable then (.error (.device d.id "device unavailable"), d)
  else if refuses then (.error (.formatRejected f.text), d)
  else
    (.ok { device := d.id
           format := d.stated.getD f
           activated := f
           bufferFrames := d.bufferFrames
           period := d.period },
      { d with activations := d.activations + 1, written := [] })
where
  refuses : Bool := match d.accepted with
    | some formats => !(f ∈ formats)
    | none => false

/-- Its free frames, as an endpoint sees them. -/
def freeFrames (d : Device) : Except EndpointFault Nat × Device :=
  if d.has .crash then (.error .crashed, d)
  else
    let d := if d.has .refill then d.setFree unlimited else d
    if d.has .free then (.error (.failed (d.faultError "free")), d) else (.ok d.free, d)

/-- Takes the whole frames of some bytes for which there is room. -/
def write (d : Device) (f : Format) (data : List UInt8) : Except EndpointFault Nat × Device :=
  if d.has .write then (.error (.failed (d.faultError "write")), d)
  else match f.framesIn? data.length with
    | none => (.error .crashed, d)
    | some offered =>
      let frames := min offered d.free
      (.ok frames,
        { d with written := d.written ++ data.take (f.bytesOf frames), free := d.free - frames })

/-- Starts it. -/
def start (d : Device) : Except RenderError Unit × Device :=
  if d.has .start then (.error (d.faultError "start"), d)
  else if d.running then (.error .alreadyStarted, d)
  else (.ok (), { d with running := true })

/-- Stops it. -/
def stop (d : Device) : Except RenderError Unit × Device :=
  if d.has .stop then (.error (d.faultError "stop"), d) else (.ok (), { d with running := false })

/-- Returns from a wait for it. -/
def waitReady (d : Device) : Except RenderError Bool × Device :=
  if d.waitsFail then (.error (.waitFailed "mock signal abandoned"), d)
  else (.ok d.signalled, { d with signalled := false })

end Device

/-! ## §3. Banks. -/

/-- A set of devices, and whether threads can be had beside them. -/
structure DeviceBank where
  /-- The devices; of two with one identifier the first counts. -/
  devices : List Device
  /-- Whether threads can be had. -/
  threads : Bool := true
deriving Inhabited, Repr

namespace DeviceBank

/-- The device with an identifier. -/
def find? (b : DeviceBank) (id : String) : Option Device := b.devices.find? (·.id == id)

/-- The bank with the device of an identifier replaced. -/
def put (b : DeviceBank) (id : String) (d : Device) : DeviceBank :=
  { b with devices := go b.devices }
where
  go : List Device → List Device
    | [] => []
    | e :: rest => if e.id == id then d :: rest else e :: go rest

/-- The bank with one device changed, if it is there. -/
def update (b : DeviceBank) (id : String) (change : Device → Device) : DeviceBank :=
  match b.find? id with
  | some d => b.put id (change d)
  | none => b

/-- A call on one device, with its answer if the device is not there. -/
def on {ρ : Type} (b : DeviceBank) (id : String) (absent : ρ) (call : Device → ρ × Device) :
    ρ × DeviceBank :=
  match b.find? id with
  | some d =>
    let (answer, d) := call d
    (answer, b.put id d)
  | none => (absent, b)

/-- The error of a call on a device that is not there. -/
def missing (id : String) : RenderError := .deviceNotFound id

/-! ## §4. From outside. -/

/-- Sets how many frames of a device are free. -/
def setFree (b : DeviceBank) (id : String) (frames : Nat) : DeviceBank :=
  b.update id (·.setFree frames)

/-- Plugs a device in or out. -/
def setUnavailable (b : DeviceBank) (id : String) (unavailable : Bool) : DeviceBank :=
  b.update id fun d => { d with unavailable := unavailable }

/-- Makes every later wait for a device fail. -/
def failWaits (b : DeviceBank) (id : String) : DeviceBank :=
  b.update id fun d => { d with waitsFail := true, signalled := true }

/-- Switches a fault of a device on or off. -/
def setFault (b : DeviceBank) (id : String) (fault : DeviceFault) (active : Bool) : DeviceBank :=
  b.update id fun d =>
    { d with faults := if active then fault :: d.faults else d.faults.filter (· != fault) }

/-- The bytes that a device took since it was last activated. -/
def written (b : DeviceBank) (id : String) : List UInt8 := ((b.find? id).map Device.written).getD []

/-- A call on a device as if none of its faults were switched on. -/
def bare {ρ : Type} (call : Device → ρ × Device) (d : Device) : ρ × Device :=
  let (answer, after) := call { d with faults := [], stated := none }
  (answer, { after with faults := d.faults, stated := d.stated })

/-- Opens and starts one more stream on a device, past its faults.  The stream is handed out even
if the device was running already. -/
def occupy (b : DeviceBank) (id : String) (f : Format) :
    Except RenderError (Endpoint × Except RenderError Unit) × DeviceBank :=
  match b.on id (.error (.deviceNotFound id)) (bare (·.activate f)) with
  | (.error e, b) => (.error e, b)
  | (.ok endpoint, b) =>
    let (started, b) := b.on id (.error (.deviceNotFound id)) (bare Device.start)
    (.ok (endpoint, started), b)

/-- Whether any device runs. -/
def anyRunning (b : DeviceBank) : Bool := b.devices.any Device.running

/-! ## §5. The host. -/

/-- Why a machine without a thread left cannot give one. -/
def noThread : String := "Resource temporarily unavailable (os error 11)"

instance : Host DeviceBank where
  activate b id f _ := b.on id (.error (missing id)) (·.activate f)
  supportedFormats b id :=
    match b.find? id with
    | none => .error (missing id)
    | some d =>
      if d.has .supported then .error (d.faultError "supported") else .ok (d.accepted.getD [])
  deviceName b id :=
    match b.find? id with
    | some d => if d.has .nameless then none else some d.name
    | none => none
  defaultDevice b := b.devices.head?.map Device.id
  freeFrames b e := b.on e.device (.error (.failed (missing e.device))) Device.freeFrames
  write b e data :=
    b.on e.device (.error (.failed (missing e.device))) (·.write e.activated data)
  start b e := b.on e.device (.error (missing e.device)) Device.start
  stop b e := b.on e.device (.error (missing e.device)) Device.stop
  release b e := b.update e.device fun d => { d with running := false }
  waitReady b e := b.on e.device (.error (missing e.device)) Device.waitReady
  spawn b := if b.threads then .ok () else .error noThread

end DeviceBank

end PcmRender
