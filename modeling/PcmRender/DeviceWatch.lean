/-
  PcmRender.DeviceWatch — **keeping a session on the right device.**

  Devices come and go.  A watch looks at each event, at the device that the session has selected,
  and at its policy, and decides whether the session has to switch:

      follow the default    to the new default device, whatever it is
      one device            to it when it appears and nothing is selected
      either                to the null sink when the selected device disappears

  Main definitions:
    * `DeviceEvent`, `WatchPolicy`,
    * `WatchPolicy.target?` — the decision,
    * `WatchPolicy.apply` — a sequence of events applied to a session,
    * `WatchPolicy.watch` — the same on a thread of its own.
-/
import PcmRender.Session.Stepped

namespace PcmRender

/-- A device, as it is listed. -/
structure DeviceInfo where
  /-- Its identifier. -/
  id : String
  /-- Its name for users. -/
  name : String
  /-- Whether it is the default device. -/
  isDefault : Bool
deriving DecidableEq, Inhabited, Repr

/-- The text of a device in a list. -/
def DeviceInfo.text (d : DeviceInfo) : String := d.name ++ (if d.isDefault then " (default)" else "")

/-- What happens to devices. -/
inductive DeviceEvent
  /-- A device was added. -/
  | added (id : String)
  /-- A device was removed. -/
  | removed (id : String)
  /-- There is another default device, or none. -/
  | defaultChanged (id : Option String)
  /-- A device became active or inactive. -/
  | stateChanged (id : String) (active : Bool)
  /-- A property of a device changed. -/
  | propertyChanged (id : String)
deriving DecidableEq, Inhabited, Repr

/-- The device that a session is to be on. -/
inductive WatchPolicy
  /-- The default device, whichever it is. -/
  | followDefault
  /-- This one whenever it is there, and none otherwise. -/
  | fixed (id : String)
deriving DecidableEq, Inhabited, Repr

namespace WatchPolicy

/-- The text of a policy for developers. -/
def text : WatchPolicy → String
  | followDefault => "FollowDefault"
  | fixed id => "Fixed(" ++ quoted id ++ ")"

/-- The selection to switch to after an event, if it has to change. -/
def target? (policy : WatchPolicy) (selected : Option String) : DeviceEvent → Option (Option String)
  | .defaultChanged id =>
    match policy with
    | .followDefault => if id = selected then none else some id
    | .fixed _ => none
  | .removed id => lost id
  | .stateChanged id false => lost id
  | .added id => found id
  | .stateChanged id true => found id
  | .propertyChanged _ => none
where
  /-- The selected device is gone. -/
  lost (id : String) : Option (Option String) := if selected = some id then some none else none
  /-- The wanted device is back. -/
  found (id : String) : Option (Option String) :=
    match policy with
    | .fixed wanted => if id = wanted ∧ selected = none then some (some id) else none
    | .followDefault => none

variable {σ κ : Type} [Host σ] [Stage κ]

/-- One event applied to a session, and whether the watch goes on.  A switch that fails leaves the
session as the switch left it; an overflow takes the watch down. -/
def applyOne (policy : WatchPolicy) (s : SteppedSession σ κ) (event : DeviceEvent) :
    Bool × SteppedSession σ κ :=
  match policy.target? s.session.selected event with
  | none => (true, s)
  | some target =>
    match s.select target with
    | (.error .overflow, s) => (false, s)
    | (_, s) => (true, s)

/-- Events applied to a session in order, as long as the watch goes on. -/
def apply (policy : WatchPolicy) (s : SteppedSession σ κ) : List DeviceEvent → SteppedSession σ κ
  | [] => s
  | event :: rest =>
    match policy.applyOne s event with
    | (true, s) => policy.apply s rest
    | (false, s) => s

/-- A watch over a session, from its first event to its last.  It needs a thread of its own, and
what it does is not among the lines of the thread that the session belongs to. -/
def watch (policy : WatchPolicy) (s : SteppedSession σ κ) (events : List DeviceEvent) :
    Except RenderError Unit × SteppedSession σ κ :=
  match Host.spawn s.session.host with
  | .error reason => (.error (.io reason), s)
  | .ok () =>
    (.ok (), (policy.apply s events).map fun session => { session with log := s.session.log })

end WatchPolicy

end PcmRender
