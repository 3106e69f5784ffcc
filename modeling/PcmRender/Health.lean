/-
  PcmRender.Health — **reporting stalls of watched sessions.**

  A monitor polls the sessions it watches.  Once a session has been stalled for at least the
  threshold it reports a malfunction, and when the stall is over, the recovery; each of them once.
  An entry of the watch list remembers only whether its malfunction has been reported.

  Main definitions:
    * `Vitals` — what a monitor sees of a session,
    * `HealthMonitor.poll` — one look at every entry,
    * `HealthDuty`, `HealthMonitor.run` — the life of a monitor.
-/
import PcmRender.Duration

namespace PcmRender

/-- What can be seen of a session from outside. -/
structure Vitals where
  /-- The calendar time of its stall, in milliseconds. -/
  since : Option Nat
  /-- The name of its device. -/
  device : String
deriving DecidableEq, Inhabited, Repr

/-- A change of health. -/
inductive HealthEvent
  /-- A session has been stalled for the threshold, since a time in milliseconds. -/
  | malfunctioning (name device : String) (since : Nat)
  /-- A reported stall is over. -/
  | recovered (name device : String)
deriving DecidableEq, Inhabited, Repr

/-- A watched session. -/
structure HealthEntry (ι : Type) where
  /-- The name it is reported under. -/
  name : String
  /-- Which session it is. -/
  subject : ι
  /-- Whether its malfunction has been reported and not its recovery. -/
  reported : Bool := false
deriving DecidableEq, Inhabited, Repr

/-- A monitor over sessions that are named by `ι`. -/
structure HealthMonitor (ι : Type) where
  /-- The watched sessions, in the order in which they were added. -/
  entries : List (HealthEntry ι) := []
  /-- How long a stall lasts before it is reported. -/
  threshold : Duration
deriving Inhabited, Repr

namespace HealthMonitor

variable {ι : Type}

/-- How often a monitor looks, if nothing else is asked for. -/
def defaultInterval : Duration := Duration.ofMillis 100

/-- The threshold of a monitor, if nothing else is asked for. -/
def defaultThreshold : Duration := Duration.ofMillis 500

/-- The monitor watching one more session. -/
def watch (m : HealthMonitor ι) (name : String) (subject : ι) : HealthMonitor ι :=
  { m with entries := m.entries ++ [{ name, subject }] }

/-- One look at one entry at a calendar time in nanoseconds: what it reports, and the entry
afterwards.  A stall that lies in the future of the calendar has lasted for no time. -/
def look (threshold : Duration) (now : Nat) (entry : HealthEntry ι) (vitals : Vitals) :
    Option HealthEvent × HealthEntry ι :=
  match vitals.since, entry.reported with
  | some since, false =>
    if threshold ≤ ⟨now - (Duration.ofMillis since).nanos⟩ then
      (some (.malfunctioning entry.name vitals.device since), { entry with reported := true })
    else (none, entry)
  | none, true => (some (.recovered entry.name vitals.device), { entry with reported := false })
  | _, _ => (none, entry)

/-- One look at every entry at a calendar time in nanoseconds: the events in the order of the
entries, and the monitor afterwards. -/
def poll (m : HealthMonitor ι) (now : Nat) (see : ι → Vitals) :
    List HealthEvent × HealthMonitor ι :=
  let looks := m.entries.map fun entry => look m.threshold now entry (see entry.subject)
  (looks.filterMap Prod.fst, { m with entries := looks.map Prod.snd })

end HealthMonitor

/-- What a monitor is asked to do. -/
inductive HealthDuty (ι : Type)
  /-- It watches one more session. -/
  | watch (name : String) (subject : ι)
  /-- It is time for a poll, at a calendar time in nanoseconds. -/
  | poll (now : Nat) (see : ι → Vitals)

namespace HealthMonitor

variable {ι : Type}

/-- Does what it is asked to do: the events that it sends, and the monitor afterwards. -/
def attend (m : HealthMonitor ι) : HealthDuty ι → List HealthEvent × HealthMonitor ι
  | .watch name subject => ([], m.watch name subject)
  | .poll now see => m.poll now see

/-- Does one thing after the other. -/
def run (m : HealthMonitor ι) : List (HealthDuty ι) → List HealthEvent × HealthMonitor ι
  | [] => ([], m)
  | duty :: rest =>
    let (events, m) := m.attend duty
    let (more, m) := m.run rest
    (events ++ more, m)

end HealthMonitor

end PcmRender
