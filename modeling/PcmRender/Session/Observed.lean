/-
  PcmRender.Session.Observed — **a session under a health monitor.**

  A monitor has a thread of its own and looks at the session again and again.  A stepped session
  stands still between two calls, so looking once at the end of every stretch of time sees all that
  such a thread sees.  What the monitor reports is kept until someone asks for it.

  Main definitions:
    * `ObservedSession` — the session, its monitor, and the reports,
    * `ObservedSession.observe`, `ObservedSession.await`.
-/
import PcmRender.Health
import PcmRender.Session.Stepped

namespace PcmRender

/-- A stepped session and a monitor over it. -/
structure ObservedSession (σ κ : Type) where
  /-- The session. -/
  live : SteppedSession σ κ
  /-- The monitor, if one runs and someone listens to it. -/
  monitor : Option (HealthMonitor Unit) := none
  /-- What it has reported and nobody has asked for yet. -/
  reported : List HealthEvent := []

namespace ObservedSession

variable {σ κ : Type}

/-- What a monitor sees of the session. -/
def vitals (o : ObservedSession σ κ) : Vitals :=
  { since := o.live.session.published, device := o.live.session.deviceName }

/-- The monitor looks once. -/
def look (o : ObservedSession σ κ) : ObservedSession σ κ :=
  match o.monitor with
  | none => o
  | some m =>
    let (events, m) := m.poll o.live.calendar fun _ => o.vitals
    { o with monitor := some m, reported := o.reported ++ events }

/-- Time passes. -/
def sleep (o : ObservedSession σ κ) (time : Duration) : ObservedSession σ κ :=
  { o with live := o.live.sleep time }.look

/-- A new monitor watches the session under some names. -/
def observe [Host σ] (o : ObservedSession σ κ) (threshold : Duration) (names : List String) :
    Except Fault Unit × ObservedSession σ κ :=
  match Host.spawn o.live.session.host with
  | .error reason => (.error (.error (.io reason)), o)
  | .ok () =>
    let empty : HealthMonitor Unit := { threshold }
    let m := names.foldl (fun m name => m.watch name ()) empty
    (.ok (), { o with monitor := some m, reported := [] })

/-- The monitor ends, or nobody listens to it any more. -/
def unobserve (o : ObservedSession σ κ) : ObservedSession σ κ := { o with monitor := none }

/-- The reports so far.  If they are fewer than expected, they are waited for, as long as a stall
has to last before it is reported. -/
def await (o : ObservedSession σ κ) (expected : Nat) : List HealthEvent × ObservedSession σ κ :=
  let o := o.look
  let o := match o.monitor with
    | some m => if o.reported.length < expected then o.sleep m.threshold else o
    | none => o
  (o.reported, { o with reported := [] })

end ObservedSession

end PcmRender
