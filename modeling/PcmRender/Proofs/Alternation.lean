/-
  PcmRender.Proofs.Alternation — **every entry of a monitor is told its own story.**

  A monitor keeps one mark for each entry: whether its malfunction was reported.  The mark is the last
  event of the entry, so that what an entry reports at a poll is decided by what polls have seen of
  it, and by nothing else:

      last event       seen                                reported
      none, recovery   a stall as old as the threshold     a malfunction, with the onset seen
      malfunction      no stall                            a recovery
      otherwise                                            nothing

  Hence the events of an entry alternate, and a monitor of many entries is many monitors of one.

  Main statements:
    * `alternating` — the events of one entry,
    * `look_report` — one look is one line of the table,
    * `run_watched` — a monitor after whatever it was asked to do,
    * `health_events_alternate` — all of it.
-/
import Mathlib.Data.List.Induction
import PcmRender.Health

namespace PcmRender

/-! ## §1. What one entry reports. -/

/-- Whether it tells of a malfunction. -/
def HealthEvent.isMalfunction : HealthEvent → Bool
  | .malfunctioning _ _ _ => true
  | .recovered _ _ => false

/-- What a poll seenAgain of an entry. -/
structure Sighting where
  /-- The calendar time in nanoseconds. -/
  now : Nat
  /-- The session. -/
  vitals : Vitals

/-- How long a stall has lasted: no time if the clock is behind its onset. -/
def Sighting.age (s : Sighting) (since : Nat) : Duration :=
  ⟨s.now - (Duration.ofMillis since).nanos⟩

/-- A watched session, and what the polls have seen of it since, the oldest first. -/
structure WatchRecord (ι : Type) where
  /-- The name it is reported under. -/
  name : String
  /-- Which session it is. -/
  subject : ι
  /-- What was seen of it. -/
  seen : List Sighting := []

namespace WatchRecord

variable {ι : Type}

/-- Whether the last of some events tells of a malfunction. -/
def standing (events : List HealthEvent) : Bool := events.getLast?.any HealthEvent.isMalfunction

/-- What is reported under a name, with or without a malfunction standing. -/
def verdict (threshold : Duration) (name : String) (standing : Bool) (s : Sighting) :
    Option HealthEvent :=
  match s.vitals.since with
  | some since =>
    if standing = false ∧ threshold ≤ s.age since then
      some (.malfunctioning name s.vitals.device since)
    else none
  | none => if standing = true then some (.recovered name s.vitals.device) else none

/-- All that was reported of a session. -/
def events (threshold : Duration) (p : WatchRecord ι) : List HealthEvent :=
  p.seen.foldl (fun events s => events ++ (verdict threshold p.name (standing events) s).toList) []

/-- Whether the last that was reported of a session is a malfunction. -/
def reported (threshold : Duration) (p : WatchRecord ι) : Bool := standing (p.events threshold)

/-- What is reported of a session that is seen once more. -/
def report (threshold : Duration) (p : WatchRecord ι) (s : Sighting) : Option HealthEvent :=
  verdict threshold p.name (p.reported threshold) s

/-- A record of a session that was seen once more. -/
def seenAgain (p : WatchRecord ι) (s : Sighting) : WatchRecord ι := { p with seen := p.seen ++ [s] }

/-! ## §2. Alternation. -/

theorem verdict_malfunctioning {threshold : Duration} {name : String} {standing : Bool}
    {s : Sighting} {other device : String} {since : Nat} :
    verdict threshold name standing s = some (.malfunctioning other device since)
      ↔ standing = false ∧ s.vitals.since = some since ∧ threshold ≤ s.age since
        ∧ other = name ∧ device = s.vitals.device := by
  unfold verdict
  cases hsince : s.vitals.since with
  | none =>
      dsimp only
      split <;> simp
  | some onset =>
      dsimp only
      split
      next hold =>
        simp only [Option.some.injEq, HealthEvent.malfunctioning.injEq]
        constructor
        · rintro ⟨rfl, rfl, rfl⟩
          exact ⟨hold.1, rfl, hold.2, rfl, rfl⟩
        · rintro ⟨_, rfl, _, rfl, rfl⟩
          exact ⟨rfl, rfl, rfl⟩
      next hyoung =>
        refine ⟨fun h => absurd h (by simp), ?_⟩
        rintro ⟨hstanding, honset, hage, _, _⟩
        obtain rfl := Option.some.inj honset
        exact absurd ⟨hstanding, hage⟩ hyoung

theorem verdict_recovered {threshold : Duration} {name : String} {standing : Bool}
    {s : Sighting} {other device : String} :
    verdict threshold name standing s = some (.recovered other device)
      ↔ standing = true ∧ s.vitals.since = none ∧ other = name ∧ device = s.vitals.device := by
  unfold verdict
  cases hsince : s.vitals.since with
  | none =>
      dsimp only
      split
      next hstanding => simp [hstanding, eq_comm]
      next hquiet => simp [hquiet]
  | some onset =>
      dsimp only
      split <;> simp

/-- What is reported is the other kind of event. -/
theorem isMalfunction_verdict {threshold : Duration} {name : String} {standing : Bool}
    {s : Sighting} {event : HealthEvent} (h : verdict threshold name standing s = some event) :
    event.isMalfunction = !standing := by
  cases event with
  | malfunctioning other device since =>
      rw [(verdict_malfunctioning.mp h).1]
      rfl
  | recovered other device =>
      rw [(verdict_recovered.mp h).1]
      rfl

theorem standing_concat (events : List HealthEvent) (event : HealthEvent) :
    standing (events ++ [event]) = event.isMalfunction := by
  unfold standing
  rw [List.getLast?_concat]
  rfl

theorem events_seenAgain (threshold : Duration) (p : WatchRecord ι) (s : Sighting) :
    (p.seenAgain s).events threshold = p.events threshold ++ (p.report threshold s).toList := by
  unfold events seenAgain
  rw [List.foldl_append]
  rfl

/-- Events that alternate, beginning with a malfunction. -/
def Alternate (events : List HealthEvent) : Prop :=
  ∀ i (h : i < events.length), events[i].isMalfunction = (i % 2 == 0)

/-- A malfunction stands exactly if their number is odd. -/
theorem Alternate.standing {events : List HealthEvent} (h : Alternate events) :
    standing events = (events.length % 2 == 1) := by
  cases events using List.reverseRecOn with
  | nil => rfl
  | append_singleton front event =>
      have hlast := h front.length (by simp)
      rw [List.getElem_concat_length rfl] at hlast
      rw [standing_concat, hlast, List.length_append, List.length_singleton]
      rcases Nat.mod_two_eq_zero_or_one front.length with heven | hodd
      · rw [heven, show (front.length + 1) % 2 = 1 by omega]
        rfl
      · rw [hodd, show (front.length + 1) % 2 = 0 by omega]
        rfl

theorem Alternate.concat {events : List HealthEvent} (h : Alternate events) {event : HealthEvent}
    (hother : event.isMalfunction = !WatchRecord.standing events) : Alternate (events ++ [event]) := by
  intro i hi
  rw [List.length_append, List.length_singleton] at hi
  by_cases hbefore : i < events.length
  · rw [List.getElem_append_left hbefore]
    exact h i hbefore
  · obtain rfl : i = events.length := by omega
    rw [List.getElem_concat_length rfl, hother, h.standing]
    rcases Nat.mod_two_eq_zero_or_one events.length with heven | hodd
    · rw [heven]
      rfl
    · rw [hodd]
      rfl

/-- **The events of an entry alternate**, whatever was seen of it. -/
theorem alternate_events (threshold : Duration) (p : WatchRecord ι) :
    Alternate (p.events threshold) := by
  obtain ⟨name, subject, seen⟩ := p
  induction seen using List.reverseRecOn with
  | nil => exact fun i hi => absurd hi (Nat.not_lt_zero i)
  | append_singleton seen s ih =>
      have hagain := events_seenAgain threshold { name, subject, seen } s
      rw [show ({ name, subject, seen := seen ++ [s] } : WatchRecord ι)
        = ({ name, subject, seen } : WatchRecord ι).seenAgain s from rfl, hagain]
      cases hreport : ({ name, subject, seen } : WatchRecord ι).report threshold s with
      | none =>
          rw [Option.toList_none, List.append_nil]
          exact ih
      | some event =>
          rw [Option.toList_some]
          exact ih.concat (isMalfunction_verdict hreport)

end WatchRecord

/-! ## §3. A monitor and its entries. -/

namespace HealthDuty

variable {ι : Type}

/-- What the polls among some duties see of a session. -/
def sightings (subject : ι) : List (HealthDuty ι) → List Sighting
  | [] => []
  | .watch _ _ :: rest => sightings subject rest
  | .poll now see :: rest => ⟨now, see subject⟩ :: sightings subject rest

/-- The sessions that some duties want watched, in order, each with what the polls behind that have
seen of it. -/
def records : List (HealthDuty ι) → List (WatchRecord ι)
  | [] => []
  | .watch name subject :: rest =>
    { name, subject, seen := sightings subject rest } :: records rest
  | .poll _ _ :: rest => records rest

theorem sightings_watch (subject : ι) (duties : List (HealthDuty ι)) (name : String) (other : ι) :
    sightings subject (duties ++ [.watch name other]) = sightings subject duties := by
  induction duties with
  | nil => rfl
  | cons duty rest ih =>
      cases duty with
      | watch _ _ => exact ih
      | poll now see => exact congrArg (⟨now, see subject⟩ :: ·) ih

theorem sightings_poll (subject : ι) (duties : List (HealthDuty ι)) (now : Nat)
    (see : ι → Vitals) : sightings subject (duties ++ [.poll now see])
      = sightings subject duties ++ [⟨now, see subject⟩] := by
  induction duties with
  | nil => rfl
  | cons duty rest ih =>
      cases duty with
      | watch _ _ => exact ih
      | poll earlier seen => exact congrArg (⟨earlier, seen subject⟩ :: ·) ih

theorem records_watch (duties : List (HealthDuty ι)) (name : String) (subject : ι) :
    records (duties ++ [.watch name subject])
      = records duties ++ [({ name, subject } : WatchRecord ι)] := by
  induction duties with
  | nil => rfl
  | cons duty rest ih =>
      cases duty with
      | poll _ _ => exact ih
      | watch other watched =>
          show (⟨other, watched, sightings watched (rest ++ [.watch name subject])⟩ : WatchRecord ι)
            :: records (rest ++ [.watch name subject]) = _
          rw [ih, sightings_watch]
          rfl

/-- A poll seenAgain every session that is watched. -/
theorem records_poll (duties : List (HealthDuty ι)) (now : Nat) (see : ι → Vitals) :
    records (duties ++ [.poll now see])
      = (records duties).map fun p => p.seenAgain ⟨now, see p.subject⟩ := by
  induction duties with
  | nil => rfl
  | cons duty rest ih =>
      cases duty with
      | poll _ _ => exact ih
      | watch name subject =>
          show (⟨name, subject, sightings subject (rest ++ [.poll now see])⟩ : WatchRecord ι)
            :: records (rest ++ [.poll now see]) = _
          rw [ih, sightings_poll]
          rfl

end HealthDuty

namespace HealthMonitor

open HealthDuty (records)

variable {ι : Type} {threshold : Duration}

/-- The entry that a record belongs to. -/
def entry (threshold : Duration) (p : WatchRecord ι) : HealthEntry ι where
  name := p.name
  subject := p.subject
  reported := p.reported threshold

/-- **One look reports what is to be reported of a session**, and leaves the entry of a session that
was seen once more. -/
theorem look_report (p : WatchRecord ι) (now : Nat) (vitals : Vitals) :
    look threshold now (entry threshold p) vitals
      = (p.report threshold ⟨now, vitals⟩, entry threshold (p.seenAgain ⟨now, vitals⟩)) := by
  have hmark : (p.seenAgain ⟨now, vitals⟩).reported threshold
      = ((p.report threshold ⟨now, vitals⟩).map HealthEvent.isMalfunction).getD
          (p.reported threshold) := by
    unfold WatchRecord.reported
    rw [WatchRecord.events_seenAgain]
    cases p.report threshold ⟨now, vitals⟩ with
    | none => rw [Option.toList_none, List.append_nil]; rfl
    | some event => rw [Option.toList_some, WatchRecord.standing_concat]; rfl
  have hentry : entry threshold (p.seenAgain ⟨now, vitals⟩)
      = { entry threshold p with reported := (p.seenAgain ⟨now, vitals⟩).reported threshold } := rfl
  rw [hentry, hmark]
  unfold look WatchRecord.report WatchRecord.verdict entry
  cases hsince : vitals.since with
  | none => cases p.reported threshold <;> rfl
  | some since =>
      cases p.reported threshold with
      | true => rfl
      | false =>
          show (if threshold ≤ Sighting.age ⟨now, vitals⟩ since then _ else _) = _
          by_cases hold : threshold ≤ Sighting.age ⟨now, vitals⟩ since
          · simp [hold, HealthEvent.isMalfunction]
          · simp [hold]

/-- The monitor of the sessions that some records are about. -/
def ofRecords (threshold : Duration) (records : List (WatchRecord ι)) : HealthMonitor ι where
  entries := records.map (entry threshold)
  threshold := threshold

/-- **A poll lists in their order what is to be reported of the sessions.** -/
theorem poll_ofRecords (ps : List (WatchRecord ι)) (now : Nat) (see : ι → Vitals) :
    (ofRecords threshold ps).poll now see
      = (ps.filterMap fun p => p.report threshold ⟨now, see p.subject⟩,
        ofRecords threshold (ps.map fun p => p.seenAgain ⟨now, see p.subject⟩)) := by
  have hlooks : (ofRecords threshold ps).entries.map
        (fun entry => look threshold now entry (see entry.subject))
      = ps.map fun p => (p.report threshold ⟨now, see p.subject⟩,
          entry threshold (p.seenAgain ⟨now, see p.subject⟩)) := by
    unfold ofRecords
    rw [List.map_map]
    exact List.map_congr_left fun p _ => look_report p now (see p.subject)
  unfold poll
  rw [show (ofRecords threshold ps).threshold = threshold from rfl, hlooks]
  dsimp only
  rw [List.filterMap_map, List.map_map]
  unfold ofRecords
  rw [List.map_map]
  rfl

theorem run_concat (m : HealthMonitor ι) (duties : List (HealthDuty ι)) (duty : HealthDuty ι) :
    m.run (duties ++ [duty]) = ((m.run duties).1 ++ ((m.run duties).2.attend duty).1,
      ((m.run duties).2.attend duty).2) := by
  induction duties generalizing m with
  | nil => simp [run]
  | cons first rest ih =>
      show ((m.attend first).1 ++ ((m.attend first).2.run (rest ++ [duty])).1,
        ((m.attend first).2.run (rest ++ [duty])).2) = _
      rw [ih]
      simp [run]

/-- **Whatever a monitor was asked to do**, it is the monitor of those it watches and of what was seen
of them. -/
theorem run_watched (duties : List (HealthDuty ι)) :
    (({ threshold } : HealthMonitor ι).run duties).2 = ofRecords threshold (records duties) := by
  induction duties using List.reverseRecOn with
  | nil => rfl
  | append_singleton duties duty ih =>
      rw [run_concat, ih]
      cases duty with
      | watch name subject =>
          rw [HealthDuty.records_watch]
          unfold ofRecords
          rw [List.map_append]
          rfl
      | poll now see =>
          rw [HealthDuty.records_poll]
          exact congrArg Prod.snd (poll_ofRecords (records duties) now see)

end HealthMonitor

/-! ## §4. Monitors of one entry. -/

namespace HealthDuty

variable {ι : Type}

/-- Whether it is a poll. -/
def isPoll : HealthDuty ι → Bool
  | .poll _ _ => true
  | .watch _ _ => false

/-- For every session that is watched, in order, the duties of a monitor that watches no other. -/
def separately : List (HealthDuty ι) → List (List (HealthDuty ι))
  | [] => []
  | .watch name subject :: rest => (.watch name subject :: rest.filter isPoll) :: separately rest
  | .poll _ _ :: rest => separately rest

theorem sightings_polls (subject : ι) (duties : List (HealthDuty ι)) :
    sightings subject (duties.filter isPoll) = sightings subject duties := by
  induction duties with
  | nil => rfl
  | cons duty rest ih =>
      cases duty with
      | watch _ _ => exact ih
      | poll now see => exact congrArg (⟨now, see subject⟩ :: ·) ih

theorem records_polls (duties : List (HealthDuty ι)) : records (duties.filter isPoll) = [] := by
  induction duties with
  | nil => rfl
  | cons duty rest ih => cases duty <;> exact ih

/-- Alone a session is seen as often as among others. -/
theorem records_alone (name : String) (subject : ι) (rest : List (HealthDuty ι)) :
    records (.watch name subject :: rest.filter isPoll)
      = [({ name, subject, seen := sightings subject rest } : WatchRecord ι)] := by
  show ({ name, subject, seen := sightings subject (rest.filter isPoll) } : WatchRecord ι)
    :: records (rest.filter isPoll) = _
  rw [records_polls, sightings_polls]

end HealthDuty

namespace HealthMonitor

open HealthDuty (records separately)

variable {ι : Type} {threshold : Duration}

theorem poll_watched (threshold : Duration) (duties : List (HealthDuty ι)) (now : Nat) (see : ι → Vitals) :
    ((({ threshold } : HealthMonitor ι).run duties).2.poll now see).1
      = (records duties).filterMap fun p => p.report threshold ⟨now, see p.subject⟩ := by
  rw [run_watched, poll_ofRecords]

/-- **A monitor of many entries is many monitors of one**: a poll lists, entry after entry, what a
monitor of this entry alone would send. -/
theorem poll_separately (duties : List (HealthDuty ι)) (now : Nat) (see : ι → Vitals) :
    ((({ threshold } : HealthMonitor ι).run duties).2.poll now see).1
      = (separately duties).flatMap fun alone =>
          ((({ threshold } : HealthMonitor ι).run alone).2.poll now see).1 := by
  rw [poll_watched]
  induction duties with
  | nil => rfl
  | cons duty rest ih =>
      cases duty with
      | poll _ _ => exact ih
      | watch name subject =>
          have halone := poll_watched threshold
            (.watch name subject :: rest.filter HealthDuty.isPoll) now see
          rw [HealthDuty.records_alone] at halone
          show (([⟨name, subject, HealthDuty.sightings subject rest⟩] : List (WatchRecord ι))
            ++ records rest).filterMap _ = _ ++ (separately rest).flatMap _
          rw [List.filterMap_append, ih, ← halone]

end HealthMonitor

/-! ## §5. What a monitor sends. -/

/-- The events of a session alternate, and come when they have to. -/
structure WatchRecord.Alternates {ι : Type} (threshold : Duration) (p : WatchRecord ι) : Prop where
  /-- The events so far are a malfunction, a recovery, a malfunction, and so on. -/
  alternate : Alternate (p.events threshold)
  /-- What is reported comes behind them. -/
  grows : ∀ s, (p.seenAgain s).events threshold = p.events threshold ++ (p.report threshold s).toList
  /-- A malfunction is reported exactly if none stands, and there is a stall as old as the threshold;
  it carries the onset that was seen. -/
  malfunctioning : ∀ s name device since,
    p.report threshold s = some (.malfunctioning name device since)
      ↔ p.reported threshold = false ∧ s.vitals.since = some since ∧ threshold ≤ s.age since
        ∧ name = p.name ∧ device = s.vitals.device
  /-- A recovery is reported exactly if a malfunction stands, and there is no stall. -/
  recovered : ∀ s name device, p.report threshold s = some (.recovered name device)
    ↔ p.reported threshold = true ∧ s.vitals.since = none ∧ name = p.name
      ∧ device = s.vitals.device

theorem WatchRecord.alternating {ι : Type} (threshold : Duration) (p : WatchRecord ι) :
    p.Alternates threshold where
  alternate := p.alternate_events threshold
  grows := fun s => p.events_seenAgain threshold s
  malfunctioning := fun _ _ _ _ => verdict_malfunctioning
  recovered := fun _ _ _ => verdict_recovered

namespace HealthMonitor

open HealthDuty (records separately)

/-- **Health events alternate.**  Whatever a monitor is asked to do, with sessions that are added at any
time and polls that see any onset at any reading of the clock: a poll sends behind what was sent
before, in the order of the entries, what is to be reported of each of them, and every entry has been
seen once more then.  The events of an entry are a malfunction, a recovery, a malfunction, and so on; a
malfunction comes exactly when none stands and the stall is as old as the threshold, and a recovery
exactly when one stands and there is no stall.

No entry has a say in the events of another, whatever name or session they share: together they come
to what a monitor of each of them alone would send. -/
theorem health_events_alternate {ι : Type} (threshold : Duration) (duties : List (HealthDuty ι))
    (now : Nat) (see : ι → Vitals) :
    (({ threshold } : HealthMonitor ι).run (duties ++ [.poll now see])).1
        = (({ threshold } : HealthMonitor ι).run duties).1
          ++ (records duties).filterMap (fun p => p.report threshold ⟨now, see p.subject⟩)
      ∧ records (duties ++ [.poll now see])
        = (records duties).map (fun p => p.seenAgain ⟨now, see p.subject⟩)
      ∧ (∀ p : WatchRecord ι, p.Alternates threshold)
      ∧ ((({ threshold } : HealthMonitor ι).run duties).2.poll now see).1
        = (separately duties).flatMap fun alone =>
            ((({ threshold } : HealthMonitor ι).run alone).2.poll now see).1 := by
  refine ⟨?_, HealthDuty.records_poll duties now see, WatchRecord.alternating threshold,
    poll_separately duties now see⟩
  rw [run_concat, ← poll_watched]
  rfl

/-- Two entries of one name: the first is reported with an onset that has moved since it was set, and
recovers; the second is reported when it is old enough, though the clock has gone back between. -/
example : (({ threshold := Duration.ofMillis 500 } : HealthMonitor Bool).run
    [.watch "main" true, .poll 1200000000 fun _ => ⟨some 1000, "left"⟩, .watch "main" false,
      .poll 1700000000 fun first => ⟨some (if first then 1100 else 1600), "left"⟩,
      .poll 900000000 fun first => ⟨if first then none else some 1600, "left"⟩,
      .poll 2100000000 fun first => ⟨if first then none else some 1600, "right"⟩]).1
    = [.malfunctioning "main" "left" 1100, .recovered "main" "left",
      .malfunctioning "main" "right" 1600] := by decide

end HealthMonitor

end PcmRender
