/-
  PcmRender.Proofs.Delivery — **every accepted byte reaches the device once, in order, scaled once.**

  The bytes that cycles have taken out of the ring, followed by the bytes still in it, form one
  stream.  Whatever sections producers, drain tasks, stops and starts take, each of them does one of
  three things to this stream:

      feed     puts the bytes that it accepts behind it
      cycle    moves bytes over the border between what was taken out and what is queued, and may
               put zeros behind it
      start    puts zeros at that border

  So the stream is always what was accepted so far, with zeros inserted (`Padded`), behind the
  silence that the ring held when its route was opened.

  On the other side of the ring a cycle scales a copy.  The endpoint takes the first frames of the
  copy, exactly these frames leave the ring, and scaling goes frame by frame: so what arrives is the
  scaled image of what was taken out.
-/
import PcmRender.Proofs.Endpoint
import PcmRender.Proofs.Gain
import PcmRender.Proofs.Sections
import PcmRender.Session.Flow
import PcmRender.Stage.Linear

namespace PcmRender

/-! ## §1. A stream with silence in it. -/

/-- The second list is the first one with zero bytes inserted. -/
inductive Padded : List UInt8 → List UInt8 → Prop
  /-- Nothing is left to insert. -/
  | nil : Padded [] []
  /-- A byte of the first list, in its turn. -/
  | keep (b : UInt8) {base stream : List UInt8} (h : Padded base stream) :
      Padded (b :: base) (b :: stream)
  /-- An inserted zero. -/
  | silence {base stream : List UInt8} (h : Padded base stream) : Padded base (0 :: stream)

namespace Padded

theorem refl : ∀ base : List UInt8, Padded base base
  | [] => nil
  | b :: base => keep b (refl base)

theorem silent : ∀ zeros : Nat, Padded [] (List.replicate zeros 0)
  | 0 => nil
  | zeros + 1 => silence (silent zeros)

theorem append {a x b y : List UInt8} (h : Padded a x) (k : Padded b y) :
    Padded (a ++ b) (x ++ y) := by
  induction h with
  | nil => exact k
  | keep byte _ ih => exact keep byte ih
  | silence _ ih => exact silence ih

/-- More bytes on both sides. -/
theorem behind {base stream : List UInt8} (h : Padded base stream) (more : List UInt8) :
    Padded (base ++ more) (stream ++ more) := h.append (refl more)

/-- Silence behind the stream. -/
theorem behind_silent {base stream : List UInt8} (h : Padded base stream) (zeros : Nat) :
    Padded base (stream ++ List.replicate zeros 0) := by
  have hboth := h.append (silent zeros)
  rw [List.append_nil] at hboth
  exact hboth

/-- Silence in front of the stream. -/
theorem before_silent {base stream : List UInt8} (h : Padded base stream) (zeros : Nat) :
    Padded base (List.replicate zeros 0 ++ stream) := (silent zeros).append h

/-- **Silence at any place of the stream.** -/
theorem inside {base back : List UInt8} : ∀ {front : List UInt8}, Padded base (front ++ back) →
    ∀ zeros, Padded base (front ++ (List.replicate zeros 0 ++ back)) := by
  intro front h zeros
  induction front generalizing base with
  | nil => exact h.before_silent zeros
  | cons b front ih =>
      cases h with
      | keep _ h => exact keep b (ih h)
      | silence h => exact silence (ih h)

end Padded

/-! ## §2. What a cycle delivers. -/

namespace DeviceRoute

variable {σ κ : Type} [Host σ]

/-- A route without a conversion, whose stream honours its contract for frames of the source. -/
structure Plain (received : σ → List UInt8) (r : DeviceRoute κ) : Prop where
  /-- There is no conversion. -/
  stage : r.stage = none
  /-- Samples of the source can be decoded. -/
  supported : r.source.isSupported = true
  /-- The stream keeps what it takes. -/
  keeps : r.endpoint.Keeps r.source.align received

theorem Plain.of_continues {received : σ → List UInt8} {r later : DeviceRoute κ}
    (h : Plain received r) (k : Continues r later) : Plain received later where
  stage := k.plain h.stage
  supported := by rw [k.source]; exact h.supported
  keeps := by rw [k.endpoint, k.source]; exact h.keeps

/-- What arrives of a cycle is the scaled image of what it took out. -/
def Delivers (received : σ → List UInt8) (r : DeviceRoute κ) (host : σ) (gain : Single)
    (done : Cycled σ κ) : Prop :=
  ∃ piece, Gain.scaleBytes? r.source gain done.popped = some piece
    ∧ received done.host = received host ++ piece

variable {received : σ → List UInt8} {r : DeviceRoute κ}

/-- A cycle in which nothing leaves the ring delivers nothing. -/
theorem delivers_unmoved (h : Plain received r) {host after : σ} (gain : Single)
    (hsame : received after = received host) (later : DeviceRoute κ)
    (outcome : Except CycleFault Nat) (offered : Option (List UInt8)) :
    Delivers received r host gain (unmoved after later outcome offered) :=
  ⟨[], Gain.scaleBytes?_nil h.supported gain, by rw [List.append_nil]; exact hsame⟩

/-- **A delivery scales more than the stream takes**, and exactly what it takes leaves the ring. -/
theorem delivers_deliverPlain (h : Plain received r) {host : σ} {gain : Single} {amount : Nat}
    {staged : List UInt8}
    (hstaged : Gain.scaleBytes? r.source gain (r.ring.content.take amount) = some staged) :
    Delivers received r host gain (deliverPlain host r staged) := by
  unfold deliverPlain
  split
  next after hwrite => exact delivers_unmoved h gain (h.keeps.refuse _ _ _ _ hwrite) _ _ _
  next after hwrite => exact delivers_unmoved h gain (h.keeps.refuse _ _ _ _ hwrite) _ _ _
  next taken after hwrite =>
    obtain ⟨hfits, hreceived⟩ := h.keeps.write _ _ _ _ hwrite
    -- More may have been scaled than was taken; cutting first would have given the same bytes.
    have hlength := Gain.length_scaleBytes? h.supported hstaged
    have hscaled := Gain.scaleBytes?_take h.supported hstaged (by rw [← hlength]; exact hfits)
    have hamount : taken * r.source.align ≤ amount := by
      rw [hlength, List.length_take] at hfits
      omega
    rw [List.take_take, Nat.min_eq_left hamount] at hscaled
    exact ⟨staged.take (taken * r.source.align), hscaled, hreceived⟩

variable [Stage κ]

/-- **Every cycle delivers the scaled image of what it takes out**, whatever the endpoint says of
its room. -/
theorem delivers_cycle (h : Plain received r) (host : σ) (gain : Single) :
    Delivers received r host gain (r.cycle host gain) := by
  have hfree := h.keeps.freeFrames host
  have houtcome := cycle_outcome host r gain
  generalize r.cycle host gain = done at houtcome
  cases houtcome with
  | idle hroom =>
      rw [hroom] at hfree
      exact delivers_unmoved h gain hfree _ _ _
  | unscaled hasks =>
      rw [hasks.room] at hfree
      exact delivers_unmoved h gain hfree _ _ _
  | plain hasks hscaled =>
      rw [hasks.room] at hfree
      obtain ⟨piece, himage, hreceived⟩ :=
        delivers_deliverPlain (h.of_continues (r.continues_padded _)) hscaled
      exact ⟨piece, himage, hreceived.trans (by rw [hfree])⟩
  | converted _ _ hthrough =>
      rw [h.stage] at hthrough
      exact absurd hthrough (by simp)

end DeviceRoute

/-! ## §3. Books. -/

namespace Ledger

theorem popped_append (a b : Ledger) : (a.append b).popped = a.popped ++ b.popped :=
  List.flatMap_append

theorem append_assoc (a b c : Ledger) : (a.append b).append c = a.append (b.append c) := by
  unfold append
  rw [List.append_assoc, List.append_assoc]

/-- What should arrive according to two books, one behind the other. -/
theorem scaled?_append {source : Format} {a b : Ledger} {image more : List UInt8}
    (ha : a.scaled? source = some image) (hb : b.scaled? source = some more) :
    (a.append b).scaled? source = some (image ++ more) := by
  unfold scaled? at ha hb ⊢
  obtain ⟨pieces, hpieces, rfl⟩ := Option.map_eq_some_iff.mp ha
  obtain ⟨others, hothers, rfl⟩ := Option.map_eq_some_iff.mp hb
  show ((a.movements ++ b.movements).mapM (Movement.scaled? source)).map List.flatten = _
  rw [List.mapM_append, hpieces, hothers, ← List.flatten_append]
  rfl

end Ledger

/-! ## §4. What one section carries. -/

namespace Session

variable {σ κ : Type} [Host σ] {received : σ → List UInt8} {r : DeviceRoute κ}

/-- What sections with the books `l` do to a session on the route `r`, and to the stream of what was
taken out of its ring and what is still queued there. -/
structure Carries (received : σ → List UInt8) (r : DeviceRoute κ) (s t : Session σ κ)
    (l : Ledger) : Prop where
  /-- The session stays on its route, and the stream grows by what was accepted and by silence. -/
  stream : ∃ later, t.route = .device later ∧ r.Continues later ∧
    ∀ base popped, Padded base (popped ++ r.ring.content) →
      Padded (base ++ l.accepted) (popped ++ l.popped ++ later.ring.content)
  /-- Movement by movement, what arrives is the scaled image of what was taken out. -/
  arrived : ∃ image, l.scaled? r.source = some image ∧ received t.host = received s.host ++ image

omit [Host σ] in
/-- A section that leaves the content of the ring and the device alone carries nothing. -/
theorem Carries.still {s t : Session σ κ} {later : DeviceRoute κ} (hroute : t.route = .device later)
    (hcont : r.Continues later) (hcontent : later.ring.content = r.ring.content)
    (hhost : received t.host = received s.host) : Carries received r s t {} where
  stream := by
    refine ⟨later, hroute, hcont, fun base popped h => ?_⟩
    show Padded (base ++ []) (popped ++ [] ++ later.ring.content)
    rw [List.append_nil, List.append_nil, hcontent]
    exact h
  arrived := ⟨[], rfl, by rw [hhost, List.append_nil]⟩

omit [Host σ] in
/-- So does one that leaves the whole route and the whole host alone. -/
theorem Carries.frame {s t : Session σ κ} (hr : s.route = .device r) (hroute : t.route = s.route)
    (hhost : t.host = s.host) : Carries received r s t {} :=
  Carries.still (hroute.trans hr) (DeviceRoute.Continues.refl r) rfl (by rw [hhost])

omit [Host σ] in
/-- **What a producer is told is taken is what fits**, and it goes behind the content. -/
theorem taken_feedRoute (s : Session σ κ) (r : DeviceRoute κ) (chunk : List UInt8)
    (now : Instant) :
    (s.feedRoute r chunk now).1.taken chunk = chunk.take r.ring.free
      ∧ ∃ later, (s.feedRoute r chunk now).2.route = .device later ∧ r.Continues later
        ∧ later.ring.content = r.ring.content ++ chunk.take r.ring.free
        ∧ (s.feedRoute r chunk now).2.host = s.host := by
  unfold feedRoute
  dsimp only
  split
  next hsome =>
    have hring := r.continues_ring (r.ring.append chunk).2 (Ring.capacity_append r.ring chunk)
    refine ⟨?_, _, rfl, hring.trans (DeviceRoute.continues_clear _),
      Ring.content_append r.ring chunk, rfl⟩
    rw [Ring.append_count]
    by_cases hall : min chunk.length r.ring.free = chunk.length
    · rw [if_pos hall]
      show chunk = _
      exact (List.take_of_length_le (by omega)).symm
    · rw [if_neg hall]
      show chunk.take (min chunk.length r.ring.free) = _
      rw [Nat.min_eq_right (by omega)]
  next hnone =>
    -- Nothing was copied although there was something to copy, so there is no room.
    have hfull : chunk.take r.ring.free = [] := by
      rw [Ring.append_count] at hnone
      rw [← List.length_eq_zero_iff, List.length_take]
      omega
    rw [hfull]
    exact ⟨rfl, _, rfl, r.continues_mark now.nanos, (List.append_nil _).symm, rfl⟩

omit [Host σ] in
/-- **A feed puts what its producer is told is taken behind the stream.** -/
theorem carries_feedSection {s : Session σ κ} (hr : s.route = .device r) (chunk : List UInt8)
    (now : Instant) :
    Carries received r s (s.feedSection chunk now).2
      { accepted := (s.feedSection chunk now).1.taken chunk } := by
  have hidle : Carries received r s s {} := Carries.frame hr rfl rfl
  unfold feedSection
  split
  next hempty =>
    have hnil : chunk = [] := List.isEmpty_iff.mp hempty
    subst hnil
    exact hidle
  · split
    · exact hidle
    · rw [hr]
      dsimp only
      split
      next hstarted =>
        obtain ⟨htaken, later, hroute, hcont, hcontent, hhost⟩ :=
          taken_feedRoute s r chunk now
        refine ⟨⟨later, hroute, hcont, fun base popped h => ?_⟩, [], rfl, ?_⟩
        · show Padded (base ++ _) (popped ++ [] ++ later.ring.content)
          rw [htaken, hcontent, List.append_nil, ← List.append_assoc]
          exact h.behind _
        · rw [hhost, List.append_nil]
      · exact hidle

/-- A stop leaves the stream as it is. -/
theorem carries_stopSection {s : Session σ κ} (hr : s.route = .device r)
    (h : r.Plain received) : Carries received r s s.stopSection.2 {} := by
  have hstop := h.keeps.stop s.host
  unfold stopSection
  split
  · have hcleared : Carries received r s s.stopStream.endRendering {} := by
      unfold stopStream
      rw [hr]
      dsimp only
      split
      next host hasked =>
        rw [hasked] at hstop
        exact Carries.still rfl r.continues_clear rfl hstop
      next host hasked =>
        rw [hasked] at hstop
        exact Carries.still rfl r.continues_clear rfl hstop
    exact hcleared
  · exact Carries.frame hr rfl rfl

/-- The wait of a drain task takes nothing. -/
theorem carries_pause {s : Session σ κ} (hr : s.route = .device r) (h : r.Plain received) :
    Carries received r s s.pause.2 {} := by
  have hwait := h.keeps.waitReady s.host
  unfold pause
  rw [hr]
  dsimp only
  split
  next host hasked =>
    rw [hasked] at hwait
    exact Carries.still rfl (DeviceRoute.Continues.refl r) rfl hwait
  next host hasked =>
    rw [hasked] at hwait
    exact Carries.still rfl (DeviceRoute.Continues.refl r) rfl hwait

/-- Nor does undoing a start. -/
theorem carries_undoStart {s : Session σ κ} (hr : s.route = .device r) (h : r.Plain received) :
    Carries received r s s.undoStart {} := by
  have hstop := h.keeps.stop s.host
  refine Carries.still hr (DeviceRoute.Continues.refl r) rfl ?_
  unfold undoStart
  rw [hr]
  exact hstop

variable [Stage κ]

/-- **A start puts silence in front of what is queued**, and nothing anywhere else. -/
theorem carries_startSection {s : Session σ κ} (hr : s.route = .device r)
    (h : r.Plain received) : Carries received r s s.startSection.2 {} := by
  have hstart := h.keeps.start s.host
  have hrewound : ∀ t : Session σ κ, t.route = .device (rewound r) →
      received t.host = received s.host → Carries received r s t {} := by
    intro t hroute hhost
    refine ⟨⟨rewound r, hroute, continues_rewound r, fun base popped hp => ?_⟩, [], rfl, ?_⟩
    · show Padded (base ++ []) (popped ++ [] ++ r.ring.shiftToTail.content)
      rw [List.append_nil, List.append_nil, Ring.content_shiftToTail]
      exact hp.inside _
    · rw [hhost, List.append_nil]
  unfold startSection
  split
  · exact Carries.frame hr rfl rfl
  · rw [hr]
    unfold startDevice
    dsimp only
    split
    next host hasked =>
      rw [show Host.start s.host r.endpoint = _ from hasked] at hstart
      exact hrewound _ rfl hstart
    next host hasked =>
      rw [show Host.start s.host r.endpoint = _ from hasked] at hstart
      exact hrewound _ rfl hstart
    next e host _ hasked =>
      rw [show Host.start s.host r.endpoint = _ from hasked] at hstart
      exact hrewound _ rfl hstart

/-- **A turn of a drain task moves bytes out of the ring**, and what it moves arrives scaled. -/
theorem carries_drainTurn {s : Session σ κ} (hr : s.route = .device r) (h : r.Plain received)
    (generation : Nat) :
    Carries received r s (s.drainTurn generation).2 (s.entry (.turn generation)) := by
  unfold drainTurn
  dsimp only [entry]
  cases hcycle : s.cycle? generation with
  | none => exact Carries.frame hr rfl rfl
  | some found =>
      obtain ⟨before, done⟩ := found
      obtain ⟨_, _, hbefore, hdone⟩ := cycle?_eq_some hcycle
      rw [hr] at hbefore
      injection hbefore with hbefore
      subst hbefore
      have haccounts := DeviceRoute.accounts_cycle s.host r s.gain
      obtain ⟨piece, hscaled, hreceived⟩ := DeviceRoute.delivers_cycle h s.host s.gain
      rw [← hdone] at haccounts hscaled hreceived
      -- A turn ends in one of three ways, with the route and the host that the cycle has left.
      have hafter : ∀ t : Session σ κ, t.route = .device done.route → t.host = done.host →
          Carries received r s t { movements := [⟨s.gain, done.popped⟩] } := by
        intro t hroute hhost
        refine ⟨⟨done.route, hroute, haccounts.continues, fun base popped hp => ?_⟩,
          piece, ?_, ?_⟩
        · obtain ⟨zeros, hcontent⟩ := haccounts.content
          have hpadded := hp.behind_silent zeros
          rw [List.append_assoc, hcontent, ← List.append_assoc] at hpadded
          show Padded (base ++ []) (popped ++ (done.popped ++ []) ++ done.route.ring.content)
          rw [List.append_nil, List.append_nil]
          exact hpadded
        · have hone : Movement.scaled? r.source ⟨s.gain, done.popped⟩ = some piece := hscaled
          simp [Ledger.scaled?, hone]
        · rw [hhost, hreceived]
      dsimp only
      split
      · unfold drained
        split
        · exact hafter _ rfl rfl
        · exact hafter _ rfl rfl
      · exact hafter _ rfl rfl

/-! ## §5. What a run carries. -/

/-- A section that writes to the stream at most through the session. -/
def Passing.WritesBySessionOnly (received : σ → List UInt8) : Passing σ → Prop
  | .elsewhere change => ∀ host, received (change host) = received host
  | _ => True

/-- **Every section carries what the books say.** -/
theorem carries_passing {s : Session σ κ} (hr : s.route = .device r) (h : r.Plain received)
    {passing : Passing σ} (hquiet : passing.WritesBySessionOnly received) :
    Carries received r s (s.passing passing) (s.entry passing) := by
  cases passing with
  | feed chunk now => exact carries_feedSection hr chunk now
  | turn generation => exact carries_drainTurn hr h generation
  | pause => exact carries_pause hr h
  | leave generation =>
      show Carries received r s (s.drainExited generation) {}
      rw [drainExited_eq]
      exact Carries.frame hr rfl rfl
  | stop => exact carries_stopSection hr h
  | join =>
      obtain ⟨log, hlog⟩ := joinDrain_eq s
      show Carries received r s s.joinDrain {}
      rw [hlog]
      exact Carries.frame hr rfl rfl
  | start => exact carries_startSection hr h
  | forget => exact Carries.frame hr rfl rfl
  | spawned generation => exact Carries.frame hr rfl rfl
  | refused generation reason =>
      obtain ⟨log, hlog⟩ := spawnRefused_eq s generation reason
      show Carries received r s (s.spawnRefused generation reason) {}
      rw [hlog]
      exact Carries.frame hr rfl rfl
  | undo => exact carries_undoStart hr h
  | switching => exact Carries.frame hr rfl rfl
  | switched => exact Carries.frame hr rfl rfl
  | gain gain => exact Carries.frame hr rfl rfl
  | elsewhere change =>
      exact Carries.still hr (DeviceRoute.Continues.refl r) rfl (hquiet s.host)

omit [Host σ] [Stage κ] in
/-- What one book carries and then another, both of them carry. -/
theorem Carries.trans {s t u : Session σ κ} {l m : Ledger} (h : Carries received r s t l)
    (k : ∀ later, t.route = .device later → r.Continues later → Carries received later t u m) :
    Carries received r s u (l.append m) := by
  obtain ⟨⟨later, hroute, hcont, hstream⟩, image, himage, hhost⟩ := h
  obtain ⟨⟨last, hlast, hcont', hstream'⟩, image', himage', hhost'⟩ := k later hroute hcont
  -- The stream of the second part starts where the stream of the first one has got to.
  refine ⟨⟨last, hlast, hcont.trans hcont', fun base popped hp => ?_⟩, image ++ image', ?_, ?_⟩
  · have hboth := hstream' _ _ (hstream base popped hp)
    rw [List.append_assoc base, List.append_assoc popped] at hboth
    show Padded (base ++ (l.accepted ++ m.accepted))
      (popped ++ (l.movements ++ m.movements).flatMap Movement.popped ++ last.ring.content)
    rw [List.flatMap_append]
    exact hboth
  · rw [hcont.source] at himage'
    exact Ledger.scaled?_append himage himage'
  · rw [hhost', hhost, List.append_assoc]

/-- **Every run carries what its books say**: from section to section along the list. -/
theorem carries_flow (run : List (Passing σ)) : ∀ {s : Session σ κ} {r : DeviceRoute κ},
    s.route = .device r → r.Plain received → (∀ passing ∈ run, passing.WritesBySessionOnly received) →
      Carries received r s (s.flow run).2 (s.flow run).1 := by
  induction run with
  | nil =>
      intro s r hr _ _
      exact Carries.frame hr rfl rfl
  | cons passing rest ih =>
      intro s r hr h hquiet
      refine (carries_passing hr h (hquiet passing List.mem_cons_self)).trans ?_
      intro later hlater hcont
      exact ih hlater (h.of_continues hcont) fun p hp => hquiet p (List.mem_cons_of_mem _ hp)

/-- A route that was opened for a source can decode it, and is full of silence. -/
theorem opened_device {s t : Session σ κ} (hclosed : s.route = .closed)
    (hopen : s.openSection = (.ok (), t)) (hr : t.route = .device r) :
    r.source.isSupported = true ∧ r.ring.content = List.replicate r.ring.capacity 0 := by
  obtain ⟨hsupported, _, _, _, hbuilt⟩ := opened_built hclosed hopen hr
  obtain ⟨_, _, hsource, _, hring, _⟩ := DeviceRoute.build_ok hbuilt
  rw [hsource, hring, Ring.content_silent, Ring.capacity_silent]
  exact ⟨hsupported, rfl⟩

/-- **No accepted byte is lost, repeated, moved or scaled twice.**  Let a session open a device whose
stream needs no conversion, and let any sections follow as long as the route stays open.  Then the
bytes that cycles took out, followed by what is still queued, are the silence of the fresh ring and
every accepted byte in the order of acceptance, with zeros inserted; and the stream has received
what the cycles took out, each cycle's bytes scaled by the gain of that cycle. -/
theorem flow_delivers {s t : Session σ κ} (hclosed : s.route = .closed)
    (hopen : s.openSection = (.ok (), t)) (hr : t.route = .device r) (hplain : r.stage = none)
    (hkeeps : r.endpoint.Keeps r.source.align received) (run : List (Passing σ))
    (hquiet : ∀ passing ∈ run, passing.WritesBySessionOnly received) :
    (∃ later, (t.flow run).2.route = .device later
        ∧ Padded (List.replicate r.ring.capacity 0 ++ (t.flow run).1.accepted)
            ((t.flow run).1.popped ++ later.ring.content))
      ∧ ∃ image, (t.flow run).1.scaled? r.source = some image
        ∧ received (t.flow run).2.host = received t.host ++ image := by
  obtain ⟨hsupported, hsilent⟩ := opened_device hclosed hopen hr
  have hcarries : Carries received r t (t.flow run).2 (t.flow run).1 :=
    carries_flow run hr ⟨hplain, hsupported, hkeeps⟩ hquiet
  obtain ⟨later, hlater, _, hstream⟩ := hcarries.stream
  refine ⟨⟨later, hlater, ?_⟩, hcarries.arrived⟩
  have hfresh : Padded (List.replicate r.ring.capacity 0) ([] ++ r.ring.content) := by
    rw [List.nil_append, hsilent]
    exact Padded.refl _
  exact hstream _ _ hfresh

/-- A session over one speaker, before it is opened. -/
def quietSpeaker : Session DeviceBank (LinearResampler Double Single) where
  host := { devices := [{ id := "speaker", name := "Speaker", bufferFrames := 4, free := 4 }] }
  config := {}
  source := Format.pcm 8000 16 1
  selected := some "speaker"
  period := Timing.defaultPeriod

/-- The silence of the ring is played, and two samples are accepted.  At half the gain the speaker
takes one of them; the other waits behind new silence for the next start. -/
def twoSamples : List (Passing DeviceBank) :=
  [.start, .spawned 1, .turn 1, .feed [0xe8, 0x03, 0x18, 0xfc] ⟨0, 0⟩, .gain ⟨0x3f000000⟩,
    .elsewhere (·.setFree "speaker" 1), .turn 1, .stop, .leave 1, .join, .start, .spawned 3,
    .elsewhere (·.setFree "speaker" 4), .turn 3]

/-- The two samples reach the speaker at half their size, each of them once. -/
theorem flow_delivers_twoSamples :
    ∃ t r, quietSpeaker.openSection = (.ok (), t) ∧ t.route = .device r
      ∧ (∃ later, (t.flow twoSamples).2.route = .device later
        ∧ Padded (List.replicate r.ring.capacity 0 ++ (t.flow twoSamples).1.accepted)
            ((t.flow twoSamples).1.popped ++ later.ring.content))
      ∧ (t.flow twoSamples).1.accepted = [0xe8, 0x03, 0x18, 0xfc]
      ∧ (t.flow twoSamples).2.host.written "speaker"
        = [0, 0, 0, 0, 0, 0, 0, 0, 0xf4, 0x01, 0, 0, 0, 0, 0, 0, 0x0c, 0xfe] := by
  have hopen : quietSpeaker.openSection = (.ok (), quietSpeaker.openSection.2) := rfl
  have hquiet : ∀ passing ∈ twoSamples,
      passing.WritesBySessionOnly fun b : DeviceBank => b.written "speaker" := by
    simp [twoSamples, Passing.WritesBySessionOnly, DeviceBank.written_setFree]
  refine ⟨quietSpeaker.openSection.2, _, hopen, rfl,
    (flow_delivers rfl hopen rfl rfl (DeviceBank.keeps_written _) twoSamples hquiet).1, ?_, ?_⟩
  · decide +kernel
  · decide +kernel

end Session

end PcmRender
