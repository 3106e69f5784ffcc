/-
  PcmRender.Proofs.Framing — **where frames begin in what a device receives.**

  A producer may offer any number of bytes, so what was accepted may end inside of a frame.  What the
  device receives stays in step with its frames as long as no silence is put in at such a moment:

      behind   a cycle fills up to whole frames, so the silence is whole frames if what is queued is
      before   a start fills up the store, which holds whole frames

  `Framed` says what being in step means: the stream is the accepted frames in order, with whole
  frames of silence between them.  A producer that offers whole frames is always told that whole
  frames are taken, so its frames stay in step in every run.

  Once silence falls inside of a frame, what is accepted next is out of step.
-/
import PcmRender.Proofs.Weaving

namespace PcmRender

/-! ## §1. Streams in step with their frames. -/

/-- The second list is the first one with silent frames of `size` bytes between its frames. -/
inductive Framed (size : Nat) : List UInt8 → List UInt8 → Prop
  /-- What is left is not a whole frame. -/
  | rest {base : List UInt8} (short : base.length < size) : Framed size base base
  /-- A frame of the first list, in its turn. -/
  | frame {frame base stream : List UInt8} (whole : frame.length = size)
      (h : Framed size base stream) : Framed size (frame ++ base) (frame ++ stream)
  /-- A frame of silence. -/
  | silence {base stream : List UInt8} (h : Framed size base stream) :
      Framed size base (List.replicate size 0 ++ stream)

namespace Framed

variable {size : Nat} {base stream : List UInt8}

theorem refl (hsize : 0 < size) (base : List UInt8) : Framed size base base := by
  by_cases hshort : base.length < size
  · exact rest hshort
  · have htail := refl hsize (base.drop size)
    have hwhole : (base.take size).length = size := by rw [List.length_take]; omega
    have hboth := frame hwhole htail
    rw [List.take_append_drop] at hboth
    exact hboth
termination_by base.length
decreasing_by rw [List.length_drop]; omega

/-- Silence comes in whole frames. -/
theorem length_mod (h : Framed size base stream) : stream.length % size = base.length % size := by
  induction h with
  | rest _ => rfl
  | frame _ _ ih => rw [List.length_append, List.length_append, Nat.add_mod, ih, ← Nat.add_mod]
  | silence _ ih => rw [List.length_append, List.length_replicate, Nat.add_mod_left, ih]

/-- More bytes on both sides. -/
theorem behind (hsize : 0 < size) (h : Framed size base stream) (more : List UInt8) :
    Framed size (base ++ more) (stream ++ more) := by
  induction h with
  | rest _ => exact refl hsize _
  | frame hwhole _ ih =>
      rw [List.append_assoc, List.append_assoc]
      exact frame hwhole ih
  | silence _ ih =>
      rw [List.append_assoc]
      exact silence ih

/-- Frames of silence in front. -/
theorem before_silent (h : Framed size base stream) : ∀ frames : Nat,
    Framed size base (List.replicate (frames * size) 0 ++ stream)
  | 0 => by
      rw [Nat.zero_mul]
      exact h
  | frames + 1 => by
      rw [Nat.succ_mul, Nat.add_comm, ← List.replicate_append_replicate, List.append_assoc]
      exact silence (before_silent h frames)

/-- **Frames of silence behind whole frames.** -/
theorem behind_silent (h : Framed size base stream) (hwhole : size ∣ base.length) (frames : Nat) :
    Framed size base (stream ++ List.replicate (frames * size) 0) := by
  induction h with
  | @rest base hshort =>
      have hnil : base = [] :=
        List.length_eq_zero_iff.mp (Nat.eq_zero_of_dvd_of_lt hwhole hshort)
      have hsilent := before_silent (rest hshort) frames
      rw [hnil, List.append_nil] at hsilent
      rw [hnil]
      exact hsilent
  | @frame front _ _ hfront _ ih =>
      rw [List.length_append, hfront, Nat.dvd_add_right (Nat.dvd_refl size)] at hwhole
      rw [List.append_assoc]
      exact frame hfront (ih hwhole)
  | silence _ ih =>
      rw [List.append_assoc]
      exact silence (ih hwhole)

/-- **Frames of silence at a border between frames.** -/
theorem inside {back : List UInt8} (frames : Nat) : ∀ (n : Nat) {base front : List UInt8},
    front.length = n * size → Framed size base (front ++ back) →
      Framed size base (front ++ (List.replicate (frames * size) 0 ++ back)) := by
  intro n
  induction n with
  | zero =>
      intro base front hfront h
      obtain rfl : front = [] := List.length_eq_zero_iff.mp (by omega)
      exact h.before_silent frames
  | succ n ih =>
      intro base front hfront h
      rw [Nat.succ_mul] at hfront
      -- The first frame of the stream lies in front of the border.
      obtain ⟨first, rest, rfl, hfirst⟩ :
          ∃ first rest, front = first ++ rest ∧ first.length = size :=
        ⟨front.take size, front.drop size, (List.take_append_drop _ _).symm,
          by rw [List.length_take]; omega⟩
      have hrest : rest.length = n * size := by
        rw [List.length_append] at hfront
        omega
      rw [List.append_assoc] at h ⊢
      generalize hstream : first ++ (rest ++ back) = stream at h
      cases h with
      | rest hshort =>
          rw [← hstream, List.length_append] at hshort
          omega
      | frame hwhole h =>
          obtain ⟨rfl, rfl⟩ := List.append_inj hstream (hfirst.trans hwhole.symm)
          exact frame hwhole (ih hrest h)
      | silence h =>
          obtain ⟨rfl, rfl⟩ := List.append_inj hstream (by rw [hfirst, List.length_replicate])
          exact silence (ih hrest h)

/-- **In a framed stream every byte has a place** in step with its index, one behind the other. -/
theorem exists_place (h : Framed size base stream) :
    ∃ place : Nat → Nat, (∀ i j, i < j → place i < place j)
      ∧ ∀ i b, base[i]? = some b → stream[place i]? = some b ∧ place i % size = i % size := by
  induction h with
  | rest _ => exact ⟨id, fun _ _ hij => hij, fun _ _ hb => ⟨hb, rfl⟩⟩
  | @frame front base stream hwhole _ ih =>
      obtain ⟨place, hmono, hplace⟩ := ih
      -- The bytes of this frame stay; those behind it go where they go in the rest.
      refine ⟨fun i => if i < size then i else size + place (i - size), fun i j hij => ?_,
        fun i b hb => ?_⟩
      · dsimp only
        by_cases hi : i < size
        · rw [if_pos hi]
          split <;> omega
        · have hlt := hmono (i - size) (j - size) (by omega)
          rw [if_neg hi, if_neg (by omega)]
          omega
      · dsimp only
        by_cases hi : i < size
        · rw [if_pos hi, List.getElem?_append_left (by omega)]
          rw [List.getElem?_append_left (by omega)] at hb
          exact ⟨hb, rfl⟩
        · rw [List.getElem?_append_right (by omega), hwhole] at hb
          obtain ⟨hat, hmod⟩ := hplace (i - size) b hb
          rw [if_neg hi, List.getElem?_append_right (by omega), hwhole, Nat.add_sub_cancel_left]
          refine ⟨hat, ?_⟩
          rw [Nat.add_mod_left, hmod, Nat.mod_eq_sub_mod (by omega : i ≥ size)]
  | silence _ ih =>
      obtain ⟨place, hmono, hplace⟩ := ih
      refine ⟨fun i => size + place i, fun i j hij => Nat.add_lt_add_left (hmono i j hij) size,
        fun i b hb => ?_⟩
      obtain ⟨hat, hmod⟩ := hplace i b hb
      dsimp only
      rw [List.getElem?_append_right (by rw [List.length_replicate]; omega), List.length_replicate,
        Nat.add_sub_cancel_left, Nat.add_mod_left]
      exact ⟨hat, hmod⟩

end Framed

/-! ## §2. Cycles move whole frames. -/

namespace DeviceRoute

variable {σ κ : Type} {received : σ → List UInt8} {r : DeviceRoute κ}

/-- A cycle that takes whole frames out of a ring of `len` bytes, and leaves the rest there. -/
structure MovesFrames (size len : Nat) (done : Cycled σ κ) : Prop where
  /-- What it took are whole frames. -/
  popped : size ∣ done.popped.length
  /-- Nothing came or went besides. -/
  balance : done.popped.length + done.route.ring.len = len

theorem movesFrames_unmoved (size : Nat) (host : σ) (r : DeviceRoute κ)
    (outcome : Except CycleFault Nat) (offered : Option (List UInt8)) :
    MovesFrames size r.ring.len (unmoved host r outcome offered) where
  popped := Nat.dvd_zero size
  balance := Nat.zero_add _

variable [Host σ]

/-- **A stream takes whole frames**, and these leave the ring. -/
theorem movesFrames_deliverPlain (h : Plain received r) {host : σ} {staged : List UInt8}
    (hstaged : staged.length ≤ r.ring.len) :
    MovesFrames r.source.align r.ring.len (deliverPlain host r staged) := by
  unfold deliverPlain
  split
  · exact movesFrames_unmoved _ _ r _ _
  · exact movesFrames_unmoved _ _ r _ _
  next taken after hwrite =>
    obtain ⟨hfits, _⟩ := h.keeps.write _ _ _ _ hwrite
    have hpopped : (r.ring.content.take (taken * r.source.align)).length
        = taken * r.source.align := by
      rw [List.length_take, Ring.length_content]
      omega
    constructor
    · show r.source.align ∣ (r.ring.content.take _).length
      rw [hpopped]
      exact Nat.dvd_mul_left _ _
    · show (r.ring.content.take _).length + (r.advance _).ring.len = _
      rw [hpopped, ← Ring.length_content (r.advance _).ring, content_advance, List.length_drop,
        Ring.length_content]
      omega

variable [Stage κ]

/-- **Every cycle takes out whole frames**, and leaves whole frames if it put silence there. -/
theorem movesFrames_cycle (h : Plain received r) (hcap : r.source.align ∣ r.ring.capacity)
    (host : σ) (gain : Single) :
    ∃ len, MovesFrames r.source.align len (r.cycle host gain)
      ∧ (len = r.ring.len ∨ r.source.align ∣ len) := by
  have hwhole : ∀ requested, (r.padded requested).ring.len = r.ring.len
      ∨ r.source.align ∣ (r.padded requested).ring.len := by
    intro requested
    rw [len_padded]
    rcases Nat.le_total r.ring.len (r.amount requested) with hle | hle
    · rw [Nat.max_eq_right hle]
      exact .inr (align_dvd_amount hcap requested)
    · rw [Nat.max_eq_left hle]
      exact .inl rfl
  have houtcome := cycle_outcome host r gain
  generalize r.cycle host gain = done at houtcome
  cases houtcome with
  | idle => exact ⟨_, movesFrames_unmoved _ _ r _ _, .inl rfl⟩
  | unscaled => exact ⟨_, movesFrames_unmoved _ _ (r.padded _) _ _, hwhole _⟩
  | @plain _ requested _ staged _ hscaled =>
      refine ⟨_, movesFrames_deliverPlain (h.of_continues (r.continues_padded requested)) ?_,
        hwhole requested⟩
      rw [length_staged? h.supported hscaled, len_padded]
      exact Nat.le_max_right _ _
  | converted _ _ hthrough =>
      rw [h.stage] at hthrough
      exact absurd hthrough (by simp)

end DeviceRoute

/-! ## §3. Runs. -/

namespace Session

variable {σ κ : Type} [Host σ] [Stage κ]

/-- How many bytes of silence a section puts into the ring. -/
def silence (s : Session σ κ) (passing : Passing σ) : Nat :=
  (s.entry passing).popped.length + (s.passing passing).buffered
    - (s.buffered + (s.entry passing).accepted.length)

/-- No section of a run puts silence inside of a frame of `size` bytes, counted from `count` bytes
that were accepted before it. -/
def Unbroken (size : Nat) : Nat → Session σ κ → List (Passing σ) → Prop
  | _, _, [] => True
  | count, s, passing :: rest =>
    (0 < s.silence passing → size ∣ count + (s.entry passing).accepted.length)
      ∧ Unbroken size (count + (s.entry passing).accepted.length) (s.passing passing) rest

instance decidableUnbroken (size : Nat) : ∀ (count : Nat) (s : Session σ κ)
    (run : List (Passing σ)), Decidable (Unbroken size count s run)
  | _, _, [] => .isTrue trivial
  | count, s, passing :: rest =>
    have := decidableUnbroken size (count + (s.entry passing).accepted.length)
      (s.passing passing) rest
    inferInstanceAs (Decidable (_ ∧ _))

variable {received : σ → List UInt8} {r : DeviceRoute κ}

/-- A route whose stream is in step: `base` was accepted and `popped` taken out so far. -/
structure InStep (received : σ → List UInt8) (base popped : List UInt8) (r : DeviceRoute κ) :
    Prop where
  /-- The route has no conversion. -/
  plain : r.Plain received
  /-- The store holds whole frames. -/
  capacity : r.source.align ∣ r.ring.capacity
  /-- Whole frames were taken out. -/
  border : r.source.align ∣ popped.length
  /-- Silence stands between the frames only. -/
  framed : Framed r.source.align base (popped ++ r.ring.content)

omit [Host σ] [Stage κ] in
theorem buffered_device {s : Session σ κ} (hr : s.route = .device r) : s.buffered = r.ring.len := by
  unfold buffered
  rw [hr]

omit [Stage κ] in
/-- **If whole frames were accepted, whole frames are queued**: as many bytes are queued as were
accepted, up to the whole frames that were taken out. -/
theorem InStep.queued_whole {base popped : List UInt8} (h : InStep received base popped r)
    (hbase : r.source.align ∣ base.length) : r.source.align ∣ r.ring.len := by
  have hmod := h.framed.length_mod
  obtain ⟨frames, hframes⟩ := h.border
  rw [List.length_append, Ring.length_content, hframes, Nat.mul_add_mod] at hmod
  rw [Nat.dvd_iff_mod_eq_zero, hmod, ← Nat.dvd_iff_mod_eq_zero]
  exact hbase

omit [Stage κ] in
/-- And then there is room for whole frames. -/
theorem InStep.free_whole {base popped : List UInt8} (h : InStep received base popped r)
    (hbase : r.source.align ∣ base.length) : r.source.align ∣ r.ring.free := by
  rw [← Nat.dvd_add_right (h.queued_whole hbase), r.ring.len_add_free]
  exact h.capacity

omit [Stage κ] in
/-- **The silence that a start puts in front of what is queued is whole frames**, if any is missing
there only when whole frames were accepted. -/
theorem InStep.framed_rewound {base popped : List UInt8} (h : InStep received base popped r)
    (hclean : 0 < r.ring.free → r.source.align ∣ base.length) :
    Framed r.source.align base
      (popped ++ (List.replicate r.ring.free 0 ++ r.ring.content)) := by
  obtain ⟨frames, hfree⟩ : r.source.align ∣ r.ring.free := by
    by_cases hfull : r.ring.free = 0
    · rw [hfull]
      exact Nat.dvd_zero _
    · exact h.free_whole (hclean (Nat.pos_of_ne_zero hfull))
  obtain ⟨out, hout⟩ := h.border
  rw [hfree, Nat.mul_comm]
  exact Framed.inside frames out (by rw [hout, Nat.mul_comm]) h.framed

/-- **The silence that a cycle puts behind what is queued is whole frames**, if it puts any there only
when whole frames were accepted. -/
theorem InStep.framed_cycled {base popped : List UInt8} (h : InStep received base popped r)
    (host : σ) (gain : Single)
    (hclean : r.ring.len < (r.cycle host gain).popped.length
      + (r.cycle host gain).route.ring.len → r.source.align ∣ base.length) :
    Framed r.source.align base
      (popped ++ ((r.cycle host gain).popped ++ (r.cycle host gain).route.ring.content)) := by
  obtain ⟨zeros, hcontent⟩ := (DeviceRoute.accounts_cycle host r gain).content
  obtain ⟨len, hmoves, hlen⟩ := DeviceRoute.movesFrames_cycle h.plain h.capacity host gain
  have hbalance := hmoves.balance
  have hlength := congrArg List.length hcontent
  simp only [List.length_append, List.length_replicate, Ring.length_content] at hlength
  rw [← hcontent, ← List.append_assoc]
  by_cases hnone : zeros = 0
  · rw [hnone, List.replicate_zero, List.append_nil]
    exact h.framed
  · -- What was queued in front of the silence are whole frames, and so is all that is queued.
    have hbase := hclean (by omega)
    obtain ⟨frames, hzeros⟩ : r.source.align ∣ zeros := by
      rw [← Nat.dvd_add_right (h.queued_whole hbase), hlength, hbalance]
      exact hlen.resolve_left (by omega)
    rw [hzeros, Nat.mul_comm]
    exact h.framed.behind_silent hbase frames

/-- **A section stays in step** if it puts silence only behind whole frames. -/
theorem inStep_passing {s : Session σ κ} {base popped : List UInt8}
    (h : InStep received base popped r) (hr : s.route = .device r) (passing : Passing σ)
    (hclean : 0 < s.silence passing →
      r.source.align ∣ base.length + (s.entry passing).accepted.length) :
    ∃ later, (s.passing passing).route = .device later ∧ r.Continues later
      ∧ InStep received (base ++ (s.entry passing).accepted)
        (popped ++ (s.entry passing).popped) later := by
  obtain ⟨later, hlater, hcont, hwoven⟩ := woven_passing hr passing
  have hsilence : s.silence passing = (s.entry passing).popped.length + later.ring.len
      - (r.ring.len + (s.entry passing).accepted.length) := by
    unfold silence
    rw [buffered_device hr, buffered_device hlater]
  have hcap : later.source.align ∣ later.ring.capacity := by
    rw [hcont.source, hcont.capacity]
    exact h.capacity
  rw [hsilence] at hclean
  generalize s.entry passing = l at *
  refine ⟨later, hlater, hcont, h.plain.of_continues hcont, hcap, ?_, ?_⟩
  · rw [hcont.source, List.length_append]
    refine Nat.dvd_add h.border ?_
    cases hwoven with
    | fed hpopped => rw [hpopped]; exact Nat.dvd_zero _
    | rewound _ hpopped => rw [hpopped]; exact Nat.dvd_zero _
    | cycled host gain _ hpopped =>
        obtain ⟨_, hmoves, _⟩ := DeviceRoute.movesFrames_cycle h.plain h.capacity host gain
        rw [hpopped]
        exact hmoves.popped
  · rw [hcont.source]
    cases hwoven with
    | fed hpopped hcontent =>
        rw [hpopped, hcontent, List.append_nil, ← List.append_assoc]
        exact h.framed.behind (r.source.align_pos h.plain.supported) l.accepted
    | rewound haccepted hpopped hcontent =>
        have hlen := congrArg List.length hcontent
        rw [List.length_append, List.length_replicate, Ring.length_content,
          Ring.length_content] at hlen
        rw [haccepted, hpopped, List.length_nil] at hclean
        rw [haccepted, hpopped, hcontent, List.append_nil, List.append_nil]
        exact h.framed_rewound fun hmissing => hclean (by omega)
    | cycled host gain haccepted hpopped hring =>
        rw [haccepted, hpopped, hring, List.length_nil] at hclean
        rw [haccepted, hpopped, hring, List.append_nil, List.append_assoc]
        exact h.framed_cycled host gain fun hmissing => hclean (by omega)

/-- A producer that offers whole frames is told that whole frames are taken. -/
theorem whole_accepted {s : Session σ κ} {base popped : List UInt8}
    (h : InStep received base popped r) (hr : s.route = .device r)
    (hbase : r.source.align ∣ base.length) {passing : Passing σ}
    (hoffered : ∀ chunk now, passing = .feed chunk now → r.source.align ∣ chunk.length) :
    r.source.align ∣ (s.entry passing).accepted.length := by
  have hnone : r.source.align ∣ ([] : List UInt8).length := Nat.dvd_zero _
  cases passing with
  | feed chunk now =>
      have hchunk := hoffered chunk now rfl
      show r.source.align ∣ ((s.feedSection chunk now).1.taken chunk).length
      unfold feedSection
      split
      · exact hchunk
      · split
        · exact hnone
        · rw [hr]
          dsimp only
          split
          · obtain ⟨htaken, _⟩ := taken_feedRoute s r chunk now
            rw [htaken, List.length_take]
            rcases Nat.le_total r.ring.free chunk.length with hle | hle
            · rw [Nat.min_eq_left hle]
              exact h.free_whole hbase
            · rw [Nat.min_eq_right hle]
              exact hchunk
          · exact hnone
  | turn generation =>
      show r.source.align ∣ (s.entry (.turn generation)).accepted.length
      dsimp only [entry]
      split <;> exact hnone
  | _ => exact hnone

/-- **A run stays in step** if none of its sections puts silence inside of a frame, or if only whole
frames are offered. -/
theorem inStep_flow (run : List (Passing σ)) : ∀ {s : Session σ κ} {r : DeviceRoute κ}
    {base popped : List UInt8}, s.route = .device r → InStep received base popped r →
      (Unbroken r.source.align base.length s run ∨ (r.source.align ∣ base.length
        ∧ ∀ chunk now, Passing.feed chunk now ∈ run → r.source.align ∣ chunk.length)) →
      ∃ later, (s.flow run).2.route = .device later ∧ r.Continues later
        ∧ InStep received (base ++ (s.flow run).1.accepted)
          (popped ++ (s.flow run).1.popped) later := by
  -- The induction goes along the run; what was accepted before it is `base`.
  induction run with
  | nil =>
      intro s r base popped hr h _
      refine ⟨r, hr, DeviceRoute.Continues.refl r, ?_⟩
      show InStep received (base ++ []) (popped ++ []) r
      rw [List.append_nil, List.append_nil]
      exact h
  | cons passing rest ih =>
      intro s r base popped hr h hrun
      have hclean : 0 < s.silence passing →
          r.source.align ∣ base.length + (s.entry passing).accepted.length := by
        rcases hrun with hunbroken | ⟨hbase, hoffered⟩
        · exact hunbroken.1
        · intro _
          exact Nat.dvd_add hbase (whole_accepted h hr hbase fun chunk now hfeed =>
            hoffered chunk now (by rw [hfeed]; exact List.mem_cons_self))
      obtain ⟨next, hnext, hcont, hstep⟩ := inStep_passing h hr passing hclean
      have hrest : Unbroken next.source.align (base ++ (s.entry passing).accepted).length
          (s.passing passing) rest ∨ (next.source.align
            ∣ (base ++ (s.entry passing).accepted).length
          ∧ ∀ chunk now, Passing.feed chunk now ∈ rest → next.source.align ∣ chunk.length) := by
        rw [hcont.source, List.length_append]
        rcases hrun with hunbroken | ⟨hbase, hoffered⟩
        · exact .inl hunbroken.2
        · refine .inr ⟨Nat.dvd_add hbase (whole_accepted h hr hbase fun chunk now hfeed =>
            hoffered chunk now (by rw [hfeed]; exact List.mem_cons_self)), ?_⟩
          exact fun chunk now hfeed => hoffered chunk now (List.mem_cons_of_mem _ hfeed)
      obtain ⟨later, hlater, hcont', hlast⟩ := ih hnext hstep hrest
      refine ⟨later, hlater, hcont.trans hcont', ?_⟩
      rw [List.append_assoc base, List.append_assoc popped] at hlast
      show InStep received (base ++ ((s.entry passing).accepted ++ _))
        (popped ++ ((s.entry passing).movements ++ _).flatMap Movement.popped) later
      rw [List.flatMap_append]
      exact hlast

omit [Host σ] [Stage κ] in
/-- Scaling keeps every byte in its place. -/
theorem length_scaled? {source : Format} (h : source.isSupported = true) (l : Ledger) :
    ∀ {image : List UInt8}, l.scaled? source = some image → image.length = l.popped.length := by
  obtain ⟨accepted, movements⟩ := l
  unfold Ledger.scaled? Ledger.popped
  dsimp only
  induction movements with
  | nil =>
      intro image himage
      obtain rfl : [] = image := Option.some.inj himage
      rfl
  | cons m rest ih =>
      intro image himage
      obtain ⟨pieces, hpieces, rfl⟩ := Option.map_eq_some_iff.mp himage
      simp only [List.mapM_cons, Option.bind_eq_bind, Option.bind_eq_some_iff] at hpieces
      obtain ⟨piece, hpiece, more, hmore, hcons⟩ := hpieces
      obtain rfl : piece :: more = pieces := Option.some.inj hcons
      have hrest : more.flatten.length = (rest.flatMap Movement.popped).length :=
        ih (by rw [hmore]; rfl)
      have hfirst : piece.length = m.popped.length := Gain.length_scaleBytes? h hpiece
      rw [List.flatten_cons, List.length_append, List.flatMap_cons, List.length_append, hfirst,
        hrest]

/-- The store of a route that was opened for a source holds whole frames. -/
theorem opened_capacity {s t : Session σ κ} (hclosed : s.route = .closed)
    (hopen : s.openSection = (.ok (), t)) (hr : t.route = .device r) :
    r.source.align ∣ r.ring.capacity := by
  obtain ⟨_, _, _, hchannels, hbuilt⟩ := opened_built hclosed hopen hr
  have hfits := DeviceRoute.fits_of_build hchannels hbuilt
  rw [hfits.capacity, hfits.source]
  exact Nat.dvd_mul_left _ _

/-- **Accepted frames reach the device in step.**  Let a session open a device whose stream needs no
conversion, and let any sections follow as long as the route stays open, with feeds of any size.  If
no section puts silence behind a frame that was accepted in part only, and so in particular if whole
frames are offered only, then the stream of what cycles took out and of what is queued holds the
accepted frames with silent frames between them: byte `i` of what was accepted has a place in it that
is `i` up to whole frames, one behind the other.  What was taken out has arrived byte for byte,
scaled. -/
theorem flow_in_step {s t : Session σ κ} (hclosed : s.route = .closed)
    (hopen : s.openSection = (.ok (), t)) (hr : t.route = .device r) (hplain : r.stage = none)
    (hkeeps : r.endpoint.Keeps r.source.align received) (run : List (Passing σ))
    (hquiet : ∀ passing ∈ run, passing.WritesBySessionOnly received)
    (hwhole : t.Unbroken r.source.align 0 run
      ∨ ∀ chunk now, Passing.feed chunk now ∈ run → r.source.align ∣ chunk.length) :
    ∃ later, (t.flow run).2.route = .device later
      ∧ Framed r.source.align (t.flow run).1.accepted
          ((t.flow run).1.popped ++ later.ring.content)
      ∧ (∃ place : Nat → Nat, (∀ i j, i < j → place i < place j)
        ∧ ∀ i b, (t.flow run).1.accepted[i]? = some b →
          ((t.flow run).1.popped ++ later.ring.content)[place i]? = some b
            ∧ place i % r.source.align = i % r.source.align)
      ∧ ∃ image, (t.flow run).1.scaled? r.source = some image
        ∧ image.length = (t.flow run).1.popped.length
        ∧ received (t.flow run).2.host = received t.host ++ image := by
  obtain ⟨hsupported, hsilent⟩ := opened_device hclosed hopen hr
  have hroute : r.Plain received := ⟨hplain, hsupported, hkeeps⟩
  have hsize := r.source.align_pos hsupported
  have hcap := opened_capacity hclosed hopen hr
  have hfresh : InStep received [] [] r := by
    obtain ⟨frames, hframes⟩ := hcap
    refine ⟨hroute, ⟨frames, hframes⟩, Nat.dvd_zero _, ?_⟩
    have hnone : Framed r.source.align [] [] := .rest hsize
    have hzeros := hnone.before_silent frames
    rw [List.append_nil, Nat.mul_comm, ← hframes, ← hsilent] at hzeros
    exact hzeros
  obtain ⟨later, hlater, hcont, hstep⟩ := inStep_flow run hr hfresh
    (hwhole.imp id fun hoffered => ⟨Nat.dvd_zero _, hoffered⟩)
  obtain ⟨image, himage, harrived⟩ := (carries_flow run hr hroute hquiet).arrived
  have hframed : Framed r.source.align (t.flow run).1.accepted
      ((t.flow run).1.popped ++ later.ring.content) := by
    have hlast := hstep.framed
    rw [hcont.source, List.nil_append, List.nil_append] at hlast
    exact hlast
  exact ⟨later, hlater, hframed, hframed.exists_place, image, himage,
    length_scaled? hsupported _ himage, harrived⟩

/-- Two samples of two bytes each come in pieces of three bytes and of one.  A cycle takes the first
one while the second has come in part only, and needs no silence; the next cycle does. -/
def splitFeeds : List (Passing DeviceBank) :=
  [.start, .spawned 1, .turn 1, .feed [0xe8, 0x03, 0x18] ⟨0, 0⟩,
    .elsewhere (·.setFree "speaker" 1), .turn 1, .feed [0xfc] ⟨0, 0⟩,
    .elsewhere (·.setFree "speaker" 2), .turn 1]

/-- The two samples arrive in step although the feeds were not. -/
theorem flow_in_step_splitFeeds :
    ∃ t r, quietSpeaker.openSection = (.ok (), t) ∧ t.route = .device r
      ∧ t.Unbroken r.source.align 0 splitFeeds
      ∧ (∃ later, (t.flow splitFeeds).2.route = .device later
        ∧ Framed 2 [0xe8, 0x03, 0x18, 0xfc]
          ([0, 0, 0, 0, 0, 0, 0, 0, 0xe8, 0x03, 0x18, 0xfc, 0, 0] ++ later.ring.content)) := by
  have hopen : quietSpeaker.openSection = (.ok (), quietSpeaker.openSection.2) := rfl
  have hquiet : ∀ passing ∈ splitFeeds,
      passing.WritesBySessionOnly fun b : DeviceBank => b.written "speaker" := by
    simp [splitFeeds, Passing.WritesBySessionOnly, DeviceBank.written_setFree]
  have hunbroken : quietSpeaker.openSection.2.Unbroken 2 0 splitFeeds := by decide +kernel
  have haccepted : (quietSpeaker.openSection.2.flow splitFeeds).1.accepted
      = [0xe8, 0x03, 0x18, 0xfc] := by decide +kernel
  have hpopped : (quietSpeaker.openSection.2.flow splitFeeds).1.popped
      = [0, 0, 0, 0, 0, 0, 0, 0, 0xe8, 0x03, 0x18, 0xfc, 0, 0] := by decide +kernel
  obtain ⟨later, hlater, hframed, _⟩ := flow_in_step rfl hopen rfl rfl
    (DeviceBank.keeps_written _) splitFeeds hquiet (.inl hunbroken)
  rw [haccepted, hpopped] at hframed
  exact ⟨_, _, hopen, rfl, hunbroken, later, hlater, hframed⟩

/-- A sample comes byte by byte, and a cycle fills up each of the two bytes to a sample. -/
def splitSample : List (Passing DeviceBank) :=
  [.start, .spawned 1, .turn 1, .feed [0x01] ⟨0, 0⟩, .elsewhere (·.setFree "speaker" 1), .turn 1,
    .feed [0x02] ⟨0, 0⟩, .elsewhere (·.setFree "speaker" 1), .turn 1]

/-- **Silence inside of a sample shifts what comes behind it**: the second byte of the sample has no
place that is out of step with samples by one. -/
theorem split_sample_shifts :
    ∃ t r later, quietSpeaker.openSection = (.ok (), t) ∧ t.route = .device r
      ∧ r.stage = none ∧ r.source.align = 2
      ∧ (t.flow splitSample).2.route = .device later
      ∧ (t.flow splitSample).1.accepted = [0x01, 0x02]
      ∧ (t.flow splitSample).2.host.written "speaker"
        = [0, 0, 0, 0, 0, 0, 0, 0, 0x01, 0, 0x02, 0]
      ∧ ¬ ∃ place : Nat → Nat, ∀ i b, (t.flow splitSample).1.accepted[i]? = some b →
        ((t.flow splitSample).1.popped ++ later.ring.content)[place i]? = some b
          ∧ place i % 2 = i % 2 := by
  have hopen : quietSpeaker.openSection = (.ok (), quietSpeaker.openSection.2) := rfl
  have haccepted : (quietSpeaker.openSection.2.flow splitSample).1.accepted = [0x01, 0x02] := by
    decide +kernel
  have hpopped : (quietSpeaker.openSection.2.flow splitSample).1.popped
      = [0, 0, 0, 0, 0, 0, 0, 0, 0x01, 0, 0x02, 0] := by decide +kernel
  have hwritten : (quietSpeaker.openSection.2.flow splitSample).2.host.written "speaker"
      = [0, 0, 0, 0, 0, 0, 0, 0, 0x01, 0, 0x02, 0] := by decide +kernel
  obtain ⟨later, hlater, _⟩ := padded_flow splitSample
    (show quietSpeaker.openSection.2.route = _ from rfl)
    (show Padded _ ([] ++ _) from Padded.refl _)
  have hempty : later.ring.content = [] := by
    rw [← List.length_eq_zero_iff, Ring.length_content, ← buffered_device hlater]
    decide +kernel
  refine ⟨_, _, later, hopen, rfl, rfl, rfl, hlater, haccepted, hwritten, ?_⟩
  rintro ⟨place, hplace⟩
  rw [haccepted, hpopped, hempty] at hplace
  obtain ⟨hat, hstep⟩ := hplace 1 0x02 rfl
  -- The byte stands at an even place only.
  have heven : ∀ n < 12, ([0, 0, 0, 0, 0, 0, 0, 0, 0x01, 0, 0x02, 0] : List UInt8)[n]? = some 0x02 →
      n % 2 = 0 := by decide
  obtain ⟨hinside, _⟩ := List.getElem?_eq_some_iff.mp hat
  have hzero := heven (place 1) hinside hat
  omega

end Session

end PcmRender
