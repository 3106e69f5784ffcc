/-
  PcmRender.Proofs.Queue — **a ring is a bounded queue of bytes.**

  A ring moves bytes about inside one store, and leaves behind what it has moved away.  A bounded
  queue has no store: it is a list of bytes and the number of them for which there is room.  It is
  asked for the same:

      append           the first bytes for which there is room go behind the queue, and it says how
                       many these are
      padWithSilence   zeros go behind it up to the target, if that is further and within the bound
      popFront         the first bytes go, or all there are
      shiftToTail      zeros go in front of it, until it is full

  `Ring.queue` forgets the cells that are not valid.  Whatever a ring is asked for, it answers what its
  queue answers, and its queue afterwards is the queue that was asked the same.  So what is left in the
  store has no say in anything that follows.

  Main statements:
    * `Ring.serve_queue` — one request,
    * `Ring.serveAll_queue` — all requests of a life,
    * `Ring.serves_as_queue` — rings from their creation on, and rings that differ in what is left.
-/
import PcmRender.Proofs.Ring

namespace PcmRender

/-! ## §1. Queues. -/

/-- What a ring can be asked for. -/
inductive Ring.Request
  /-- To queue bytes. -/
  | append (data : List UInt8)
  /-- To queue zeros, up to so many bytes in all. -/
  | padWithSilence (target : Nat)
  /-- To give up bytes at the front. -/
  | popFront (n : Nat)
  /-- To put zeros in front. -/
  | shiftToTail
deriving DecidableEq, Repr

/-- Bytes in a row, no more than a bound. -/
structure ByteQueue where
  /-- The bound. -/
  capacity : Nat
  /-- The bytes, the first one in front. -/
  bytes : List UInt8
  /-- They are no more. -/
  fits : bytes.length ≤ capacity

namespace ByteQueue

/-- No bytes. -/
def empty (capacity : Nat) : ByteQueue where
  capacity := capacity
  bytes := []
  fits := Nat.zero_le _

/-- As many zeros as the bound allows. -/
def silent (capacity : Nat) : ByteQueue where
  capacity := capacity
  bytes := List.replicate capacity 0
  fits := Nat.le_of_eq List.length_replicate

/-- The bytes that can still come. -/
def room (q : ByteQueue) : Nat := q.capacity - q.bytes.length

/-- The answer to a request, if it has one, and the queue afterwards. -/
def serve (q : ByteQueue) : Ring.Request → Option Nat × ByteQueue
  | .append data =>
    (some (min data.length q.room),
      { q with
        bytes := q.bytes ++ data.take (min data.length q.room)
        fits := by
          have h := q.fits
          rw [List.length_append, List.length_take]
          unfold room
          omega })
  | .padWithSilence target =>
    (none,
      { q with
        bytes :=
          if q.bytes.length < target ∧ target ≤ q.capacity then
            q.bytes ++ List.replicate (target - q.bytes.length) 0
          else q.bytes
        fits := by
          split
          · rw [List.length_append, List.length_replicate]
            omega
          · exact q.fits })
  | .popFront n =>
    (none,
      { q with
        bytes := q.bytes.drop (min n q.bytes.length)
        fits := by
          have h := q.fits
          rw [List.length_drop]
          omega })
  | .shiftToTail =>
    (none,
      { q with
        bytes := List.replicate q.room 0 ++ q.bytes
        fits := by
          have h := q.fits
          rw [List.length_append, List.length_replicate]
          unfold room
          omega })

/-- The answers to some requests, and the queue after them. -/
def serveAll (q : ByteQueue) : List Ring.Request → List (Option Nat) × ByteQueue
  | [] => ([], q)
  | request :: rest =>
    let (answer, next) := q.serve request
    let (answers, last) := next.serveAll rest
    (answer :: answers, last)

/-- A queue is its bound and its bytes. -/
theorem ext_bytes {q p : ByteQueue} (hcapacity : q.capacity = p.capacity)
    (hbytes : q.bytes = p.bytes) : q = p := by
  obtain ⟨capacity, bytes, fits⟩ := q
  obtain rfl : capacity = p.capacity := hcapacity
  obtain rfl : bytes = p.bytes := hbytes
  rfl

end ByteQueue

namespace Ring

variable {r : Ring}

/-! ## §2. One request. -/

/-- The answer to a request, if it has one, and the ring afterwards. -/
def serve (r : Ring) : Request → Option Nat × Ring
  | .append data => (some (r.append data).1, (r.append data).2)
  | .padWithSilence target => (none, r.padWithSilence target)
  | .popFront n => (none, r.popFront n)
  | .shiftToTail => (none, r.shiftToTail)

/-- The answers to some requests, and the ring after them. -/
def serveAll (r : Ring) : List Request → List (Option Nat) × Ring
  | [] => ([], r)
  | request :: rest =>
    let (answer, next) := r.serve request
    let (answers, last) := next.serveAll rest
    (answer :: answers, last)

/-- What is valid of a ring, as a queue. -/
def queue (r : Ring) : ByteQueue where
  capacity := r.capacity
  bytes := r.content
  fits := by
    rw [length_content]
    exact r.len_le_capacity

theorem room_queue (r : Ring) : r.queue.room = r.free := by
  show r.capacity - r.content.length = r.capacity - r.len
  rw [length_content]

/-- A target that is not further, or out of bounds, changes nothing. -/
theorem padWithSilence_idle {target : Nat} (h : ¬ (r.len < target ∧ target ≤ r.capacity)) :
    r.padWithSilence target = r := dif_neg h

/-- **A request comes to the same for a ring and for its queue.** -/
theorem serve_queue (r : Ring) (request : Request) :
    (r.serve request).1 = (r.queue.serve request).1
      ∧ (r.serve request).2.queue = (r.queue.serve request).2 := by
  cases request with
  | append data =>
      have hcount : min data.length r.queue.room = min data.length r.free := by rw [room_queue]
      have htake : data.take (min data.length r.free) = data.take r.free := by
        rw [Nat.min_comm, ← List.take_take, List.take_length]
      constructor
      · show some (r.append data).1 = some (min data.length r.queue.room)
        rw [append_count, hcount]
      · refine ByteQueue.ext_bytes (capacity_append r data) ?_
        show (r.append data).2.content = r.content ++ data.take (min data.length r.queue.room)
        rw [content_append, hcount, htake]
  | padWithSilence target =>
      refine ⟨rfl, ByteQueue.ext_bytes (capacity_padWithSilence r target) ?_⟩
      show (r.padWithSilence target).content
        = if r.content.length < target ∧ target ≤ r.capacity then
            r.content ++ List.replicate (target - r.content.length) 0
          else r.content
      rw [length_content]
      by_cases h : r.len < target ∧ target ≤ r.capacity
      · rw [if_pos h, content_padWithSilence r target h.2]
      · rw [if_neg h, padWithSilence_idle h]
  | popFront n =>
      refine ⟨rfl, ByteQueue.ext_bytes (capacity_popFront r n) ?_⟩
      show (r.popFront n).content = r.content.drop (min n r.content.length)
      rw [content_popFront]
      rcases Nat.le_total n r.content.length with hsome | hall
      · rw [Nat.min_eq_left hsome]
      · rw [Nat.min_eq_right hall, List.drop_of_length_le hall, List.drop_length]
  | shiftToTail =>
      refine ⟨rfl, ByteQueue.ext_bytes (capacity_shiftToTail r) ?_⟩
      show r.shiftToTail.content = List.replicate r.queue.room 0 ++ r.content
      rw [content_shiftToTail, room_queue]

/-! ## §3. All requests. -/

/-- **So do all requests, one after the other.** -/
theorem serveAll_queue : ∀ (requests : List Request) (r : Ring),
    (r.serveAll requests).1 = (r.queue.serveAll requests).1
      ∧ (r.serveAll requests).2.queue = (r.queue.serveAll requests).2 := by
  intro requests
  induction requests with
  | nil =>
      intro r
      exact ⟨rfl, rfl⟩
  | cons request rest ih =>
      intro r
      obtain ⟨hanswer, hnext⟩ := serve_queue r request
      obtain ⟨hanswers, hlast⟩ := ih (r.serve request).2
      rw [hnext] at hanswers hlast
      constructor
      · show (r.serve request).1 :: ((r.serve request).2.serveAll rest).1
          = (r.queue.serve request).1 :: ((r.queue.serve request).2.serveAll rest).1
        rw [hanswer, hanswers]
      · exact hlast

/-- A request leaves the bound of a queue as it is, -/
theorem capacity_serve (q : ByteQueue) (request : Request) :
    (q.serve request).2.capacity = q.capacity := by
  cases request <;> rfl

/-- and so do all of them. -/
theorem capacity_serveAll : ∀ (requests : List Request) (q : ByteQueue),
    (q.serveAll requests).2.capacity = q.capacity := by
  intro requests
  induction requests with
  | nil =>
      intro q
      rfl
  | cons request rest ih =>
      intro q
      exact (ih (q.serve request).2).trans (capacity_serve q request)

/-- A ring that was asked for something, beside a queue that was asked for the same. -/
structure Serves (capacity : Nat) (ring : List (Option Nat) × Ring)
    (queue : List (Option Nat) × ByteQueue) : Prop where
  /-- They have answered the same. -/
  answers : ring.1 = queue.1
  /-- What is valid is what is queued, -/
  content : ring.2.content = queue.2.bytes
  /-- that many bytes -/
  len : ring.2.len = queue.2.bytes.length
  /-- and no more than there are cells, -/
  bounded : ring.2.len ≤ ring.2.capacity
  /-- whose number is what it was. -/
  capacity : ring.2.capacity = capacity

/-- A ring serves as its queue. -/
theorem serves_queue (r : Ring) (requests : List Request) :
    Serves r.capacity (r.serveAll requests) (r.queue.serveAll requests) := by
  obtain ⟨hanswers, hlast⟩ := serveAll_queue requests r
  have hcontent : (r.serveAll requests).2.content = (r.queue.serveAll requests).2.bytes :=
    congrArg ByteQueue.bytes hlast
  refine ⟨hanswers, hcontent, ?_, len_le_capacity _, ?_⟩
  · rw [← hcontent, length_content]
  · have hkept := capacity_serveAll requests r.queue
    rw [← hlast] at hkept
    exact hkept

/-! ## §4. The store. -/

/-- The cells from `start` to `stop` copied to those from `target` on, also where the two overlap:
what is written is what stood there before. -/
def moveWithin (cells : List UInt8) (start stop target : Nat) : List UInt8 :=
  splice cells target ((cells.take stop).drop start)

/-- Popping moves the rest of the content down. -/
theorem cells_popFront {n : Nat} (h : n < r.len) :
    (r.popFront n).cells = moveWithin r.cells n r.len 0 := by
  unfold popFront
  rw [if_pos h]
  rfl

/-- Shifting moves the content up, and writes zeros over what it leaves. -/
theorem cells_shiftToTail (r : Ring) :
    r.shiftToTail.cells
      = splice (moveWithin r.cells 0 r.len r.free) 0 (List.replicate r.free 0) := by
  have hfill := r.len_add_free
  have hcells : r.cells.length = r.capacity := rfl
  have hmoved : moveWithin r.cells 0 r.len r.free = r.cells.take r.free ++ r.content := by
    have hnone : r.cells.drop (r.free + r.content.length) = [] := by
      rw [length_content, List.drop_eq_nil_iff]
      omega
    show r.cells.take r.free ++ r.content ++ r.cells.drop (r.free + r.content.length) = _
    rw [hnone, List.append_nil]
  have hfront : (r.cells.take r.free).length = r.free := by
    rw [List.length_take]
    omega
  rw [hmoved]
  show List.replicate r.free 0 ++ r.content
    = [] ++ List.replicate r.free 0
      ++ (r.cells.take r.free ++ r.content).drop (0 + (List.replicate r.free (0 : UInt8)).length)
  rw [List.length_replicate, Nat.zero_add, List.drop_left' hfront, List.nil_append]

/-! ## §5. Rings. -/

/-- **A ring is a bounded queue.**  Take a ring of any number of cells, none at all included, as it is
created, without content or full of zeros, and let it be asked for anything, in any order and with any
arguments.  Its answers are those of a bounded queue that is asked for the same; what is valid of it is
what is queued there; that is never more than it has cells, and their number stays.

Two rings that differ in the cells that are not valid differ in nothing that can be seen of them,
whatever they are asked for.  So a byte that was left in the store never comes back.  All the same the
bytes are moved inside one store: popping moves the rest of them down, and shifting moves them up and
writes zeros over what they leave. -/
theorem serves_as_queue :
    (∀ (capacity : Nat) (requests : List Request),
      Serves capacity ((Ring.empty capacity).serveAll requests)
          ((ByteQueue.empty capacity).serveAll requests)
        ∧ Serves capacity ((Ring.silent capacity).serveAll requests)
          ((ByteQueue.silent capacity).serveAll requests))
      ∧ (∀ (r other : Ring), r.capacity = other.capacity → r.content = other.content →
        ∀ requests : List Request,
          (r.serveAll requests).1 = (other.serveAll requests).1
            ∧ (r.serveAll requests).2.content = (other.serveAll requests).2.content)
      ∧ (∀ (r : Ring) (n : Nat), n < r.len →
        (r.popFront n).cells = moveWithin r.cells n r.len 0)
      ∧ ∀ r : Ring, r.shiftToTail.cells
          = splice (moveWithin r.cells 0 r.len r.free) 0 (List.replicate r.free 0) := by
  refine ⟨fun capacity requests => ⟨?_, ?_⟩, ?_, fun r n h => cells_popFront h, cells_shiftToTail⟩
  · have hcells : (Ring.empty capacity).capacity = capacity := List.length_replicate
    have hqueue : (Ring.empty capacity).queue = ByteQueue.empty capacity :=
      ByteQueue.ext_bytes hcells rfl
    have hserves := serves_queue (Ring.empty capacity) requests
    rw [hqueue, hcells] at hserves
    exact hserves
  · have hqueue : (Ring.silent capacity).queue = ByteQueue.silent capacity :=
      ByteQueue.ext_bytes (capacity_silent capacity) (content_silent capacity)
    have hserves := serves_queue (Ring.silent capacity) requests
    rw [hqueue, capacity_silent] at hserves
    exact hserves
  · intro r other hcapacity hcontent requests
    have hsame : r.queue = other.queue := ByteQueue.ext_bytes hcapacity hcontent
    have hserves := serves_queue r requests
    have hother := serves_queue other requests
    rw [hsame] at hserves
    exact ⟨hserves.answers.trans hother.answers.symm, hserves.content.trans hother.content.symm⟩

/-- A ring that has been full, and one that has not. -/
def used : Ring := (((Ring.empty 4).append [1, 2, 3, 4]).2.popFront 3)

/-- The first cells of the one still hold what it was given; filled up, both show the same. -/
theorem serves_as_queue_used :
    used.cells = [4, 2, 3, 4] ∧ used.content = [4]
      ∧ used.capacity = ((Ring.empty 4).append [4]).2.capacity
      ∧ (used.serveAll [.padWithSilence 3, .append [7, 8], .popFront 1, .shiftToTail]).2.content
        = [0, 0, 0, 7]
      ∧ (used.serveAll [.padWithSilence 3, .append [7, 8], .popFront 1, .shiftToTail]).2.content
        = (((Ring.empty 4).append [4]).2.serveAll
          [.padWithSilence 3, .append [7, 8], .popFront 1, .shiftToTail]).2.content
      ∧ (used.popFront 0).cells = moveWithin used.cells 0 used.len 0 :=
  ⟨by decide, by decide, by decide, by decide,
    (serves_as_queue.2.1 used ((Ring.empty 4).append [4]).2 (by decide) (by decide) _).2,
    serves_as_queue.2.2.1 used 0 (by decide)⟩

end Ring

end PcmRender
