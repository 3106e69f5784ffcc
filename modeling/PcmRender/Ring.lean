/-
  PcmRender.Ring — **the queue of bytes between the producers and the device.**

  A ring has a fixed number of cells.  The valid bytes stand in the first `len` of them; what the
  others hold is left over from earlier and is never read.  Bytes are appended behind the valid
  ones and taken from the front, where the rest moves down.

  Main definitions:
    * `Ring.append`, `Ring.popFront` — the two ends of the queue,
    * `Ring.padWithSilence` — zeros behind the content,
    * `Ring.shiftToTail` — zeros in front of the content,
    * `Ring.content` — the view: the valid bytes.
-/

namespace PcmRender

/-- A fixed store of bytes, valid up to `len`. -/
structure Ring where
  /-- Every cell, the left-over ones included. -/
  cells : List UInt8
  /-- How many of the first cells are valid. -/
  len : Nat
  /-- The valid cells are cells. -/
  len_le : len ≤ cells.length := by omega

namespace Ring

/-! ## §1. Cells. -/

/-- `new` written over the cells from position `start` on. -/
def splice (cells : List UInt8) (start : Nat) (new : List UInt8) : List UInt8 :=
  cells.take start ++ new ++ cells.drop (start + new.length)

/-- Writing inside the store keeps its size. -/
theorem length_splice {cells new : List UInt8} {start : Nat}
    (h : start + new.length ≤ cells.length) : (splice cells start new).length = cells.length := by
  simp only [splice, List.length_append, List.length_take, List.length_drop]
  omega

/-! ## §2. Rings and what is asked of them. -/

/-- The most cells that a store can have. -/
def maxCapacity : Nat := 0x7fffffffffffffff

/-- A ring of `capacity` cells without content. -/
def empty (capacity : Nat) : Ring where
  cells := List.replicate capacity 0
  len := 0

/-- A ring of `capacity` cells full of zeros. -/
def silent (capacity : Nat) : Ring where
  cells := List.replicate capacity 0
  len := capacity
  len_le := by simp

/-- The number of cells. -/
def capacity (r : Ring) : Nat := r.cells.length

/-- The valid bytes. -/
def content (r : Ring) : List UInt8 := r.cells.take r.len

/-- The bytes that can still be appended. -/
def free (r : Ring) : Nat := r.capacity - r.len

/-- Whether nothing is queued. -/
def isEmpty (r : Ring) : Bool := r.len == 0

/-- Whether every cell is in use. -/
def isFull (r : Ring) : Bool := r.len == r.capacity

/-! ## §3. Operations. -/

/-- Queues as many of the bytes as fit, and says how many these are. -/
def append (r : Ring) (data : List UInt8) : Nat × Ring :=
  (min data.length r.free,
    { cells := splice r.cells r.len (data.take r.free)
      len := r.len + (data.take r.free).length
      len_le := by
        have h := r.len_le
        have hs : r.len + (data.take r.free).length ≤ r.cells.length := by
          simp only [free, capacity, List.length_take]
          omega
        rw [length_splice hs]
        exact hs })

/-- Queues zeros until `target` bytes are valid, if these are more than now and there are as many
cells. -/
def padWithSilence (r : Ring) (target : Nat) : Ring :=
  if h : r.len < target ∧ target ≤ r.cells.length then
    { cells := splice r.cells r.len (List.replicate (target - r.len) 0)
      len := target
      len_le := by
        rw [length_splice (by rw [List.length_replicate]; omega)]
        exact h.2 }
  else r

/-- Takes `n` bytes from the front, or all there are. -/
def popFront (r : Ring) (n : Nat) : Ring :=
  if n < r.len then
    { cells := splice r.cells 0 (r.content.drop n)
      len := r.len - n
      len_le := by
        have h := r.len_le
        rw [length_splice (by simp only [content, List.length_drop, List.length_take]; omega)]
        omega }
  else { r with len := 0, len_le := Nat.zero_le _ }

/-- Moves the content to the last cells and fills the ones before it with zeros, so that the ring
is full and one store of delay lies in front of the next byte. -/
def shiftToTail (r : Ring) : Ring where
  cells := List.replicate r.free 0 ++ r.content
  len := r.capacity
  len_le := by
    have h := r.len_le
    simp [free, capacity, content]
    omega

/-- The text that shows a ring to a developer. -/
def debugText (r : Ring) : String :=
  "RingBuffer \x7b capacity: " ++ toString r.capacity ++ ", len: " ++ toString r.len ++ " \x7d"

end Ring

end PcmRender
