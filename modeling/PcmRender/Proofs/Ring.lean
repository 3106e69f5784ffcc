/-
  PcmRender.Proofs.Ring — **the ring is a bounded queue of bytes.**

  The cells behind the valid ones keep what was written to them earlier.  The lemmas here say what
  each operation does to the *content*, the valid bytes in order, and to the number of cells, so
  that nothing else has to look into the store:

      append           the bytes that fit go behind the content
      padWithSilence   zeros go behind the content, up to the target
      popFront         the first bytes of the content go
      shiftToTail      zeros go in front of the content until the ring is full

  No operation changes the number of cells.
-/
import PcmRender.Ring

namespace PcmRender.Ring

/-! ## §1. Content and size. -/

@[simp] theorem length_content (r : Ring) : r.content.length = r.len := by
  show (r.cells.take r.len).length = r.len
  rw [List.length_take, Nat.min_eq_left r.len_le]

theorem len_le_capacity (r : Ring) : r.len ≤ r.capacity := r.len_le

theorem len_add_free (r : Ring) : r.len + r.free = r.capacity := by
  have h := r.len_le_capacity
  unfold free
  omega

@[simp] theorem capacity_silent (n : Nat) : (silent n).capacity = n := by
  show (List.replicate n (0 : UInt8)).length = n
  exact List.length_replicate

@[simp] theorem content_silent (n : Nat) : (silent n).content = List.replicate n 0 := by
  show (List.replicate n (0 : UInt8)).take n = _
  rw [List.take_replicate, Nat.min_self]

/-- What stands in the first cells after something was written behind the first `start` of them. -/
theorem take_splice (cells new : List UInt8) (start : Nat) (h : start ≤ cells.length) :
    (splice cells start new).take (start + new.length) = cells.take start ++ new := by
  have hlen : (cells.take start ++ new).length = start + new.length := by
    rw [List.length_append, List.length_take, Nat.min_eq_left h]
  unfold splice
  rw [← hlen]
  exact List.take_left' rfl

/-! ## §2. Behind the content. -/

theorem content_append (r : Ring) (data : List UInt8) :
    (r.append data).2.content = r.content ++ data.take r.free :=
  take_splice r.cells (data.take r.free) r.len r.len_le

theorem append_count (r : Ring) (data : List UInt8) :
    (r.append data).1 = min data.length r.free := rfl

@[simp] theorem capacity_append (r : Ring) (data : List UInt8) :
    (r.append data).2.capacity = r.capacity := by
  apply length_splice
  have h := r.len_add_free
  unfold capacity at h
  rw [List.length_take]
  omega

theorem content_padWithSilence (r : Ring) (target : Nat) (h : target ≤ r.capacity) :
    (r.padWithSilence target).content = r.content ++ List.replicate (target - r.len) 0 := by
  unfold padWithSilence
  by_cases hlt : r.len < target
  · rw [dif_pos ⟨hlt, h⟩]
    obtain ⟨n, rfl⟩ := Nat.exists_eq_add_of_le (Nat.le_of_lt hlt)
    have hsplice := take_splice r.cells (List.replicate n 0) r.len r.len_le
    rw [List.length_replicate] at hsplice
    show (splice r.cells r.len (List.replicate (r.len + n - r.len) 0)).take (r.len + n) = _
    rw [Nat.add_sub_cancel_left]
    exact hsplice
  · rw [dif_neg (fun hc => hlt hc.1), Nat.sub_eq_zero_of_le (Nat.le_of_not_lt hlt)]
    simp

@[simp] theorem capacity_padWithSilence (r : Ring) (target : Nat) :
    (r.padWithSilence target).capacity = r.capacity := by
  unfold padWithSilence
  by_cases hc : r.len < target ∧ target ≤ r.cells.length
  · rw [dif_pos hc]
    apply length_splice
    rw [List.length_replicate]
    omega
  · rw [dif_neg hc]

theorem len_padWithSilence (r : Ring) {target : Nat} (h : target ≤ r.capacity) :
    (r.padWithSilence target).len = max r.len target := by
  rw [← length_content, content_padWithSilence r target h, List.length_append, length_content,
    List.length_replicate]
  omega

/-- A full ring has no room for silence. -/
theorem padWithSilence_full {r : Ring} (h : r.free = 0) {target : Nat} (ht : target ≤ r.capacity) :
    r.padWithSilence target = r := by
  have hfill := r.len_add_free
  unfold padWithSilence
  rw [dif_neg (by omega)]

/-! ## §3. In front of the content. -/

theorem content_popFront (r : Ring) (n : Nat) : (r.popFront n).content = r.content.drop n := by
  unfold popFront
  by_cases hlt : n < r.len
  · rw [if_pos hlt]
    show (splice r.cells 0 (r.content.drop n)).take (r.len - n) = _
    -- The rest of the content is written over the first cells, so popping is a splice at zero.
    have hlen : r.len - n = 0 + (r.content.drop n).length := by
      rw [List.length_drop, length_content, Nat.zero_add]
    rw [hlen, take_splice _ _ _ (Nat.zero_le _)]
    rfl
  · rw [if_neg hlt]
    show r.cells.take 0 = _
    rw [List.take_zero, List.drop_eq_nil_of_le]
    rw [length_content]
    omega

@[simp] theorem capacity_popFront (r : Ring) (n : Nat) :
    (r.popFront n).capacity = r.capacity := by
  unfold popFront
  by_cases hlt : n < r.len
  · rw [if_pos hlt]
    apply length_splice
    have h := r.len_le
    rw [List.length_drop, length_content]
    omega
  · rw [if_neg hlt]
    rfl

theorem content_shiftToTail (r : Ring) :
    r.shiftToTail.content = List.replicate r.free 0 ++ r.content := by
  show (List.replicate r.free (0 : UInt8) ++ r.content).take r.capacity = _
  apply List.take_of_length_le
  have h := r.len_add_free
  rw [List.length_append, List.length_replicate, length_content]
  omega

@[simp] theorem capacity_shiftToTail (r : Ring) : r.shiftToTail.capacity = r.capacity := by
  show (List.replicate r.free (0 : UInt8) ++ r.content).length = r.capacity
  have h := r.len_add_free
  rw [List.length_append, List.length_replicate, length_content]
  omega

/-- Afterwards the ring is full. -/
theorem free_shiftToTail (r : Ring) : r.shiftToTail.free = 0 := by
  unfold free
  rw [capacity_shiftToTail]
  exact Nat.sub_self r.capacity

/-- A full ring has no room for silence in front either. -/
theorem shiftToTail_full {r : Ring} (h : r.free = 0) : r.shiftToTail = r := by
  have hfill := r.len_add_free
  have hlen : r.len = r.capacity := by omega
  have hcells : List.replicate r.free 0 ++ r.content = r.cells := by
    rw [h, List.replicate_zero, List.nil_append]
    exact List.take_of_length_le (Nat.le_of_eq hlen.symm)
  unfold shiftToTail
  obtain ⟨cells, len, hle⟩ := r
  simp only [mk.injEq]
  exact ⟨hcells, hlen.symm⟩

end PcmRender.Ring
