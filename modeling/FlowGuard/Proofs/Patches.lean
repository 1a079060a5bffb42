import FlowGuard.Image.Bytes
import FlowGuard.Proofs.LittleEndian

/-!
Buffers made by placing patches. A byte of the buffer is that of the last patch placed over it. Patches that
lie one behind the other do not disturb each other, so each of them can be read back, and what lies between
them is what was there before.
-/

namespace FlowGuard.Bytes

theorem size_storeAt (buffer : Array UInt8) (offset : Nat) (bytes : List UInt8) :
    (storeAt buffer offset bytes).size = buffer.size := by
  induction bytes generalizing buffer offset with
  | nil => rfl
  | cons b rest ih => rw [storeAt, ih, Array.size_setIfInBounds]

theorem getElem?_storeAt (buffer : Array UInt8) (offset : Nat) (bytes : List UInt8) (i : Nat)
    (hi : i < buffer.size) :
    (storeAt buffer offset bytes)[i]? =
      if offset ≤ i ∧ i < offset + bytes.length then bytes[i - offset]? else buffer[i]? := by
  induction bytes generalizing buffer offset with
  | nil =>
    rw [storeAt, if_neg]
    simp only [List.length_nil]
    omega
  | cons b rest ih =>
    rw [storeAt, ih _ _ (by rwa [Array.size_setIfInBounds])]
    simp only [List.length_cons]
    by_cases he : i = offset
    · subst he
      rw [if_neg (by omega), if_pos (by omega), Nat.sub_self, List.getElem?_cons_zero]
      simp [hi]
    · by_cases hin : offset + 1 ≤ i ∧ i < offset + 1 + rest.length
      · have hidx : i - offset = i - (offset + 1) + 1 := by omega
        rw [if_pos hin, if_pos (by omega), hidx, List.getElem?_cons_succ]
      · rw [if_neg hin, if_neg (by omega), Array.getElem?_setIfInBounds_ne (Ne.symm he)]

/-- The patch fits into `size` bytes and lies over the position. -/
def Covers (size : Nat) (p : Nat × List UInt8) (i : Nat) : Prop :=
  p.1 + p.2.length ≤ size ∧ p.1 ≤ i ∧ i < p.1 + p.2.length

def putAll (buffer : Array UInt8) (ps : List (Nat × List UInt8)) : Array UInt8 :=
  ps.foldl (fun image (offset, bytes) => put image offset bytes) buffer

theorem putAll_cons (buffer : Array UInt8) (p : Nat × List UInt8) (ps : List (Nat × List UInt8)) :
    putAll buffer (p :: ps) = putAll (put buffer p.1 p.2) ps := rfl

theorem putAll_append (buffer : Array UInt8) (ps qs : List (Nat × List UInt8)) :
    putAll buffer (ps ++ qs) = putAll (putAll buffer ps) qs := by
  simp [putAll, List.foldl_append]

theorem size_put (buffer : Array UInt8) (offset : Nat) (bytes : List UInt8) :
    (put buffer offset bytes).size = buffer.size := by
  unfold put
  split
  · exact size_storeAt buffer offset bytes
  · rfl

theorem size_putAll (buffer : Array UInt8) (ps : List (Nat × List UInt8)) :
    (putAll buffer ps).size = buffer.size := by
  induction ps generalizing buffer with
  | nil => rfl
  | cons p ps ih => rw [putAll_cons, ih, size_put]

theorem getElem?_put_of_covers (buffer : Array UInt8) (p : Nat × List UInt8) (i : Nat)
    (h : Covers buffer.size p i) : (put buffer p.1 p.2)[i]? = p.2[i - p.1]? := by
  obtain ⟨hfit, hle, hlt⟩ := h
  rw [put, if_pos hfit, getElem?_storeAt _ _ _ _ (by omega), if_pos ⟨hle, hlt⟩]

theorem getElem?_put_of_not_covers (buffer : Array UInt8) (p : Nat × List UInt8) (i : Nat)
    (h : ¬Covers buffer.size p i) : (put buffer p.1 p.2)[i]? = buffer[i]? := by
  by_cases hi : i < buffer.size
  · unfold put
    split
    · next hfit =>
      rw [getElem?_storeAt _ _ _ _ hi, if_neg]
      exact fun hin => h ⟨hfit, hin⟩
    · rfl
  · rw [Array.getElem?_eq_none (by rw [size_put]; omega), Array.getElem?_eq_none (by omega)]

/-- Where no patch lies, the buffer is as it was. -/
theorem getElem?_putAll_of_not_covered (buffer : Array UInt8) (ps : List (Nat × List UInt8)) (i : Nat)
    (h : ∀ p ∈ ps, ¬Covers buffer.size p i) : (putAll buffer ps)[i]? = buffer[i]? := by
  induction ps generalizing buffer with
  | nil => rfl
  | cons p ps ih =>
    rw [putAll_cons, ih, getElem?_put_of_not_covers _ _ _ (h p (by simp))]
    intro q hq
    rw [size_put]
    exact h q (by simp [hq])

/-- What a byte becomes depends on what was there, and on nothing else of the buffer. -/
theorem getElem?_putAll_congr {buffer buffer' : Array UInt8} (ps : List (Nat × List UInt8)) (i : Nat)
    (hsize : buffer.size = buffer'.size) (hi : buffer[i]? = buffer'[i]?) :
    (putAll buffer ps)[i]? = (putAll buffer' ps)[i]? := by
  induction ps generalizing buffer buffer' with
  | nil => exact hi
  | cons p ps ih =>
    rw [putAll_cons, putAll_cons]
    refine ih (by rw [size_put, size_put, hsize]) ?_
    by_cases hc : Covers buffer.size p i
    · rw [getElem?_put_of_covers _ _ _ hc, getElem?_put_of_covers _ _ _ (hsize ▸ hc)]
    · rw [getElem?_put_of_not_covers _ _ _ hc, getElem?_put_of_not_covers _ _ _ (hsize ▸ hc), hi]

/-- Patches in ascending order, none of them below `bound`. -/
def Ascends : Nat → List (Nat × List UInt8) → Prop
  | _, [] => True
  | bound, p :: rest => bound ≤ p.1 ∧ Ascends (p.1 + p.2.length) rest

theorem Ascends.mono {bound bound' : Nat} {ps : List (Nat × List UInt8)} (h : Ascends bound ps)
    (hle : bound' ≤ bound) : Ascends bound' ps := by
  cases ps with
  | nil => trivial
  | cons p ps => exact ⟨Nat.le_trans hle h.1, h.2⟩

theorem Ascends.bound_le {bound : Nat} {ps : List (Nat × List UInt8)} (h : Ascends bound ps)
    (p : Nat × List UInt8) (hp : p ∈ ps) : bound ≤ p.1 := by
  induction ps generalizing bound with
  | nil => cases hp
  | cons q ps ih =>
    rcases List.mem_cons.mp hp with rfl | hp
    · exact h.1
    · have := ih h.2 hp
      have := h.1
      omega

/-- In an ascending list, patches end where later ones begin, or before. -/
theorem Ascends.end_le {bound : Nat} {ps qs : List (Nat × List UInt8)} (h : Ascends bound (ps ++ qs))
    (p q : Nat × List UInt8) (hp : p ∈ ps) (hq : q ∈ qs) : p.1 + p.2.length ≤ q.1 := by
  induction ps generalizing bound with
  | nil => cases hp
  | cons first ps ih =>
    rcases List.mem_cons.mp hp with rfl | hp
    · exact h.2.bound_le q (List.mem_append_right ps hq)
    · exact ih h.2 hp

/-- Each patch of an ascending list can be read back, also behind further patches that keep clear of it. -/
theorem getElem?_putAll_of_mem (buffer : Array UInt8) (ps later : List (Nat × List UInt8)) (bound : Nat)
    (hps : Ascends bound ps) (p : Nat × List UInt8) (hp : p ∈ ps) (i : Nat)
    (hc : Covers buffer.size p i) (hl : ∀ q ∈ later, ¬Covers buffer.size q i) :
    (putAll buffer (ps ++ later))[i]? = p.2[i - p.1]? := by
  induction ps generalizing buffer bound with
  | nil => cases hp
  | cons q ps ih =>
    rw [List.cons_append, putAll_cons]
    have hsize : (put buffer q.1 q.2).size = buffer.size := size_put _ _ _
    rcases List.mem_cons.mp hp with rfl | hp
    · rw [getElem?_putAll_of_not_covered, getElem?_put_of_covers _ _ _ hc]
      intro q' hq' hc'
      rw [hsize] at hc'
      rcases List.mem_append.mp hq' with hq' | hq'
      · have := hps.2.bound_le q' hq'
        have := hc.2.2
        have := hc'.2.1
        omega
      · exact hl q' hq' hc'
    · exact ih _ _ hps.2 hp (by rwa [hsize]) (by rwa [hsize])

/-- The `count` bytes from an offset on, as far as the buffer goes. -/
def part (buffer : Array UInt8) (offset count : Nat) : List UInt8 :=
  (buffer.toList.drop offset).take count

theorem getElem?_part (buffer : Array UInt8) (offset count i : Nat) (hi : i < count) :
    (part buffer offset count)[i]? = buffer[offset + i]? := by
  simp [part, hi]

/-- A part is given by its bytes. -/
theorem part_congr {buffer buffer' : Array UInt8} (offset count : Nat)
    (h : ∀ i, i < count → buffer[offset + i]? = buffer'[offset + i]?) :
    part buffer offset count = part buffer' offset count := by
  apply List.ext_getElem?
  intro i
  by_cases hi : i < count
  · rw [getElem?_part _ _ _ _ hi, getElem?_part _ _ _ _ hi, h i hi]
  · rw [List.getElem?_eq_none, List.getElem?_eq_none]
    · exact Nat.le_trans (List.length_take_le _ _) (by omega)
    · exact Nat.le_trans (List.length_take_le _ _) (by omega)

theorem length_part (buffer : Array UInt8) (offset count : Nat) (h : offset + count ≤ buffer.size) :
    (part buffer offset count).length = count := by
  simp only [part, List.length_take, List.length_drop, Array.length_toList]
  omega

theorem slice?_eq_part (buffer : Array UInt8) (offset count : Nat) (h : offset + count ≤ buffer.size) :
    slice? buffer offset count = some (part buffer offset count) := by
  rw [slice?, if_pos h, Array.toList_extract, List.extract_eq_take_drop, Nat.add_sub_cancel_left]
  rfl

theorem read?_eq_part (buffer : Array UInt8) (offset count : Nat) (h : offset + count ≤ buffer.size) :
    read? buffer offset count = some (part buffer offset count) := by
  unfold read?
  split
  · next hz => simp [hz, part]
  · exact slice?_eq_part buffer offset count h

theorem take_part (buffer : Array UInt8) (offset count k : Nat) (h : k ≤ count) :
    (part buffer offset count).take k = part buffer offset k := by
  rw [part, List.take_take, Nat.min_eq_left h]
  rfl

theorem drop_part (buffer : Array UInt8) (offset count k : Nat) :
    (part buffer offset count).drop k = part buffer (offset + k) (count - k) := by
  rw [part, List.drop_take, List.drop_drop]
  rfl

theorem field_part (buffer : Array UInt8) (offset count k size : Nat) (h : k + size ≤ count) :
    field (part buffer offset count) k size = LittleEndian.decode (part buffer (offset + k) size) := by
  rw [field, drop_part, take_part _ _ _ _ (by omega)]

/-- A part that is known can be cut in two. -/
theorem part_append (buffer : Array UInt8) (offset n k : Nat) (front back : List UInt8)
    (hn : front.length = n) (hk : back.length = k) (h : part buffer offset (n + k) = front ++ back) :
    part buffer offset n = front ∧ part buffer (offset + n) k = back := by
  have hcut : part buffer offset (n + k) = part buffer offset n ++ part buffer (offset + n) k := by
    rw [part, List.take_add, List.drop_drop]
    rfl
  have hlen : (part buffer offset n).length = front.length := by
    have hall := congrArg List.length h
    simp only [part, List.length_take, List.length_append] at hall ⊢
    omega
  rw [hcut] at h
  exact List.append_inj h hlen

/-- A patch of an ascending list is there as a whole, unless a later one lies over a byte of it. -/
theorem part_putAll_of_mem (buffer : Array UInt8) (ps later : List (Nat × List UInt8)) (bound : Nat)
    (hps : Ascends bound ps) (p : Nat × List UInt8) (hp : p ∈ ps)
    (hfit : p.1 + p.2.length ≤ buffer.size)
    (hl : ∀ q ∈ later, ∀ i, Covers buffer.size q i → ¬(p.1 ≤ i ∧ i < p.1 + p.2.length)) :
    part (putAll buffer (ps ++ later)) p.1 p.2.length = p.2 := by
  apply List.ext_getElem?
  intro i
  by_cases hi : i < p.2.length
  · rw [getElem?_part _ _ _ _ hi,
      getElem?_putAll_of_mem buffer ps later bound hps p hp (p.1 + i) ⟨hfit, by omega, by omega⟩,
      Nat.add_sub_cancel_left]
    intro q hq hc
    exact hl q hq _ hc ⟨by omega, by omega⟩
  · rw [List.getElem?_eq_none (by rw [length_part _ _ _ (by rwa [size_putAll])]; omega),
      List.getElem?_eq_none (by omega)]

theorem part_putAll_of_gap (buffer : Array UInt8) (ps : List (Nat × List UInt8)) (offset count : Nat)
    (h : ∀ p ∈ ps, ∀ i, Covers buffer.size p i → ¬(offset ≤ i ∧ i < offset + count)) :
    part (putAll buffer ps) offset count = part buffer offset count := by
  apply part_congr
  intro i hi
  apply getElem?_putAll_of_not_covered
  intro p hp hc
  exact h p hp _ hc ⟨by omega, by omega⟩

end FlowGuard.Bytes
