import FlowGuard.Proofs.Decoding

/-!
The guard table of a host, slot by slot. Reading the table succeeds exactly when every slot can be read. Marking
makes one request for each entry, whatever becomes of the mark, and ends in the host that has carried them out.
-/

namespace FlowGuard.Table

/-- A table whose slots are known. -/
theorem readSlots_of_list (m : Memory) (base : Address) (size : UInt64) (slots : List (UInt32 × UInt8))
    (a : Address) (found : List Entry)
    (hs : ∀ i slot, slots[i]? = some slot → slotAt m (a + UInt64.ofNat i * size) = .ok slot) :
    readSlots m base size slots.length a found =
      .ok (found.reverse ++ slots.filterMap (entryOf? base)) := by
  induction slots generalizing a found with
  | nil => simp [readSlots]
  | cons slot rest ih =>
    have h₀ : slotAt m a = .ok slot := by simpa using hs 0 slot rfl
    have hrest : ∀ i slot, rest[i]? = some slot →
        slotAt m (a + size + UInt64.ofNat i * size) = .ok slot := by
      intro i slot hi
      rw [next_slot]
      exact hs (i + 1) slot hi
    simp only [List.length_cons, readSlots, h₀]
    rw [ih _ _ hrest, List.filterMap_cons]
    cases entryOf? base slot <;> simp

theorem exists_error_iff {ε α : Type} (x : Except ε α) : (∃ e, x = .error e) ↔ ¬∃ a, x = .ok a := by
  cases x <;> simp

/-- A slot can be read exactly when its address field and its first metadata byte can. -/
theorem slotAt_fails_iff (m : Memory) (a : Address) :
    (∃ e, slotAt m a = .error e) ↔
      (∃ e, m.readUInt32 a = .error e) ∨ ∃ e, m.readUInt8 (a + 4) = .error e := by
  cases hr : m.readUInt32 a with
  | error e => simp [slotAt, hr]
  | ok rva =>
    cases hf : m.readUInt8 (a + 4) with
    | error e => simp [slotAt, hr, hf]
    | ok flags => simp [slotAt, hr, hf]

/-- The stride is a matter of the flags. -/
theorem stride_congr {b b' : GuardBlock} (h : b.flags = b'.flags) : stride b = stride b' := by
  cases b
  cases b'
  cases h
  rfl

/-- When the entries of a table cannot be had. -/
theorem entries_fails_iff (m : Memory) (base : Address) (b : GuardBlock) :
    (∃ e, entries m base b = .error e) ↔
      b.isEnabled = false ∨ b.metadataSize = 0 ∨
        ∃ i, i < b.count.toNat ∧
          ((∃ e, m.readUInt32 (slotAddress b i) = .error e) ∨
            ∃ e, m.readUInt8 (slotAddress b i + 4) = .error e) := by
  cases he : b.isEnabled with
  | false => simp [entries, stride, he]
  | true =>
    by_cases hz : b.metadataSize = 0
    · simp [entries, stride, he, hz]
    · simp only [Bool.true_eq_false, hz, false_or, ← slotAt_fails_iff]
      rw [exists_error_iff, exists_entries_iff m base he hz]
      simp only [exists_error_iff, Classical.not_forall, exists_prop]

/-- The entries of a table are those of its slots, in order. -/
theorem exists_slots_of_entries (m : Memory) (base : Address) (b : GuardBlock) (es : List Entry)
    (h : entries m base b = .ok es) :
    ∃ slots : List (UInt32 × UInt8), slots.length = b.count.toNat ∧
      (∀ i slot, slots[i]? = some slot → slotAt m (slotAddress b i) = .ok slot) ∧
      es = slots.filterMap (entryOf? base) := by
  have hnot : ¬∃ e, entries m base b = .error e := by
    rw [h]
    simp
  rw [entries_fails_iff] at hnot
  have hon : b.isEnabled = true := by
    rw [← Bool.not_eq_false]
    exact fun hoff => hnot (.inl hoff)
  have hmeta : b.metadataSize ≠ 0 := fun hz => hnot (.inr (.inl hz))
  exact exists_slots_of_entries_eq_ok m base hon hmeta es h

/-- Marking ends in the host that has carried out its requests, and counts what became of the marks. -/
theorem value_markAll (h : Host) (t : DecodedTable) (es : List Entry) :
    (Debugger.ofHost.markAll h t es).value = (h.performAll (markRequests es),
      { t with
        marked := t.marked + es.countP fun e => (h.refusal? e.address).isNone
        warnings := t.warnings + es.countP fun e => (h.refusal? e.address).isSome }) := by
  induction es generalizing h t with
  | nil => rfl
  | cons e es ih =>
    cases hf : h.refusal? e.address with
    | none =>
      let h' : Host := { h with annotations := h.annotations.setMark e.address hashSize }
      have hm : Debugger.ofHost.mark h e.address hashSize = (.ok (), h') := by
        simp [Debugger.ofHost, Host.markData, hf, h']
      have hrefusal : ∀ a, h'.refusal? a = h.refusal? a := fun _ => rfl
      have hv := ih h' { t with marked := t.marked + 1 }
      simp only [hrefusal] at hv
      simp only [markRequests] at hv
      simp [Debugger.markAll, markRequests, hm, hv, Host.perform, Host.markData, hf, h']
      omega
    | some r =>
      have hm : Debugger.ofHost.mark h e.address hashSize = (.error r, h) := by
        simp [Debugger.ofHost, Host.markData, hf]
      have hv := ih h { t with warnings := t.warnings + 1 }
      simp only [markRequests] at hv
      simp [Debugger.markAll, markRequests, hm, hv, Host.perform, Host.markData, hf]
      omega

end FlowGuard.Table
