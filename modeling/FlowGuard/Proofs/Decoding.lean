import FlowGuard.Proofs.Requests
import Mathlib.Algebra.Group.Nat.Defs
import Mathlib.Data.List.Basic

/-!
The guard table, decoded with any host. A debugger answers reads and takes marks in its own way, and a mark may
change it; with a `Host` as debugger, decoding is `Table.decode`. Slot `i` lies `i` strides behind the first one,
modulo the size of the address space. Decoding succeeds exactly when every slot can be read; otherwise it reports the
first field that cannot be read, and has marked nothing.
-/

namespace FlowGuard

namespace Table

def slotAddress (b : GuardBlock) (i : Nat) : Address :=
  b.table + UInt64.ofNat i * (4 + b.metadataSize.toUInt64)

theorem next_slot (a size : UInt64) (i : Nat) :
    a + size + UInt64.ofNat i * size = a + UInt64.ofNat (i + 1) * size := by
  rw [UInt64.ofNat_add]
  grind

theorem toNat_slotAddress (b : GuardBlock) (i : Nat) :
    (slotAddress b i).toNat = (b.table.toNat + i * (4 + b.metadataSize.toNat)) % 2 ^ 64 := by
  have hsize : (4 + b.metadataSize.toUInt64).toNat = 4 + b.metadataSize.toNat := by
    have hlt := b.metadataSize.toNat_lt
    have hfour : (4 : UInt64).toNat = 4 := rfl
    rw [UInt64.toNat_add, UInt32.toNat_toUInt64, hfour]
    exact Nat.mod_eq_of_lt (by omega)
  rw [slotAddress, UInt64.toNat_add, UInt64.toNat_mul, hsize, UInt64.toNat_ofNat', Nat.mod_mul_mod, Nat.add_mod_mod]

def markRequests (es : List Entry) : List Request :=
  es.map fun e => .mark e.address hashSize

/-- The table cannot be read because of the first slot that cannot be read. -/
theorem readSlots_eq_error_iff (r : FieldReader) (base : Address) (size : UInt64) (count : Nat) (a : Address)
    (found : List Entry) (e : RunError) :
    readSlots r base size count a found = .error e ↔
      ∃ i, i < count ∧ slotAt r (a + UInt64.ofNat i * size) = .error e ∧
        ∀ j, j < i → ∃ slot, slotAt r (a + UInt64.ofNat j * size) = .ok slot := by
  induction count generalizing a found with
  | zero => simp [readSlots]
  | succ count ih =>
    have h₀ : a + UInt64.ofNat 0 * size = a := by simp
    cases hs : slotAt r a with
    | error e' =>
      simp only [readSlots, hs, Except.error.injEq]
      constructor
      · intro he
        refine ⟨0, by omega, ?_, by omega⟩
        rw [h₀, hs, he]
      · rintro ⟨i, hi, he, hj⟩
        cases i with
        | zero =>
          rw [h₀, hs] at he
          exact Except.error.inj he
        | succ i =>
          obtain ⟨slot, hok⟩ := hj 0 (by omega)
          rw [h₀, hs] at hok
          cases hok
    | ok slot =>
      -- what is left is read one stride further on, so its slot `i` is slot `i + 1` of the table
      simp only [readSlots, hs]
      rw [ih]
      constructor
      · rintro ⟨i, hi, he, hj⟩
        refine ⟨i + 1, by omega, by rw [← next_slot]; exact he, ?_⟩
        intro j hlt
        cases j with
        | zero => exact ⟨slot, by rw [h₀]; exact hs⟩
        | succ j =>
          rw [← next_slot]
          exact hj j (by omega)
      · rintro ⟨i, hi, he, hj⟩
        cases i with
        | zero =>
          rw [h₀, hs] at he
          cases he
        | succ i =>
          refine ⟨i, by omega, by rw [next_slot]; exact he, ?_⟩
          intro j hlt
          rw [next_slot]
          exact hj (j + 1) (by omega)

/-- A table that was read to its end has given the entries of its slots, behind those found before. -/
theorem exists_slots_of_readSlots_ok (r : FieldReader) (base : Address) (size : UInt64) (count : Nat) (a : Address)
    (found es : List Entry) (h : readSlots r base size count a found = .ok es) :
    ∃ slots : List (UInt32 × UInt8), slots.length = count ∧
      (∀ i slot, slots[i]? = some slot → slotAt r (a + UInt64.ofNat i * size) = .ok slot) ∧
      es = found.reverse ++ slots.filterMap (entryOf? base) := by
  induction count generalizing a found with
  | zero =>
    cases h
    exact ⟨[], rfl, by simp, by simp⟩
  | succ count ih =>
    cases hs : slotAt r a with
    | error e => simp [readSlots, hs] at h
    | ok slot =>
      simp only [readSlots, hs] at h
      obtain ⟨slots, rfl, hslots, rfl⟩ := ih _ _ h
      refine ⟨slot :: slots, rfl, ?_, ?_⟩
      · intro i slot' hi
        cases i with
        | zero =>
          cases hi
          simpa using hs
        | succ i =>
          rw [← next_slot]
          exact hslots i slot' hi
      · rw [List.filterMap_cons]
        cases entryOf? base slot <;> simp

section

variable (r : FieldReader) (base : Address) {b : GuardBlock} (hon : b.isEnabled = true) (hmeta : b.metadataSize ≠ 0)
include hon hmeta

/-- With hashes and metadata there is a table to read. -/
theorem entries_eq :
    entries r base b = readSlots r base (4 + b.metadataSize.toUInt64) b.count.toNat b.table [] := by
  simp [entries, stride, hon, hmeta]

theorem entries_eq_error_iff (e : RunError) :
    entries r base b = .error e ↔ ∃ i, i < b.count.toNat ∧ slotAt r (slotAddress b i) = .error e ∧
      ∀ j, j < i → ∃ slot, slotAt r (slotAddress b j) = .ok slot := by
  rw [entries_eq r base hon hmeta, readSlots_eq_error_iff]
  rfl

theorem exists_slots_of_entries_eq_ok (es : List Entry) (h : entries r base b = .ok es) :
    ∃ slots : List (UInt32 × UInt8), slots.length = b.count.toNat ∧
      (∀ i slot, slots[i]? = some slot → slotAt r (slotAddress b i) = .ok slot) ∧
      es = slots.filterMap (entryOf? base) := by
  rw [entries_eq r base hon hmeta] at h
  exact exists_slots_of_readSlots_ok r base _ _ _ [] es h

/-- The entries can be had exactly when every slot can be read. -/
theorem exists_entries_iff :
    (∃ es, entries r base b = .ok es) ↔
      ∀ i, i < b.count.toNat → ∃ slot, slotAt r (slotAddress b i) = .ok slot := by
  constructor
  · rintro ⟨es, hes⟩ i hi
    obtain ⟨slots, hlength, hslots, -⟩ := exists_slots_of_entries_eq_ok r base hon hmeta es hes
    exact ⟨_, hslots i _ (List.getElem?_eq_getElem (by omega))⟩
  · intro hall
    cases hes : entries r base b with
    | ok es => exact ⟨es, rfl⟩
    | error e =>
      obtain ⟨i, hi, he, -⟩ := (entries_eq_error_iff r base hon hmeta e).mp hes
      obtain ⟨slot, hslot⟩ := hall i hi
      rw [hslot] at he
      cases he

end

end Table

namespace Debugger

open Table (slotAddress entryOf? markRequests)

variable {σ : Type} (t : Debugger σ) (s : σ)

def Reads (b : GuardBlock) (i : Nat) (slot : UInt32 × UInt8) : Prop :=
  t.uint32 s (slotAddress b i) = .ok slot.1 ∧ t.uint8 s (slotAddress b i + 4) = .ok slot.2

theorem slotAt_eq_ok_iff (b : GuardBlock) (i : Nat) (slot : UInt32 × UInt8) :
    Table.slotAt (t.fields s) (slotAddress b i) = .ok slot ↔ t.Reads s b i slot := by
  simp only [Table.slotAt, fields, Reads]
  cases hr : t.uint32 s (slotAddress b i) with
  | error e => simp
  | ok rva =>
    cases hf : t.uint8 s (slotAddress b i + 4) with
    | error e => simp
    | ok flags => simp [Prod.ext_iff]

/-- The first field of the slot at `first` that cannot be read, and why. -/
inductive Faults (first : Address) : Address → MemoryError → Prop
  | function {cause : MemoryError} (h : t.uint32 s first = .error cause) : Faults first first cause
  | flags {rva : UInt32} {cause : MemoryError} (hr : t.uint32 s first = .ok rva)
      (h : t.uint8 s (first + 4) = .error cause) : Faults first (first + 4) cause

theorem exists_fault_of_slotAt (first : Address) (e : RunError) (h : Table.slotAt (t.fields s) first = .error e) :
    ∃ a cause, t.Faults s first a cause ∧ e = .tableRead a cause := by
  simp only [Table.slotAt, fields] at h
  cases hr : t.uint32 s first with
  | error cause =>
    rw [hr] at h
    cases h
    exact ⟨first, cause, .function hr, rfl⟩
  | ok rva =>
    cases hf : t.uint8 s (first + 4) with
    | error cause =>
      simp only [hr, hf] at h
      cases h
      exact ⟨first + 4, cause, .flags hr hf, rfl⟩
    | ok flags => simp [hr, hf] at h

/-- Marking makes one request for each entry, in order, and counts every answer once. -/
theorem markAll_spec (table : DecodedTable) (es : List Entry) :
    (t.markAll s table es).requests = markRequests es ∧
      (t.markAll s table es).value.2.entries = table.entries ∧
      (t.markAll s table es).value.2.marked + (t.markAll s table es).value.2.warnings =
        table.marked + table.warnings + es.length := by
  induction es generalizing s table with
  | nil => simp [markAll, markRequests]
  | cons e rest ih =>
    rcases hm : t.mark s e.address hashSize with ⟨answer, s'⟩
    cases answer with
    | ok _ =>
      obtain ⟨hr, he, hc⟩ := ih s' { table with marked := table.marked + 1 }
      simp only [markAll, hm, Traced.requests_bind, Traced.requests_request, Traced.value_bind, hr, he, hc,
        markRequests, List.map_cons, List.length_cons]
      refine ⟨rfl, trivial, by omega⟩
    | error r =>
      obtain ⟨hr, he, hc⟩ := ih s' { table with warnings := table.warnings + 1 }
      simp only [markAll, hm, Traced.requests_bind, Traced.requests_request, Traced.requests_note,
        Traced.value_bind, hr, he, hc, markRequests, List.map_cons, List.length_cons]
      refine ⟨rfl, trivial, by omega⟩

theorem address_filterMap_entryOf? (base : Address) (slots : List (UInt32 × UInt8)) :
    (slots.filterMap (entryOf? base)).map Entry.address =
      (slots.filter fun slot => slot.2 &&& 0x08 != 0).map fun slot => base + slot.1.toUInt64 - 8 := by
  induction slots with
  | nil => rfl
  | cons slot rest ih =>
    cases hf : slot.2 &&& 0x08 != 0 with
    | true => simpa [entryOf?, Table.hashFlag, Entry.ofRva, hf] using ih
    | false => simpa [entryOf?, Table.hashFlag, hf] using ih

/-- Decoding a table with hashes is exact, whatever the host answers. -/
theorem decode_is_exact (base : Address) (b : GuardBlock) (hon : b.isEnabled = true)
    (hmeta : b.metadataSize ≠ 0) :
    (∀ i, (slotAddress b i).toNat = (b.table.toNat + i * (4 + b.metadataSize.toNat)) % 2 ^ 64) ∧
      ((∃ table, (t.decode s base b).value.1 = .ok table) ↔
        ∀ i, i < b.count.toNat → ∃ slot, t.Reads s b i slot) ∧
      (∀ table, (t.decode s base b).value.1 = .ok table →
        ∃ slots : List (UInt32 × UInt8), slots.length = b.count.toNat ∧
          (∀ i slot, slots[i]? = some slot → t.Reads s b i slot) ∧
          table.entries.map Entry.address =
            ((slots.filter fun slot => slot.2 &&& 0x08 != 0).map fun slot => base + slot.1.toUInt64 - 8) ∧
          table.marked + table.warnings = table.entries.length ∧
          (t.decode s base b).requests = table.entries.map fun e => .mark e.address 8) ∧
      ((¬∀ i, i < b.count.toNat → ∃ slot, t.Reads s b i slot) →
        ∃ i a cause, i < b.count.toNat ∧ (∀ j, j < i → ∃ slot, t.Reads s b j slot) ∧
          t.Faults s (slotAddress b i) a cause ∧
          (t.decode s base b).value = (.error (.tableRead a cause), s) ∧ (t.decode s base b).requests = []) ∧
      ∀ h : Host, ofHost.decode h base b = Table.decode h base b := by
  have hread := Table.exists_entries_iff (t.fields s) base hon hmeta
  simp only [slotAt_eq_ok_iff] at hread
  refine ⟨Table.toNat_slotAddress b, ?_, ?_, ?_, fun _ => rfl⟩
  · rw [← hread]
    unfold decode
    cases Table.entries (t.fields s) base b <;> simp
  · intro table htable
    unfold decode at htable ⊢
    cases hes : Table.entries (t.fields s) base b with
    | error e =>
      rw [hes] at htable
      cases htable
    | ok es =>
      obtain ⟨hr, he, hc⟩ := t.markAll_spec s { entries := es } es
      obtain ⟨slots, hlength, hslots, rfl⟩ := Table.exists_slots_of_entries_eq_ok (t.fields s) base hon hmeta es hes
      simp only [slotAt_eq_ok_iff] at hslots
      rw [hes] at htable
      obtain rfl := Except.ok.inj htable
      refine ⟨slots, hlength, hslots, ?_, ?_, ?_⟩
      · rw [he, address_filterMap_entryOf?]
      · rw [he, hc]
        exact Nat.zero_add _
      · simp only [Traced.requests_bind, Traced.requests_note, hr, he, Traced.requests_pure, List.nil_append,
          List.append_nil]
        rfl
  · intro hnot
    cases hes : Table.entries (t.fields s) base b with
    | ok es => exact absurd (hread.mp ⟨es, hes⟩) hnot
    | error e =>
      obtain ⟨i, hi, he, hfirst⟩ := (Table.entries_eq_error_iff (t.fields s) base hon hmeta e).mp hes
      simp only [slotAt_eq_ok_iff] at hfirst
      obtain ⟨a, cause, hfault, rfl⟩ := t.exists_fault_of_slotAt s _ e he
      refine ⟨i, a, cause, hi, hfirst, hfault, ?_, ?_⟩ <;> simp [decode, hes]

/-- A table whose second slot lies behind the end of the address space, at its start: with all slots readable both
hashes are marked, though the host refuses the second mark; with the last flags missing nothing is marked. -/
theorem decode_is_exact_wrapping :
    let b : GuardBlock := ⟨0, 0, 0xFFFFFFFFFFFFFFFB, 2, 0x10800000⟩
    let t (missing : Address) : Debugger Nat :=
      { uint8 := fun _ a => if a = missing then .error (.unmapped a) else .ok 0x08
        uint32 := fun _ a => .ok (if a = 0 then 0x2000 else 0x1000)
        mark := fun marks a _ => (if marks = 0 then .ok () else .error (.rejected a), marks + 1) }
    b.isEnabled = true ∧ b.metadataSize ≠ 0 ∧
      (∃ table, ((t 0x5000).decode 0 0x140000000 b).value.1 = .ok table ∧ table.marked + table.warnings = 2 ∧
        ((t 0x5000).decode 0 0x140000000 b).requests = [.mark 0x140000FF8 8, .mark 0x140001FF8 8]) ∧
      ((t 4).decode 0 0x140000000 b).value = (.error (.tableRead 4 (.unmapped 4)), 0) ∧
      ((t 4).decode 0 0x140000000 b).requests = [] := by
  intro b t
  have hon : b.isEnabled = true := by decide
  have hmeta : b.metadataSize ≠ 0 := by decide
  have hfirst : slotAddress b 0 = 0xFFFFFFFFFFFFFFFB := by decide
  have hsecond : slotAddress b 1 = 0 := by decide
  have hslots : ∀ i, i < b.count.toNat → i = 0 ∨ i = 1 := by
    intro i hi
    have hcount : b.count.toNat = 2 := rfl
    omega
  obtain ⟨-, hok, hall, -⟩ := (t 0x5000).decode_is_exact 0 0x140000000 b hon hmeta
  obtain ⟨-, -, -, hfault, -⟩ := (t 4).decode_is_exact 0 0x140000000 b hon hmeta
  refine ⟨hon, hmeta, ?_, ?_⟩
  · obtain ⟨table, htable⟩ := hok.mpr (by
      intro i hi
      rcases hslots i hi with rfl | rfl
      · exact ⟨(0x1000, 0x08), by simp [Reads, hfirst, t]⟩
      · exact ⟨(0x2000, 0x08), by simp [Reads, hsecond, t]⟩)
    obtain ⟨slots, hlength, hread, haddress, hcounts, hrequests⟩ := hall table htable
    obtain ⟨⟨rva, flags⟩, ⟨rva', flags'⟩, rfl⟩ := List.length_eq_two.mp hlength
    obtain ⟨rfl, rfl⟩ : 0x1000 = rva ∧ 0x08 = flags := by simpa [Reads, hfirst, t] using hread 0 _ rfl
    obtain ⟨rfl, rfl⟩ : 0x2000 = rva' ∧ 0x08 = flags' := by simpa [Reads, hsecond, t] using hread 1 _ rfl
    have hmarked : table.entries.map Entry.address = [0x140000FF8, 0x140001FF8] := by
      rw [haddress]
      decide
    refine ⟨table, htable, ?_, ?_⟩
    · rw [hcounts, ← List.length_map Entry.address, hmarked]
      rfl
    · have hmarks := congrArg (List.map fun a => Request.mark a 8) hmarked
      rw [List.map_map] at hmarks
      rw [hrequests]
      exact hmarks
  · obtain ⟨i, a, cause, hi, -, hf, hvalue, hrequests⟩ := hfault (by
      intro hread
      obtain ⟨slot, -, hflags⟩ := hread 1 (by decide)
      simp [hsecond, t] at hflags)
    have hcause : a = 4 ∧ cause = .unmapped 4 := by
      rcases hslots i hi with rfl | rfl
      · cases hf with
        | function h => simp [t] at h
        | flags hr h => simp [hfirst, t] at h
      · cases hf with
        | function h => simp [t] at h
        | flags hr h => exact ⟨by rw [hsecond]; decide, by simpa [hsecond, t, eq_comm] using h⟩
    rw [hcause.1, hcause.2] at hvalue
    exact ⟨hvalue, hrequests⟩

end Debugger

end FlowGuard
