import FlowGuard.Image.Bytes
import FlowGuard.Proofs.Header
import FlowGuard.Proofs.LittleEndian
import FlowGuard.Proofs.Memory.Flat
import Mathlib.Algebra.Ring.Nat

/-!
Blocks of fields next to the end of the address space. A cursor reads the fields of a block one behind the other and,
once it has passed the last address, goes on at the first one; a read of the whole block refuses that. The two agree
unless the block reaches over the end, and then the end falls between two of its fields.
-/

namespace FlowGuard

theorem Address.toNat_add_ofNat (a : Address) (n : Nat) : (a + UInt64.ofNat n).toNat = (a.toNat + n) % spaceSize := by
  rw [UInt64.toNat_add, UInt64.toNat_ofNat', Nat.add_mod_mod]
  rfl

namespace Memory

theorem length_of_read {m : Memory} {a : Address} {n : Nat} {bytes : List UInt8} (h : m.read a n = .ok bytes) :
    bytes.length = n :=
  ((m.read_eq_ok_iff a n bytes).mp h).1

/-- Reads fields of these sizes one behind the other, as a cursor does. -/
def readFields (m : Memory) (a : Address) : List Nat → Except MemoryError (List UInt8)
  | [] => .ok []
  | size :: rest => do
    let bytes ← m.read a size
    let more ← readFields m (a + UInt64.ofNat size) rest
    return bytes ++ more

/-- No field reaches over the end of the address space, though the block may. -/
def Uncut (a : Address) : List Nat → Prop
  | [] => True
  | size :: rest => a.toNat + size ≤ spaceSize ∧ Uncut (a + UInt64.ofNat size) rest

instance decidableUncut (a : Address) : (sizes : List Nat) → Decidable (Uncut a sizes)
  | [] => isTrue trivial
  | size :: rest =>
    have := decidableUncut (a + UInt64.ofNat size) rest
    inferInstanceAs (Decidable (_ ∧ _))

/-- The bytes can be read from the address on, where the first address follows the last. -/
def Surrounds (m : Memory) (a : Address) (bytes : List UInt8) : Prop :=
  ∀ i, i < bytes.length →
    m.IsReadable ((a.toNat + i) % spaceSize) ∧ m.byteAt? ((a.toNat + i) % spaceSize) = bytes[i]?

theorem surrounds_append (m : Memory) (a : Address) (front back : List UInt8) :
    m.Surrounds a (front ++ back) ↔ m.Surrounds a front ∧ m.Surrounds (a + UInt64.ofNat front.length) back := by
  have hnext : ∀ i, ((a + UInt64.ofNat front.length).toNat + i) % spaceSize =
      (a.toNat + (front.length + i)) % spaceSize := by
    intro i
    rw [Address.toNat_add_ofNat, Nat.mod_add_mod, Nat.add_assoc]
  unfold Surrounds
  simp only [List.length_append, hnext]
  constructor
  · intro h
    refine ⟨?_, ?_⟩
    · intro i hi
      have := h i (by omega)
      rwa [List.getElem?_append_left hi] at this
    · intro i hi
      have := h (front.length + i) (by omega)
      rwa [List.getElem?_append_right (by omega), Nat.add_sub_cancel_left] at this
  · rintro ⟨hfront, hback⟩ i hi
    by_cases hin : i < front.length
    · rw [List.getElem?_append_left hin]
      exact hfront i hin
    · have := hback (i - front.length) (by omega)
      rwa [Nat.add_sub_cancel' (by omega), ← List.getElem?_append_right (by omega)] at this

/-- A read that stays in the address space. -/
theorem read_eq_ok_iff_surrounds (m : Memory) (a : Address) (n : Nat) (bytes : List UInt8) :
    m.read a n = .ok bytes ↔ bytes.length = n ∧ a.toNat + n ≤ spaceSize ∧ m.Surrounds a bytes := by
  have hspace : (n = 0 ∨ a.toNat + n ≤ spaceSize) ↔ a.toNat + n ≤ spaceSize := by
    have : a.toNat < spaceSize := a.toNat_lt
    omega
  rw [read_eq_ok_iff, hspace]
  constructor
  · rintro ⟨rfl, hle, hall⟩
    refine ⟨rfl, hle, ?_⟩
    intro i hi
    rw [Nat.mod_eq_of_lt (by omega)]
    exact hall i hi
  · rintro ⟨rfl, hle, hall⟩
    refine ⟨rfl, hle, ?_⟩
    intro i hi
    have := hall i hi
    rwa [Nat.mod_eq_of_lt (by omega)] at this

theorem readFields_cons_eq_ok_iff (m : Memory) (a : Address) (size : Nat) (rest : List Nat) (bytes : List UInt8) :
    m.readFields a (size :: rest) = .ok bytes ↔
      ∃ front back, m.read a size = .ok front ∧ m.readFields (a + UInt64.ofNat size) rest = .ok back ∧
        bytes = front ++ back := by
  simp only [readFields, bind_eq_ok_iff, pure, Except.pure, Except.ok.injEq]
  constructor
  · rintro ⟨front, hfront, back, hback, rfl⟩
    exact ⟨front, back, hfront, hback, rfl⟩
  · rintro ⟨front, back, hfront, hback, rfl⟩
    exact ⟨front, hfront, back, hback, rfl⟩

/-- When fields can be read one behind the other, and what that gives. -/
theorem readFields_eq_ok_iff (m : Memory) (a : Address) (sizes : List Nat) (bytes : List UInt8) :
    m.readFields a sizes = .ok bytes ↔ bytes.length = sizes.sum ∧ Uncut a sizes ∧ m.Surrounds a bytes := by
  induction sizes generalizing a bytes with
  | nil =>
    rw [readFields, Except.ok.injEq, List.sum_nil, List.length_eq_zero_iff]
    constructor
    · rintro rfl
      exact ⟨rfl, trivial, fun i hi => absurd hi (Nat.not_lt_zero i)⟩
    · exact fun h => h.1.symm
  | cons size rest ih =>
    simp only [readFields_cons_eq_ok_iff, ih, read_eq_ok_iff_surrounds, Uncut, List.sum_cons]
    constructor
    · rintro ⟨front, back, ⟨rfl, hspace, hfront⟩, ⟨hlen, huncut, hback⟩, rfl⟩
      refine ⟨by rw [List.length_append, hlen], ⟨hspace, huncut⟩, ?_⟩
      exact (m.surrounds_append a front back).mpr ⟨hfront, hback⟩
    · rintro ⟨hlen, ⟨hspace, huncut⟩, hall⟩
      have hfront : (bytes.take size).length = size := by
        rw [List.length_take]
        omega
      rw [← List.take_append_drop size bytes, surrounds_append, hfront] at hall
      refine ⟨bytes.take size, bytes.drop size, ⟨hfront, hspace, hall.1⟩, ⟨?_, huncut, hall.2⟩, ?_⟩
      · rw [List.length_drop]
        omega
      · rw [List.take_append_drop]

/-- A block that was read field by field, read as a whole. -/
theorem read_of_readFields {m : Memory} {a : Address} {sizes : List Nat} {bytes : List UInt8}
    (h : m.readFields a sizes = .ok bytes) :
    m.read a sizes.sum =
      if a.toNat + sizes.sum ≤ spaceSize then .ok bytes else .error (.overflow a sizes.sum) := by
  obtain ⟨hlen, -, hall⟩ := (readFields_eq_ok_iff m a sizes bytes).mp h
  split
  case isTrue hspace => exact (m.read_eq_ok_iff_surrounds a _ bytes).mpr ⟨hlen, hspace, hall⟩
  case isFalse hover =>
    have : a.toNat < spaceSize := a.toNat_lt
    rw [read, if_neg (by omega), if_pos (by omega)]

/-- Fields that are not cut and reach over the end have it between them. -/
theorem Uncut.exists_end {a : Address} {sizes : List Nat} (h : Uncut a sizes)
    (hover : spaceSize < a.toNat + sizes.sum) :
    ∃ k, 0 < k ∧ k < sizes.length ∧ a.toNat + (sizes.take k).sum = spaceSize := by
  induction sizes generalizing a with
  | nil =>
    have : a.toNat < spaceSize := a.toNat_lt
    rw [List.sum_nil] at hover
    omega
  | cons size rest ih =>
    obtain ⟨hspace, huncut⟩ := h
    rw [List.sum_cons] at hover
    by_cases hend : a.toNat + size = spaceSize
    · have hrest : rest ≠ [] := by
        rintro rfl
        rw [List.sum_nil] at hover
        omega
      refine ⟨1, by omega, ?_, by simpa using hend⟩
      have := List.length_pos_iff.mpr hrest
      rw [List.length_cons]
      omega
    · have hnext : (a + UInt64.ofNat size).toNat = a.toNat + size := by
        rw [Address.toNat_add_ofNat, Nat.mod_eq_of_lt (by omega)]
      obtain ⟨k, hpos, hlt, hk⟩ := ih huncut (by omega)
      refine ⟨k + 1, by omega, by simpa using hlt, ?_⟩
      rw [List.take_succ_cons, List.sum_cons]
      omega

/-- A block that reaches over the end goes on at the first address. -/
theorem Surrounds.isReadable_zero {m : Memory} {a : Address} {bytes : List UInt8} (h : m.Surrounds a bytes)
    (hover : spaceSize < a.toNat + bytes.length) : m.IsReadable 0 := by
  have hlt : a.toNat < spaceSize := a.toNat_lt
  have hend := (h (spaceSize - a.toNat) (by omega)).1
  rwa [Nat.add_sub_cancel' (by omega), Nat.mod_self] at hend

theorem surrounds_flat (m : Memory) (a : Address) (n : Nat)
    (h : ∀ i, i < n → m.flat.failure? ((a.toNat + i) % spaceSize) = none) :
    m.Surrounds a ((List.range n).map fun i => m.flat.byte ((a.toNat + i) % spaceSize)) := by
  intro i hi
  rw [List.length_map, List.length_range] at hi
  have hread := (m.isReadable_iff_failure? _).mpr (h i hi)
  rw [List.getElem?_map, List.getElem?_range hi, Option.map_some]
  exact ⟨hread, byteAt?_of_isReadable hread⟩

/-- Fields in a memory that is known by its changes. -/
theorem readFields_replay (changes : List MemoryChange) (a : Address) (sizes : List Nat) (huncut : Uncut a sizes)
    (h : ∀ i, i < sizes.sum → (FlatMemory.replay changes).failure? ((a.toNat + i) % spaceSize) = none) :
    (replay changes).readFields a sizes =
      .ok ((List.range sizes.sum).map fun i => (FlatMemory.replay changes).byte ((a.toNat + i) % spaceSize)) := by
  rw [← flat_replay] at h ⊢
  exact (readFields_eq_ok_iff _ _ _ _).mpr ⟨by simp, huncut, surrounds_flat _ a _ h⟩

theorem readUInt32_replay (changes : List MemoryChange) (a : Address) (huncut : Uncut a [4])
    (h : ∀ i, i < 4 → (FlatMemory.replay changes).failure? ((a.toNat + i) % spaceSize) = none) :
    (replay changes).readUInt32 a =
      .ok (UInt32.ofNat (LittleEndian.decode ((List.range 4).map fun i =>
        (FlatMemory.replay changes).byte ((a.toNat + i) % spaceSize)))) := by
  rw [← flat_replay] at h ⊢
  have hread := ((replay changes).read_eq_ok_iff_surrounds a 4 _).mpr
    ⟨by simp, huncut.1, surrounds_flat _ a 4 h⟩
  rw [readUInt32, readNat, hread]
  rfl

end Memory

namespace Bytes

theorem field_append_left {bytes : List UInt8} {n : Nat} (h : bytes.length = n) (rest : List UInt8) :
    field (bytes ++ rest) 0 n = LittleEndian.decode bytes := by
  rw [field, List.drop_zero, ← h, List.take_left]

theorem field_append_right {bytes : List UInt8} {n : Nat} (h : bytes.length = n) (rest : List UInt8)
    (offset count : Nat) : field (bytes ++ rest) (n + offset) count = field rest offset count := by
  rw [field, field, ← h, ← List.drop_drop, List.drop_left]

end Bytes

namespace Header

def blockSizes (w : Width) : List Nat :=
  [w.pointerSize, w.pointerSize, w.pointerSize, w.pointerSize, 4]

theorem sum_blockSizes (w : Width) : (blockSizes w).sum = w.guardSize := by
  cases w <;> rfl

def blockOf (w : Width) (bytes : List UInt8) : GuardBlock where
  checkPointer := UInt64.ofNat (Bytes.field bytes 0 w.pointerSize)
  dispatchPointer := UInt64.ofNat (Bytes.field bytes w.pointerSize w.pointerSize)
  table := UInt64.ofNat (Bytes.field bytes (2 * w.pointerSize) w.pointerSize)
  count := UInt64.ofNat (Bytes.field bytes (3 * w.pointerSize) w.pointerSize)
  flags := UInt32.ofNat (Bytes.field bytes (4 * w.pointerSize) 4)

theorem uint32_eq_ok_iff (m : Memory) (a : Address) (v : UInt32) (c : Cursor) :
    Cursor.uint32 ⟨m, a⟩ = .ok (v, c) ↔
      ∃ bytes, m.read a 4 = .ok bytes ∧ v = UInt32.ofNat (LittleEndian.decode bytes) ∧
        c = ⟨m, a + UInt64.ofNat 4⟩ := by
  unfold Cursor.uint32 Memory.readUInt32 Memory.readNat
  cases m.read a 4 with
  | error e => simp [Except.map]
  | ok bytes => simp [Except.map, Cursor.skip, eq_comm]

theorem pointer_eq_ok_iff (m : Memory) (a : Address) (w : Width) (v : Address) (c : Cursor) :
    Cursor.pointer ⟨m, a⟩ w = .ok (v, c) ↔
      ∃ bytes, m.read a w.pointerSize = .ok bytes ∧ v = UInt64.ofNat (LittleEndian.decode bytes) ∧
        c = ⟨m, a + UInt64.ofNat w.pointerSize⟩ := by
  cases w with
  | bits32 =>
    unfold Cursor.pointer Cursor.uint32 Memory.readUInt32 Memory.readNat
    cases hr : m.read a 4 with
    | error e => simp [Except.map, Width.pointerSize, hr]
    | ok bytes =>
      have hlt := LittleEndian.decode_lt bytes
      rw [Memory.length_of_read hr] at hlt
      have hword : (UInt32.ofNat (LittleEndian.decode bytes)).toUInt64 = UInt64.ofNat (LittleEndian.decode bytes) := by
        rw [← UInt64.toNat_inj, UInt32.toNat_toUInt64, UInt32.toNat_ofNat', UInt64.toNat_ofNat']
        omega
      simp [Except.map, Width.pointerSize, hr, Cursor.skip, hword, eq_comm]
  | bits64 =>
    unfold Cursor.pointer Cursor.uint64 Memory.readUInt64 Memory.readNat
    cases hr : m.read a 8 with
    | error e => simp [Except.map, Width.pointerSize, hr]
    | ok bytes => simp [Except.map, Width.pointerSize, hr, Cursor.skip, eq_comm]

/-- The block of five fields, one behind the other. -/
theorem blockOf_append {w : Width} {check dispatch table count flags : List UInt8}
    (hcheck : check.length = w.pointerSize) (hdispatch : dispatch.length = w.pointerSize)
    (htable : table.length = w.pointerSize) (hcount : count.length = w.pointerSize) (hflags : flags.length = 4) :
    blockOf w (check ++ (dispatch ++ (table ++ (count ++ (flags ++ []))))) =
      { checkPointer := UInt64.ofNat (LittleEndian.decode check)
        dispatchPointer := UInt64.ofNat (LittleEndian.decode dispatch)
        table := UInt64.ofNat (LittleEndian.decode table)
        count := UInt64.ofNat (LittleEndian.decode count)
        flags := UInt32.ofNat (LittleEndian.decode flags) } := by
  have hthird : 2 * w.pointerSize = w.pointerSize + (w.pointerSize + 0) := by omega
  have hfourth : 3 * w.pointerSize = w.pointerSize + (w.pointerSize + (w.pointerSize + 0)) := by omega
  have hfifth : 4 * w.pointerSize = w.pointerSize + (w.pointerSize + (w.pointerSize + (w.pointerSize + 0))) := by omega
  have hsecond := Bytes.field_append_right hcheck (dispatch ++ (table ++ (count ++ (flags ++ [])))) 0 w.pointerSize
  rw [Nat.add_zero] at hsecond
  unfold blockOf
  rw [hthird, hfourth, hfifth, hsecond]
  simp only [Bytes.field_append_right hcheck, Bytes.field_append_right hdispatch, Bytes.field_append_right htable,
    Bytes.field_append_right hcount, Bytes.field_append_left hcheck, Bytes.field_append_left hdispatch,
    Bytes.field_append_left htable, Bytes.field_append_left hcount, Bytes.field_append_left hflags]

/-- A guard block is read field by field. -/
theorem readBlock_eq_ok_iff (m : Memory) (w : Width) (a : Address) (b : GuardBlock) :
    readBlock m w a = .ok b ↔ ∃ bytes, m.readFields a (blockSizes w) = .ok bytes ∧ b = blockOf w bytes := by
  unfold readBlock blockSizes
  simp only [bind_eq_ok_iff, Memory.readFields_cons_eq_ok_iff]
  constructor
  · rintro ⟨⟨_, _⟩, hc, ⟨_, _⟩, hd, ⟨_, _⟩, ht, ⟨_, _⟩, hn, ⟨_, _⟩, hf, hb⟩
    obtain ⟨check, hcheck, rfl, rfl⟩ := (pointer_eq_ok_iff _ _ _ _ _).mp hc
    obtain ⟨dispatch, hdispatch, rfl, rfl⟩ := (pointer_eq_ok_iff _ _ _ _ _).mp hd
    obtain ⟨table, htable, rfl, rfl⟩ := (pointer_eq_ok_iff _ _ _ _ _).mp ht
    obtain ⟨count, hcount, rfl, rfl⟩ := (pointer_eq_ok_iff _ _ _ _ _).mp hn
    obtain ⟨flags, hflags, rfl, rfl⟩ := (uint32_eq_ok_iff _ _ _ _).mp hf
    cases hb
    refine ⟨_, ⟨check, _, hcheck, ⟨dispatch, _, hdispatch, ⟨table, _, htable, ⟨count, _, hcount,
      ⟨flags, [], hflags, rfl, rfl⟩, rfl⟩, rfl⟩, rfl⟩, rfl⟩, ?_⟩
    exact (blockOf_append (Memory.length_of_read hcheck) (Memory.length_of_read hdispatch)
      (Memory.length_of_read htable) (Memory.length_of_read hcount) (Memory.length_of_read hflags)).symm
  · rintro ⟨_, ⟨check, _, hcheck, ⟨dispatch, _, hdispatch, ⟨table, _, htable, ⟨count, _, hcount,
      ⟨flags, _, hflags, hnil, rfl⟩, rfl⟩, rfl⟩, rfl⟩, rfl⟩, rfl⟩
    cases hnil
    rw [blockOf_append (Memory.length_of_read hcheck) (Memory.length_of_read hdispatch) (Memory.length_of_read htable)
      (Memory.length_of_read hcount) (Memory.length_of_read hflags)]
    exact ⟨_, (pointer_eq_ok_iff _ _ _ _ _).mpr ⟨check, hcheck, rfl, rfl⟩,
      _, (pointer_eq_ok_iff _ _ _ _ _).mpr ⟨dispatch, hdispatch, rfl, rfl⟩,
      _, (pointer_eq_ok_iff _ _ _ _ _).mpr ⟨table, htable, rfl, rfl⟩,
      _, (pointer_eq_ok_iff _ _ _ _ _).mpr ⟨count, hcount, rfl, rfl⟩,
      _, (uint32_eq_ok_iff _ _ _ _).mpr ⟨flags, hflags, rfl, rfl⟩, rfl⟩

theorem fieldAt_eq_ok_iff (base : Address) (offset : Nat) (hoffset : offset < spaceSize) (a : Address) :
    fieldAt base offset = .ok a ↔ a.toNat = base.toNat + offset := by
  have hword : (UInt64.ofNat offset).toNat = offset := by
    rw [UInt64.toNat_ofNat']
    exact Nat.mod_eq_of_lt hoffset
  have hlt : a.toNat < spaceSize := a.toNat_lt
  unfold fieldAt Address.add?
  rw [hword]
  by_cases hspace : base.toNat + offset < spaceSize
  · have hsum := Address.toNat_add_ofNat base offset
    rw [Nat.mod_eq_of_lt hspace] at hsum
    simp only [hspace, if_true, Except.ok.injEq, ← UInt64.toNat_inj, hsum, eq_comm]
  · simp only [hspace, if_false, reduceCtorEq, false_iff]
    omega

theorem ofMemory_eq_ok_iff {α : Type} (x : Except MemoryError α) (a : α) : ofMemory x = .ok a ↔ x = .ok a := by
  cases x with
  | error e =>
    have herror : ofMemory (.error e : Except MemoryError α) = .error (.unreadable e) := rfl
    simp [herror]
  | ok b => rw [ofMemory_ok, Except.ok.injEq, Except.ok.injEq]

def directoryOf (record : List UInt8) : UInt32 × UInt32 :=
  (UInt32.ofNat (Bytes.field record 0 4), UInt32.ofNat (Bytes.field record 4 4))

theorem directoryOf_append {front back : List UInt8} (hfront : front.length = 4) (hback : back.length = 4) :
    directoryOf (front ++ (back ++ [])) =
      (UInt32.ofNat (LittleEndian.decode front), UInt32.ofNat (LittleEndian.decode back)) := by
  have hsecond := Bytes.field_append_right hfront (back ++ []) 0 4
  rw [Bytes.field_append_left hback] at hsecond
  rw [directoryOf, Bytes.field_append_left hfront, hsecond]

/-- When a data directory is found, and where. -/
theorem directory_eq_ok_iff (m : Memory) (nt : Address) (w : Width) (index : UInt32) (d : UInt32 × UInt32) :
    directory m nt w index = .ok d ↔
      ∃ (countAt : Address) (count : UInt32) (entry : Address) (record : List UInt8),
        countAt.toNat = nt.toNat + w.countOffset ∧ m.readUInt32 countAt = .ok count ∧ index < count ∧
        entry.toNat = nt.toNat + (w.directoriesOffset + index.toNat * directoryEntrySize) ∧
        m.readFields entry [4, 4] = .ok record ∧ d = directoryOf record := by
  have hcount : w.countOffset < spaceSize := by cases w <;> decide
  have hentry : w.directoriesOffset + index.toNat * directoryEntrySize < spaceSize := by
    have := index.toNat_lt
    cases w <;> simp only [Width.directoriesOffset, Width.ntPreamble, directoryEntrySize, spaceSize] <;> omega
  unfold directory
  simp only [bind_eq_ok_iff, throw_or_eq_ok_iff, fieldAt_eq_ok_iff _ _ hcount, fieldAt_eq_ok_iff _ _ hentry,
    ofMemory_eq_ok_iff, Memory.readFields_cons_eq_ok_iff, UInt32.not_le]
  constructor
  · rintro ⟨countAt, hat, count, hread, hmany, entry, hentry, ⟨rva, c⟩, hrva, ⟨size, c'⟩, hsize, hd⟩
    obtain ⟨front, hfront, rfl, rfl⟩ := (uint32_eq_ok_iff _ _ _ _).mp hrva
    obtain ⟨back, hback, rfl, rfl⟩ := (uint32_eq_ok_iff _ _ _ _).mp hsize
    cases hd
    refine ⟨countAt, count, entry, _, hat, hread, hmany, hentry,
      ⟨front, _, hfront, ⟨back, [], hback, rfl, rfl⟩, rfl⟩, ?_⟩
    exact (directoryOf_append (Memory.length_of_read hfront) (Memory.length_of_read hback)).symm
  · rintro ⟨countAt, count, entry, _, hat, hread, hmany, hentry,
      ⟨front, _, hfront, ⟨back, _, hback, hnil, rfl⟩, rfl⟩, rfl⟩
    cases hnil
    rw [directoryOf_append (Memory.length_of_read hfront) (Memory.length_of_read hback)]
    exact ⟨countAt, hat, count, hread, hmany, entry, hentry,
      _, (uint32_eq_ok_iff _ _ _ _).mpr ⟨front, hfront, rfl, rfl⟩,
      _, (uint32_eq_ok_iff _ _ _ _).mpr ⟨back, hback, rfl, rfl⟩, rfl⟩

theorem loadConfigDirectory_eq_ok_iff (m : Memory) (nt : Address) (w : Width) (d : UInt32 × UInt32) :
    loadConfigDirectory m nt w = .ok d ↔ directory m nt w loadConfigIndex = .ok d ∧ d.1 ≠ 0 ∧ 4 ≤ d.2 := by
  unfold loadConfigDirectory
  simp only [bind_eq_ok_iff, throw_or_eq_ok_iff, UInt32.not_lt]
  constructor
  · rintro ⟨⟨rva, size⟩, hd, hrva, hsize, he⟩
    cases he
    exact ⟨hd, hrva, hsize⟩
  · rintro ⟨hd, hrva, hsize⟩
    exact ⟨d, hd, hrva, hsize, rfl⟩

theorem guardBlockOf_eq_ok_iff (m : Memory) (w : Width) (a : Address) (b : GuardBlock) :
    guardBlockOf m w a = .ok b ↔
      ∃ (declared : UInt32) (start : Address), m.readUInt32 a = .ok declared ∧
        w.guardOffset + w.guardSize ≤ declared.toNat ∧ start.toNat = a.toNat + w.guardOffset ∧
        readBlock m w start = .ok b := by
  have hoffset : w.guardOffset < spaceSize := by cases w <;> decide
  unfold guardBlockOf
  simp only [bind_eq_ok_iff, throw_or_eq_ok_iff, fieldAt_eq_ok_iff _ _ hoffset, ofMemory_eq_ok_iff, Nat.not_lt]
  constructor
  · rintro ⟨declared, hread, hlong, start, hstart, hblock⟩
    exact ⟨declared, start, hread, hlong, hstart, hblock⟩
  · rintro ⟨declared, start, hread, hlong, hstart, hblock⟩
    exact ⟨declared, hread, hlong, start, hstart, hblock⟩

/-- The way from a module base to the bytes of its guard block, over the bytes of the directory entry. -/
structure Walk (m : Memory) (base : Address) (w : Width) (nt entry loadConfig guard : Address)
    (record block : List UInt8) : Prop where
  headers : ntHeaders m base = .ok nt
  count : ∃ (a : Address) (n : UInt32), a.toNat = nt.toNat + w.countOffset ∧ m.readUInt32 a = .ok n ∧
    loadConfigIndex < n
  entry_eq : entry.toNat = nt.toNat + (w.directoriesOffset + 80)
  record_eq : m.readFields entry [4, 4] = .ok record
  present : (directoryOf record).1 ≠ 0 ∧ 4 ≤ (directoryOf record).2
  loadConfig_eq : loadConfig.toNat = base.toNat + (directoryOf record).1.toNat
  declared : ∃ n, m.readUInt32 loadConfig = .ok n ∧ w.guardOffset + w.guardSize ≤ n.toNat
  guard_eq : guard.toNat = loadConfig.toNat + w.guardOffset
  block_eq : m.readFields guard (blockSizes w) = .ok block

/-- A guard block is found at the end of such a way and nowhere else. -/
theorem find_eq_ok_iff (m : Memory) (base : Address) (w : Width) (b : GuardBlock) :
    find m base w = .ok b ↔
      ∃ nt entry loadConfig guard record block, Walk m base w nt entry loadConfig guard record block ∧
        b = blockOf w block := by
  have hrva : ∀ d : UInt32 × UInt32, d.1.toNat < spaceSize := fun d => Nat.lt_trans d.1.toNat_lt (by decide)
  unfold find
  simp only [bind_eq_ok_iff, ofMemory_eq_ok_iff, loadConfigDirectory_eq_ok_iff, directory_eq_ok_iff,
    fieldAt_eq_ok_iff _ _ (hrva _), guardBlockOf_eq_ok_iff, readBlock_eq_ok_iff]
  constructor
  · rintro ⟨nt, hnt, _, ⟨⟨countAt, count, entry, record, hat, hcount, hmany, hentry, hrecord, rfl⟩, hpresent⟩,
      loadConfig, hconfig, declared, guard, hdeclared, hlong, hguard, block, hblock, rfl⟩
    exact ⟨nt, entry, loadConfig, guard, record, block,
      ⟨hnt, ⟨countAt, count, hat, hcount, hmany⟩, hentry, hrecord, hpresent, hconfig, ⟨declared, hdeclared, hlong⟩,
        hguard, hblock⟩, rfl⟩
  · rintro ⟨nt, entry, loadConfig, guard, record, block, h, rfl⟩
    obtain ⟨countAt, count, hat, hcount, hmany⟩ := h.count
    obtain ⟨declared, hdeclared, hlong⟩ := h.declared
    exact ⟨nt, h.headers, directoryOf record,
      ⟨⟨countAt, count, entry, record, hat, hcount, hmany, h.entry_eq, h.record_eq, rfl⟩, h.present⟩,
      loadConfig, h.loadConfig_eq, declared, guard, hdeclared, hlong, h.guard_eq, block, h.block_eq, rfl⟩

/-- A block whose fields were read reaches over the end only between two fields, and then the first page is read. -/
theorem end_of_readFields {m : Memory} {a : Address} {sizes : List Nat} {bytes : List UInt8}
    (h : m.readFields a sizes = .ok bytes) (hover : spaceSize < a.toNat + sizes.sum) :
    (∃ k, 0 < k ∧ k < sizes.length ∧ a.toNat + (sizes.take k).sum = spaceSize) ∧ m.IsReadable 0 := by
  obtain ⟨hlen, huncut, hall⟩ := (m.readFields_eq_ok_iff a sizes bytes).mp h
  exact ⟨huncut.exists_end hover, hall.isReadable_zero (hlen ▸ hover)⟩

theorem sum_take_blockSizes (w : Width) : ∀ k, k < 5 → ((blockSizes w).take k).sum = k * w.pointerSize := by
  cases w <;> decide

/-- The directory entry and the guard block of a successful walk as whole blocks. Each of them is one contiguous read
with the bytes that the walk has used, unless it reaches over the end of the address space: then that read fails, the
end lies between two fields, and the walk has gone on at the first address. -/
theorem walk_reads_whole_blocks (m : Memory) (base : Address) (w : Width) (b : GuardBlock)
    (h : (locate m base w).run.value = .ok b) :
    ∃ nt entry loadConfig guard record block, Walk m base w nt entry loadConfig guard record block ∧
      b = blockOf w block ∧
      m.read entry 8 = (if entry.toNat + 8 ≤ spaceSize then .ok record else .error (.overflow entry 8)) ∧
      m.read guard w.guardSize =
        (if guard.toNat + w.guardSize ≤ spaceSize then .ok block else .error (.overflow guard w.guardSize)) ∧
      (spaceSize < entry.toNat + 8 → entry.toNat + 4 = spaceSize ∧ m.IsReadable 0) ∧
      (spaceSize < guard.toNat + w.guardSize →
        (∃ k, 0 < k ∧ k ≤ 4 ∧ guard.toNat + k * w.pointerSize = spaceSize) ∧ m.IsReadable 0) := by
  rw [locate_value] at h
  obtain ⟨nt, entry, loadConfig, guard, record, block, hwalk, hb⟩ := (find_eq_ok_iff m base w b).mp h
  have hrecord := Memory.read_of_readFields hwalk.record_eq
  have hblock := Memory.read_of_readFields hwalk.block_eq
  rw [sum_blockSizes] at hblock
  refine ⟨nt, entry, loadConfig, guard, record, block, hwalk, hb, hrecord, hblock, ?_, ?_⟩
  · intro hover
    obtain ⟨⟨k, hpos, hlt, hend⟩, hzero⟩ := end_of_readFields hwalk.record_eq hover
    obtain rfl : k = 1 := Nat.le_antisymm (Nat.le_of_lt_succ hlt) hpos
    exact ⟨hend, hzero⟩
  · intro hover
    rw [← sum_blockSizes] at hover
    obtain ⟨⟨k, hpos, hlt, hend⟩, hzero⟩ := end_of_readFields hwalk.block_eq hover
    rw [sum_take_blockSizes w k hlt] at hend
    exact ⟨⟨k, hpos, Nat.le_of_lt_succ hlt, hend⟩, hzero⟩

def endPages : List MemoryChange :=
  [.map 0xFFFFFFFFFFFFF000 0x1000 .readOnly, .map 0 0x1000 .readOnly]

/-- Headers whose directory entry ends where the address space does. -/
def upToEnd : List MemoryChange :=
  endPages ++ [.write 0xFFFFFFFFFFFFF03C [0x20, 0x0F, 0, 0], .write 0xFFFFFFFFFFFFFFA4 [0x10, 0, 0, 0],
    .write 0xFFFFFFFFFFFFF800 [0x94, 0, 0, 0], .write 0xFFFFFFFFFFFFFFF8 [0, 8, 0, 0, 0x94, 0, 0, 0]]

theorem walk_upToEnd :
    Walk (Memory.replay upToEnd) 0xFFFFFFFFFFFFF000 .bits64 0xFFFFFFFFFFFFFF20 0xFFFFFFFFFFFFFFF8 0xFFFFFFFFFFFFF800
      0xFFFFFFFFFFFFF870 [0, 8, 0, 0, 0x94, 0, 0, 0] (List.replicate 36 0) where
  headers := by
    rw [ntHeaders, Memory.readInt32, Memory.readUInt32_replay upToEnd _ (by decide) (by decide)]
    decide
  count := ⟨0xFFFFFFFFFFFFFFA4, 0x10, by decide, Memory.readUInt32_replay upToEnd _ (by decide) (by decide), by decide⟩
  entry_eq := by decide
  record_eq := Memory.readFields_replay upToEnd _ _ (by decide) (by decide)
  present := by decide
  loadConfig_eq := by decide
  declared := ⟨0x94, Memory.readUInt32_replay upToEnd _ (by decide) (by decide), by decide⟩
  guard_eq := by decide
  block_eq := Memory.readFields_replay upToEnd _ _ (by decide) (by decide)

theorem walk_reads_whole_blocks_up_to_end :
    let m := Memory.replay upToEnd
    (locate m 0xFFFFFFFFFFFFF000 .bits64).run.value = .ok (blockOf .bits64 (List.replicate 36 0)) ∧
      ∃ (entry : Address) (record : List UInt8), entry.toNat + 8 = spaceSize ∧ m.read entry 8 = .ok record := by
  have hfound : (locate (Memory.replay upToEnd) 0xFFFFFFFFFFFFF000 .bits64).run.value =
      .ok (blockOf .bits64 (List.replicate 36 0)) := by
    rw [locate_value, find_eq_ok_iff]
    exact ⟨_, _, _, _, _, _, walk_upToEnd, rfl⟩
  obtain ⟨nt, entry, _, _, record, _, hwalk, -, hrecord, -⟩ := walk_reads_whole_blocks _ _ _ _ hfound
  have hnt : nt = 0xFFFFFFFFFFFFFF20 := Except.ok.inj (hwalk.headers.symm.trans walk_upToEnd.headers)
  have hentry : entry.toNat + 8 = spaceSize := by
    rw [hwalk.entry_eq, hnt]
    rfl
  rw [if_pos (Nat.le_of_eq hentry)] at hrecord
  exact ⟨hfound, entry, record, hentry, hrecord⟩

/-- Headers whose directory entry and guard block reach over the end of the address space. -/
def overEnd : List MemoryChange :=
  endPages ++ [.write 0xFFFFFFFFFFFFF03C [0x24, 0x0F, 0, 0], .write 0xFFFFFFFFFFFFFFA8 [0x10, 0, 0, 0],
    .write 0xFFFFFFFFFFFFFF88 [0x94, 0, 0, 0], .write 0xFFFFFFFFFFFFFFFC [0x88, 0x0F, 0, 0],
    .write 0 [0x94, 0, 0, 0]]

theorem walk_overEnd :
    Walk (Memory.replay overEnd) 0xFFFFFFFFFFFFF000 .bits64 0xFFFFFFFFFFFFFF24 0xFFFFFFFFFFFFFFFC 0xFFFFFFFFFFFFFF88
      0xFFFFFFFFFFFFFFF8 [0x88, 0x0F, 0, 0, 0x94, 0, 0, 0]
      ([0, 0, 0, 0, 0x88, 0x0F, 0, 0, 0x94] ++ List.replicate 27 0) where
  headers := by
    rw [ntHeaders, Memory.readInt32, Memory.readUInt32_replay overEnd _ (by decide) (by decide)]
    decide
  count := ⟨0xFFFFFFFFFFFFFFA8, 0x10, by decide, Memory.readUInt32_replay overEnd _ (by decide) (by decide), by decide⟩
  entry_eq := by decide
  record_eq := Memory.readFields_replay overEnd _ _ (by decide) (by decide)
  present := by decide
  loadConfig_eq := by decide
  declared := ⟨0x94, Memory.readUInt32_replay overEnd _ (by decide) (by decide), by decide⟩
  guard_eq := by decide
  block_eq := Memory.readFields_replay overEnd _ _ (by decide) (by decide)

/-- A walk that succeeds although neither its directory entry nor its guard block can be read as a whole: the size of
the directory and all fields of the block but one are taken from the first page. -/
theorem walk_goes_over_end :
    ∃ nt entry loadConfig guard record block,
      Walk (Memory.replay overEnd) 0xFFFFFFFFFFFFF000 .bits64 nt entry loadConfig guard record block ∧
      (locate (Memory.replay overEnd) 0xFFFFFFFFFFFFF000 .bits64).run.value =
        .ok { checkPointer := 0xF8800000000, dispatchPointer := 0x94, table := 0, count := 0, flags := 0 } ∧
      (Memory.replay overEnd).read entry 8 = .error (.overflow entry 8) ∧
      (Memory.replay overEnd).read guard Width.bits64.guardSize =
        .error (.overflow guard Width.bits64.guardSize) := by
  refine ⟨_, _, _, _, _, _, walk_overEnd, ?_, ?_, ?_⟩
  · rw [locate_value, find_eq_ok_iff]
    exact ⟨_, _, _, _, _, _, walk_overEnd, by decide⟩
  · exact Memory.read_of_readFields walk_overEnd.record_eq
  · exact Memory.read_of_readFields walk_overEnd.block_eq

end Header

end FlowGuard
