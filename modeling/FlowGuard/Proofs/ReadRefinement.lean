import FlowGuard.Proofs.Footprint

/-!
A memory that refuses more reads than another one. The header walk and the table are made of reads, so what they
return on the first memory they return on the second. Making the reads of some pages fail gives such a memory.
-/

namespace FlowGuard

/-- Whenever the first computation returns, so does the second, and the results are related. -/
def Refines {ε ε' α β : Type} (R : α → β → Prop) (x : Except ε α) (y : Except ε' β) : Prop :=
  ∀ a, x = .ok a → ∃ b, y = .ok b ∧ R a b

namespace Refines

variable {ε ε' α β γ δ : Type} {R : α → β → Prop} {S : γ → δ → Prop}

theorem refl (x : Except ε α) : Refines Eq x x :=
  fun a h => ⟨a, h, rfl⟩

theorem bind {x : Except ε α} {y : Except ε' β} {f : α → Except ε γ} {g : β → Except ε' δ}
    (h : Refines R x y) (hf : ∀ a b, R a b → Refines S (f a) (g b)) : Refines S (x >>= f) (y >>= g) := by
  intro c hc
  cases x with
  | error e => cases hc
  | ok a =>
    obtain ⟨b, rfl, hab⟩ := h a rfl
    exact hf a b hab c hc

theorem map {x : Except ε α} {y : Except ε' β} {f : α → γ} {g : β → δ} (h : Refines R x y)
    (hf : ∀ a b, R a b → S (f a) (g b)) : Refines S (x.map f) (y.map g) := by
  intro c hc
  cases x with
  | error e => cases hc
  | ok a =>
    obtain ⟨b, rfl, hab⟩ := h a rfl
    cases hc
    exact ⟨g b, rfl, hf a b hab⟩

theorem map_eq {x y : Except ε α} (h : Refines Eq x y) (f : α → γ) : Refines Eq (x.map f) (y.map f) :=
  h.map fun _ _ hab => congrArg f hab

theorem ofMemory {x : Except MemoryError α} {y : Except MemoryError β} (h : Refines R x y) :
    Refines R (Header.ofMemory x) (Header.ofMemory y) := by
  intro a ha
  cases x with
  | error e => cases ha
  | ok a' =>
    cases ha
    obtain ⟨b, rfl, hab⟩ := h a rfl
    exact ⟨b, rfl, hab⟩

theorem eq_ok {x y : Except ε α} (h : Refines Eq x y) {a : α} (ha : x = .ok a) : y = .ok a := by
  obtain ⟨b, hb, rfl⟩ := h a ha
  exact hb

end Refines

section Walk

variable {m' m : Memory} (h : ∀ a count, Refines Eq (m'.read a count) (m.read a count))
include h

def SameRest (m' m : Memory) {α : Type} (x y : α × Cursor) : Prop :=
  x.1 = y.1 ∧ ∃ a, x.2 = ⟨m', a⟩ ∧ y.2 = ⟨m, a⟩

theorem refines_readNat (a : Address) (count : Nat) : Refines Eq (m'.readNat a count) (m.readNat a count) :=
  (h a count).map_eq _

theorem refines_readUInt8 (a : Address) : Refines Eq (m'.readUInt8 a) (m.readUInt8 a) :=
  (refines_readNat h a 1).map_eq _

theorem refines_readUInt32 (a : Address) : Refines Eq (m'.readUInt32 a) (m.readUInt32 a) :=
  (refines_readNat h a 4).map_eq _

theorem refines_uint32 (a : Address) :
    Refines (SameRest m' m) (Cursor.uint32 ⟨m', a⟩) (Cursor.uint32 ⟨m, a⟩) :=
  (refines_readUInt32 h a).map fun _ _ hv => ⟨hv, a + 4, rfl, rfl⟩

theorem refines_pointer (a : Address) (w : Width) :
    Refines (SameRest m' m) (Cursor.pointer ⟨m', a⟩ w) (Cursor.pointer ⟨m, a⟩ w) := by
  cases w with
  | bits32 =>
    refine (refines_uint32 h a).map fun x y hxy => ?_
    exact ⟨congrArg UInt32.toUInt64 hxy.1, hxy.2⟩
  | bits64 => exact ((refines_readNat h a 8).map_eq _).map fun _ _ hv => ⟨hv, a + 8, rfl, rfl⟩

theorem refines_directory (nt : Address) (w : Width) (index : UInt32) :
    Refines Eq (Header.directory m' nt w index) (Header.directory m nt w index) := by
  unfold Header.directory
  refine (Refines.refl _).bind ?_
  rintro countAt _ rfl
  refine (refines_readUInt32 h countAt).ofMemory.bind ?_
  rintro count _ rfl
  split
  · exact Refines.refl _
  · refine (Refines.refl _).bind ?_
    rintro entry _ rfl
    refine (refines_uint32 h entry).ofMemory.bind ?_
    rintro ⟨rva, _⟩ ⟨_, _⟩ ⟨rfl, a, rfl, rfl⟩
    refine (refines_uint32 h a).ofMemory.bind ?_
    rintro ⟨size, _⟩ ⟨_, _⟩ ⟨rfl, -⟩
    exact Refines.refl _

theorem refines_loadConfigDirectory (nt : Address) (w : Width) :
    Refines Eq (Header.loadConfigDirectory m' nt w) (Header.loadConfigDirectory m nt w) := by
  unfold Header.loadConfigDirectory
  refine (refines_directory h nt w _).bind ?_
  rintro d _ rfl
  exact Refines.refl _

theorem refines_readBlock (w : Width) (a : Address) :
    Refines Eq (Header.readBlock m' w a) (Header.readBlock m w a) := by
  unfold Header.readBlock
  refine (refines_pointer h a w).bind ?_
  rintro ⟨checkPointer, _⟩ ⟨_, _⟩ ⟨rfl, a, rfl, rfl⟩
  refine (refines_pointer h a w).bind ?_
  rintro ⟨dispatchPointer, _⟩ ⟨_, _⟩ ⟨rfl, a, rfl, rfl⟩
  refine (refines_pointer h a w).bind ?_
  rintro ⟨table, _⟩ ⟨_, _⟩ ⟨rfl, a, rfl, rfl⟩
  refine (refines_pointer h a w).bind ?_
  rintro ⟨count, _⟩ ⟨_, _⟩ ⟨rfl, a, rfl, rfl⟩
  refine (refines_uint32 h a).bind ?_
  rintro ⟨flags, _⟩ ⟨_, _⟩ ⟨rfl, -⟩
  exact Refines.refl _

theorem refines_guardBlockOf (w : Width) (a : Address) :
    Refines Eq (Header.guardBlockOf m' w a) (Header.guardBlockOf m w a) := by
  unfold Header.guardBlockOf
  refine (refines_readUInt32 h a).ofMemory.bind ?_
  rintro declared _ rfl
  dsimp only
  split
  · exact Refines.refl _
  · refine (Refines.refl _).bind ?_
    rintro start _ rfl
    exact (refines_readBlock h w start).ofMemory

/-- The header walk. -/
theorem refines_find (base : Address) (w : Width) :
    Refines Eq (Header.find m' base w) (Header.find m base w) := by
  unfold Header.find Header.ntHeaders
  refine (((refines_readUInt32 h _).map_eq _).map_eq _).ofMemory.bind ?_
  rintro nt _ rfl
  refine (refines_loadConfigDirectory h nt w).bind ?_
  rintro d _ rfl
  refine (Refines.refl _).bind ?_
  rintro loadConfig _ rfl
  exact refines_guardBlockOf h w loadConfig

theorem refines_slotAt (a : Address) : Refines Eq (Table.slotAt m' a) (Table.slotAt m a) := by
  intro slot hslot
  simp only [Table.slotAt, Memory.uint32_fields, Memory.uint8_fields] at hslot ⊢
  cases hrva : m'.readUInt32 a with
  | error e => simp [hrva] at hslot
  | ok rva =>
    cases hflags : m'.readUInt8 (a + 4) with
    | error e => simp [hrva, hflags] at hslot
    | ok flags =>
      simp only [hrva, hflags] at hslot
      simp only [(refines_readUInt32 h a).eq_ok hrva, (refines_readUInt8 h (a + 4)).eq_ok hflags]
      exact ⟨slot, hslot, rfl⟩

theorem refines_readSlots (base : Address) (size : UInt64) (count : Nat) (a : Address) (found : List Entry) :
    Refines Eq (Table.readSlots m' base size count a found) (Table.readSlots m base size count a found) := by
  induction count generalizing a found with
  | zero => exact Refines.refl _
  | succ count ih =>
    intro es hes
    cases hslot : Table.slotAt m' a with
    | error e => simp [Table.readSlots, hslot] at hes
    | ok slot =>
      simp only [Table.readSlots, hslot] at hes
      simp only [Table.readSlots, (refines_slotAt h a).eq_ok hslot]
      exact ih _ _ es hes

/-- A memory with more answers has the same table. -/
theorem refines_tableEntries (k : Marker) (target : LoadedModule) :
    Refines Eq (k.tableEntries m' target) (k.tableEntries m target) := by
  intro es hes
  unfold Marker.tableEntries Table.entries at *
  cases hb : Header.find m' target.base k.width with
  | error e => simp [hb] at hes
  | ok b =>
    rw [hb] at hes
    rw [(refines_find h target.base k.width).eq_ok hb]
    cases hs : Table.stride b with
    | error e => simp [hs] at hes
    | ok size =>
      simp only [hs] at hes ⊢
      exact refines_readSlots h _ _ _ _ _ es hes

end Walk

namespace Memory

/-- Makes every read that touches the page of one of the addresses fail. -/
def failReadsAt (m : Memory) (us : List Address) : Memory :=
  us.foldl failReads m

theorem failReadsAt_eq (m : Memory) (us : List Address) :
    m.failReadsAt us = { m with failingReads := (m.failReadsAt us).failingReads } := by
  induction us generalizing m with
  | nil => rfl
  | cons u us ih => exact ih (m.failReads u)

theorem contains_failingReads (m : Memory) (us : List Address) (page : Nat) :
    (m.failReadsAt us).failingReads.contains page = true ↔
      m.failingReads.contains page = true ∨ ∃ u ∈ us, pageOf u = page := by
  induction us generalizing m with
  | nil => simp [failReadsAt]
  | cons u us ih =>
    have hstep : m.failReadsAt (u :: us) = (m.failReads u).failReadsAt us := rfl
    rw [hstep, ih]
    simp [failReads, or_assoc, or_comm]

@[simp] theorem rightsOf?_failReadsAt (m : Memory) (us : List Address) (page : Nat) :
    (m.failReadsAt us).rightsOf? page = m.rightsOf? page := by
  rw [failReadsAt_eq]
  rfl

@[simp] theorem byteAt?_failReadsAt (m : Memory) (us : List Address) (i : Nat) :
    (m.failReadsAt us).byteAt? i = m.byteAt? i := by
  rw [failReadsAt_eq]
  rfl

@[simp] theorem rightsAt_failReadsAt (m : Memory) (us : List Address) (a : Address) :
    (m.failReadsAt us).rightsAt a = m.rightsAt a := by
  rw [failReadsAt_eq]
  rfl

theorem isReadable_failReadsAt (m : Memory) (us : List Address) (i : Nat) :
    (m.failReadsAt us).IsReadable i ↔ m.IsReadable i ∧ ∀ u ∈ us, i / pageSize ≠ pageOf u := by
  unfold IsReadable
  rw [← Bool.not_eq_true, ← Bool.not_eq_true, contains_failingReads, rightsOf?_failReadsAt]
  simp only [not_or, not_exists, not_and, ne_eq, eq_comm (a := i / pageSize)]
  tauto

/-- A read gives what it gave before, if it touches none of the pages, and fails otherwise. -/
theorem read_failReadsAt (m : Memory) (us : List Address) (a : Address) (count : Nat) (bytes : List UInt8) :
    (m.failReadsAt us).read a count = .ok bytes ↔
      m.read a count = .ok bytes ∧ ∀ u ∈ us, ∀ i, i < count → (a.toNat + i) / pageSize ≠ pageOf u := by
  rw [read_eq_ok_iff, read_eq_ok_iff]
  simp only [isReadable_failReadsAt, byteAt?_failReadsAt]
  constructor
  · rintro ⟨hlen, hspace, hall⟩
    exact ⟨⟨hlen, hspace, fun i hi => ⟨(hall i hi).1.1, (hall i hi).2⟩⟩,
      fun u hu i hi => (hall i hi).1.2 u hu⟩
  · rintro ⟨⟨hlen, hspace, hall⟩, hpages⟩
    exact ⟨hlen, hspace, fun i hi => ⟨⟨(hall i hi).1, fun u hu => hpages u hu i hi⟩, (hall i hi).2⟩⟩

theorem refines_failReadsAt (m : Memory) (us : List Address) (a : Address) (count : Nat) :
    Refines Eq ((m.failReadsAt us).read a count) (m.read a count) :=
  fun bytes h => ⟨bytes, ((m.read_failReadsAt us a count bytes).mp h).1, rfl⟩

end Memory

end FlowGuard
