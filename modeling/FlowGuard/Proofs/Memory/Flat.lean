import FlowGuard.Proofs.Memory.Update
import Mathlib.Logic.Function.Basic

/-!
The pages against a memory that is one byte after another. The flat memory keeps for every position the byte last
written there, the rights it was last mapped with and whether reads of it are refused; it stores byte by byte and
knows no chunks. Whatever is mapped, written and made to fail, the pages show the flat memory that has gone through
the same changes, so reads, writes and maps can be described without pages being cut or joined.
-/

namespace FlowGuard

/-- One byte after another. Where nothing was written there are zeros. -/
structure FlatMemory where
  byte : Nat → UInt8 := fun _ => 0
  rights? : Nat → Option Rights := fun _ => none
  refused : Nat → Bool := fun _ => false

inductive MemoryChange where
  | map (a size : UInt64) (rights : Rights)
  | write (a : Address) (bytes : List UInt8)
  | failReads (a : Address)
  deriving DecidableEq, Repr

namespace FlatMemory

def IsStorable (f : FlatMemory) (i : Nat) : Prop :=
  i < spaceSize ∧ (f.rights? i).isSome = true

instance (f : FlatMemory) (i : Nat) : Decidable (f.IsStorable i) :=
  inferInstanceAs (Decidable (_ ∧ _))

/-- Why the byte at a position cannot be read, if it cannot. -/
def failure? (f : FlatMemory) (i : Nat) : Option MemoryError :=
  if f.refused i then some (.unreadable (UInt64.ofNat i))
  else
    match f.rights? i with
    | none => some (.unmapped (UInt64.ofNat i))
    | some rights => if rights.isEmpty then some (.unreadable (UInt64.ofNat i)) else none

/-- Stores bytes one at a time, up to the first position that takes none. -/
def store (f : FlatMemory) (i : Nat) : List UInt8 → FlatMemory
  | [] => f
  | b :: rest =>
    if f.IsStorable i then store { f with byte := Function.update f.byte i b } (i + 1) rest else f

/-- Carries out a change. Rights and refusals reach all positions of a page. -/
def apply (f : FlatMemory) : MemoryChange → FlatMemory
  | .map a size rights =>
    { f with rights? := fun i =>
        if size ≠ 0 ∧ Memory.Meets a size (i / pageSize) then some rights else f.rights? i }
  | .write a bytes => f.store a.toNat bytes
  | .failReads a =>
    { f with refused := fun i => decide (i / pageSize = a.toNat / pageSize) || f.refused i }

def replay (changes : List MemoryChange) : FlatMemory :=
  changes.foldl apply {}

/-- Storing reaches exactly the positions in front of the first one that takes no byte. -/
theorem store_eq (f : FlatMemory) (i n : Nat) (bytes : List UInt8) (hn : n ≤ bytes.length)
    (hok : ∀ j, j < n → f.IsStorable (i + j)) (hstop : n < bytes.length → ¬f.IsStorable (i + n)) :
    f.store i bytes =
      { f with byte := fun j => if i ≤ j ∧ j < i + n then bytes.getD (j - i) 0 else f.byte j } := by
  induction bytes generalizing f i n with
  | nil =>
    have hz : n = 0 := by simpa using hn
    subst hz
    have hnone : ∀ j, ¬(i ≤ j ∧ j < i + 0) := by omega
    simp only [store, hnone, if_false]
  | cons b rest ih =>
    cases n with
    | zero =>
      have hfull : ¬f.IsStorable i := hstop (by simp)
      have hnone : ∀ j, ¬(i ≤ j ∧ j < i + 0) := by omega
      simp only [store, hfull, hnone, if_false]
    | succ n =>
      have hfirst : f.IsStorable i := hok 0 (by omega)
      rw [store, if_pos hfirst, ih { f with byte := Function.update f.byte i b } (i + 1) n (by simpa using hn)]
      · congr 1
        funext j
        by_cases hj : j = i
        · subst hj
          rw [if_neg (by omega), if_pos (by omega)]
          simp
        · by_cases hin : i + 1 ≤ j ∧ j < i + 1 + n
          · have hidx : j - i = j - (i + 1) + 1 := by omega
            rw [if_pos hin, if_pos (by omega), hidx, List.getD_cons_succ]
          · rw [if_neg hin, if_neg (by omega)]
            exact Function.update_of_ne hj b f.byte
      · intro j hj
        have h := hok (j + 1) (by omega)
        rwa [← Nat.add_assoc, Nat.add_right_comm] at h
      · intro hlt hs
        apply hstop (by simpa using hlt)
        rwa [← Nat.add_assoc, Nat.add_right_comm]

end FlatMemory

namespace Memory

def flat (m : Memory) : FlatMemory where
  byte i := (m.byteAt? i).getD 0
  rights? i := m.rightsOf? (i / pageSize)
  refused i := m.failingReads.contains (i / pageSize)

theorem byte_flat (m : Memory) (i : Nat) : m.flat.byte i = (m.byteAt? i).getD 0 := rfl

theorem rights?_flat (m : Memory) (i : Nat) : m.flat.rights? i = m.rightsOf? (i / pageSize) := rfl

theorem refused_flat (m : Memory) (i : Nat) :
    m.flat.refused i = m.failingReads.contains (i / pageSize) := rfl

/-- Carries out a change. A write that fails leaves what it has stored. -/
def apply (m : Memory) : MemoryChange → Memory
  | .map a size rights => m.map a size rights
  | .write a bytes => (m.write a bytes).1
  | .failReads a => m.failReads a

def replay (changes : List MemoryChange) : Memory :=
  changes.foldl apply {}

/-- A range meets a page where it has a position on it. -/
theorem meets_iff (a size : UInt64) (page : Nat) :
    size ≠ 0 ∧ Meets a size page ↔
      ∃ i, a.toNat ≤ i ∧ i < min (a.toNat + size.toNat) spaceSize ∧ i / pageSize = page := by
  have hlt := a.toNat_lt
  have hzero : size ≠ 0 ↔ 0 < size.toNat := by
    rw [Nat.pos_iff_ne_zero, ne_eq, ne_eq, ← UInt64.toNat_inj]
    rfl
  rw [hzero]
  unfold Meets
  simp only [spaceSize, pageSize] at *
  constructor
  · rintro ⟨hpos, hle, hin⟩
    exact ⟨max a.toNat (page * 4096), by omega, by omega, by omega⟩
  · rintro ⟨i, hle, hin, rfl⟩
    omega

theorem isSome_byteAt? (m : Memory) (i : Nat) :
    (m.byteAt? i).isSome = (m.rightsOf? (i / pageSize)).isSome := by
  have hrem : i % pageSize < pageSize := Nat.mod_lt _ (by decide)
  unfold byteAt? rightsOf?
  cases m.pages[i / pageSize]? <;> simp [hrem]

/-- Where nothing is mapped the flat memory holds zeros. -/
theorem byte_flat_of_unmapped (m : Memory) (i : Nat) (h : m.flat.rights? i = none) : m.flat.byte i = 0 := by
  have hb := m.isSome_byteAt? i
  rw [← rights?_flat, h, Option.isSome_none, Option.isSome_eq_false_iff, Option.isNone_iff_eq_none] at hb
  rw [byte_flat, hb, Option.getD_none]

theorem flat_map (m : Memory) (a size : UInt64) (rights : Rights) :
    (m.map a size rights).flat = m.flat.apply (.map a size rights) := by
  by_cases hz : size = 0
  · subst hz
    simp [map, FlatMemory.apply]
  · have hbyte : ∀ i, ((m.map a size rights).byteAt? i).getD 0 = (m.byteAt? i).getD 0 := by
      intro i
      rw [byteAt?_map m a size rights hz]
      split <;> simp
    have hrights : ∀ i, (m.map a size rights).rightsOf? (i / pageSize) =
        if size ≠ 0 ∧ Meets a size (i / pageSize) then some rights else m.rightsOf? (i / pageSize) := by
      intro i
      rw [rightsOf?_map m a size rights hz]
      simp only [ne_eq, hz, not_false_eq_true, true_and]
    simp only [flat, FlatMemory.apply, hbyte, hrights, (m.failing_map a size rights).1]

theorem flat_failReads (m : Memory) (a : Address) :
    (m.failReads a).flat = m.flat.apply (.failReads a) := by
  have hrefused : ∀ i, (m.failReads a).failingReads.contains (i / pageSize) =
      (decide (i / pageSize = a.toNat / pageSize) || m.failingReads.contains (i / pageSize)) := by
    intro i
    rw [failReads, Std.ExtTreeSet.contains_insert, Std.compare_beq_eq_beq, Bool.beq_eq_decide_eq, pageOf]
    simp only [eq_comm]
  unfold flat FlatMemory.apply
  simp only [hrefused]
  rfl

theorem Stored.flat_eq {m m' : Memory} {current n : Nat} {bytes : List UInt8} (hn : n ≤ bytes.length)
    (h : Stored m current (bytes.take n) m') :
    m'.flat =
      { m.flat with byte := fun i =>
          if current ≤ i ∧ i < current + n then bytes.getD (i - current) 0 else m.flat.byte i } := by
  have hlen : (bytes.take n).length = n := by
    rw [List.length_take]
    omega
  unfold flat
  simp only [h.rights, h.failingReads, h.bytes, hlen]
  congr 1
  funext i
  split
  case isTrue hin =>
    rw [List.getElem?_take_of_lt (by omega), List.getD_eq_getElem?_getD]
  case isFalse => rfl

/-- What a write stores and answers: the bytes in front of the first position that takes none. -/
theorem write_spec (m : Memory) (a : Address) (bytes : List UInt8) :
    ∃ n, n ≤ bytes.length ∧ (∀ i, i < n → m.flat.IsStorable (a.toNat + i)) ∧
      (n < bytes.length → ¬m.flat.IsStorable (a.toNat + n)) ∧
      (m.write a bytes).2 =
        (if n = bytes.length then .ok ()
        else if a.toNat + n = spaceSize then .error (.overflow a bytes.length)
        else .error (.unmapped (UInt64.ofNat (a.toNat + n)))) ∧
      (m.write a bytes).1.flat =
        { m.flat with byte := fun i =>
            if a.toNat ≤ i ∧ i < a.toNat + n then bytes.getD (i - a.toNat) 0 else m.flat.byte i } := by
  obtain ⟨n, hn, hs, hok, hstop, hresult⟩ := storeFrom_spec m a bytes.length a.toNat bytes
  refine ⟨n, hn, hok, hstop, ?_, hs.flat_eq hn⟩
  have hspace : a.toNat + n ≤ spaceSize := by
    have hlt : a.toNat < spaceSize := a.toNat_lt
    cases n with
    | zero => omega
    | succ n =>
      have := (hok n (by omega)).1
      omega
  rw [write, hresult]
  have hiff : a.toNat + n < spaceSize ↔ ¬a.toNat + n = spaceSize := by omega
  simp only [hiff, ite_not]

theorem flat_write (m : Memory) (a : Address) (bytes : List UInt8) :
    (m.write a bytes).1.flat = m.flat.apply (.write a bytes) := by
  obtain ⟨n, hn, hok, hstop, -, hflat⟩ := m.write_spec a bytes
  rw [hflat]
  exact (m.flat.store_eq a.toNat n bytes hn hok hstop).symm

/-- One change on the pages is the same change on the flat memory. -/
theorem flat_apply (m : Memory) (c : MemoryChange) : (m.apply c).flat = m.flat.apply c := by
  cases c with
  | map a size rights => exact m.flat_map a size rights
  | write a bytes => exact m.flat_write a bytes
  | failReads a => exact m.flat_failReads a

theorem flat_foldl_apply (m : Memory) (changes : List MemoryChange) :
    (changes.foldl apply m).flat = changes.foldl FlatMemory.apply m.flat := by
  induction changes generalizing m with
  | nil => rfl
  | cons c rest ih => rw [List.foldl_cons, ih, flat_apply, List.foldl_cons]

theorem flat_replay (changes : List MemoryChange) : (replay changes).flat = FlatMemory.replay changes := by
  have hempty : ({} : Memory).flat = {} := by
    simp [flat, byteAt?, rightsOf?]
  rw [replay, flat_foldl_apply, hempty, FlatMemory.replay]

/-- A position refuses a read for the reason that the flat memory has. -/
theorem readablePage_eq_error_iff (m : Memory) (i : Nat) (e : MemoryError) :
    m.readablePage i = .error e ↔ m.flat.failure? i = some e := by
  unfold readablePage FlatMemory.failure?
  rw [refused_flat, rights?_flat, rightsOf?]
  cases m.failingReads.contains (i / pageSize) with
  | true => simp
  | false =>
    cases m.pages[i / pageSize]? with
    | none => simp
    | some page => cases hr : page.rights.isEmpty <;> simp [hr]

theorem isReadable_iff_failure? (m : Memory) (i : Nat) : m.IsReadable i ↔ m.flat.failure? i = none := by
  rw [isReadable_iff, Option.eq_none_iff_forall_ne_some]
  simp only [ne_eq, ← readablePage_eq_error_iff]
  cases m.readablePage i <;> simp

theorem byteAt?_of_isReadable {m : Memory} {i : Nat} (h : m.IsReadable i) : m.byteAt? i = some (m.flat.byte i) := by
  obtain ⟨-, rights, hr, -⟩ := h
  have hsome : (m.byteAt? i).isSome = true := by
    rw [isSome_byteAt?, hr]
    rfl
  obtain ⟨b, hb⟩ := Option.isSome_iff_exists.mp hsome
  rw [byte_flat, hb, Option.getD_some]

theorem not_isReadable_of_error (m : Memory) (i : Nat) (e : MemoryError) (h : m.readablePage i = .error e) :
    ¬m.IsReadable i := by
  rw [isReadable_iff]
  rintro ⟨page, hp⟩
  rw [h] at hp
  cases hp

/-- A read that fails stops at the first position that cannot be read. -/
theorem fetchFrom_error (m : Memory) (current count : Nat) (e : MemoryError)
    (h : m.fetchFrom current count = .error e) :
    ∃ i, i < count ∧ (∀ j, j < i → m.IsReadable (current + j)) ∧ m.readablePage (current + i) = .error e := by
  fun_induction fetchFrom m current count with
  | case1 current => cases h
  | case2 current count hc e' hp =>
    cases h
    exact ⟨0, by omega, by omega, hp⟩
  | case3 current count hc page hp offset part e' hrest ih =>
    cases h
    obtain ⟨i, hi, hbefore, hfail⟩ := ih hrest
    have hoffset : offset < pageSize := Nat.mod_lt _ (by decide)
    refine ⟨part + i, by omega, ?_, by rwa [← Nat.add_assoc]⟩
    intro j hj
    by_cases hin : j < part
    · exact (m.isReadable_iff _).mpr ⟨page, readablePage_add m current j page hp (by omega)⟩
    · have := hbefore (j - part) (by omega)
      rwa [Nat.add_assoc, Nat.add_sub_cancel' (by omega)] at this
  | case4 current count hc page hp offset part rest hrest ih => cases h

theorem fetchFrom_eq_error_iff (m : Memory) (current count : Nat) (e : MemoryError) :
    m.fetchFrom current count = .error e ↔
      ∃ i, i < count ∧ (∀ j, j < i → m.flat.failure? (current + j) = none) ∧
        m.flat.failure? (current + i) = some e := by
  simp only [← isReadable_iff_failure?, ← readablePage_eq_error_iff]
  constructor
  · exact fetchFrom_error m current count e
  · rintro ⟨i, hi, hbefore, hfail⟩
    have hunreadable := m.not_isReadable_of_error _ e hfail
    cases hf : m.fetchFrom current count with
    | ok bytes => exact absurd ((fetchFrom_ok m current count bytes hf).2 i hi).1 hunreadable
    | error e' =>
      obtain ⟨i', hi', hbefore', hfail'⟩ := fetchFrom_error m current count e' hf
      have hunreadable' := m.not_isReadable_of_error _ e' hfail'
      -- each of the two is the first that fails
      have hsame : i' = i := by
        rcases Nat.lt_trichotomy i' i with hlt | he | hgt
        · exact absurd (hbefore i' hlt) hunreadable'
        · exact he
        · exact absurd (hbefore' i hgt) hunreadable
      rw [hsame, hfail] at hfail'
      rw [Except.error.inj hfail']

/-- When a read succeeds, and with which bytes. -/
theorem read_ok_iff_flat (m : Memory) (a : Address) (n : Nat) (bytes : List UInt8) :
    m.read a n = .ok bytes ↔
      (n = 0 ∨ a.toNat + n - 1 < spaceSize ∧ ∀ i, i < n → m.flat.failure? (a.toNat + i) = none) ∧
        bytes = (List.range n).map fun i => m.flat.byte (a.toNat + i) := by
  rw [read_eq_ok_iff]
  simp only [isReadable_iff_failure?]
  constructor
  · rintro ⟨hlen, hspace, hall⟩
    refine ⟨?_, ?_⟩
    · rcases Nat.eq_zero_or_pos n with hz | hpos
      · exact .inl hz
      · exact .inr ⟨by omega, fun i hi => (hall i hi).1⟩
    · apply List.ext_getElem?
      intro i
      by_cases hi : i < n
      · have hget : bytes[i]? = some (bytes.getD i 0) := by
          rw [List.getD_eq_getElem?_getD, List.getElem?_eq_getElem (by omega), Option.getD_some]
        rw [List.getElem?_map, List.getElem?_range hi, hget, Option.map_some, byte_flat, (hall i hi).2,
          hget, Option.getD_some]
      · rw [List.getElem?_eq_none (by omega), List.getElem?_eq_none (by simpa using hi)]
  · rintro ⟨hcond, rfl⟩
    refine ⟨by simp, by omega, ?_⟩
    intro i hi
    have hread : m.flat.failure? (a.toNat + i) = none := by
      rcases hcond with hz | ⟨-, hall⟩
      · omega
      · exact hall i hi
    refine ⟨hread, ?_⟩
    rw [List.getElem?_map, List.getElem?_range hi, Option.map_some]
    exact byteAt?_of_isReadable ((m.isReadable_iff_failure? _).mpr hread)

/-- When a read fails, and with which error. -/
theorem read_error_iff_flat (m : Memory) (a : Address) (n : Nat) (e : MemoryError) :
    m.read a n = .error e ↔
      n ≠ 0 ∧ (spaceSize ≤ a.toNat + n - 1 ∧ e = .overflow a n ∨
        a.toNat + n - 1 < spaceSize ∧ ∃ i, i < n ∧
          (∀ j, j < i → m.flat.failure? (a.toNat + j) = none) ∧ m.flat.failure? (a.toNat + i) = some e) := by
  unfold read
  by_cases hz : n = 0
  · simp [hz]
  · rw [if_neg hz]
    by_cases ho : spaceSize < a.toNat + n
    · rw [if_pos ho]
      have hwrap : spaceSize ≤ a.toNat + n - 1 := by omega
      simp [hz, hwrap, Nat.not_lt.mpr hwrap, eq_comm]
    · rw [if_neg ho, fetchFrom_eq_error_iff]
      have hin : a.toNat + n - 1 < spaceSize := by omega
      simp [hz, hin, Nat.not_le.mpr hin]

end Memory

end FlowGuard
