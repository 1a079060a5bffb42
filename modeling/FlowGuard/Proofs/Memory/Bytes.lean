import FlowGuard.Memory.Basic

/-!
The memory as bytes at positions. `byteAt?` and `rightsOf?` see through the pages: a read gives the bytes of
its range exactly when each of them can be read, and a query gives the rights of the page of its address.
-/

namespace FlowGuard

namespace Memory

def byteAt? (m : Memory) (i : Nat) : Option UInt8 :=
  m.pages[i / pageSize]? >>= fun page => page.bytes[i % pageSize]?

def rightsOf? (m : Memory) (page : Nat) : Option Rights :=
  m.pages[page]?.map Page.rights

/-- The page of a position is mapped with some rights, and its reads are not made to fail. -/
def IsReadable (m : Memory) (i : Nat) : Prop :=
  m.failingReads.contains (i / pageSize) = false ∧
    ∃ rights, m.rightsOf? (i / pageSize) = some rights ∧ rights.isEmpty = false

theorem rightsAt_eq_ok_iff (m : Memory) (a : Address) (rights : Rights) :
    m.rightsAt a = .ok rights ↔ m.failingRights.contains (a.toNat / pageSize) = false ∧
      m.rightsOf? (a.toNat / pageSize) = some rights := by
  unfold rightsAt rightsOf? pageOf
  cases hf : m.failingRights.contains (a.toNat / pageSize) with
  | true => simp
  | false => cases hp : m.pages[a.toNat / pageSize]? <;> simp

theorem readablePage_eq_ok_iff (m : Memory) (i : Nat) (page : Page) :
    m.readablePage i = .ok page ↔
      m.failingReads.contains (i / pageSize) = false ∧ m.pages[i / pageSize]? = some page ∧
        page.rights.isEmpty = false := by
  unfold readablePage
  cases hf : m.failingReads.contains (i / pageSize) with
  | true => simp
  | false =>
    cases hp : m.pages[i / pageSize]? with
    | none => simp
    | some found =>
      cases he : found.rights.isEmpty with
      | true =>
        simp only [Bool.false_eq_true, if_false, he, if_true, reduceCtorEq, Option.some.injEq, true_and,
          false_iff]
        rintro ⟨rfl, hn⟩
        rw [he] at hn
        cases hn
      | false =>
        simp only [Bool.false_eq_true, if_false, he, Except.ok.injEq, Option.some.injEq, true_and]
        constructor
        · rintro rfl
          exact ⟨rfl, he⟩
        · exact fun h => h.1

theorem isReadable_iff (m : Memory) (i : Nat) :
    m.IsReadable i ↔ ∃ page, m.readablePage i = .ok page := by
  unfold IsReadable rightsOf?
  simp only [readablePage_eq_ok_iff]
  constructor
  · rintro ⟨hf, rights, hr, he⟩
    obtain ⟨page, hp, rfl⟩ := Option.map_eq_some_iff.mp hr
    exact ⟨page, hf, hp, he⟩
  · rintro ⟨page, hf, hp, he⟩
    exact ⟨hf, page.rights, by rw [hp]; rfl, he⟩

/-- Positions in one page are readable together. -/
theorem readablePage_add (m : Memory) (current i : Nat) (page : Page)
    (hp : m.readablePage current = .ok page) (hi : current % pageSize + i < pageSize) :
    m.readablePage (current + i) = .ok page := by
  have hq : (current + i) / pageSize = current / pageSize := by
    simp only [pageSize] at hi ⊢
    omega
  rw [readablePage_eq_ok_iff] at hp ⊢
  rw [hq]
  exact hp

theorem byteAt?_add (m : Memory) (current i : Nat) (page : Page)
    (hp : m.pages[current / pageSize]? = some page) (hi : current % pageSize + i < pageSize) :
    m.byteAt? (current + i) = page.bytes[current % pageSize + i]? := by
  have hq : (current + i) / pageSize = current / pageSize := by
    simp only [pageSize] at hi ⊢
    omega
  have hr : (current + i) % pageSize = current % pageSize + i := by
    simp only [pageSize] at hi ⊢
    omega
  simp [byteAt?, hq, hr, hp]

end Memory

namespace Page

@[simp] theorem length_slice (p : Page) (offset count : Nat) (h : offset + count ≤ pageSize) :
    (p.slice offset count).length = count := by
  simp [slice]
  omega

theorem getElem?_slice (p : Page) (offset count i : Nat) (h : offset + count ≤ pageSize)
    (hi : i < count) : (p.slice offset count)[i]? = p.bytes[offset + i]? := by
  have hlt : i < min (offset + count) pageSize - offset := by omega
  simp only [slice, Vector.getElem?_toList]
  rw [Vector.getElem?_extract_of_lt hlt]
  simp

end Page

namespace Memory

/-- What a successful read gives. -/
theorem fetchFrom_ok (m : Memory) (current count : Nat) (bytes : List UInt8)
    (h : m.fetchFrom current count = .ok bytes) :
    bytes.length = count ∧
      ∀ i, i < count → m.IsReadable (current + i) ∧ m.byteAt? (current + i) = bytes[i]? := by
  fun_induction fetchFrom m current count generalizing bytes with
  | case1 current =>
    cases h
    simp
  | case2 current count hc e hp => cases h
  | case3 current count hc page hp offset part e hrest ih => cases h
  | case4 current count hc page hp offset part rest hrest ih =>
    cases h
    have hoffset : offset < pageSize := Nat.mod_lt _ (by decide)
    have hpart : part ≤ pageSize - offset ∧ part ≤ count := ⟨Nat.min_le_left _ _, Nat.min_le_right _ _⟩
    have hslice : (page.slice offset part).length = part := page.length_slice offset part (by omega)
    obtain ⟨hlen, hall⟩ := ih rest hrest
    refine ⟨by rw [List.length_append, hslice, hlen]; omega, ?_⟩
    intro i hi
    by_cases hin : i < part
    · have hpage := readablePage_add m current i page hp (by omega)
      refine ⟨(m.isReadable_iff _).mpr ⟨page, hpage⟩, ?_⟩
      rw [byteAt?_add m current i page ((readablePage_eq_ok_iff m current page).mp hp).2.1 (by omega),
        List.getElem?_append_left (by omega), page.getElem?_slice offset part i (by omega) hin]
    · have he : current + i = current + part + (i - part) := by omega
      obtain ⟨hr, hb⟩ := hall (i - part) (by omega)
      rw [he]
      refine ⟨hr, ?_⟩
      rw [hb, List.getElem?_append_right (by omega), hslice]

/-- A range of readable positions can be read. -/
theorem fetchFrom_of_readable (m : Memory) (current count : Nat)
    (h : ∀ i, i < count → m.IsReadable (current + i)) : ∃ bytes, m.fetchFrom current count = .ok bytes := by
  fun_induction fetchFrom m current count with
  | case1 current => exact ⟨[], rfl⟩
  | case2 current count hc e hp =>
    obtain ⟨page, hok⟩ := (m.isReadable_iff _).mp (h 0 (by omega))
    rw [Nat.add_zero, hp] at hok
    cases hok
  | case3 current count hc page hp offset part e hrest ih =>
    obtain ⟨bytes, hok⟩ := ih (by
      intro i hi
      have he : current + part + i = current + (part + i) := by omega
      rw [he]
      exact h (part + i) (by omega))
    rw [hrest] at hok
    cases hok
  | case4 current count hc page hp offset part rest hrest ih => exact ⟨_, rfl⟩

theorem fetchFrom_eq_ok_iff (m : Memory) (current count : Nat) (bytes : List UInt8) :
    m.fetchFrom current count = .ok bytes ↔ bytes.length = count ∧
      ∀ i, i < count → m.IsReadable (current + i) ∧ m.byteAt? (current + i) = bytes[i]? := by
  constructor
  · exact fetchFrom_ok m current count bytes
  · rintro ⟨hlen, hall⟩
    obtain ⟨found, hf⟩ := fetchFrom_of_readable m current count fun i hi => (hall i hi).1
    obtain ⟨hlen', hall'⟩ := fetchFrom_ok m current count found hf
    have he : found = bytes := by
      apply List.ext_getElem?
      intro i
      by_cases hi : i < count
      · rw [← (hall i hi).2, ← (hall' i hi).2]
      · rw [List.getElem?_eq_none (by omega), List.getElem?_eq_none (by omega)]
    rw [hf, he]

/-- A read gives the bytes of its range, if the range stays in the address space and each of its positions
can be read. -/
theorem read_eq_ok_iff (m : Memory) (a : Address) (count : Nat) (bytes : List UInt8) :
    m.read a count = .ok bytes ↔ bytes.length = count ∧ (count = 0 ∨ a.toNat + count ≤ spaceSize) ∧
      ∀ i, i < count → m.IsReadable (a.toNat + i) ∧ m.byteAt? (a.toNat + i) = bytes[i]? := by
  unfold read
  by_cases hz : count = 0
  · subst hz
    simp [eq_comm]
  · simp only [hz, if_false, false_or]
    by_cases ho : spaceSize < a.toNat + count
    · simp only [ho, if_true, reduceCtorEq, false_iff]
      rintro ⟨-, hle, -⟩
      omega
    · simp only [ho, if_false]
      rw [fetchFrom_eq_ok_iff]
      constructor
      · rintro ⟨hlen, hall⟩
        exact ⟨hlen, by omega, hall⟩
      · rintro ⟨hlen, -, hall⟩
        exact ⟨hlen, hall⟩

end Memory

end FlowGuard
