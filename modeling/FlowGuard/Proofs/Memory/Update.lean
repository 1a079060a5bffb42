import FlowGuard.Proofs.Memory.Bytes
import FlowGuard.Proofs.Patches

/-!
Mapping and writing in the byte view. Mapping gives rights to the pages that meet a range and adds zeros where
nothing was; writing stores a prefix of the bytes, up to the first position that is not mapped, and touches
nothing else. Two memories with the same bytes, rights and failing pages are equal.
-/

namespace FlowGuard

namespace Page

theorem rights_store (p : Page) (offset : Nat) (bytes : List UInt8) :
    (p.store offset bytes).rights = p.rights := by
  induction bytes generalizing p offset with
  | nil => rfl
  | cons b rest ih => rw [store, ih]

theorem toArray_store (p : Page) (offset : Nat) (bytes : List UInt8) :
    (p.store offset bytes).bytes.toArray = Bytes.storeAt p.bytes.toArray offset bytes := by
  induction bytes generalizing p offset with
  | nil => rfl
  | cons b rest ih => rw [store, ih, Vector.toArray_setIfInBounds, Bytes.storeAt]

theorem getElem?_store (p : Page) (offset : Nat) (bytes : List UInt8) (i : Nat) (hi : i < pageSize) :
    (p.store offset bytes).bytes[i]? =
      if offset ≤ i ∧ i < offset + bytes.length then bytes[i - offset]? else p.bytes[i]? := by
  rw [← Vector.getElem?_toArray, ← Vector.getElem?_toArray, toArray_store, Bytes.getElem?_storeAt]
  rwa [Vector.size_toArray]

end Page

namespace Memory

theorem mapped_iff (m : Memory) (page : Nat) : (m.rightsOf? page).isSome = (m.pages[page]?).isSome := by
  simp [rightsOf?]

/-- Memories that agree in every byte, in the rights of every page and in the pages made to fail. -/
theorem ext_bytes {m m' : Memory} (hb : ∀ i, m.byteAt? i = m'.byteAt? i)
    (hr : ∀ page, m.rightsOf? page = m'.rightsOf? page) (hf : m.failingReads = m'.failingReads)
    (hg : m.failingRights = m'.failingRights) : m = m' := by
  have hpages : m.pages = m'.pages := by
    apply Std.ExtTreeMap.ext_getElem?
    intro n
    have hn := hr n
    unfold rightsOf? at hn
    cases hp : m.pages[n]? with
    | none =>
      rw [hp] at hn
      exact (Option.map_eq_none_iff.mp hn.symm).symm
    | some page =>
      rw [hp] at hn
      obtain ⟨page', hp', hrights⟩ := Option.map_eq_some_iff.mp hn.symm
      rw [hp']
      have hbytes : page.bytes = page'.bytes := by
        apply Vector.ext
        intro j hj
        have hq : (n * pageSize + j) / pageSize = n := by
          simp only [pageSize] at hj ⊢
          omega
        have hrem : (n * pageSize + j) % pageSize = j := by
          simp only [pageSize] at hj ⊢
          omega
        have h := hb (n * pageSize + j)
        simp only [byteAt?, hq, hrem, hp, hp', Option.bind_eq_bind, Option.bind_some] at h
        simpa [hj] using h
      cases page
      cases page'
      simp_all
  cases m
  cases m'
  simp_all

theorem pages_mapPage (m : Memory) (page : Nat) (rights : Rights) (n : Nat) :
    (m.mapPage page rights).pages[n]? =
      if page = n then some { bytes := ((m.pages[n]?).map Page.bytes).getD Page.zeros, rights }
      else m.pages[n]? := by
  unfold mapPage
  rw [Std.ExtTreeMap.getElem?_insert]
  by_cases hn : page = n
  · subst hn
    cases hp : m.pages[page]? <;> simp
  · simp [hn]

theorem pages_mapPages (m : Memory) (rights : Rights) (first count n : Nat) :
    (m.mapPages rights first count).pages[n]? =
      if first ≤ n ∧ n < first + count then
        some { bytes := ((m.pages[n]?).map Page.bytes).getD Page.zeros, rights }
      else m.pages[n]? := by
  induction count generalizing m first with
  | zero =>
    rw [mapPages, if_neg]
    omega
  | succ count ih =>
    rw [mapPages, ih, pages_mapPage]
    by_cases hn : first = n
    · subst hn
      rw [if_neg (by omega), if_pos rfl, if_pos (by omega)]
    · by_cases hin : first + 1 ≤ n ∧ n < first + 1 + count
      · rw [if_pos hin, if_neg hn, if_pos (by omega)]
      · rw [if_neg hin, if_neg hn, if_neg (by omega)]

theorem failing_mapPages (m : Memory) (rights : Rights) (first count : Nat) :
    (m.mapPages rights first count).failingReads = m.failingReads ∧
      (m.mapPages rights first count).failingRights = m.failingRights := by
  induction count generalizing m first with
  | zero => exact ⟨rfl, rfl⟩
  | succ count ih => exact ih _ _

/-- The page meets the `size` bytes from `a` on, as far as they lie in the address space. -/
def Meets (a size : UInt64) (page : Nat) : Prop :=
  a.toNat / pageSize ≤ page ∧ page * pageSize < min (a.toNat + size.toNat) spaceSize

instance (a size : UInt64) (page : Nat) : Decidable (Meets a size page) :=
  inferInstanceAs (Decidable (_ ∧ _))

theorem toNat_addSat_pred (a size : UInt64) (hpos : 0 < size.toNat) :
    (Address.addSat a (size - 1)).toNat = min (a.toNat + size.toNat) spaceSize - 1 := by
  have hone : (size - 1).toNat = size.toNat - 1 :=
    UInt64.toNat_sub_of_le size 1 (UInt64.le_iff_toNat_le.mpr hpos)
  have hlt := a.toNat_lt
  unfold Address.addSat Address.add?
  rw [hone]
  by_cases hin : a.toNat + (size.toNat - 1) < spaceSize
  · rw [if_pos hin, Option.getD_some, UInt64.toNat_add, hone]
    unfold spaceSize at hin ⊢
    omega
  · rw [if_neg hin, Option.getD_none]
    unfold spaceSize at hin ⊢
    rw [UInt64.toNat_ofNat']
    omega

theorem pages_map (m : Memory) (a size : UInt64) (rights : Rights) (hsize : size ≠ 0) (n : Nat) :
    (m.map a size rights).pages[n]? =
      if Meets a size n then
        some { bytes := ((m.pages[n]?).map Page.bytes).getD Page.zeros, rights }
      else m.pages[n]? := by
  have hpos : 0 < size.toNat := by
    rcases Nat.eq_zero_or_pos size.toNat with hz | hp
    · exact absurd (UInt64.toNat_inj.mp hz) hsize
    · exact hp
  have hcond : pageOf a ≤ n ∧
      n < pageOf a + (pageOf (Address.addSat a (size - 1)) + 1 - pageOf a) ↔ Meets a size n := by
    have hlast := toNat_addSat_pred a size hpos
    have hlt := a.toNat_lt
    simp only [pageOf, Meets, hlast, spaceSize, pageSize]
    omega
  rw [map, if_neg hsize, pages_mapPages]
  simp only [hcond]

theorem rightsOf?_map (m : Memory) (a size : UInt64) (rights : Rights) (hsize : size ≠ 0) (n : Nat) :
    (m.map a size rights).rightsOf? n = if Meets a size n then some rights else m.rightsOf? n := by
  unfold rightsOf?
  rw [pages_map m a size rights hsize]
  split <;> rfl

theorem byteAt?_map (m : Memory) (a size : UInt64) (rights : Rights) (hsize : size ≠ 0) (i : Nat) :
    (m.map a size rights).byteAt? i =
      if Meets a size (i / pageSize) then some ((m.byteAt? i).getD 0) else m.byteAt? i := by
  have hrem : i % pageSize < pageSize := Nat.mod_lt _ (by decide)
  unfold byteAt?
  rw [pages_map m a size rights hsize]
  split
  · cases m.pages[i / pageSize]? <;> simp [Page.zeros, hrem]
  · rfl

theorem failing_map (m : Memory) (a size : UInt64) (rights : Rights) :
    (m.map a size rights).failingReads = m.failingReads ∧
      (m.map a size rights).failingRights = m.failingRights := by
  unfold map
  split
  · exact ⟨rfl, rfl⟩
  · exact failing_mapPages m rights _ _

def IsStorable (m : Memory) (i : Nat) : Prop :=
  i < spaceSize ∧ (m.rightsOf? (i / pageSize)).isSome = true

/-- What is left of a memory when bytes are stored from `current` on. -/
structure Stored (m : Memory) (current : Nat) (bytes : List UInt8) (m' : Memory) : Prop where
  bytes : ∀ i, m'.byteAt? i =
    if current ≤ i ∧ i < current + bytes.length then bytes[i - current]? else m.byteAt? i
  rights : ∀ page, m'.rightsOf? page = m.rightsOf? page
  failingReads : m'.failingReads = m.failingReads
  failingRights : m'.failingRights = m.failingRights

theorem Stored.nil (m : Memory) (current : Nat) : Stored m current [] m where
  bytes i := by
    rw [if_neg]
    simp only [List.length_nil]
    omega
  rights _ := rfl
  failingReads := rfl
  failingRights := rfl

/-- Storing in two parts. -/
theorem Stored.append {m m' m'' : Memory} {current : Nat} {front back : List UInt8}
    (h : Stored m current front m') (h' : Stored m' (current + front.length) back m'') :
    Stored m current (front ++ back) m'' where
  bytes i := by
    rw [h'.bytes, h.bytes, List.length_append]
    by_cases hback : current + front.length ≤ i ∧ i < current + front.length + back.length
    · rw [if_pos hback, if_pos (by omega), List.getElem?_append_right (by omega)]
      congr 1
      omega
    · rw [if_neg hback]
      by_cases hfront : current ≤ i ∧ i < current + front.length
      · rw [if_pos hfront, if_pos (by omega), List.getElem?_append_left (by omega)]
      · rw [if_neg hfront, if_neg (by omega)]
  rights page := by rw [h'.rights, h.rights]
  failingReads := by rw [h'.failingReads, h.failingReads]
  failingRights := by rw [h'.failingRights, h.failingRights]

theorem Stored.isStorable_iff {m m' : Memory} {current : Nat} {bytes : List UInt8}
    (h : Stored m current bytes m') (i : Nat) : m'.IsStorable i ↔ m.IsStorable i := by
  unfold IsStorable
  rw [h.rights]

/-- Storing inside one page. -/
theorem stored_page (m : Memory) (current : Nat) (bytes : List UInt8) (page : Page)
    (hp : m.pages[current / pageSize]? = some page)
    (hroom : current % pageSize + bytes.length ≤ pageSize) :
    Stored m current bytes
      { m with pages := m.pages.insert (current / pageSize) (page.store (current % pageSize) bytes) } where
  bytes i := by
    have hrem : i % pageSize < pageSize := Nat.mod_lt _ (by decide)
    unfold byteAt?
    rw [Std.ExtTreeMap.getElem?_insert]
    by_cases hq : current / pageSize = i / pageSize
    · have hcond : current % pageSize ≤ i % pageSize ∧ i % pageSize < current % pageSize + bytes.length ↔
          current ≤ i ∧ i < current + bytes.length := by
        simp only [pageSize] at *
        omega
      have hidx : i % pageSize - current % pageSize = i - current := by
        simp only [pageSize] at *
        omega
      simp only [hq, Std.LawfulEqCmp.compare_eq_iff_eq, if_true, Option.bind_eq_bind, Option.bind_some,
        Page.getElem?_store _ _ _ _ hrem, hcond, hidx]
      rw [← hq, hp]
      rfl
    · rw [if_neg (by simpa using hq), if_neg]
      simp only [pageSize] at *
      omega
  rights n := by
    unfold rightsOf?
    rw [Std.ExtTreeMap.getElem?_insert]
    by_cases hq : current / pageSize = n
    · subst hq
      simp [hp, Page.rights_store]
    · simp [hq]
  failingReads := rfl
  failingRights := rfl

/-- A position on the page of a storable one is storable. -/
theorem isStorable_add (m : Memory) (current i : Nat) (page : Page) (hlt : current < spaceSize)
    (hp : m.pages[current / pageSize]? = some page) (hi : current % pageSize + i < pageSize) :
    m.IsStorable (current + i) := by
  have hq : (current + i) / pageSize = current / pageSize := by
    simp only [pageSize] at hi ⊢
    omega
  refine ⟨?_, by rw [hq, mapped_iff, hp]; rfl⟩
  simp only [spaceSize, pageSize] at hlt hi ⊢
  omega

/-- Storing goes as far as there are mapped positions: the first `n` bytes are stored, and if these are not
all, the next position is refused. -/
theorem storeFrom_spec (m : Memory) (start : Address) (length current : Nat) (bytes : List UInt8) :
    ∃ n, n ≤ bytes.length ∧ Stored m current (bytes.take n) (m.storeFrom start length current bytes).1 ∧
      (∀ i, i < n → m.IsStorable (current + i)) ∧
      (n < bytes.length → ¬m.IsStorable (current + n)) ∧
      (m.storeFrom start length current bytes).2 =
        if n = bytes.length then .ok ()
        else if current + n < spaceSize then .error (.unmapped (UInt64.ofNat (current + n)))
        else .error (.overflow start length) := by
  fun_induction storeFrom m start length current bytes with
  | case1 m current => exact ⟨0, by simp, by simpa using Stored.nil m current, by simp, by simp, by simp⟩
  | case2 m current bytes hne hspace =>
    have hpos := List.length_pos_iff.mpr hne
    refine ⟨0, by omega, by simpa using Stored.nil m current, by simp, ?_, ?_⟩
    · intro _ hs
      have := hs.1
      omega
    · rw [if_neg (by omega), if_neg (by omega)]
  | case3 m current bytes hne hspace hp =>
    have hpos := List.length_pos_iff.mpr hne
    refine ⟨0, by omega, by simpa using Stored.nil m current, by simp, ?_, ?_⟩
    · intro _ hs
      have := hs.2
      rw [Nat.add_zero, mapped_iff, hp] at this
      simp at this
    · rw [if_neg (by omega), if_pos (by omega)]
      rfl
  | case4 m current bytes hne hspace page hp offset room page' ih =>
    have hoff : offset < pageSize := Nat.mod_lt _ (by decide)
    have hfront : (bytes.take room).length ≤ room := List.length_take_le room bytes
    have hstored := stored_page m current (bytes.take room) page hp (by omega)
    have hreach : ∀ i, i < room → m.IsStorable (current + i) := fun i hi =>
      isStorable_add m current i page (by omega) hp (by omega)
    by_cases hall : bytes.length ≤ room
    · -- the page takes all that is left
      refine ⟨bytes.length, Nat.le_refl _, ?_, fun i hi => hreach i (by omega), by omega, ?_⟩
      · rw [List.take_length]
        rw [List.take_of_length_le hall] at hstored
        simpa [List.drop_eq_nil_of_le hall, storeFrom, page', List.take_of_length_le hall] using hstored
      · simp [List.drop_eq_nil_of_le hall, storeFrom]
    · obtain ⟨n, hn, hs, hok, hstop, hresult⟩ := ih
      have hlen : (bytes.take room).length = room := by
        rw [List.length_take]
        omega
      rw [List.length_drop] at hn hstop hresult
      refine ⟨room + n, by omega, ?_, ?_, ?_, ?_⟩
      · rw [List.take_add]
        apply hstored.append
        rw [hlen]
        exact hs
      · intro i hi
        by_cases hin : i < room
        · exact hreach i hin
        · have := (hstored.isStorable_iff _).mp (hok (i - room) (by omega))
          rwa [Nat.add_assoc, Nat.add_sub_cancel' (by omega)] at this
      · intro hlt hs'
        apply hstop (by omega)
        rw [Nat.add_assoc]
        exact (hstored.isStorable_iff _).mpr hs'
      · rw [hresult, Nat.add_assoc]
        have hiff : room + n = bytes.length ↔ n = bytes.length - room := by omega
        simp only [hiff]

/-- Bytes that can all be stored are. -/
theorem write_of_storable (m : Memory) (a : Address) (bytes : List UInt8)
    (h : ∀ i, i < bytes.length → m.IsStorable (a.toNat + i)) :
    (m.write a bytes).2 = .ok () ∧ Stored m a.toNat bytes (m.write a bytes).1 := by
  obtain ⟨n, hn, hs, -, hstop, hresult⟩ := storeFrom_spec m a bytes.length a.toNat bytes
  have hall : n = bytes.length := by
    by_cases hlt : n < bytes.length
    · exact absurd (h n hlt) (hstop hlt)
    · omega
  subst hall
  rw [List.take_length] at hs
  rw [if_pos rfl] at hresult
  exact ⟨hresult, hs⟩

end Memory

end FlowGuard
