import FlowGuard.Code.Captured
import Mathlib.Data.List.Sort

/-!
Look-ups in captured code. A look-up asks only the region with the greatest start that is not behind the
address; when no region reaches into the next one, that is the one region that can hold the address, so a
read succeeds exactly when some region holds all of the bytes.
-/

namespace FlowGuard

namespace Region

theorem slice?_eq_some_iff (r : Region) (a : Address) (count : Nat) (bytes : List UInt8) :
    r.slice? a count = some bytes ↔
      r.start.toNat ≤ a.toNat ∧ a.toNat - r.start.toNat + count ≤ r.bytes.size ∧
        bytes = (r.bytes.toList.drop (a.toNat - r.start.toNat)).take count := by
  unfold slice?
  simp only [UInt64.le_iff_toNat_le]
  by_cases hc : r.start.toNat ≤ a.toNat ∧ a.toNat - r.start.toNat + count ≤ r.bytes.size
  · simp only [hc, and_self, if_true, Option.some.injEq, true_and, Array.toList_extract, List.extract]
    rw [Nat.add_sub_cancel_left]
    exact eq_comm
  · simp only [hc, if_false, reduceCtorEq, false_iff]
    rintro ⟨h₁, h₂, -⟩
    exact hc ⟨h₁, h₂⟩

theorem isSome_slice? (r : Region) (a : Address) (count : Nat) :
    (r.slice? a count).isSome =
      decide (r.start.toNat ≤ a.toNat ∧ a.toNat - r.start.toNat + count ≤ r.bytes.size) := by
  unfold slice?
  simp only [UInt64.le_iff_toNat_le]
  split
  case isTrue hc => simp [hc]
  case isFalse hc => simp [hc]

def Before (r r' : Region) : Prop :=
  r.start.toNat < r'.start.toNat

end Region

namespace Captured

theorem mem_regions (c : Captured) (r : Region) :
    r ∈ c.regions ↔ c.byStart[r.start]? = some r.bytes := by
  unfold regions
  simp only [List.mem_map, Prod.exists]
  constructor
  · rintro ⟨start, bytes, hm, rfl⟩
    exact Std.ExtTreeMap.mem_toList_iff_getElem?_eq_some.mp hm
  · intro hm
    exact ⟨r.start, r.bytes, Std.ExtTreeMap.mem_toList_iff_getElem?_eq_some.mpr hm, rfl⟩

theorem eq_of_start_eq (c : Captured) (r r' : Region) (hr : r ∈ c.regions) (hr' : r' ∈ c.regions)
    (he : r.start = r'.start) : r = r' := by
  rw [mem_regions] at hr hr'
  rw [he, hr'] at hr
  cases r
  cases r'
  simp_all

/-- The regions come in ascending order. -/
theorem pairwise_regions (c : Captured) :
    c.regions.Pairwise fun r r' => r.start.toNat < r'.start.toNat := by
  unfold regions
  rw [List.pairwise_map]
  refine Std.ExtTreeMap.ordered_keys_toList.imp ?_
  intro p q hlt
  exact UInt64.lt_iff_toNat_lt.mp (Std.compare_eq_lt.mp hlt)

theorem mem_regions_insert (c : Captured) (start : Address) (bytes : Array UInt8) (r : Region) :
    r ∈ (c.insert start bytes).regions ↔ r = ⟨start, bytes⟩ ∨ r.start ≠ start ∧ r ∈ c.regions := by
  obtain ⟨first, found⟩ := r
  simp only [mem_regions, insert, Std.ExtTreeMap.getElem?_insert, Std.compare_eq_iff_eq, Region.mk.injEq]
  by_cases he : start = first
  · simp [he, eq_comm]
  · simp [he, Ne.symm he]

/-- A region behind all others comes last. -/
theorem regions_insert_of_before (c : Captured) (start : Address) (bytes : Array UInt8)
    (h : ∀ r ∈ c.regions, r.Before ⟨start, bytes⟩) :
    (c.insert start bytes).regions = c.regions ++ [⟨start, bytes⟩] := by
  have hsorted : (c.regions ++ [Region.mk start bytes]).Pairwise Region.Before :=
    List.pairwise_append.mpr ⟨c.pairwise_regions, List.pairwise_singleton _ _, by simpa using h⟩
  refine List.Pairwise.eq_of_mem_iff (pairwise_regions _) hsorted ?_
  intro r
  rw [mem_regions_insert, List.mem_append, List.mem_singleton, or_comm]
  refine or_congr_left (and_iff_right_of_imp ?_)
  intro hr he
  exact Nat.ne_of_lt (h r hr) (congrArg UInt64.toNat he)

def insertAll (c : Captured) (rs : List Region) : Captured :=
  rs.foldl (fun c r => c.insert r.start r.bytes) c

/-- Regions that are added in order stay as they are. -/
theorem regions_insertAll (c : Captured) (rs : List Region) (h : (c.regions ++ rs).Pairwise Region.Before) :
    (c.insertAll rs).regions = c.regions ++ rs := by
  induction rs generalizing c with
  | nil => exact (List.append_nil _).symm
  | cons r rs ih =>
    have hr : ∀ r' ∈ c.regions, r'.Before r := by
      intro r' hr'
      exact (List.pairwise_append.mp h).2.2 r' hr' r (by simp)
    have hinsert := c.regions_insert_of_before r.start r.bytes hr
    have hrest := ih (c.insert r.start r.bytes) (by rw [hinsert]; simpa using h)
    rw [hinsert] at hrest
    simpa [insertAll] using hrest

/-- The region a look-up asks: the one with the greatest start that is not behind the address. -/
theorem atOrBefore?_eq_some_iff (c : Captured) (a : Address) (r : Region) :
    c.atOrBefore? a = some r ↔
      r ∈ c.regions ∧ r.start.toNat ≤ a.toNat ∧
        ∀ r' ∈ c.regions, r'.start.toNat ≤ a.toNat → r'.start.toNat ≤ r.start.toNat := by
  have hfound : ∀ r, c.atOrBefore? a = some r → r ∈ c.regions ∧ r.start.toNat ≤ a.toNat ∧
      ∀ r' ∈ c.regions, r'.start.toNat ≤ a.toNat → r'.start.toNat ≤ r.start.toNat := by
    intro r hr
    have hmem : r ∈ c.regions := by simpa using List.mem_of_find?_eq_some hr
    obtain ⟨hle, after, before, he, hafter⟩ := List.find?_eq_some_iff_append.mp hr
    simp only [decide_eq_true_iff, UInt64.le_iff_toNat_le] at hle
    refine ⟨hmem, hle, ?_⟩
    intro r' hr' hle'
    have hpair := List.pairwise_reverse.mpr c.pairwise_regions
    rw [he, List.pairwise_append, List.pairwise_cons] at hpair
    have hm : r' ∈ after ++ r :: before := by
      rw [← he]
      simpa using hr'
    -- the regions behind `r` were all refused, those in front start earlier
    rcases List.mem_append.mp hm with hin | hin
    · have hno := hafter r' hin
      simp only [Bool.not_eq_eq_eq_not, Bool.not_true, decide_eq_false_iff_not,
        UInt64.le_iff_toNat_le] at hno
      omega
    · rcases List.mem_cons.mp hin with rfl | hin
      · omega
      · have := hpair.2.1.1 r' hin
        omega
  constructor
  · exact hfound r
  · rintro ⟨hmem, hle, hmax⟩
    cases hf : c.atOrBefore? a with
    | none =>
      have hno := List.find?_eq_none.mp hf r (by simpa using hmem)
      simp only [decide_eq_true_iff, UInt64.le_iff_toNat_le] at hno
      omega
    | some r' =>
      obtain ⟨hmem', hle', hmax'⟩ := hfound r' hf
      have h₁ := hmax r' hmem' hle'
      have h₂ := hmax' r hmem hle
      have hs : r'.start = r.start := UInt64.toNat_inj.mp (by omega)
      rw [c.eq_of_start_eq r' r hmem' hmem hs]

/-- No region reaches into one that starts behind it. -/
def Separated (c : Captured) : Prop :=
  ∀ r ∈ c.regions, ∀ r' ∈ c.regions, r.start.toNat < r'.start.toNat →
    r.start.toNat + r.bytes.size ≤ r'.start.toNat

/-- In separated regions the one that holds a byte of the address is the one a look-up asks. -/
theorem atOrBefore?_of_separated (c : Captured) (hsep : c.Separated) (a : Address) (r : Region)
    (hr : r ∈ c.regions) (hle : r.start.toNat ≤ a.toNat)
    (hlt : a.toNat < r.start.toNat + r.bytes.size) : c.atOrBefore? a = some r := by
  rw [atOrBefore?_eq_some_iff]
  refine ⟨hr, hle, ?_⟩
  intro r' hr' hle'
  by_cases hgt : r.start.toNat < r'.start.toNat
  · have := hsep r hr r' hr' hgt
    omega
  · omega

/-- A read from separated regions succeeds exactly when one of them holds all of the bytes. -/
theorem read?_eq_some_iff (c : Captured) (hsep : c.Separated) (a : Address) (count : Nat)
    (hcount : 0 < count) (bytes : List UInt8) :
    c.read? a count = some bytes ↔ ∃ r ∈ c.regions, r.slice? a count = some bytes := by
  unfold read?
  constructor
  · intro h
    obtain ⟨r, hr, hs⟩ := Option.bind_eq_some_iff.mp h
    exact ⟨r, ((c.atOrBefore?_eq_some_iff a r).mp hr).1, hs⟩
  · rintro ⟨r, hr, hs⟩
    obtain ⟨hle, hsize, -⟩ := (r.slice?_eq_some_iff a count bytes).mp hs
    apply Option.bind_eq_some_iff.mpr
    exact ⟨r, c.atOrBefore?_of_separated hsep a r hr hle (by omega), hs⟩

end Captured

end FlowGuard
