import FlowGuard.Proofs.Memory.Flat
import Mathlib.Data.List.GetD

/-!
Placing bytes. A placement gives rights to a range of positions and stores bytes at its start. Placements that lie
apart do not disturb each other, so a memory made of them shows each one as if it were alone. On pages a placement
is a map and a write.
-/

namespace FlowGuard

/-- A range of positions with its rights and the bytes it starts with. -/
structure Placement where
  start : Nat
  size : Nat
  rights : Rights
  bytes : List UInt8
  fits : bytes.length ≤ size

namespace Placement

def Covers (p : Placement) (i : Nat) : Prop :=
  p.start ≤ i ∧ i < p.start + p.size

instance (p : Placement) (i : Nat) : Decidable (p.Covers i) :=
  inferInstanceAs (Decidable (_ ∧ _))

def Apart (p q : Placement) : Prop :=
  ∀ i, p.Covers i → ¬q.Covers i

end Placement

namespace FlatMemory

def place (g : FlatMemory) (p : Placement) : FlatMemory :=
  { g with
    rights? := fun i => if p.Covers i then some p.rights else g.rights? i
    byte := fun i => if p.Covers i then p.bytes.getD (i - p.start) (g.byte i) else g.byte i }

theorem rights?_place (g : FlatMemory) (p : Placement) (i : Nat) :
    (g.place p).rights? i = if p.Covers i then some p.rights else g.rights? i := rfl

theorem byte_place (g : FlatMemory) (p : Placement) (i : Nat) :
    (g.place p).byte i = if p.Covers i then p.bytes.getD (i - p.start) (g.byte i) else g.byte i := rfl

/-- The bytes end inside the range. -/
theorem byte_place_eq (g : FlatMemory) (p : Placement) (i : Nat) :
    (g.place p).byte i =
      if p.start ≤ i ∧ i < p.start + p.bytes.length then p.bytes.getD (i - p.start) 0 else g.byte i := by
  have hfits := p.fits
  rw [byte_place]
  by_cases hin : p.start ≤ i ∧ i < p.start + p.bytes.length
  · have hcovers : p.Covers i := ⟨hin.1, by omega⟩
    have hlt : i - p.start < p.bytes.length := by omega
    rw [if_pos hin, if_pos hcovers, List.getD_eq_getElem _ _ hlt, List.getD_eq_getElem _ _ hlt]
  · rw [if_neg hin]
    by_cases hcovers : p.Covers i
    · have hbehind : p.bytes.length ≤ i - p.start := by
        unfold Placement.Covers at hcovers
        omega
      rw [if_pos hcovers, List.getD_eq_default _ _ hbehind]
    · rw [if_neg hcovers]

theorem place_of_empty (g : FlatMemory) (p : Placement) (h : p.size = 0) : g.place p = g := by
  have hfree : ∀ i, ¬p.Covers i := by
    unfold Placement.Covers
    omega
  simp only [place, hfree, if_false]

/-- Where no placement reaches, nothing changes. -/
theorem foldl_place_of_not_covers (g : FlatMemory) (ps : List Placement) (i : Nat) (h : ∀ p ∈ ps, ¬p.Covers i) :
    (ps.foldl place g).rights? i = g.rights? i ∧ (ps.foldl place g).byte i = g.byte i := by
  induction ps generalizing g with
  | nil => exact ⟨rfl, rfl⟩
  | cons p rest ih =>
    obtain ⟨hr, hb⟩ := ih (g.place p) fun q hq => h q (List.mem_cons_of_mem p hq)
    have hp : ¬p.Covers i := h p List.mem_cons_self
    rw [rights?_place, if_neg hp] at hr
    rw [byte_place, if_neg hp] at hb
    exact ⟨hr, hb⟩

/-- Of placements that lie apart each one is there as if it were alone. -/
theorem foldl_place_of_covers (g : FlatMemory) (ps : List Placement) (hapart : ps.Pairwise Placement.Apart)
    (p : Placement) (hp : p ∈ ps) (i : Nat) (hi : p.Covers i) :
    (ps.foldl place g).rights? i = some p.rights ∧
      (ps.foldl place g).byte i = p.bytes.getD (i - p.start) (g.byte i) := by
  induction ps generalizing g with
  | nil => cases hp
  | cons q rest ih =>
    obtain ⟨hq, hrest⟩ := List.pairwise_cons.mp hapart
    rw [List.foldl_cons]
    rcases List.mem_cons.mp hp with rfl | hmem
    · -- nothing that comes later reaches the position
      obtain ⟨hr, hb⟩ := foldl_place_of_not_covers (g.place p) rest i fun r hr => hq r hr i hi
      rw [hr, hb, rights?_place, byte_place, if_pos hi, if_pos hi]
      exact ⟨rfl, rfl⟩
    · have hfree : ¬q.Covers i := fun hc => hq p hmem i hc hi
      obtain ⟨hr, hb⟩ := ih (g.place q) hrest hmem
      rw [byte_place, if_neg hfree] at hb
      exact ⟨hr, hb⟩

theorem refused_foldl_place (g : FlatMemory) (ps : List Placement) : (ps.foldl place g).refused = g.refused := by
  induction ps generalizing g with
  | nil => rfl
  | cons p rest ih => exact ih (g.place p)

end FlatMemory

namespace Memory

/-- Mapping whole pages and writing to their start. -/
theorem flat_place (m : Memory) (a : Address) (p : Placement) (hstart : a.toNat = p.start)
    (haligned : p.start % pageSize = 0) (hpages : p.size % pageSize = 0) (hpos : 0 < p.size)
    (hspace : p.start + p.size < spaceSize) :
    let placed := (m.map a (UInt64.ofNat p.size) p.rights).write a p.bytes
    placed.2 = .ok () ∧ placed.1.flat = m.flat.place p := by
  intro placed
  have hfits := p.fits
  have hsize : (UInt64.ofNat p.size).toNat = p.size := by
    rw [UInt64.toNat_ofNat']
    exact Nat.mod_eq_of_lt (show p.size < spaceSize by omega)
  have hmeets : ∀ i, (UInt64.ofNat p.size ≠ 0 ∧ Meets a (UInt64.ofNat p.size) (i / pageSize)) ↔ p.Covers i := by
    intro i
    have hne : UInt64.ofNat p.size ≠ 0 := by
      intro hz
      rw [hz] at hsize
      exact absurd hsize (Nat.ne_of_lt hpos)
    unfold Meets Placement.Covers
    rw [hsize, hstart]
    simp only [ne_eq, hne, not_false_eq_true, true_and]
    simp only [pageSize, spaceSize] at *
    omega
  have hmap : (m.map a (UInt64.ofNat p.size) p.rights).flat =
      { m.flat with rights? := fun i => if p.Covers i then some p.rights else m.flat.rights? i } := by
    rw [flat_map, FlatMemory.apply]
    simp only [hmeets]
  have hstorable : ∀ i, i < p.bytes.length →
      (m.map a (UInt64.ofNat p.size) p.rights).IsStorable (a.toNat + i) := by
    intro i hi
    have hcovers : p.Covers (a.toNat + i) := ⟨by omega, by omega⟩
    refine ⟨by omega, ?_⟩
    rw [← rights?_flat, hmap]
    simp only [hcovers, if_true, Option.isSome_some]
  obtain ⟨hok, hstored⟩ := write_of_storable _ a p.bytes hstorable
  have hall : Stored (m.map a (UInt64.ofNat p.size) p.rights) a.toNat (p.bytes.take p.bytes.length) placed.1 := by
    rw [List.take_length]
    exact hstored
  refine ⟨hok, ?_⟩
  rw [hall.flat_eq (Nat.le_refl _), hmap, hstart]
  simp only [← FlatMemory.byte_place_eq]
  rfl

end Memory

end FlowGuard
