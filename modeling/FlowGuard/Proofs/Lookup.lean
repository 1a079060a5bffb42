import FlowGuard.Proofs.Snapshot

/-!
Looking up addresses in captured code. The look-ups ask only one region, so they are right as long as no region
reaches into the next one; the survey of a module always leaves a gap between two regions, whatever the host
answers, as long as a read that succeeds fills its whole buffer.
-/

namespace FlowGuard

namespace Region

def Covers (r : Region) (first last : Nat) : Prop :=
  r.start.toNat ≤ first ∧ last ≤ r.start.toNat + r.bytes.size

/-- The region covers the `count` positions from the address on, and the bytes are those it has there. -/
structure Gives (r : Region) (a : Address) (count : Nat) (bytes : List UInt8) : Prop where
  covers : r.Covers a.toNat (a.toNat + count)
  length : bytes.length = count
  getElem? : ∀ i, i < count → bytes[i]? = r.bytes[a.toNat + i - r.start.toNat]?

theorem slice?_eq_some_iff_gives (r : Region) (a : Address) (count : Nat) (bytes : List UInt8) :
    r.slice? a count = some bytes ↔ r.Gives a count bytes := by
  rw [slice?_eq_some_iff]
  constructor
  · rintro ⟨hle, hsize, rfl⟩
    refine ⟨⟨hle, by omega⟩, ?_, ?_⟩
    · rw [List.length_take, List.length_drop, Array.length_toList]
      omega
    · intro i hi
      rw [List.getElem?_take_of_lt hi, List.getElem?_drop, Array.getElem?_toList]
      congr 1
      omega
  · rintro ⟨⟨hle, hend⟩, hlength, hbytes⟩
    refine ⟨hle, by omega, ?_⟩
    apply List.ext_getElem?
    intro i
    by_cases hi : i < count
    · rw [hbytes i hi, List.getElem?_take_of_lt hi, List.getElem?_drop, Array.getElem?_toList]
      congr 1
      omega
    · rw [List.getElem?_eq_none (by omega), List.getElem?_eq_none]
      rw [List.length_take]
      omega

theorem toNat_endAddress (r : Region) (h : r.start.toNat + r.bytes.size < 2 ^ 64) :
    r.endAddress.toNat = r.start.toNat + r.bytes.size := by
  rw [endAddress, UInt64.toNat_add, UInt64.toNat_ofNat']
  omega

end Region

namespace Captured

/-- No region reaches the last address, so that the position behind each one is an address. -/
def InSpace (c : Captured) : Prop :=
  ∀ r ∈ c.regions, r.start.toNat + r.bytes.size < 2 ^ 64

/-- No region is empty, and between two of them lies a position that belongs to neither. -/
structure Spaced (c : Captured) : Prop where
  nonempty : ∀ r ∈ c.regions, 0 < r.bytes.size
  apart : ∀ r ∈ c.regions, ∀ r' ∈ c.regions, r.start < r'.start →
    r.start.toNat + r.bytes.size < r'.start.toNat

/-- The region that is found for an address is the one that covers it. -/
theorem containing?_eq_some_iff (c : Captured) (hsep : c.Separated) (hspace : c.InSpace) (a : Address)
    (r : Region) :
    c.containing? a = some r ↔ r ∈ c.regions ∧ r.Covers a.toNat (a.toNat + 1) := by
  rw [containing?, Option.filter_eq_some_iff, decide_eq_true_iff, UInt64.lt_iff_toNat_lt]
  constructor
  · rintro ⟨hfound, hlt⟩
    obtain ⟨hr, hle, -⟩ := (c.atOrBefore?_eq_some_iff a r).mp hfound
    rw [r.toNat_endAddress (hspace r hr)] at hlt
    exact ⟨hr, hle, hlt⟩
  · rintro ⟨hr, hle, hlt⟩
    rw [r.toNat_endAddress (hspace r hr)]
    exact ⟨c.atOrBefore?_of_separated hsep a r hr hle hlt, hlt⟩

/-- Whatever the regions are, a read gives bytes that one of them has at the address. -/
theorem gives_of_read? (c : Captured) (a : Address) (count : Nat) (bytes : List UInt8)
    (h : c.read? a count = some bytes) : ∃ r ∈ c.regions, r.Gives a count bytes := by
  obtain ⟨r, hr, hs⟩ := Option.bind_eq_some_iff.mp h
  exact ⟨r, ((c.atOrBefore?_eq_some_iff a r).mp hr).1, (r.slice?_eq_some_iff_gives a count bytes).mp hs⟩

theorem read?_eq_some_iff_gives (c : Captured) (hsep : c.Separated) (a : Address) (count : Nat)
    (hcount : 0 < count) (bytes : List UInt8) :
    c.read? a count = some bytes ↔ ∃ r ∈ c.regions, r.Gives a count bytes := by
  simp only [c.read?_eq_some_iff hsep a count hcount, Region.slice?_eq_some_iff_gives]

/-- A read succeeds exactly when one region covers all that is asked for. -/
theorem isSome_read?_iff (c : Captured) (hsep : c.Separated) (a : Address) (count : Nat)
    (hcount : 0 < count) :
    (c.read? a count).isSome ↔ ∃ r ∈ c.regions, r.Covers a.toNat (a.toNat + count) := by
  rw [Option.isSome_iff_exists]
  constructor
  · rintro ⟨bytes, h⟩
    obtain ⟨r, hr, hgives⟩ := c.gives_of_read? a count bytes h
    exact ⟨r, hr, hgives.covers⟩
  · rintro ⟨r, hr, hle, hend⟩
    have hslice : (r.slice? a count).isSome := by
      rw [Region.isSome_slice?, decide_eq_true_iff]
      omega
    obtain ⟨bytes, hs⟩ := Option.isSome_iff_exists.mp hslice
    exact ⟨bytes, (c.read?_eq_some_iff hsep a count hcount bytes).mpr ⟨r, hr, hs⟩⟩

end Captured

namespace Answers

/-- A read that succeeds gives as many bytes as were asked for. -/
def Fills (h : Answers) : Prop :=
  ∀ a count bytes, h.read a count = .ok bytes → bytes.length = count

theorem fills_ofMemory (m : Memory) : (ofMemory m).Fills :=
  fun _ _ _ hr => ((m.read_eq_ok_iff _ _ _).mp hr).1

/-- The regions of a survey are readable runs of steps, each with all of its bytes. -/
theorem run_of_mem_regions (h : Answers) (hfills : h.Fills) (target : LoadedModule) (step : UInt64)
    (hstep : Snapshot.validStep step = true) (r : Region)
    (hr : r ∈ ((Survey.take target step).run h).value.captured.regions) :
    ∃ first count, MaximalRun (h.IsExecutable target step) first count ∧
      r.start = Snapshot.stepAddress target step first ∧ r.bytes.size = count * step.toNat := by
  rw [Survey.regions_take h target step hstep, List.mem_filterMap] at hr
  obtain ⟨run, hrun, hregion⟩ := hr
  obtain ⟨hstart, hread⟩ := (h.region?_eq_some_iff target step run r).mp hregion
  refine ⟨run.1, run.2, ((h.mem_runs target step (Snapshot.pos_of_validStep hstep) run).mp hrun).1, hstart, ?_⟩
  rw [← Array.length_toList]
  exact hfills _ _ _ hread

/-- Between two regions of a survey lies at least the step that ended the first one. -/
theorem spaced_take_of_valid (h : Answers) (hfills : h.Fills) (target : LoadedModule) (step : UInt64)
    (hstep : Snapshot.validStep step = true) : ((Survey.take target step).run h).value.captured.Spaced where
  nonempty r hr := by
    obtain ⟨first, count, hrun, -, hsize⟩ := h.run_of_mem_regions hfills target step hstep r hr
    rw [hsize]
    exact Nat.mul_pos hrun.nonempty (Snapshot.pos_of_validStep hstep)
  apart r hr r' hr' hlt := by
    obtain ⟨first, count, hrun, hs, hsize⟩ := h.run_of_mem_regions hfills target step hstep r hr
    obtain ⟨first', count', hrun', hs', -⟩ := h.run_of_mem_regions hfills target step hstep r' hr'
    rw [UInt64.lt_iff_toNat_lt, hs, hs'] at hlt
    rw [hs, hs', hsize]
    exact Snapshot.maximalRun_apart target step (Snapshot.pos_of_validStep hstep) (fun _ hk => hk.1) hrun hrun' hlt

theorem spaced_take (h : Answers) (hfills : h.Fills) (target : LoadedModule) (size : UInt64) :
    ((Survey.take target size).run h).value.captured.Spaced := by
  by_cases hv : Snapshot.validStep size = true
  · exact h.spaced_take_of_valid hfills target size hv
  · rw [Survey.take_of_not_valid hv]
    exact h.spaced_take_of_valid hfills target Snapshot.defaultStep (by decide)

end Answers

namespace Captured

/-- Look-ups in captured code are exact. Every survey of a module, with any host that fills its buffers, leaves
regions that are not empty and not adjacent; a memory is such a host, and its survey is the snapshot. In any regions
that do not overlap, an address is found in the one region that covers it, if no region reaches the last address,
and a read gives the bytes of the one region that covers all of them; even if regions overlap, a read never gives
anything but bytes of a region. -/
theorem look_ups_are_exact :
    (∀ h : Answers, h.Fills → ∀ target size, ((Survey.take target size).run h).value.captured.Spaced) ∧
      (∀ m, (Answers.ofMemory m).Fills ∧ ∀ target size,
        (Survey.take target size).run (.ofMemory m) = Snapshot.take m target size) ∧
      (∀ c : Captured, c.Separated → ∀ a : Address,
        (c.InSpace →
          (∀ r, c.containing? a = some r ↔ r ∈ c.regions ∧ r.Covers a.toNat (a.toNat + 1)) ∧
            (c.containing? a = none ↔ ∀ r ∈ c.regions, ¬r.Covers a.toNat (a.toNat + 1))) ∧
          ∀ count, 0 < count →
            ((c.read? a count).isSome ↔ ∃ r ∈ c.regions, r.Covers a.toNat (a.toNat + count)) ∧
              ∀ bytes, c.read? a count = some bytes ↔ ∃ r ∈ c.regions, r.Gives a count bytes) ∧
      ∀ (c : Captured) (a : Address) (count : Nat) (bytes : List UInt8),
        c.read? a count = some bytes → ∃ r ∈ c.regions, r.Gives a count bytes := by
  refine ⟨Answers.spaced_take, ?_, ?_, gives_of_read?⟩
  · exact fun m => ⟨Answers.fills_ofMemory m, fun _ _ => rfl⟩
  · intro c hsep a
    constructor
    · intro hspace
      have hfound := c.containing?_eq_some_iff hsep hspace a
      refine ⟨hfound, ?_⟩
      simp only [Option.eq_none_iff_forall_ne_some, ne_eq, hfound, not_and]
    · intro count hcount
      exact ⟨c.isSome_read?_iff hsep a count hcount, c.read?_eq_some_iff_gives hsep a count hcount⟩

/-- Two adjacent regions: each end of the border belongs to its own region, and a read over the border fails. -/
theorem look_ups_are_exact_adjacent :
    let c : Captured := ({} : Captured).insertAll [⟨0x1000, #[1, 2, 3, 4]⟩, ⟨0x1004, #[5, 6]⟩]
    c.Separated ∧ c.InSpace ∧ c.containing? 0x1003 = some ⟨0x1000, #[1, 2, 3, 4]⟩ ∧
      c.containing? 0x1004 = some ⟨0x1004, #[5, 6]⟩ ∧ c.containing? 0x1006 = none ∧
      c.read? 0x1002 2 = some [3, 4] ∧ c.read? 0x1003 2 = none := by
  intro c
  have hregions : c.regions = [⟨0x1000, #[1, 2, 3, 4]⟩, ⟨0x1004, #[5, 6]⟩] :=
    regions_insertAll {} _ (List.pairwise_pair.mpr (show 0x1000 < 0x1004 by decide))
  have hsep : c.Separated := by
    unfold Separated
    rw [hregions]
    decide
  have hspace : c.InSpace := by
    unfold InSpace
    rw [hregions]
    decide
  have hexact := look_ups_are_exact.2.2.1 c hsep
  simp only [hregions] at hexact
  refine ⟨hsep, hspace, ?_, ?_, ?_, ?_, ?_⟩
  · exact (((hexact 0x1003).1 hspace).1 _).mpr ⟨by decide, by decide, by decide⟩
  · exact (((hexact 0x1004).1 hspace).1 _).mpr ⟨by decide, by decide, by decide⟩
  · rw [((hexact 0x1006).1 hspace).2]
    unfold Region.Covers
    decide
  · refine (((hexact 0x1002).2 2 (by decide)).2 _).mpr ⟨⟨0x1000, #[1, 2, 3, 4]⟩, by decide, ?_⟩
    exact ⟨⟨by decide, by decide⟩, rfl, by decide⟩
  · rw [← Option.not_isSome_iff_eq_none, ((hexact 0x1003).2 2 (by decide)).1]
    unfold Region.Covers
    decide

end Captured

end FlowGuard
