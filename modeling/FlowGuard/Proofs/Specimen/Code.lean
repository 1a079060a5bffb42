import FlowGuard.Proofs.Specimen.Guard
import FlowGuard.Proofs.Specimen.Mapped
import FlowGuard.Proofs.UsageSites

/-!
The code of a mapped specimen. At an aligned base its pages are one captured run, which holds what was placed
there; a hash load at the start of the code is a usage site as soon as an entry stores its hash.
-/

namespace FlowGuard

namespace Specimen

open Bytes

theorem toNat_endAddress (s : Specimen) (hspace : s.base.toNat + s.imageSize < spaceSize) :
    s.loadedModule.endAddress.toNat = s.base.toNat + s.imageSize := by
  have hsize : (UInt64.ofNat s.imageSize).toNat = s.imageSize :=
    UInt64.toNat_ofNat_of_lt' (Nat.lt_of_le_of_lt (Nat.le_add_left _ _) hspace)
  show (Address.addSat s.base (UInt64.ofNat s.imageSize)).toNat = _
  rw [Address.addSat, Address.add?, hsize, if_pos hspace]
  exact toNat_address s s.imageSize hspace

theorem stepAddress_loadedModule (s : Specimen) (k : Nat) :
    Snapshot.stepAddress s.loadedModule 0x1000 k = s.address (k * 0x1000) := by
  rw [address, UInt64.ofNat_mul]
  rfl

/-- The rights of an address in an image that starts at a page boundary. -/
theorem IsMapped.rightsAt_address {s : Specimen} {m : Memory} (h : s.IsMapped m)
    (hspace : s.base.toNat + s.imageSize < spaceSize) (halign : s.base.toNat % 0x1000 = 0) (o : Nat)
    (ho : o < s.imageSize) :
    m.rightsAt (s.address o) = .ok (if codeRva ≤ o then .code else .readOnly) := by
  rw [Memory.rightsAt_eq_ok_iff, toNat_address s o (by omega)]
  refine ⟨by simp [h.failingRights], ?_⟩
  rw [h.rights]
  by_cases hcode : codeRva ≤ o
  · rw [if_pos, if_pos hcode]
    simp only [Reaches, pageSize, codeRva] at hcode ⊢
    omega
  · rw [if_neg, if_pos, if_neg hcode]
    · simp only [Reaches, pageSize, codeRva] at hcode ⊢
      omega
    · simp only [Reaches, pageSize, codeRva] at hcode ⊢
      omega

section Captured

variable {s : Specimen} {m : Memory} (h : s.IsMapped m) (hspace : s.base.toNat + s.imageSize < spaceSize)
  (halign : s.base.toNat % 0x1000 = 0)
include h hspace halign

/-- The executable steps are the pages of the code. -/
theorem isExecutable_iff (k : Nat) :
    Snapshot.IsExecutable m s.loadedModule 0x1000 k ↔ 0x10 ≤ k ∧ k * 0x1000 < s.imageSize := by
  have hstep : (0x1000 : UInt64).toNat = 0x1000 := rfl
  have hin : Snapshot.IsStep s.loadedModule 0x1000 k ↔ k * 0x1000 < s.imageSize := by
    rw [Snapshot.IsStep, toNat_endAddress s hspace, hstep]
    exact Nat.add_lt_add_iff_left
  unfold Snapshot.IsExecutable
  rw [hin, and_comm, and_congr_left_iff]
  intro hk
  rw [stepAddress_loadedModule, h.rightsAt_address hspace halign _ hk]
  by_cases hcode : 0x10 ≤ k
  · rw [if_pos (show codeRva ≤ k * 0x1000 by simp only [codeRva]; omega)]
    exact ⟨fun _ => hcode, fun _ => ⟨_, rfl, by decide⟩⟩
  · rw [if_neg (show ¬codeRva ≤ k * 0x1000 by simp only [codeRva]; omega)]
    constructor
    · rintro ⟨rights, hr, he⟩
      obtain rfl := Except.ok.inj hr
      exact absurd he (by decide)
    · exact fun hc => absurd hc hcode

/-- The pages of the code are the one run of executable steps. -/
theorem maximalRun_iff (first count : Nat) :
    MaximalRun (Snapshot.IsExecutable m s.loadedModule 0x1000) first count ↔
      first = 0x10 ∧ count * 0x1000 = s.codeBytes := by
  have hsize : s.imageSize = 0x10000 + s.codeBytes := rfl
  have hpos := s.codeBytes_pos
  obtain ⟨n, hn⟩ := s.codeBytes_aligned
  have hexecutes := isExecutable_iff h hspace halign
  constructor
  · intro hrun
    have hnonempty := hrun.nonempty
    have hfirst := (hexecutes first).mp hrun.first_holds
    have hlast := (hexecutes (first + count - 1)).mp (hrun.holds _ (by omega) (by omega))
    have hend := (hexecutes (first + count)).not.mp hrun.ends
    have hstart : first = 0x10 := by
      by_cases hgt : 0x10 < first
      · have := (hexecutes (first - 1)).not.mp (hrun.starts (first - 1) (by omega))
        omega
      · omega
    omega
  · rintro ⟨rfl, hcount⟩
    constructor
    · omega
    · intro k hlo hhi
      rw [hexecutes]
      omega
    · intro k hk
      rw [hexecutes]
      omega
    · rw [hexecutes]
      omega

/-- The code is captured as one run. -/
theorem isCaptured_code : Snapshot.IsCaptured m s.loadedModule 0x1000 (s.address codeRva)
    (part s.file codeRva s.codeBytes) := by
  obtain ⟨n, hn⟩ := s.codeBytes_aligned
  have hsize : s.imageSize = codeRva + s.codeBytes := rfl
  have hcount : n * (0x1000 : UInt64).toNat = s.codeBytes := hn.symm
  refine ⟨0x10, n, (maximalRun_iff h hspace halign _ _).mpr ⟨rfl, hn.symm⟩, by omega, rfl, ?_⟩
  rw [hcount]
  exact h.read codeRva s.codeBytes (Nat.le_refl _) (Nat.le_of_lt hspace)

/-- Nothing but the code is captured. -/
theorem regions_code : (Snapshot.take m s.loadedModule 0x1000).value.captured.regions =
    [⟨s.address codeRva, (part s.file codeRva s.codeBytes).toArray⟩] := by
  have hstep : Snapshot.validStep 0x1000 = true := by decide
  refine List.Pairwise.eq_of_mem_iff (Captured.pairwise_regions _) (List.pairwise_singleton Region.Before _) ?_
  intro r
  rw [Snapshot.mem_regions_take _ _ _ hstep, List.mem_singleton]
  constructor
  · rintro ⟨first, count, hrun, -, hs, hr⟩
    obtain ⟨rfl, hcount⟩ := (maximalRun_iff h hspace halign _ _).mp hrun
    have hstart : r.start = s.address codeRva := hs
    have hlength : count * (0x1000 : UInt64).toNat = s.codeBytes := hcount
    rw [hstart, hlength, h.read codeRva s.codeBytes (Nat.le_refl _) (Nat.le_of_lt hspace)] at hr
    cases r
    simp_all
  · rintro rfl
    simpa using isCaptured_code h hspace halign

/-- The walk over an image meets no trouble. -/
theorem warnings_code : (Snapshot.take m s.loadedModule 0x1000).value.warnings = 0 := by
  have hstep : Snapshot.validStep 0x1000 = true := by decide
  rw [Snapshot.warnings_take _ _ _ hstep, Nat.add_eq_zero_iff, List.countP_eq_zero, List.countP_eq_zero]
  constructor
  · intro k hk
    have hin : Snapshot.IsStep s.loadedModule 0x1000 k :=
      (Snapshot.isStep_iff s.loadedModule 0x1000 (by decide) k).mpr (List.mem_range.mp hk)
    rw [Snapshot.IsStep, toNat_endAddress s hspace] at hin
    obtain ⟨rights, hrights⟩ := h.rightsAt (k * 0x1000) (Nat.lt_of_add_lt_add_left hin) (Nat.le_of_lt hspace)
    simp [Answers.refused_ofMemory, stepAddress_loadedModule, hrights, Except.toOption]
  · intro run hrun
    obtain ⟨hfirst, hcount⟩ := (maximalRun_iff h hspace halign _ _).mp
      ((Snapshot.mem_runs_iff _ _ _ hstep run).mp hrun).1
    have hread : (Answers.ofMemory m).readRun s.loadedModule 0x1000 run = .ok (part s.file codeRva s.codeBytes) := by
      have hlength : run.2 * (0x1000 : UInt64).toNat = s.codeBytes := hcount
      rw [Answers.readRun_ofMemory, hfirst, hlength]
      exact h.read codeRva s.codeBytes (Nat.le_refl _) (Nat.le_of_lt hspace)
    simp [Answers.lost, hread, Except.isOk, Except.toBool]

omit h halign in
/-- Bytes of the file in the code of the image. -/
theorem holdsAt_code (offset : Nat) (bytes : List UInt8) (hpart : part s.file offset bytes.length = bytes)
    (hlo : codeRva ≤ offset) (hfit : offset + bytes.length ≤ s.imageSize) :
    Scene.HoldsAt (s.address codeRva) (part s.file codeRva s.codeBytes) (s.address offset) bytes := by
  have hsize : s.imageSize = codeRva + s.codeBytes := rfl
  have hoffset : codeRva + (offset - codeRva) = offset := by omega
  rw [Scene.HoldsAt, toNat_address s codeRva (by omega), toNat_address s offset (by omega),
    Nat.add_sub_add_left, drop_part, hoffset]
  refine ⟨by omega, ?_⟩
  rw [List.prefix_iff_eq_take, take_part _ _ _ _ (by omega), hpart]

/-- A load of a stored hash at the start of the code is a usage site. -/
theorem isUsage_codeStart (es : List Entry) (e : Entry) (hash stored : UInt64) (offset : Nat) (he : e ∈ es)
    (haddress : e.address = s.address offset) (hlo : codeRva ≤ offset) (hfit : offset + 8 ≤ s.imageSize)
    (hstored : part s.file offset 8 = LittleEndian.encode 8 stored.toNat)
    (hload : part s.file codeRva 10 = [0x49, 0xBA] ++ LittleEndian.encode 8 hash.toNat)
    (hsame : stored.toNat / 2 = hash.toNat / 2) :
    let scene : Scene := ⟨m, s.loadedModule, 0x1000, es⟩
    scene.IsUsage (s.address codeRva) hash ∧ scene.Shares hash e := by
  intro scene
  have hcaptured : scene.Captures _ _ := isCaptured_code h hspace halign
  have hsize : s.imageSize = codeRva + s.codeBytes := rfl
  obtain ⟨n, hn⟩ := s.codeBytes_aligned
  have hpos := s.codeBytes_pos
  have hholds : Scene.HoldsAt (s.address codeRva) (part s.file codeRva s.codeBytes) (s.address offset)
      (LittleEndian.encode 8 stored.toNat) :=
    holdsAt_code hspace offset _ (by rwa [LittleEndian.length_encode]) hlo
      (by rwa [LittleEndian.length_encode])
  have hloads : Scene.Loads (s.address codeRva) (part s.file codeRva s.codeBytes) (s.address codeRva) hash :=
    holdsAt_code hspace codeRva _ (by rw [Scene.length_load, hload]) (Nat.le_refl _)
      (by rw [Scene.length_load]; omega)
  rw [← haddress] at hholds
  have hshares : scene.Shares hash e := ⟨he, stored, ⟨_, _, hcaptured, hholds⟩, hsame⟩
  exact ⟨⟨_, _, hcaptured, Scene.isSite_start ⟨hash, e, hloads, hshares⟩, hloads⟩, hshares⟩

end Captured

/-- Two functions whose hashes differ in the lowest bit, a plain one between them, and a load of the hash. -/
def paired : Specimen :=
  made 0x140000000 .bits64
    [.hashedFunction 0x10100 0x1234, .plainFunction 0x10200, .hashedFunction 0x10300 0x1235,
      .hashLoad 0x10000 0x1234]

def pairedEntries : List Entry :=
  [Entry.ofRva 0x140000000 0x10100, Entry.ofRva 0x140000000 0x10300]

theorem guardIntact_paired : paired.GuardIntact where
  made := wellMade_made _ _ _
  config := rfl
  directories := by decide
  declared := by intro n hn; cases hn
  table := by decide
  spares := sparesBelow_of_le (by decide)
  space := by decide
  low := by intro hw; cases hw

theorem entries_paired :
    Table.entries paired.build.memory paired.base paired.guardBlock = .ok pairedEntries :=
  guardIntact_paired.entries (by decide) (by decide)

/-- Both functions share the hash that is loaded at the start of the code. -/
theorem isUsage_paired :
    let scene : Scene := ⟨paired.build.memory, paired.loadedModule, 0x1000, pairedEntries⟩
    scene.IsUsage 0x140010000 0x1234 ∧ ∀ e ∈ pairedEntries, scene.Shares 0x1234 e := by
  intro scene
  let first : Nat × List UInt8 := (0x100F8, LittleEndian.encode 8 (0x1234 : UInt64).toNat)
  let second : Nat × List UInt8 := (0x102F8, LittleEndian.encode 8 (0x1235 : UInt64).toNat)
  let load : Nat × List UInt8 := (codeRva, [0x49, 0xBA] ++ LittleEndian.encode 8 (0x1234 : UInt64).toNat)
  have hplaced : paired.placed = [first, second, load] := rfl
  have hload := paired.part_file_of_placed [first, second] [] load hplaced (by decide) (by decide)
  rw [show load.2.length = 10 from rfl] at hload
  have hfirst := paired.part_file_of_placed [] [second, load] first hplaced (by decide) (by decide)
  rw [show first.2.length = 8 from rfl] at hfirst
  have hsecond := paired.part_file_of_placed [first] [load] second hplaced (by decide) (by decide)
  rw [show second.2.length = 8 from rfl] at hsecond
  have hspace := guardIntact_paired.space
  obtain ⟨husage, hshares⟩ := isUsage_codeStart guardIntact_paired.isMapped hspace (by decide) pairedEntries
    (Entry.ofRva 0x140000000 0x10100) 0x1234 0x1234 0x100F8 (by decide) (by decide) (by decide) (by decide)
    hfirst hload (by decide)
  obtain ⟨-, hshares'⟩ := isUsage_codeStart guardIntact_paired.isMapped hspace (by decide) pairedEntries
    (Entry.ofRva 0x140000000 0x10300) 0x1234 0x1235 0x102F8 (by decide) (by decide) (by decide) (by decide)
    hsecond hload (by decide)
  have hsite : paired.address codeRva = 0x140010000 := by decide
  rw [hsite] at husage
  refine ⟨husage, ?_⟩
  intro e he
  rcases List.mem_cons.mp he with rfl | he
  · exact hshares
  · obtain rfl := List.mem_singleton.mp he
    exact hshares'

end Specimen

end FlowGuard
