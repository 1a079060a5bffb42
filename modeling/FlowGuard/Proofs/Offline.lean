import FlowGuard.Proofs.Names
import FlowGuard.Proofs.Specimen.Calls
import FlowGuard.Proofs.Specimen.Load

/-!
The two ways to a marked image agree: mapping a specimen directly, and loading it from its file. Both hosts have
the same memory, modules and selection, so runs on them differ at most in the names in their comments.
-/

namespace FlowGuard.Specimen

open Loading

theorem codeBytes_lt {s : Specimen} (h : s.codeSize.toNat ≤ 0xFFFFF000) : s.codeBytes < 2 ^ 32 := by
  unfold codeBytes
  omega

/-- The file of a specimen loads to the host that maps it, but for symbols; hence a run fails with the same
error on both, or has the same result and leaves the same annotations up to the wording of comments. -/
theorem load_agrees_with_build (base : Address) (w : Width) (calls : List Call) (s : Specimen)
    (limits : LoadLimits) (hmade : s = made base w calls) (hfew : s.directoryCount.toNat ≤ 16)
    (hspares : s.SparesBelow 0x1000) (hspace : base.toNat + s.imageSize < 2 ^ 64)
    (hlow : w = .bits32 → base.toNat < 2 ^ 32) (hcode : s.codeSize.toNat ≤ 0xFFFFF000)
    (hlimit : s.imageSize ≤ limits.imageSize) :
    ∃ image, (loadBytes s.file limits).run.value = .ok image ∧
      image.host.memory = s.build.memory ∧ image.host.modules = s.build.modules ∧
      image.host.selection = s.build.selection ∧ image.place = s.loadedModule ∧ image.width = w ∧
      image.symbolCount = 0 ∧ image.host.symbols = ∅ ∧
      ∀ (k : Marker) (config : Config),
        let loaded := (k.run image.host config).value
        let built := (k.run s.build config).value
        loaded.1 = built.1 ∧ loaded.2.annotations.xrefs = built.2.annotations.xrefs ∧
          loaded.2.annotations.marks = built.2.annotations.marks ∧
          (∀ a, a ∈ loaded.2.annotations.comments ↔ a ∈ built.2.annotations.comments) ∧
          (s.symbols = [] → loaded.2.annotations.comments = built.2.annotations.comments) := by
  have hbase : s.base = base := by rw [hmade, base_made]
  have hwidth : s.width = w := by rw [hmade, width_made]
  subst hbase hwidth
  have hload := loadBytes_file limits hspares (codeBytes_lt hcode) hlow hfew (Nat.le_of_lt hspace) hlimit
  refine ⟨_, hload, rfl, rfl, rfl, rfl, rfl, rfl, rfl, ?_⟩
  intro k config
  obtain ⟨hresult, halike⟩ := k.run_symbols s.build ∅ config
  refine ⟨hresult.symm, halike.xrefs.symm, halike.marks.symm, fun a => (halike.commented a).symm, ?_⟩
  intro hnone
  have hsame : ({ s.build with symbols := ∅ } : Host) = s.build := by
    rw [build_eq, hnone]
    rfl
  show (k.run { s.build with symbols := ∅ } config).value.2.annotations.comments = _
  rw [hsame]

/-- At a base that is not aligned, with a usage site and a symbol. -/
theorem load_agrees_with_build_unaligned :
    let s := made 0x140000123 .bits64
      [.hashedFunction 0x10010 0x1234, .hashLoad 0x10100 0x1235, .symbol 0x10010 "handler"]
    ∃ image, (loadBytes s.file {}).run.value = .ok image ∧ image.host.memory = s.build.memory ∧
      ∀ (k : Marker) (config : Config),
        (k.run image.host config).value.1 = (k.run s.build config).value.1 ∧
          (k.run image.host config).value.2.annotations.xrefs =
            (k.run s.build config).value.2.annotations.xrefs := by
  intro s
  obtain ⟨image, hload, hmemory, -, -, -, -, -, -, hruns⟩ := load_agrees_with_build 0x140000123 .bits64 _ s {}
    rfl (by decide) (sparesBelow_of_le (by decide)) (by decide) (by intro hw; cases hw) (by decide)
    (by decide)
  exact ⟨image, hload, hmemory, fun k config => ⟨(hruns k config).1, (hruns k config).2.1⟩⟩

end FlowGuard.Specimen
