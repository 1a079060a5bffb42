import FlowGuard.Proofs.Granularity
import FlowGuard.Proofs.Lookup

/-!
How far captured code reaches. The walk over a module visits the steps that start in front of its end, but runs are
read in whole steps. So a region may reach behind the module by less than a step, and code that stands there is
annotated with it. No region reaches behind the module, whatever the host, exactly when the module is a whole number
of steps long; with steps of at most a page every module of whole pages is.
-/

namespace FlowGuard

/-- The range does not begin in front of the module and ends at most `slack` bytes behind it. -/
def LoadedModule.Encloses (target : LoadedModule) (slack : Nat) (start : Address) (size : Nat) : Prop :=
  target.base.toNat ≤ start.toNat ∧ start.toNat + size ≤ target.endAddress.toNat + slack

namespace Answers

open Snapshot

section Reach

variable (h : Answers) (hfills : h.Fills) (target : LoadedModule) (step : UInt64) (hstep : validStep step = true)
include hfills hstep

/-- A region begins in the module and ends together with one of its steps. -/
theorem exists_last_step (r : Region)
    (hr : r ∈ ((Survey.take target step).run h).value.captured.regions) :
    target.base.toNat ≤ r.start.toNat ∧ r.start.toNat < target.endAddress.toNat ∧
      ∃ last, IsStep target step last ∧
        r.start.toNat + r.bytes.size = target.base.toNat + (last + 1) * step.toNat := by
  obtain ⟨first, count, hrun, hs, hsize⟩ := h.run_of_mem_regions hfills target step hstep r hr
  have hpos := hrun.nonempty
  have hfirst : IsStep target step first := hrun.first_holds.1
  have hstart := toNat_stepAddress target step first hfirst
  have hend : first + count - 1 + 1 = first + count := by omega
  rw [hs, hstart, hsize]
  -- the walk tests where a step starts, so all that is known of the last step is that it starts in the module
  refine ⟨Nat.le_add_right _ _, hfirst, first + count - 1, (hrun.holds _ (by omega) (by omega)).1, ?_⟩
  rw [hend, Nat.add_mul, Nat.add_assoc]

/-- A region reaches behind the module by less than a step. -/
theorem encloses_of_mem_regions (r : Region)
    (hr : r ∈ ((Survey.take target step).run h).value.captured.regions) :
    target.Encloses (step.toNat - 1) r.start r.bytes.size := by
  obtain ⟨hbase, -, last, hlast, hend⟩ := h.exists_last_step hfills target step hstep r hr
  refine ⟨hbase, ?_⟩
  rw [IsStep] at hlast
  rw [hend, Nat.succ_mul]
  omega

/-- A region does not leave a module that is a whole number of steps long. -/
theorem encloses_of_dvd (ha : target.IsAligned) (hdvd : step.toNat ∣ target.size.toNat) (r : Region)
    (hr : r ∈ ((Survey.take target step).run h).value.captured.regions) :
    target.Encloses 0 r.start r.bytes.size := by
  obtain ⟨hbase, -, last, hlast, hend⟩ := h.exists_last_step hfills target step hstep r hr
  obtain ⟨count, hcount⟩ := hdvd
  rw [IsStep, ha.toNat_endAddress, Nat.add_lt_add_iff_left, hcount, Nat.mul_comm] at hlast
  have hle : (last + 1) * step.toNat ≤ count * step.toNat :=
    Nat.mul_le_mul_right _ (Nat.lt_of_mul_lt_mul_left hlast)
  refine ⟨hbase, ?_⟩
  rw [hend, ha.toNat_endAddress, hcount, Nat.mul_comm step.toNat]
  omega

end Reach

/-- A host all of whose memory from an address on is code. -/
def codeFrom (a : Address) : Answers where
  rights page := .ok (if a ≤ page then "E" else "")
  read _ size := .ok (List.replicate size 0)

theorem fills_codeFrom (a : Address) : (codeFrom a).Fills := by
  rintro start count bytes ⟨⟩
  exact List.length_replicate

/-- If code begins with the last step of a module, that step is captured as a region of its own. -/
theorem mem_regions_codeFrom (target : LoadedModule) (step : UInt64) (hstep : validStep step = true) (last : Nat)
    (hlast : IsStep target step last) (hend : ¬IsStep target step (last + 1)) :
    ⟨stepAddress target step last, (List.replicate step.toNat 0).toArray⟩ ∈
      ((Survey.take target step).run (codeFrom (stepAddress target step last))).value.captured.regions := by
  have hpos := pos_of_validStep hstep
  let h := codeFrom (stepAddress target step last)
  have hrun : MaximalRun (h.IsExecutable target step) last 1 := by
    constructor
    · exact Nat.zero_lt_one
    · intro k hlo hhi
      obtain rfl : k = last := by omega
      exact ⟨hlast, "E", by simp [h, codeFrom], by decide⟩
    · rintro k rfl ⟨hk, text, hrights, he⟩
      have hbefore : ¬stepAddress target step (k + 1) ≤ stepAddress target step k := by
        rw [UInt64.not_le, UInt64.lt_iff_toNat_lt, stepAddress_lt target step hpos k (k + 1) hk hlast]
        exact Nat.lt_succ_self k
      simp only [h, codeFrom, if_neg hbefore, Except.ok.injEq] at hrights
      rw [← hrights] at he
      exact absurd he (by decide)
    · exact fun hk => hend hk.1
  have hsize : 1 * step.toNat < spaceSize := by
    rw [Nat.one_mul]
    exact step.toNat_lt
  rw [Survey.regions_take h target step hstep, List.mem_filterMap]
  refine ⟨(last, 1), (h.mem_runs target step hpos _).mpr ⟨hrun, hsize⟩, ?_⟩
  simp only [region?, readRun, h, codeFrom, Nat.one_mul]

/-- Regions stay inside a module with every host only if it is a whole number of steps long. -/
theorem dvd_of_encloses (target : LoadedModule) (ha : target.IsAligned) (step : UInt64) (hstep : validStep step = true)
    (h : ∀ a, ∀ r ∈ ((Survey.take target step).run (codeFrom a)).value.captured.regions,
      target.Encloses 0 r.start r.bytes.size) : step.toNat ∣ target.size.toNat := by
  have hpos := pos_of_validStep hstep
  have hend := ha.toNat_endAddress
  cases hcount : stepCount target.base target.endAddress step with
  | zero =>
    have hnone : ¬IsStep target step 0 := by
      rw [isStep_iff target step hpos, hcount]
      exact Nat.lt_irrefl 0
    rw [IsStep] at hnone
    have hzero : target.size.toNat = 0 := by omega
    rw [hzero]
    exact Nat.dvd_zero _
  | succ last =>
    have hlast : IsStep target step last := by
      rw [isStep_iff target step hpos, hcount]
      exact Nat.lt_succ_self last
    have hbehind : ¬IsStep target step (last + 1) := by
      rw [isStep_iff target step hpos, hcount]
      exact Nat.lt_irrefl _
    have hfits := (h _ _ (mem_regions_codeFrom target step hstep last hlast hbehind)).2
    rw [toNat_stepAddress target step last hlast, List.size_toArray, List.length_replicate] at hfits
    rw [IsStep, Nat.succ_mul] at hbehind
    -- the steps cover the module, and the last of them does not leave it: they are exactly as long
    refine ⟨last + 1, ?_⟩
    rw [Nat.mul_comm, Nat.succ_mul]
    omega

end Answers

namespace Scene

variable {s : Scene}

/-- The request annotates the usage site: it comments the site, or it links the site with a function whose hash is
loaded there. -/
def Annotates (s : Scene) (a : Address) (r : Request) : Prop :=
  ∃ hash, s.IsUsage a hash ∧
    ((∃ text, r = .comment a text) ∨
      ∃ e, s.Shares hash e ∧ (r = .xref a e.function ∨ r = .xref e.function a))

/-- The ten bytes of a usage site lie in one captured region. -/
theorem IsUsage.exists_region {a : Address} {hash : UInt64} (hstep : Snapshot.validStep s.step = true)
    (h : s.IsUsage a hash) :
    ∃ r ∈ s.captured.regions, r.start.toNat ≤ a.toNat ∧ a.toNat + 10 ≤ r.start.toNat + r.bytes.size := by
  obtain ⟨start, bytes, hcaptured, -, hle, hload⟩ := h
  have hlength := hload.length_le
  rw [length_load, List.length_drop] at hlength
  refine ⟨⟨start, bytes.toArray⟩, (mem_captured hstep _).mpr hcaptured, hle, ?_⟩
  simp only [List.size_toArray]
  omega

/-- A usage site reaches no further than the captured code. -/
theorem IsUsage.encloses {a : Address} {hash : UInt64} (hstep : Snapshot.validStep s.step = true)
    (h : s.IsUsage a hash) (slack : Nat)
    (hregions : ∀ r ∈ s.captured.regions, s.target.Encloses slack r.start r.bytes.size) :
    s.target.Encloses slack a 10 := by
  obtain ⟨r, hr, hle, hfit⟩ := h.exists_region hstep
  obtain ⟨hbase, hend⟩ := hregions r hr
  exact ⟨by omega, by omega⟩

end Scene

namespace Marker

/-- A run that does not look for usage sites annotates nothing. -/
theorem annotations_of_not_correlates (k : Marker) (h : Host) (target : LoadedModule) (config : Config)
    (es : List Entry) (hc : ¬k.Correlates config es) :
    (k.runRequests h target config es).filterMap Request.xref? = [] ∧
      (k.runRequests h target config es).filterMap Request.comment? = [] := by
  obtain ⟨hlinks, htexts⟩ := k.asked_of_not_correlates h target config es hc
  rw [xrefs_runRequests, comments_runRequests]
  constructor
  · split
    · exact hlinks ‹_›
    · rfl
  · split
    · exact htexts ‹_›
    · rfl

/-- Beside marks and the redraw, a run asks only for what annotates usage sites. -/
theorem annotates_of_mem_requests (k : Marker) (h : Host) (target : LoadedModule) (config : Config) (r : Request)
    (hr : r ∈ (k.runModule h target config).requests) (hmark : ∀ a size, r ≠ .mark a size)
    (hrefresh : r ≠ .refresh) :
    ∃ es a, k.tableEntries h.memory target = .ok es ∧ (k.scene h target es).Annotates a r := by
  cases he : k.tableEntries h.memory target with
  | error e =>
    rw [(k.runModule_of_no_entries h target config e he).2] at hr
    cases hr
  | ok es =>
    rw [(k.runModule_of_tableEntries h target config es he).2] at hr
    by_cases hc : k.Correlates config es
    · obtain ⟨hw, hwants, hes⟩ := hc
      obtain ⟨a, hash, husage, hgroup⟩ :=
        (k.mem_runRequests_iff h target config es hw hwants hes r hmark hrefresh).mp hr
      refine ⟨es, a, rfl, hash, husage, ?_⟩
      cases r with
      | mark b size => exact absurd rfl (hmark b size)
      | refresh => exact absurd rfl hrefresh
      | comment b text =>
        obtain ⟨-, rfl, -⟩ := (Correlation.comment_mem_groupRequests ..).mp hgroup
        exact .inl ⟨text, rfl⟩
      | xref p q =>
        obtain ⟨-, e, hshares, hends⟩ := (Correlation.xref_mem_groupRequests ..).mp hgroup
        rw [Scene.mem_sharing] at hshares
        refine .inr ⟨e, hshares, ?_⟩
        simpa using hends
    · obtain ⟨hxrefs, hcomments⟩ := k.annotations_of_not_correlates h target config es hc
      rw [List.filterMap_eq_nil_iff] at hxrefs hcomments
      cases r with
      | mark b size => exact absurd rfl (hmark b size)
      | refresh => exact absurd rfl hrefresh
      | comment b text => exact absurd (hcomments _ hr) (by simp [Request.comment?])
      | xref p q => exact absurd (hxrefs _ hr) (by simp [Request.xref?])

/-- The usage sites of a run reach no further than the regions of the snapshot that it takes. -/
theorem encloses_of_annotates (k : Marker) (h : Host) (target : LoadedModule) (es : List Entry) (a : Address)
    (r : Request) (hr : (k.scene h target es).Annotates a r) (slack : Nat)
    (hregions : ∀ region ∈ (Snapshot.take h.memory target k.options.pageSize).value.captured.regions,
      target.Encloses slack region.start region.bytes.size) :
    target.Encloses slack a 10 := by
  obtain ⟨hash, husage, -⟩ := hr
  exact husage.encloses k.options.valid slack hregions

end Marker

namespace Specimen

open Bytes

/-- A hashed function in the first page of the code and a load of its hash at the start of the second one. -/
def spilling : Specimen :=
  made 0x140000000 .bits64
    [.codeSize 0x2000, .hashedFunction 0x10100 0x1234, .code 0x10FF7 (List.replicate 9 0xCC), .hashLoad 0x11000 0x1234]

def spillingModule : LoadedModule :=
  ⟨spilling.base, 0x11000⟩

def spillingEntries : List Entry :=
  [Entry.ofRva 0x140000000 0x10100]

theorem guardIntact_spilling : spilling.GuardIntact where
  made := wellMade_made _ _ _
  config := rfl
  directories := by decide
  declared := by intro n hn; cases hn
  table := by decide
  spares := sparesBelow_of_le (by decide)
  space := by decide
  low := by intro hw; cases hw

theorem entries_spilling :
    Table.entries spilling.build.memory spilling.base spilling.guardBlock = .ok spillingEntries :=
  guardIntact_spilling.entries (by decide) (by decide)

section Spilled

variable {m : Memory} (h : spilling.IsMapped m)
include h

/-- In steps of two pages the second page is captured together with the first one. -/
theorem isCaptured_spilling : Snapshot.IsCaptured m spillingModule 0x2000 (spilling.address codeRva)
    (part spilling.file codeRva spilling.codeBytes) := by
  have hrights := h.rightsAt_address guardIntact_spilling.space (by decide)
  have hdata : m.rightsAt (Snapshot.stepAddress spillingModule 0x2000 7) = .ok .readOnly :=
    hrights 0xE000 (by decide)
  have hcode : m.rightsAt (Snapshot.stepAddress spillingModule 0x2000 8) = .ok .code :=
    hrights 0x10000 (by decide)
  refine ⟨8, 1, ⟨by decide, ?_, ?_, ?_⟩, by decide, rfl, ?_⟩
  · intro k hlo hhi
    obtain rfl : k = 8 := by omega
    exact ⟨by rw [Snapshot.IsStep]; decide, .code, hcode, by decide⟩
  · rintro k hk ⟨-, rights, hr, he⟩
    obtain rfl : k = 7 := by omega
    rw [hdata] at hr
    cases hr
    exact absurd he (by decide)
  · rintro ⟨hstep, -⟩
    rw [Snapshot.IsStep] at hstep
    exact absurd hstep (by decide)
  · exact h.read codeRva _ (Nat.le_refl _) (Nat.le_of_lt guardIntact_spilling.space)

/-- The load in the second page is a usage site of the module without that page. -/
theorem isUsage_spilling :
    let scene : Scene := ⟨m, spillingModule, 0x2000, spillingEntries⟩
    scene.IsUsage 0x140011000 0x1234 ∧ scene.Shares 0x1234 (Entry.ofRva 0x140000000 0x10100) := by
  intro scene
  have hspace := guardIntact_spilling.space
  let stored : Nat × List UInt8 := (0x100F8, LittleEndian.encode 8 (0x1234 : UInt64).toNat)
  let filler : Nat × List UInt8 := (0x10FF7, List.replicate 9 0xCC)
  let load : Nat × List UInt8 := (0x11000, [0x49, 0xBA] ++ LittleEndian.encode 8 (0x1234 : UInt64).toNat)
  have hplaced : spilling.placed = [stored, filler, load] := rfl
  have hstored := holdsAt_code hspace stored.1 stored.2
    (spilling.part_file_of_placed [] [filler, load] stored hplaced (by decide) (by decide)) (by decide) (by decide)
  have hfiller := holdsAt_code hspace filler.1 filler.2
    (spilling.part_file_of_placed [stored] [load] filler hplaced (by decide) (by decide)) (by decide) (by decide)
  have hload := holdsAt_code hspace load.1 load.2
    (spilling.part_file_of_placed [stored, filler] [] load hplaced (by decide) (by decide)) (by decide) (by decide)
  have hcaptured : scene.Captures _ _ := isCaptured_spilling h
  have hentry : (Entry.ofRva 0x140000000 0x10100).address = spilling.address 0x100F8 := by decide
  have hplace : 0x140011000 = spilling.address 0x11000 := by decide
  have hshares : scene.Shares 0x1234 (Entry.ofRva 0x140000000 0x10100) :=
    ⟨List.mem_singleton_self _, 0x1234, ⟨_, _, hcaptured, by rw [hentry]; exact hstored⟩, rfl⟩
  have hsite := Scene.isSite_of_filler hfiller rfl (by decide) (by decide) hload hshares
  rw [hplace]
  exact ⟨⟨_, _, hcaptured, hsite, hload⟩, hshares⟩

end Spilled

/-- A run in steps of two pages links the load with the function. -/
theorem xref_mem_runRequests_spilling (h : Host) (hmapped : spilling.IsMapped h.memory) :
    .xref 0x140011000 0x140010100 ∈ Marker.runRequests { width := .bits64, options := { pageSize := 0x2000 } } h
      spillingModule {} spillingEntries := by
  obtain ⟨husage, hshares⟩ := isUsage_spilling hmapped
  have hfunction : (Entry.ofRva 0x140000000 0x10100).function = 0x140010100 := by decide
  rw [Marker.xref_mem_runRequests_iff _ _ _ _ _ rfl rfl (by decide)]
  exact ⟨rfl, _, _, _, husage, hshares, .inl (by rw [hfunction])⟩

end Specimen

namespace Survey

/-- How far captured code reaches. With any host that fills its buffers, a region begins in the module and leaves it by
less than a step; it never leaves it, with any host, exactly when the module is a whole number of steps long, as it is
with every step up to a page. The survey of a memory is the snapshot, so usage sites, whose annotations are all that a
run asks for beside marks and a redraw, reach as far and stay inside in the same case. -/
theorem stays_inside_iff_whole_steps (target : LoadedModule) (ha : target.IsAligned) (o : ScanOptions) :
    let regions (h : Answers) : List Region := ((take target o.pageSize).run h).value.captured.regions
    (∀ h : Answers, h.Fills → ∀ r ∈ regions h, r.start.toNat < target.endAddress.toNat ∧
        target.Encloses (o.pageSize.toNat - 1) r.start r.bytes.size) ∧
      ((∀ h : Answers, h.Fills → ∀ r ∈ regions h, target.Encloses 0 r.start r.bytes.size) ↔
        o.pageSize.toNat ∣ target.size.toNat) ∧
      (o.pageSize.toNat ≤ 0x1000 → o.pageSize.toNat ∣ target.size.toNat) ∧
      (∀ m, (Answers.ofMemory m).Fills ∧
        (take target o.pageSize).run (.ofMemory m) = Snapshot.take m target o.pageSize) ∧
      ∀ (w : Width) (h : Host) (config : Config) (r : Request),
        r ∈ (Marker.runModule ⟨w, o⟩ h target config).requests → (∀ a size, r ≠ .mark a size) → r ≠ .refresh →
          ∃ es a, Marker.tableEntries ⟨w, o⟩ h.memory target = .ok es ∧
            (Marker.scene ⟨w, o⟩ h target es).Annotates a r ∧
            target.Encloses (o.pageSize.toNat - 1) a 10 ∧
            (o.pageSize.toNat ∣ target.size.toNat → target.Encloses 0 a 10) := by
  refine ⟨?_, ⟨?_, ?_⟩, ?_, ?_, ?_⟩
  · intro h hfills r hr
    exact ⟨(h.exists_last_step hfills target _ o.valid r hr).2.1,
      h.encloses_of_mem_regions hfills target _ o.valid r hr⟩
  · intro h
    exact Answers.dvd_of_encloses target ha _ o.valid fun a => h (.codeFrom a) (Answers.fills_codeFrom a)
  · intro hdvd h hfills
    exact h.encloses_of_dvd hfills target _ o.valid ha hdvd
  · intro hle
    obtain ⟨q, hq⟩ := Snapshot.exists_factor o.pageSize o.valid hle
    exact Nat.dvd_trans ⟨q, by rw [Nat.mul_comm, hq]⟩ (Nat.dvd_of_mod_eq_zero ha.size)
  · intro m
    exact ⟨Answers.fills_ofMemory m, rfl⟩
  · intro w h config r hr hmark hrefresh
    obtain ⟨es, a, he, hannotates⟩ :=
      Marker.annotates_of_mem_requests ⟨w, o⟩ h target config r hr hmark hrefresh
    have hreach := Marker.encloses_of_annotates ⟨w, o⟩ h target es a r hannotates
    have hfills := Answers.fills_ofMemory h.memory
    exact ⟨es, a, he, hannotates, hreach _ (Answers.encloses_of_mem_regions _ hfills target _ o.valid),
      fun hdvd => hreach _ (Answers.encloses_of_dvd _ hfills target _ o.valid ha hdvd)⟩

/-- A module of eighteen pages and one of seventeen, walked in steps of two pages. -/
theorem stays_inside_iff_whole_steps_two_pages :
    let even : LoadedModule := ⟨0x140000000, 0x12000⟩
    let odd : LoadedModule := ⟨0x140000000, 0x11000⟩
    even.IsAligned ∧ odd.IsAligned ∧
      (∀ h : Answers, h.Fills → ∀ r ∈ ((take even 0x2000).run h).value.captured.regions,
        even.Encloses 0 r.start r.bytes.size) ∧
      ∃ h : Answers, h.Fills ∧ ∃ r ∈ ((take odd 0x2000).run h).value.captured.regions,
        odd.Encloses 0x1FFF r.start r.bytes.size ∧ ¬odd.Encloses 0 r.start r.bytes.size := by
  intro even odd
  have heven : even.IsAligned := ⟨by decide, by decide, by decide⟩
  have hodd : odd.IsAligned := ⟨by decide, by decide, by decide⟩
  obtain ⟨-, hinside, -⟩ := stays_inside_iff_whole_steps even heven { pageSize := 0x2000 }
  obtain ⟨hreach, houtside, -⟩ := stays_inside_iff_whole_steps odd hodd { pageSize := 0x2000 }
  refine ⟨heven, hodd, hinside.mpr (by decide), ?_⟩
  have hleaves := houtside.not.mpr (by decide)
  simp only [Classical.not_forall] at hleaves
  obtain ⟨h, hfills, r, hr, hnot⟩ := hleaves
  exact ⟨h, hfills, r, hr, (hreach h hfills r hr).2, hnot⟩

/-- A module that ends with the first page of its code, walked in steps of two pages: the second page is captured with
the first one, and a run annotates a load there, which does not belong to the module. -/
theorem reaches_behind_module :
    let target := Specimen.spillingModule
    let h := Specimen.spilling.build
    let k : Marker := { width := .bits64, options := { pageSize := 0x2000 } }
    target.IsAligned ∧
      (∃ r ∈ (Snapshot.take h.memory target 0x2000).value.captured.regions,
        ¬target.Encloses 0 r.start r.bytes.size) ∧
      target.contains 0x140011000 = false ∧
      ∃ r after, (k.runModule h target {}).value = (.ok r, after) ∧
        (0x140011000, 0x140010100) ∈ after.annotations.xrefs := by
  intro target h k
  have hintact := Specimen.guardIntact_spilling
  refine ⟨⟨by decide, by decide, by decide⟩, ?_, by decide, ?_⟩
  · refine ⟨_, (Specimen.isCaptured_spilling hintact.isMapped).mem_regions (by decide), ?_⟩
    have hlength := Bytes.length_part Specimen.spilling.file Specimen.codeRva Specimen.spilling.codeBytes
      (by rw [Specimen.size_file]; decide)
    show ¬target.Encloses 0 (Specimen.spilling.address Specimen.codeRva) (List.toArray _).size
    rw [List.size_toArray, hlength]
    rintro ⟨-, hend⟩
    exact absurd hend (by decide)
  · have hrun := (Marker.runModule_of_entries k h target {} _ _ hintact.find Specimen.entries_spilling).1
    refine ⟨_, _, hrun, ?_⟩
    rw [Host.mem_xrefs_performAll]
    exact .inr (Specimen.xref_mem_runRequests_spilling h hintact.isMapped)

end Survey

end FlowGuard
