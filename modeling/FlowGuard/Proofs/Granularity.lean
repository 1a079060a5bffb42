import FlowGuard.Proofs.Annotations
import FlowGuard.Proofs.Footprint
import FlowGuard.Proofs.Specimen.Code

/-!
Steps finer than a page. A module that starts and ends at page boundaries is cut into the same pages by any smaller
step; each page is only asked for its rights more often. The runs of executable steps are the same stretches of
memory, so the same regions are captured, and nothing but the number of failed rights queries depends on the step.
-/

namespace FlowGuard

namespace LoadedModule

/-- The module starts and ends at page boundaries and leaves the end of the address space free. -/
structure IsAligned (target : LoadedModule) : Prop where
  base : target.base.toNat % 0x1000 = 0
  size : target.size.toNat % 0x1000 = 0
  space : target.base.toNat + target.size.toNat < 2 ^ 64

theorem IsAligned.toNat_endAddress {target : LoadedModule} (h : target.IsAligned) :
    target.endAddress.toNat = target.base.toNat + target.size.toNat := by
  have hspace := h.space
  rw [endAddress, Address.toNat_addSat, spaceSize]
  omega

end LoadedModule

namespace Memory

/-- A rights query sees the page of its address only, apart from the wording of its failure. -/
theorem rightsAt_congr (m : Memory) (a b : Address) (h : a.toNat / pageSize = b.toNat / pageSize) :
    (m.rightsAt a).toOption = (m.rightsAt b).toOption := by
  unfold rightsAt pageOf
  rw [h]
  cases m.failingRights.contains (b.toNat / pageSize) with
  | true => rfl
  | false => cases m.pages[b.toNat / pageSize]? <;> rfl

end Memory

namespace Snapshot

open Answers (ofMemory)

/-- The walk logs each failed rights query and each failed read once. -/
theorem take_failures (m : Memory) (target : LoadedModule) (step : UInt64) (hstep : validStep step = true) :
    let notes := (take m target step).notes
    notes.countP Note.isRightsFailure =
        (List.range (stepCount target.base target.endAddress step)).countP ((ofMemory m).refused target step) ∧
      notes.countP Note.isReadFailure = ((ofMemory m).runs target step).countP ((ofMemory m).lost target step) := by
  have hyields := Survey.yields_take (.ofMemory m) target step hstep
  exact ⟨hyields.refusals_eq, hyields.losses_eq⟩

/-- A page holds a whole number of smaller steps. -/
theorem exists_factor (step : UInt64) (h : validStep step = true) (hle : step.toNat ≤ 0x1000) :
    ∃ q, q * step.toNat = 0x1000 := by
  simp only [validStep, List.any_eq_true, beq_iff_eq] at h
  obtain ⟨j, -, hj⟩ := h
  rw [Nat.shiftLeft_eq, Nat.one_mul] at hj
  have hexponent : j ≤ 12 := (Nat.pow_le_pow_iff_right (by decide)).mp (hj ▸ hle : 2 ^ j ≤ 2 ^ 12)
  refine ⟨2 ^ (12 - j), ?_⟩
  rw [hj, ← Nat.pow_add, Nat.sub_add_cancel hexponent]

section Finer

variable {target : LoadedModule} {step : UInt64} {q : Nat} (hstep : q * step.toNat = 0x1000)

include hstep in
theorem factor_pos : 0 < q ∧ 0 < step.toNat := by
  constructor
  · rcases Nat.eq_zero_or_pos q with rfl | hp
    · omega
    · exact hp
  · rcases Nat.eq_zero_or_pos step.toNat with hz | hp
    · rw [hz] at hstep
      omega
    · exact hp

include hstep in
theorem size_finer (count : Nat) : q * count * step.toNat = count * (0x1000 : UInt64).toNat := by
  rw [Nat.mul_right_comm, hstep, Nat.mul_comm]
  rfl

section Aligned

variable (ha : target.IsAligned)
include ha hstep

theorem stepCount_finer : stepCount target.base target.endAddress step =
    q * stepCount target.base target.endAddress 0x1000 := by
  obtain ⟨n, hn⟩ : ∃ n, target.size.toNat = 0x1000 * n := Nat.dvd_of_mod_eq_zero ha.size
  obtain ⟨-, hpos⟩ := factor_pos hstep
  have hcoarse : stepCount target.base target.endAddress 0x1000 = n := by
    rw [stepCount, ha.toNat_endAddress, Nat.add_sub_cancel_left, hn]
    show (0x1000 * n + (0x1000 - 1)) / 0x1000 = n
    omega
  rw [hcoarse, stepCount, ha.toNat_endAddress, Nat.add_sub_cancel_left, hn, ← hstep, Nat.mul_right_comm,
    Nat.mul_comm _ step.toNat, Nat.mul_add_div hpos, Nat.div_eq_of_lt (Nat.sub_lt hpos Nat.zero_lt_one), Nat.add_zero]

/-- A fine step asks about the same page as the coarse step that it is a part of. -/
theorem page_finer (k : Nat) (hk : k < stepCount target.base target.endAddress step) :
    (stepAddress target step k).toNat / pageSize = (stepAddress target 0x1000 (k / q)).toNat / pageSize := by
  obtain ⟨hq, hpos⟩ := factor_pos hstep
  have hcoarse : k / q < stepCount target.base target.endAddress 0x1000 := by
    rw [stepCount_finer hstep ha] at hk
    exact Nat.div_lt_of_lt_mul hk
  obtain ⟨b, hb⟩ : ∃ b, target.base.toNat = 0x1000 * b := Nat.dvd_of_mod_eq_zero ha.base
  have hpage : k * step.toNat / 0x1000 = k / q := by
    rw [← hstep, Nat.mul_div_mul_right _ _ hpos]
  have hone : (0x1000 : UInt64).toNat = 0x1000 := rfl
  rw [toNat_stepAddress target step k ((isStep_iff target step hpos k).mpr hk),
    toNat_stepAddress target 0x1000 (k / q) ((isStep_iff target 0x1000 (by decide) _).mpr hcoarse), hb, hone]
  simp only [pageSize]
  omega

theorem executes_finer (m : Memory) :
    (ofMemory m).executes target step = fun k => (ofMemory m).executes target 0x1000 (k / q) := by
  funext k
  obtain ⟨hq, -⟩ := factor_pos hstep
  have hin : k < stepCount target.base target.endAddress step ↔
      k / q < stepCount target.base target.endAddress 0x1000 := by
    rw [stepCount_finer hstep ha, Nat.div_lt_iff_lt_mul hq, Nat.mul_comm]
  rw [Answers.executes_ofMemory, Answers.executes_ofMemory]
  by_cases hk : k < stepCount target.base target.endAddress step
  · rw [m.rightsAt_congr _ _ (page_finer hstep ha k hk), decide_eq_true hk, decide_eq_true (hin.mp hk)]
  · rw [decide_eq_false hk, decide_eq_false (hin.not.mp hk), Bool.false_and, Bool.false_and]

theorem runs_finer (m : Memory) :
    (ofMemory m).runs target step = ((ofMemory m).runs target 0x1000).map fun run => (q * run.1, q * run.2) := by
  have hscale : runsFrom ((ofMemory m).executes target step) 0 0 (stepCount target.base target.endAddress step) =
      (runsFrom ((ofMemory m).executes target 0x1000) 0 0 (stepCount target.base target.endAddress 0x1000)).map
        fun run => (q * run.1, q * run.2) := by
    rw [executes_finer hstep ha, stepCount_finer hstep ha]
    exact runsFrom_scale ((ofMemory m).executes target 0x1000) q (factor_pos hstep).1 0 0 _
  have hsize : (hasSize step ∘ fun run => (q * run.1, q * run.2)) = hasSize 0x1000 := by
    funext run
    rw [Function.comp_apply, hasSize, hasSize, size_finer hstep]
  rw [Answers.runs, Answers.runs, hscale, List.filter_map, hsize]

/-- Every page is asked for its rights once for each step in it. -/
theorem countP_refused_finer (m : Memory) (n : Nat)
    (hn : n ≤ stepCount target.base target.endAddress 0x1000) :
    (List.range (q * n)).countP ((ofMemory m).refused target step) =
      q * (List.range n).countP ((ofMemory m).refused target 0x1000) := by
  simp only [List.range_eq_range']
  obtain ⟨hq, -⟩ := factor_pos hstep
  induction n with
  | zero => rfl
  | succ n ih =>
    have hsame : ∀ k ∈ List.range' (q * n) q,
        (ofMemory m).refused target step k = (ofMemory m).refused target 0x1000 n := by
      intro k hk
      rw [List.mem_range'_1] at hk
      have hpage : k / q = n := by
        rw [Nat.div_eq_iff hq, Nat.mul_comm n q]
        omega
      have hin : k < stepCount target.base target.endAddress step := by
        have hmul := Nat.mul_le_mul_left q hn
        rw [Nat.mul_succ, ← stepCount_finer hstep ha] at hmul
        omega
      rw [Answers.refused_ofMemory, Answers.refused_ofMemory, m.rightsAt_congr _ _ (page_finer hstep ha k hin), hpage]
    have hblock : (List.range' (q * n) q).countP ((ofMemory m).refused target step) =
        q * [n].countP ((ofMemory m).refused target 0x1000) := by
      rw [List.countP_congr fun k hk => by rw [hsame k hk]]
      cases hf : (ofMemory m).refused target 0x1000 n <;> simp [hf]
    rw [Nat.mul_succ, ← List.range'_append_1, ← List.range'_append_1, List.countP_append, List.countP_append,
      ih (by omega), Nat.zero_add, Nat.zero_add, hblock, List.range'_one, Nat.mul_add]

end Aligned

include hstep in
theorem stepAddress_finer (k : Nat) : stepAddress target step (q * k) = stepAddress target 0x1000 k := by
  have hword : UInt64.ofNat (q * k) * step = UInt64.ofNat k * 0x1000 := by
    calc UInt64.ofNat (q * k) * step
      _ = UInt64.ofNat (q * k * step.toNat) := by rw [UInt64.ofNat_mul (q * k), UInt64.ofNat_toNat]
      _ = UInt64.ofNat (k * 0x1000) := by rw [Nat.mul_right_comm, hstep, Nat.mul_comm]
      _ = UInt64.ofNat k * 0x1000 := UInt64.ofNat_mul k 0x1000
  rw [stepAddress, stepAddress, hword]

include hstep in
/-- A run is read from the same place and with the same length. -/
theorem readRun_finer (m : Memory) (run : Nat × Nat) :
    (ofMemory m).readRun target step (q * run.1, q * run.2) = (ofMemory m).readRun target 0x1000 run := by
  rw [Answers.readRun_ofMemory, Answers.readRun_ofMemory, size_finer hstep, stepAddress_finer hstep]

section Aligned

variable (ha : target.IsAligned)
include ha hstep

/-- The same regions are captured. -/
theorem captured_finer (hvalid : validStep step = true) (m : Memory) :
    (take m target step).value.captured = (take m target 0x1000).value.captured := by
  have hregion : ((ofMemory m).region? target step ∘ fun run => (q * run.1, q * run.2)) =
      (ofMemory m).region? target 0x1000 := by
    funext run
    simp only [Function.comp_apply, Answers.region?, readRun_finer hstep, stepAddress_finer hstep]
  rw [take, take, Survey.value_take _ _ _ hvalid, Survey.value_take _ _ 0x1000 (by decide)]
  simp only [Answers.extend, runs_finer hstep ha, List.filterMap_map, hregion]

/-- As many runs cannot be read. -/
theorem countP_lost_finer (m : Memory) :
    ((ofMemory m).runs target step).countP ((ofMemory m).lost target step) =
      ((ofMemory m).runs target 0x1000).countP ((ofMemory m).lost target 0x1000) := by
  have hfails (run : Nat × Nat) :
      (ofMemory m).lost target step (q * run.1, q * run.2) = (ofMemory m).lost target 0x1000 run := by
    simp only [Answers.lost, readRun_finer hstep]
  rw [runs_finer hstep ha, List.countP_map]
  exact List.countP_congr fun run _ => by rw [Function.comp_apply, hfails]

end Aligned

end Finer

/-- When every page answers, the only trouble of a walk is with reads. -/
theorem countP_refused_of_answers {target : LoadedModule} (ha : target.IsAligned) (m : Memory)
    (hall : ∀ i, i * 0x1000 < target.size.toNat →
      ∃ rights, m.rightsAt (target.base + UInt64.ofNat (i * 0x1000)) = .ok rights) :
    (List.range (stepCount target.base target.endAddress 0x1000)).countP ((ofMemory m).refused target 0x1000) = 0 := by
  rw [List.countP_eq_zero]
  intro i hi
  have hin : IsStep target 0x1000 i :=
    (isStep_iff target 0x1000 (by decide) i).mpr (List.mem_range.mp hi)
  rw [IsStep, ha.toNat_endAddress, Nat.add_lt_add_iff_left] at hin
  obtain ⟨rights, hrights⟩ := hall i hin
  rw [UInt64.ofNat_mul] at hrights
  have hstep : m.rightsAt (stepAddress target 0x1000 i) = .ok rights := hrights
  simp [Answers.refused_ofMemory, hstep, Except.toOption]

end Snapshot

namespace Marker

section SameCode

variable (k k' : Marker) (h : Host) (target : LoadedModule) (config : Config) (es : List Entry)
  (hw : k'.width = k.width)
  (hcaptured : (k'.snapshot h.memory target).captured = (k.snapshot h.memory target).captured)
include hcaptured

theorem index_of_captured : k'.index h.memory target es = k.index h.memory target es := by
  rw [index, index, hcaptured]

include hw

theorem sites_of_captured : k'.sites h.memory target es = k.sites h.memory target es := by
  rw [sites, sites, hw, hcaptured, index_of_captured k k' h target es hcaptured]

/-- Runs that capture the same code ask for the same things. -/
theorem runRequests_of_captured : k'.runRequests h target config es = k.runRequests h target config es := by
  rw [runRequests, runRequests, siteRequests, siteRequests, sites_of_captured k k' h target es hw hcaptured,
    index_of_captured k k' h target es hcaptured, hw]

/-- Runs that capture the same code count the same, apart from warnings. -/
theorem runResult_of_captured : k'.runResult h target config es =
    { k.runResult h target config es with warnings := (k'.runResult h target config es).warnings } := by
  have hsites := sites_of_captured k k' h target es hw hcaptured
  have hindex := index_of_captured k k' h target es hcaptured
  unfold runResult
  rw [hw]
  split
  · rfl
  · simp only [hsites, hindex]

/-- The warnings are the same as well unless the walk over the code makes a difference. -/
theorem runResult_eq_of_captured (hsame : k.Correlates config es →
      (k'.snapshot h.memory target).warnings = (k.snapshot h.memory target).warnings) :
    k'.runResult h target config es = k.runResult h target config es := by
  have hwarnings : (k'.runResult h target config es).warnings = (k.runResult h target config es).warnings := by
    have hc : k'.Correlates config es ↔ k.Correlates config es := by rw [Correlates, Correlates, hw]
    rw [warnings_runResult, warnings_runResult]
    by_cases hcorrelates : k.Correlates config es
    · rw [if_pos hcorrelates, if_pos (hc.mpr hcorrelates), hsame hcorrelates, hcaptured]
    · rw [if_neg hcorrelates, if_neg (hc.not.mpr hcorrelates)]
  rw [runResult_of_captured k k' h target config es hw hcaptured, hwarnings]

omit es in
/-- Runs that capture the same code leave the same host; they fail alike or return what they count. -/
theorem runModule_of_captured :
    let run := k.runModule h target config
    let run' := k'.runModule h target config
    run'.value.2 = run.value.2 ∧ run'.requests = run.requests ∧
      ((∃ e, run.value.1 = .error e ∧ run'.value.1 = .error e) ∨
        ∃ es, run.value.1 = .ok (k.runResult h target config es) ∧
          run'.value.1 = .ok (k'.runResult h target config es)) := by
  intro run run'
  have htable : k'.tableEntries h.memory target = k.tableEntries h.memory target := by
    unfold tableEntries
    rw [hw]
  cases he : k.tableEntries h.memory target with
  | error e =>
    obtain ⟨hrun, hasked⟩ : run.value = _ ∧ run.requests = _ := k.runModule_of_no_entries h target config e he
    obtain ⟨hrun', hasked'⟩ : run'.value = _ ∧ run'.requests = _ :=
      k'.runModule_of_no_entries h target config e (htable.trans he)
    rw [hrun, hrun', hasked, hasked']
    exact ⟨rfl, rfl, .inl ⟨e, rfl, rfl⟩⟩
  | ok es =>
    obtain ⟨hrun, hasked⟩ : run.value = _ ∧ run.requests = _ :=
      k.runModule_of_tableEntries h target config es he
    obtain ⟨hrun', hasked'⟩ : run'.value = _ ∧ run'.requests = _ :=
      k'.runModule_of_tableEntries h target config es (htable.trans he)
    rw [hrun, hrun', hasked, hasked', runRequests_of_captured k k' h target config es hw hcaptured]
    exact ⟨rfl, rfl, .inr ⟨es, rfl, rfl⟩⟩

end SameCode

/-- Finer steps do not change what is found. Over a module that starts and ends at page boundaries, a walk in smaller
steps captures the same regions and fails to read as many; only rights queries fail once for each step of a page.
Hence the run leaves the same host, fails with the same error or finds, marks, links and comments as much, and
returns the same result unless a rights query fails while usage sites are looked for. -/
theorem runModule_finer_step (w : Width) (o : ScanOptions) (h : Host) (target : LoadedModule) (config : Config)
    (hfine : o.pageSize.toNat ≤ 0x1000) (ha : target.IsAligned) :
    let walk := Snapshot.take h.memory target 0x1000
    let walk' := Snapshot.take h.memory target o.pageSize
    let run := runModule { width := w } h target config
    let run' := runModule { width := w, options := o } h target config
    walk'.value.captured = walk.value.captured ∧
      walk'.notes.countP Note.isReadFailure = walk.notes.countP Note.isReadFailure ∧
      walk'.notes.countP Note.isRightsFailure =
        0x1000 / o.pageSize.toNat * walk.notes.countP Note.isRightsFailure ∧
      run'.value.2 = run.value.2 ∧ run'.requests = run.requests ∧
      ((∃ e, run.value.1 = .error e ∧ run'.value.1 = .error e) ∨
        ∃ r r', run.value.1 = .ok r ∧ run'.value.1 = .ok r' ∧
          r'.found = r.found ∧ r'.marked = r.marked ∧ r'.xrefs = r.xrefs ∧ r'.comments = r.comments ∧
          (config.wantsCorrelation = false ∨ w = .bits32 ∨ r.found = 0 ∨
              (∀ i, i * 0x1000 < target.size.toNat →
                ∃ rights, h.memory.rightsAt (target.base + UInt64.ofNat (i * 0x1000)) = .ok rights) →
            r' = r)) := by
  intro walk walk' run run'
  obtain ⟨q, hq⟩ := Snapshot.exists_factor o.pageSize o.valid hfine
  obtain ⟨-, hpos⟩ := Snapshot.factor_pos hq
  have hfactor : 0x1000 / o.pageSize.toNat = q := Nat.div_eq_of_eq_mul_left hpos hq.symm
  have hcaptured := Snapshot.captured_finer hq ha o.valid h.memory
  obtain ⟨hrights, hreads⟩ := Snapshot.take_failures h.memory target 0x1000 (by decide)
  obtain ⟨hrights', hreads'⟩ := Snapshot.take_failures h.memory target o.pageSize o.valid
  have hqueries := Snapshot.countP_refused_finer hq ha h.memory _ (Nat.le_refl _)
  rw [← Snapshot.stepCount_finer hq ha] at hqueries
  refine ⟨hcaptured, ?_, ?_, ?_⟩
  · rw [hreads, hreads', Snapshot.countP_lost_finer hq ha]
  · rw [hrights, hrights', hfactor, hqueries]
  let k : Marker := { width := w }
  let k' : Marker := { width := w, options := o }
  obtain ⟨hhost, hasked, herror | ⟨es, hrun, hrun'⟩⟩ := runModule_of_captured k k' h target config rfl hcaptured
  · exact ⟨hhost, hasked, .inl herror⟩
  have hresult := runResult_of_captured k k' h target config es rfl hcaptured
  refine ⟨hhost, hasked, .inr ⟨_, _, hrun, hrun', by rw [hresult], by rw [hresult], by rw [hresult],
    by rw [hresult], ?_⟩⟩
  intro hquiet
  refine runResult_eq_of_captured k k' h target config es rfl hcaptured ?_
  rintro ⟨hbits, hon, hes⟩
  rcases hquiet with hoff | hlow | hnone | hall
  · rw [hoff] at hon
    cases hon
  · obtain rfl : w = .bits64 := hbits
    cases hlow
  · rw [found_runResult, List.length_eq_zero_iff] at hnone
    exact absurd hnone hes
  · have hzero := Snapshot.countP_refused_of_answers ha h.memory hall
    show walk'.value.warnings = walk.value.warnings
    rw [Snapshot.warnings_take _ _ _ o.valid, Snapshot.warnings_take _ _ _ (by decide), hqueries, hzero, Nat.mul_zero,
      Snapshot.countP_lost_finer hq ha]

/-- Eight steps for each page of a specimen. -/
theorem runModule_finer_step_paired :
    let o : ScanOptions := { pageSize := 0x200 }
    let h := Specimen.paired.build
    let target := Specimen.paired.loadedModule
    o.pageSize.toNat ≤ 0x1000 ∧ target.IsAligned ∧
      (Snapshot.take h.memory target 0x200).value.captured =
        (Snapshot.take h.memory target 0x1000).value.captured ∧
      ∃ r, (runModule { width := .bits64 } h target {}).value.1 = .ok r ∧
        (runModule { width := .bits64, options := o } h target {}).value.1 = .ok r ∧ 0 < r.found := by
  intro o h target
  have hfine : o.pageSize.toNat ≤ 0x1000 := by decide
  have haligned : target.IsAligned := ⟨by decide, by decide, by decide⟩
  have hintact := Specimen.guardIntact_paired
  have hanswers : ∀ i, i * 0x1000 < target.size.toNat →
      ∃ rights, h.memory.rightsAt (target.base + UInt64.ofNat (i * 0x1000)) = .ok rights :=
    fun i hi => hintact.isMapped.rightsAt (i * 0x1000) hi (Nat.le_of_lt hintact.space)
  have hrun := congrArg Prod.fst (runModule_of_entries { width := .bits64 } h target {} Specimen.paired.guardBlock _
    hintact.find Specimen.entries_paired).1
  obtain ⟨hcaptured, -, -, -, -, ⟨e, he, -⟩ | ⟨r, r', hr, hr', -, -, -, -, hsame⟩⟩ :=
    runModule_finer_step .bits64 o h target {} hfine haligned
  · cases he.symm.trans hrun
  · obtain rfl : r' = r := hsame (.inr (.inr (.inr hanswers)))
    refine ⟨hfine, haligned, hcaptured, r', hr, hr', ?_⟩
    rw [Except.ok.inj (hr.symm.trans hrun), found_runResult]
    decide

end Marker

end FlowGuard
