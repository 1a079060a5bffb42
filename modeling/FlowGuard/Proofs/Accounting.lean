import FlowGuard.Proofs.Annotations
import FlowGuard.Proofs.Footprint
import Mathlib.Algebra.BigOperators.Ring.List
import Mathlib.Algebra.Ring.Nat
import Mathlib.Data.Finset.Card

/-!
The counts of a run are exact. What is found, marked, linked and commented is counted over the slots of the table and
the usage sites; every warning belongs to a refused mark, to a step whose rights cannot be queried, to a run that
cannot be read or to an entry whose hash was not captured. Beside annotations and redraws nothing changes.
-/

namespace FlowGuard

open Std (ExtTreeMap)

namespace Table

theorem length_entries (base : Address) (slots : List (UInt32 × UInt8)) :
    (slots.filterMap (entryOf? base)).length = slots.countP fun slot => slot.2 &&& hashFlag != 0 := by
  rw [List.length_filterMap_eq_countP]
  congr 1
  funext slot
  unfold entryOf?
  split <;> simp_all

end Table

namespace Scene

open Snapshot

variable {s : Scene}

/-- The steps whose rights cannot be queried, and the maximal runs whose bytes cannot be read at once. The one run
that nobody reads covers the whole address space: its size is `0` in 64 bits. -/
structure Failures (s : Scene) (steps : Finset Nat) (runs : Finset (Nat × Nat)) : Prop where
  mem_steps : ∀ n, n ∈ steps ↔
    IsStep s.target s.step n ∧ ∃ e, s.memory.rightsAt (stepAddress s.target s.step n) = .error e
  mem_runs : ∀ first count, (first, count) ∈ runs ↔
    MaximalRun (IsExecutable s.memory s.target s.step) first count ∧ count * s.step.toNat < spaceSize ∧
      ∃ e, s.memory.read (stepAddress s.target s.step first) (count * s.step.toNat) = .error e

theorem refused_iff (m : Memory) (target : LoadedModule) (step : UInt64) (n : Nat) :
    (Answers.ofMemory m).refused target step n = true ↔ ∃ e, m.rightsAt (stepAddress target step n) = .error e := by
  rw [Answers.refused_ofMemory]
  cases m.rightsAt (stepAddress target step n) <;> simp [Except.toOption]

theorem lost_iff (m : Memory) (target : LoadedModule) (step : UInt64) (first count : Nat) :
    (Answers.ofMemory m).lost target step (first, count) = true ↔
      ∃ e, m.read (stepAddress target step first) (count * step.toNat) = .error e := by
  show (!(m.read (stepAddress target step first) (count * step.toNat)).isOk) = true ↔ _
  cases m.read (stepAddress target step first) (count * step.toNat) <;> simp [Except.isOk, Except.toBool]

/-- Capturing the code warns once of each failure. -/
theorem exists_failures (hstep : Snapshot.validStep s.step = true) :
    ∃ steps runs, s.Failures steps runs ∧
      (take s.memory s.target s.step).value.warnings = steps.card + runs.card := by
  let count := stepCount s.target.base s.target.endAddress s.step
  let refused := (List.range count).filter ((Answers.ofMemory s.memory).refused s.target s.step)
  let lost := ((Answers.ofMemory s.memory).runs s.target s.step).filter
    ((Answers.ofMemory s.memory).lost s.target s.step)
  have hrefused : refused.Nodup := List.Nodup.filter _ List.nodup_range
  have hlost : lost.Nodup :=
    List.Nodup.filter _ (List.Nodup.filter _ (nodup_runsFrom _ 0 0 count (Nat.le_refl 0)))
  refine ⟨refused.toFinset, lost.toFinset, ⟨?_, ?_⟩, ?_⟩
  · intro n
    rw [List.mem_toFinset, List.mem_filter, refused_iff, List.mem_range,
      isStep_iff s.target s.step (pos_of_validStep hstep)]
  · intro first count
    rw [List.mem_toFinset, List.mem_filter, lost_iff, mem_runs_iff s.memory s.target s.step hstep, and_assoc]
  · rw [List.toFinset_card_of_nodup hrefused, List.toFinset_card_of_nodup hlost,
      warnings_take s.memory s.target s.step hstep, List.countP_eq_length_filter, List.countP_eq_length_filter]

def LacksHash (s : Scene) (e : Entry) : Prop :=
  ∀ hash, ¬s.StoresHash e hash

open scoped Classical in
/-- The entries whose hash was not captured, with their repetitions. -/
noncomputable def missing (s : Scene) : List Entry :=
  s.entries.filter fun e => decide (s.LacksHash e)

theorem lacksHash_iff (hstep : Snapshot.validStep s.step = true) (e : Entry) :
    s.LacksHash e ↔ HashIndex.storedHash? s.captured e = none := by
  simp only [LacksHash, Option.eq_none_iff_forall_ne_some, ne_eq, storedHash?_captured hstep]

theorem length_missing (hstep : Snapshot.validStep s.step = true) :
    s.missing.length = s.entries.countP fun e => (HashIndex.storedHash? s.captured e).isNone := by
  rw [missing, ← List.countP_eq_length_filter]
  apply List.countP_congr
  intro e _
  simp only [decide_eq_true_eq]
  rw [lacksHash_iff hstep, Option.isNone_iff_eq_none]

end Scene

namespace Marker

/-- Marks of one size at the addresses of entries. -/
theorem getElem?_insertMany_marks (t : ExtTreeMap Address Nat) (es : List Entry) (a : Address) :
    (t.insertMany (es.map fun e => (e.address, hashSize)))[a]? =
      if ∃ e ∈ es, e.address = a then some hashSize else t[a]? := by
  induction es generalizing t with
  | nil => simp
  | cons e es ih =>
    rw [List.map_cons, ExtTreeMap.insertMany_cons, ih, ExtTreeMap.getElem?_insert]
    by_cases hrest : ∃ e ∈ es, e.address = a
    · rw [if_pos hrest, if_pos (by simpa using .inr hrest)]
    · rw [if_neg hrest]
      by_cases he : e.address = a
      · simp [he]
      · have hnone : ¬∃ e' ∈ e :: es, e'.address = a := by
          simpa [he] using hrest
        rw [if_neg hnone]
        simp [he]

theorem marks_annotated (k : Marker) (h : Host) (target : LoadedModule) (config : Config) (es : List Entry)
    (a : Address) :
    (k.annotated h target config es).marks[a]? =
      if (∃ e ∈ es, e.address = a) ∧ h.refusal? a = none then some hashSize
      else h.annotations.marks[a]? := by
  have hfilter : (es.map fun e => (e.address, hashSize)).filter (fun p => h.accepts p.1) =
      (es.filter fun e => h.accepts e.address).map fun e => (e.address, hashSize) := List.filter_map
  have hcond : (∃ e ∈ es.filter fun e => h.accepts e.address, e.address = a) ↔
      (∃ e ∈ es, e.address = a) ∧ h.refusal? a = none := by
    simp only [List.mem_filter, Host.accepts, Option.isNone_iff_eq_none]
    grind
  simp only [annotated, hfilter, getElem?_insertMany_marks, hcond]

/-- The references and comments of a 64-bit run, by usage sites. -/
theorem exists_usages (k : Marker) (h : Host) (target : LoadedModule) (es : List Entry) :
    ∃ us, (k.scene h target es).UsageList us ∧
      (k.width = .bits64 →
        (k.links h.memory target es).length =
            2 * (us.map fun u => ((k.scene h target es).sharing u.2).length).sum ∧
          k.texts h target es =
            us.map fun u => (u.1, Naming.group h k.width ((k.scene h target es).sharing u.2))) := by
  have hstep : Snapshot.validStep (k.scene h target es).step = true := k.options.valid
  have hx : HashIndex.Indexes (k.scene h target es).captured (k.scene h target es).entries
      (k.index h.memory target es) := (HashIndex.build_spec _ es).1
  obtain ⟨us, hus, hsites⟩ := Scene.exists_usageList hstep hx
  refine ⟨us, hus, ?_⟩
  intro hw
  have hvisited : k.sites h.memory target es = us.map fun u => ⟨u.1, maskHash u.2⟩ := by
    rw [← hsites, sites, hw]
    rfl
  have hgroup : ∀ u ∈ us, (k.index h.memory target es).get? (maskHash u.2) =
      some { entries := (k.scene h target es).sharing u.2 } := by
    intro u hu
    have hne := ((hus.mem_iff u.1 u.2).mp hu).sharing_ne_nil
    rw [Scene.get?_of_indexes hstep hx, HashIndex.groupOf, if_neg hne]
  constructor
  · have hlen : ∀ u ∈ us, (Correlation.siteLinks (k.index h.memory target es) ⟨u.1, maskHash u.2⟩).length =
        2 * ((k.scene h target es).sharing u.2).length :=
      fun u hu => Correlation.length_siteLinks _ ⟨u.1, maskHash u.2⟩ _ (hgroup u hu)
    rw [links, hvisited, List.flatMap_map, List.length_flatMap,
      ← List.sum_map_mul_left us (fun u => ((k.scene h target es).sharing u.2).length) 2]
    exact congrArg List.sum (List.map_congr_left hlen)
  · have hone : ∀ u ∈ us, Correlation.siteComments k.width h (k.index h.memory target es)
        ⟨u.1, maskHash u.2⟩ = [(u.1, Naming.group h k.width ((k.scene h target es).sharing u.2))] := by
      intro u hu
      simp [Correlation.siteComments, hgroup u hu]
    rw [texts, hvisited, List.flatMap_map, List.flatMap_congr hone, ← List.map_eq_flatMap]

/-- No two comments of a run are at the same address. -/
theorem nodup_texts (k : Marker) (h : Host) (target : LoadedModule) (es : List Entry) :
    ((k.texts h target es).map Prod.fst).Nodup := by
  cases hw : k.width with
  | bits32 => simp [texts, sites, hw, Width.signature?]
  | bits64 =>
    obtain ⟨us, hus, hwide⟩ := k.exists_usages h target es
    rw [(hwide hw).2, List.map_map]
    exact hus.nodup_addresses

/-- The counts of a result by usage sites. -/
theorem exists_counts (k : Marker) (h : Host) (target : LoadedModule) (config : Config) (es : List Entry) :
    ∃ us, (k.scene h target es).UsageList us ∧
      (k.runResult h target config es).xrefs =
        (if k.Correlates config es ∧ config.xrefs = true then
          (us.map fun u => ((k.scene h target es).sharing u.2).length).sum else 0) ∧
      (k.runResult h target config es).comments =
        if k.Correlates config es ∧ config.comments = true then us.length else 0 := by
  obtain ⟨us, hus, hwide⟩ := k.exists_usages h target es
  obtain ⟨hxrefs, hcomments⟩ := k.counts_runResult h target config es
  refine ⟨us, hus, ?_⟩
  by_cases hc : k.Correlates config es
  · obtain ⟨hlinks, htexts⟩ := hwide hc.1
    rw [hlinks] at hxrefs
    rw [htexts, List.length_map] at hcomments
    constructor
    · cases hx : config.xrefs <;> simp [hx, hc] at hxrefs ⊢ <;> omega
    · simp [hc, hcomments]
  · simp [runResult_of_not_correlates k h target config es hc, hc, markResult]

/-- The warnings of a result: refused marks, failures of the capture and entries whose hash is missing. -/
theorem exists_warnings (k : Marker) (h : Host) (target : LoadedModule) (config : Config) (es : List Entry) :
    ∃ steps runs, (k.scene h target es).Failures steps runs ∧
      (k.runResult h target config es).warnings =
        ((k.runResult h target config es).found - (k.runResult h target config es).marked) +
          if k.Correlates config es then
            steps.card + runs.card + (k.scene h target es).missing.length
          else 0 := by
  have hstep : Snapshot.validStep (k.scene h target es).step = true := k.options.valid
  obtain ⟨steps, runs, hfail, hcount⟩ := Scene.exists_failures hstep
  have hall : es.length = (es.countP fun e => h.accepts e.address) + es.countP fun e => !h.accepts e.address := by
    simpa using List.length_eq_countP_add_countP (fun e : Entry => h.accepts e.address) (l := es)
  have hrefused : (es.countP fun e => !h.accepts e.address) =
      es.length - es.countP fun e => h.accepts e.address := by
    omega
  refine ⟨steps, runs, hfail, ?_⟩
  rw [warnings_runResult, found_runResult, marked_runResult, hrefused, Scene.length_missing hstep, ← hcount]
  rfl

/-- The account of a run that returns. Each count of the result is the size of something described without the run:
flagged slots, accepted marks, usage sites with the entries that share their hash, failures of the capture. The
counters of the host grow by these counts, and the rest of the host is as before. -/
theorem runModule_accounts (k : Marker) (h : Host) (target : LoadedModule) (config : Config) (r : RunResult)
    (hr : (k.runModule h target config).value.1 = .ok r) :
    ∃ (b : GuardBlock) (slots : List (UInt32 × UInt8)) (us : List (Address × UInt64)) (steps : Finset Nat)
      (runs : Finset (Nat × Nat)),
      (Header.locate h.memory target.base k.width).run.value = .ok b ∧
      slots.length = b.count.toNat ∧
      (∀ i slot, slots[i]? = some slot → Table.slotAt h.memory (Table.slotAddress b i) = .ok slot) ∧
      let es := slots.filterMap (Table.entryOf? target.base)
      let s := k.scene h target es
      let run := k.runModule h target config
      let before := h.annotations
      let after := run.value.2.annotations
      let comments := run.requests.filterMap Request.comment?
      Table.entries h.memory target.base b = .ok es ∧ s.UsageList us ∧ s.Failures steps runs ∧
      r.found = (slots.countP fun slot => slot.2 &&& Table.hashFlag != 0) ∧
      r.marked = (es.countP fun e => (h.refusal? e.address).isNone) ∧
      (∀ a, after.marks[a]? =
        if (∃ e ∈ es, e.address = a) ∧ h.refusal? a = none then some 8 else before.marks[a]?) ∧
      after.xrefCalls = before.xrefCalls + 2 * r.xrefs ∧
      r.xrefs = (if k.Correlates config es ∧ config.xrefs = true then
        (us.map fun u => (s.sharing u.2).length).sum else 0) ∧
      after.commentCalls = before.commentCalls + r.comments ∧
      r.comments = (if k.Correlates config es ∧ config.comments = true then us.length else 0) ∧
      comments.length = r.comments ∧ (comments.map Prod.fst).Nodup ∧
      r.warnings = (r.found - r.marked) +
        (if k.Correlates config es then steps.card + runs.card + s.missing.length else 0) ∧
      run.value.2 = { h with
        annotations := after
        refreshCount := h.refreshCount + if 0 < r.found then 1 else 0 } ∧
      (r.found = 0 → run.value.2 = h) ∧
      (config.wantsCorrelation = false ∨ k.width = .bits32 →
        r.xrefs = 0 ∧ r.comments = 0 ∧ after.xrefs = before.xrefs ∧ after.comments = before.comments ∧
          after.xrefCalls = before.xrefCalls ∧ after.commentCalls = before.commentCalls) := by
  obtain ⟨b, es, hb, he, rfl, hreq, hhost⟩ := entries_of_runModule_ok k h target config r hr
  obtain ⟨slots, hlen, hslots, rfl⟩ := Table.exists_slots_of_entries h.memory target.base b es he
  obtain ⟨us, hus, hxrefs, hcomments⟩ :=
    k.exists_counts h target config (slots.filterMap (Table.entryOf? target.base))
  obtain ⟨steps, runs, hfail, hwarnings⟩ :=
    k.exists_warnings h target config (slots.filterMap (Table.entryOf? target.base))
  refine ⟨b, slots, us, steps, runs, hb, hlen, hslots, ?_⟩
  intro es s run before after comments
  obtain ⟨hlinks, htexts⟩ := k.counts_runResult h target config es
  have hfound : (k.runResult h target config es).found = es.length := k.found_runResult h target config es
  have hrun := hhost.trans (k.performAll_runRequests h target config es)
  have hafter : after = k.annotated h target config es := congrArg Host.annotations hrun
  have hasked : comments = if config.comments then k.texts h target es else [] :=
    (congrArg (List.filterMap Request.comment?) hreq).trans (k.comments_runRequests h target config es)
  refine ⟨he, hus, hfail, ?_, ?_, ?_, ?_, hxrefs, ?_, hcomments, ?_, ?_, hwarnings, ?_, ?_, ?_⟩
  · rw [hfound, Table.length_entries]
  · exact k.marked_runResult h target config es
  · intro a
    rw [hafter]
    exact k.marks_annotated h target config es a
  · rw [hafter, hlinks, annotated]
    cases config.xrefs <;> rfl
  · rw [hafter, htexts, annotated]
    cases config.comments <;> rfl
  · rw [hasked, htexts]
    cases config.comments <;> rfl
  · rw [hasked]
    cases config.comments
    · exact List.nodup_nil
    · exact k.nodup_texts h target es
  · have hredraw : (if es = [] then 0 else 1) = if 0 < es.length then 1 else 0 := by
      simp only [List.length_pos_iff, ne_eq, ite_not]
    rw [hafter, hfound, ← hredraw]
    exact hrun
  · intro hzero
    have hes : es = [] := List.length_eq_zero_iff.mp (hfound.symm.trans hzero)
    rw [hhost, runRequests, if_pos hes]
    rfl
  · intro hoff
    have hc : ¬k.Correlates config es := by
      rintro ⟨hw, hon, -⟩
      rcases hoff with hoff | hw'
      · rw [hon] at hoff
        cases hoff
      · rw [hw] at hw'
        cases hw'
    rw [hafter, k.annotated_of_not_correlates h target config es hc,
      k.runResult_of_not_correlates h target config es hc]
    exact ⟨rfl, rfl, rfl, rfl, rfl, rfl⟩

/-- Two functions share the hash that is loaded at the start of the code, and the mark of the second one is
refused. -/
theorem runModule_accounts_paired :
    let k : Marker := { width := .bits64 }
    let h := Specimen.paired.build.rejectMark 0x1400102F8
    ∃ r after, (k.runModule h Specimen.paired.loadedModule {}).value = (.ok r, after) ∧
      r.found = 2 ∧ r.marked = 1 ∧ 1 ≤ r.warnings ∧ 2 ≤ r.xrefs ∧ 1 ≤ r.comments ∧
      after.annotations.xrefCalls = h.annotations.xrefCalls + 2 * r.xrefs ∧
      after.annotations.commentCalls = h.annotations.commentCalls + r.comments ∧
      after.annotations.marks[(0x1400100F8 : Address)]? = some 8 ∧
      after.annotations.marks[(0x1400102F8 : Address)]? = h.annotations.marks[(0x1400102F8 : Address)]? ∧
      after.refreshCount = h.refreshCount + 1 := by
  intro k h
  have hmemory : h.memory = Specimen.paired.build.memory := Host.memory_rejectMark _ _
  have hfirst : h.refusal? 0x1400100F8 = none := by
    rw [Host.refusal?_rejectMark, if_neg (by decide), Specimen.refusal?_build, if_pos (by decide)]
  have hsecond : h.refusal? 0x1400102F8 = some (.rejected 0x1400102F8) := by
    rw [Host.refusal?_rejectMark, if_pos rfl]
  -- From here on only these facts count; the bytes of the image must not be computed.
  clear_value h
  obtain ⟨husage, hshares⟩ := Specimen.isUsage_paired
  have hfind := Specimen.guardIntact_paired.find
  have hentries := Specimen.entries_paired
  rw [← hmemory] at hfind hentries husage hshares
  have hrun := (runModule_of_entries k h Specimen.paired.loadedModule {} Specimen.paired.guardBlock _
    hfind hentries).1
  obtain ⟨b, slots, us, steps, runs, hb, -, -, he, hus, -, hfound, hmarked, hmarks, hxcalls, hxrefs, hccalls,
    hcomments, -, -, hwarnings, hhost, -, -⟩ :=
    runModule_accounts k h Specimen.paired.loadedModule {} _ (congrArg Prod.fst hrun)
  rw [Header.locate_value] at hb
  obtain rfl : Specimen.paired.guardBlock = b := Except.ok.inj (hfind.symm.trans hb)
  have hes := Except.ok.inj (he.symm.trans hentries)
  have hcorrelates : k.Correlates {} Specimen.pairedEntries := by decide
  rw [← Table.length_entries Specimen.paired.loadedModule.base, hes] at hfound
  rw [hes] at hus hmarked hxrefs hcomments hwarnings
  simp only [hes] at hmarks
  rw [hrun] at hmarks hxcalls hccalls hhost
  dsimp only at hmarks hxcalls hccalls hhost
  have hsharing : (k.scene h Specimen.paired.loadedModule Specimen.pairedEntries).sharing 0x1234 =
      Specimen.pairedEntries := by
    refine List.filter_eq_self.mpr ?_
    intro e he
    simp only [decide_eq_true_eq]
    exact hshares e he
  obtain ⟨front, back, rfl⟩ := List.append_of_mem ((hus.mem_iff _ _).mpr husage)
  have hone : (k.runResult h Specimen.paired.loadedModule {} Specimen.pairedEntries).marked = 1 := by
    rw [hmarked]
    show [h.refusal? 0x1400100F8, h.refusal? 0x1400102F8].countP (·.isNone) = 1
    rw [hfirst, hsecond]
    rfl
  refine ⟨_, _, hrun, hfound, hone, ?_, ?_, ?_, hxcalls, hccalls, ?_, ?_, ?_⟩
  · rw [hwarnings, hfound, hone]
    exact Nat.le_add_right _ _
  · rw [hxrefs, if_pos ⟨hcorrelates, rfl⟩, List.map_append, List.sum_append, List.map_cons, List.sum_cons,
      hsharing, show Specimen.pairedEntries.length = 2 from rfl]
    omega
  · rw [hcomments, if_pos ⟨hcorrelates, rfl⟩, List.length_append, List.length_cons]
    omega
  · rw [hmarks, if_pos ⟨by decide, hfirst⟩]
  · rw [hmarks, if_neg (by simp [hsecond])]
  · have hredraw := congrArg Host.refreshCount hhost
    rw [hfound] at hredraw
    exact hredraw

end Marker

end FlowGuard
