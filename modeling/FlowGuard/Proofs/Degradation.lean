import FlowGuard.Proofs.Annotations
import FlowGuard.Proofs.ReadRefinement
import Mathlib.Data.List.Basic

/-!
Reads that fail. A run that still returns has read the same table as before; what it loses are the captured regions
that meet a page whose reads fail, and with them the hashes stored there. Each loss is one more warning, and no
annotation is new unless one load signature stands inside another load.
-/

namespace FlowGuard

namespace Region

/-- No byte of the region lies in the page of one of the addresses. -/
def Avoids (r : Region) (us : List Address) : Prop :=
  ∀ u ∈ us, ∀ i, i < r.bytes.size → (r.start.toNat + i) / pageSize ≠ Memory.pageOf u

instance (r : Region) (us : List Address) : Decidable (r.Avoids us) :=
  inferInstanceAs (Decidable (∀ u ∈ us, ∀ i, i < r.bytes.size → _))

end Region

namespace Snapshot

open Answers (ofMemory)

section Failing

variable (m : Memory) (us : List Address) (target : LoadedModule) (step : UInt64)

theorem runs_failReadsAt : (ofMemory (m.failReadsAt us)).runs target step = (ofMemory m).runs target step := by
  have he : (ofMemory (m.failReadsAt us)).executes target step = (ofMemory m).executes target step := by
    funext k
    rw [Answers.executes_ofMemory, Answers.executes_ofMemory, Memory.rightsAt_failReadsAt]
  rw [Answers.runs, Answers.runs, he]

/-- A run keeps its region exactly when it avoids the pages. -/
theorem region?_failReadsAt (run : Nat × Nat) :
    (ofMemory (m.failReadsAt us)).region? target step run =
      ((ofMemory m).region? target step run).filter fun r => decide (r.Avoids us) := by
  apply Option.ext
  intro r
  rw [Option.filter_eq_some_iff, Answers.region?_eq_some_iff, Answers.region?_eq_some_iff,
    Answers.readRun_ofMemory, Answers.readRun_ofMemory, Memory.read_failReadsAt, decide_eq_true_iff, and_assoc]
  refine and_congr_right fun hs => and_congr_right fun hr => ?_
  have hlen := ((m.read_eq_ok_iff _ _ _).mp hr).1
  rw [Region.Avoids, hs, ← hlen, Array.length_toList]

/-- The captured regions that are left are those that avoid the pages. -/
theorem regions_failReadsAt (hstep : validStep step = true) :
    (take (m.failReadsAt us) target step).value.captured.regions =
      (take m target step).value.captured.regions.filter fun r => decide (r.Avoids us) := by
  rw [regions_take _ _ _ hstep, regions_take _ _ _ hstep, runs_failReadsAt, List.filter_filterMap]
  congr 1
  funext run
  exact region?_failReadsAt m us target step run

/-- Every lost region is one more run that cannot be read. -/
theorem countP_lost_failReadsAt (found : List (Nat × Nat)) :
    found.countP ((ofMemory (m.failReadsAt us)).lost target step) =
      found.countP ((ofMemory m).lost target step) +
        ((found.filterMap ((ofMemory m).region? target step)).filter fun r => !decide (r.Avoids us)).length := by
  induction found with
  | nil => rfl
  | cons run found ih =>
    have hfails := (ofMemory (m.failReadsAt us)).lost_eq target step run
    have hfails' := (ofMemory m).lost_eq target step run
    rw [region?_failReadsAt] at hfails
    rw [List.countP_cons, List.countP_cons, ih, hfails, hfails', List.filterMap_cons]
    cases hr : (ofMemory m).region? target step run with
    | none => simp [Nat.add_right_comm]
    | some r => by_cases ha : r.Avoids us <;> simp [ha, Option.filter, Nat.add_assoc]

/-- What failing reads cost a snapshot: one warning for each lost region. -/
theorem warnings_failReadsAt (hstep : validStep step = true) :
    (take (m.failReadsAt us) target step).value.warnings =
      (take m target step).value.warnings +
        ((take m target step).value.captured.regions.filter fun r => !decide (r.Avoids us)).length := by
  have hrights : (ofMemory (m.failReadsAt us)).refused target step = (ofMemory m).refused target step := by
    funext k
    rw [Answers.refused_ofMemory, Answers.refused_ofMemory, Memory.rightsAt_failReadsAt]
  have hruns := runs_failReadsAt m us target step
  have hcount := countP_lost_failReadsAt m us target step ((ofMemory m).runs target step)
  rw [regions_take m target step hstep, warnings_take _ _ _ hstep, warnings_take _ _ _ hstep, hrights, hruns, hcount,
    Nat.add_assoc]

end Failing

end Snapshot

namespace Captured

theorem Separated.of_subset {c c' : Captured} (h : c.Separated) (hsub : c'.regions ⊆ c.regions) :
    c'.Separated :=
  fun r hr r' hr' hlt => h r (hsub hr) r' (hsub hr') hlt

def holds (e : Entry) (r : Region) : Bool :=
  (r.slice? e.address hashSize).isSome

/-- The hash of an entry can be had exactly when some region holds it. -/
theorem isNone_storedHash? (c : Captured) (hsep : c.Separated) (e : Entry) :
    (HashIndex.storedHash? c e).isNone = !c.regions.any (holds e) := by
  have h : (HashIndex.storedHash? c e).isSome = c.regions.any (holds e) := by
    rw [HashIndex.storedHash?, Option.isSome_map, Bool.eq_iff_iff, List.any_eq_true, Option.isSome_iff_exists]
    simp only [holds, Option.isSome_iff_exists, c.read?_eq_some_iff hsep _ hashSize (by decide)]
    constructor
    · rintro ⟨bytes, r, hr, hs⟩
      exact ⟨r, hr, bytes, hs⟩
    · rintro ⟨r, hr, bytes, hs⟩
      exact ⟨bytes, r, hr, hs⟩
  rw [← h, Option.not_isSome]

/-- Of separated regions at most one holds the hash of an entry. -/
theorem eq_of_holds (c : Captured) (hsep : c.Separated) {e : Entry} {r r' : Region} (hr : r ∈ c.regions)
    (hr' : r' ∈ c.regions) (hs : holds e r = true) (hs' : holds e r' = true) : r = r' := by
  rw [holds, Region.isSome_slice?, decide_eq_true_iff] at hs hs'
  obtain ⟨hle, hsize⟩ := hs
  obtain ⟨hle', hsize'⟩ := hs'
  unfold hashSize at hsize hsize'
  have hfirst := c.atOrBefore?_of_separated hsep e.address r hr hle (by omega)
  have hsecond := c.atOrBefore?_of_separated hsep e.address r' hr' hle' (by omega)
  exact Option.some.inj (hfirst.symm.trans hsecond)

/-- When regions are left out, the entries whose hash was in one of them are missed, beside those missed
before. -/
theorem countP_missed (c c' : Captured) (hsep : c.Separated) (keep : Region → Bool)
    (hkeep : c'.regions = c.regions.filter keep) (es : List Entry) :
    es.countP (fun e => (HashIndex.storedHash? c' e).isNone) =
      es.countP (fun e => (HashIndex.storedHash? c e).isNone) +
        es.countP (fun e => (c.regions.filter fun r => !keep r).any (holds e)) := by
  have hsep' : c'.Separated := hsep.of_subset (by rw [hkeep]; exact List.filter_subset_self _)
  induction es with
  | nil => rfl
  | cons e es ih =>
    rw [List.countP_cons, List.countP_cons, List.countP_cons, ih, isNone_storedHash? c hsep,
      isNone_storedHash? c' hsep', hkeep]
    have heither : c.regions.any (holds e) =
        ((c.regions.filter keep).any (holds e) || (c.regions.filter fun r => !keep r).any (holds e)) := by
      rw [Bool.eq_iff_iff]
      simp only [Bool.or_eq_true, List.any_eq_true, List.mem_filter]
      grind
    have hone : (c.regions.filter keep).any (holds e) = true →
        (c.regions.filter fun r => !keep r).any (holds e) = false := by
      simp only [List.any_eq_true, List.any_eq_false, List.mem_filter]
      rintro ⟨r, ⟨hr, hk⟩, hs⟩ r' ⟨hr', hk'⟩ hs'
      rw [c.eq_of_holds hsep hr' hr hs' hs, hk] at hk'
      cases hk'
    rw [heither]
    cases hk : (c.regions.filter keep).any (holds e) with
    | true => simp [hone hk]
    | false =>
      cases (c.regions.filter fun r => !keep r).any (holds e) with
      | true => simp [Nat.add_assoc]
      | false => simp [Nat.add_right_comm]

end Captured

namespace Scene

/-- The first scene captures only what the second one does, and has the same table. -/
structure Within (s' s : Scene) : Prop where
  captures : ∀ start bytes, s'.Captures start bytes → s.Captures start bytes
  entries : s'.entries = s.entries

/-- No load signature begins in the eight bytes behind another one. -/
def LoadsApart (bytes : List UInt8) : Prop :=
  ∀ i j, [0x49, 0xBA] <+: bytes.drop i → [0x49, 0xBA] <+: bytes.drop j → i + 2 ≤ j → i + 10 ≤ j

variable {s' s : Scene} (h : s'.Within s)
include h

theorem Within.shares {hash : UInt64} {e : Entry} (hs : s'.Shares hash e) : s.Shares hash e := by
  obtain ⟨he, stored, ⟨start, bytes, hc, hh⟩, hsame⟩ := hs
  exact ⟨h.entries ▸ he, stored, ⟨start, bytes, h.captures start bytes hc, hh⟩, hsame⟩

/-- Where loads stand apart, none hides another, so a usage site of the smaller scene stays one. -/
theorem Within.isSite {start a : Address} {bytes : List UInt8} (hapart : LoadsApart bytes)
    (ha : s'.IsSite start bytes a) : s.IsSite start bytes a := by
  obtain ⟨hash, e, hl, he⟩ := ha.isCandidate
  rw [IsSite]
  refine ⟨⟨hash, e, hl, h.shares he⟩, ?_⟩
  intro b hlt hb hin
  obtain ⟨hash', -, hl', -⟩ := hb.isCandidate
  have hsig : [0x49, 0xBA] <+: bytes.drop (a.toNat - start.toNat) := (List.prefix_append _ _).trans hl.2
  have hsig' : [0x49, 0xBA] <+: bytes.drop (b.toNat - start.toNat) := (List.prefix_append _ _).trans hl'.2
  have hle := hl.1
  have hle' := hl'.1
  by_cases hnext : a.toNat = b.toNat + 1
  · have hshift : bytes.drop (a.toNat - start.toNat) = (bytes.drop (b.toNat - start.toNat)).drop 1 := by
      rw [List.drop_drop]
      congr 1
      omega
    rw [hshift] at hsig
    exact HashLoad.unbordered_signature 1 _ (by decide) (by decide) hsig' hsig
  · have := hapart _ _ hsig' hsig (by omega)
    omega

theorem Within.isUsage {a : Address} {hash : UInt64}
    (hapart : ∀ start bytes, s.Captures start bytes → LoadsApart bytes) (hu : s'.IsUsage a hash) :
    s.IsUsage a hash := by
  obtain ⟨start, bytes, hc, hs, hl⟩ := hu
  have hc' := h.captures start bytes hc
  exact ⟨start, bytes, hc', h.isSite (hapart start bytes hc') hs, hl⟩

end Scene

namespace Host

def failReadsAt (h : Host) (us : List Address) : Host :=
  { h with memory := h.memory.failReadsAt us }

@[simp] theorem annotations_failReadsAt (h : Host) (us : List Address) :
    (h.failReadsAt us).annotations = h.annotations := rfl

@[simp] theorem accepts_failReadsAt (h : Host) (us : List Address) :
    (h.failReadsAt us).accepts = h.accepts := rfl

end Host

namespace Marker

theorem within_failReadsAt (k : Marker) (h : Host) (us : List Address) (target : LoadedModule)
    (es : List Entry) : (k.scene (h.failReadsAt us) target es).Within (k.scene h target es) := by
  have hstep : Snapshot.validStep k.options.pageSize = true := k.options.valid
  have hfilter : (k.scene (h.failReadsAt us) target es).captured.regions =
      (k.scene h target es).captured.regions.filter fun r => decide (r.Avoids us) :=
    Snapshot.regions_failReadsAt _ _ _ _ hstep
  refine ⟨?_, rfl⟩
  intro start bytes hc
  let r : Region := ⟨start, bytes.toArray⟩
  have hr : r ∈ (k.scene (h.failReadsAt us) target es).captured.regions := (Scene.mem_captured hstep r).mpr hc
  rw [hfilter] at hr
  exact (Scene.mem_captured hstep r).mp (List.mem_of_mem_filter hr)

/-- What failing reads cost a run with the same entries: one warning for each lost region and for each hash in
one. -/
theorem warnings_runResult_failReadsAt (k : Marker) (h : Host) (us : List Address) (target : LoadedModule)
    (config : Config) (es : List Entry) (hc : k.Correlates config es) :
    let regions := (k.snapshot h.memory target).captured.regions
    let lost := regions.filter fun r => !decide (r.Avoids us)
    (k.runResult (h.failReadsAt us) target config es).warnings =
      (k.runResult h target config es).warnings + lost.length +
        es.countP fun e => lost.any (Captured.holds e) := by
  intro regions lost
  have hstep : Snapshot.validStep k.options.pageSize = true := k.options.valid
  have hwarnings : (k.snapshot (h.failReadsAt us).memory target).warnings =
      (k.snapshot h.memory target).warnings + lost.length :=
    Snapshot.warnings_failReadsAt h.memory us target _ hstep
  have hmissed :
      es.countP (fun e =>
          (HashIndex.storedHash? (k.snapshot (h.failReadsAt us).memory target).captured e).isNone) =
        es.countP (fun e => (HashIndex.storedHash? (k.snapshot h.memory target).captured e).isNone) +
          es.countP (fun e => lost.any (Captured.holds e)) :=
    Captured.countP_missed _ _ (Snapshot.separated_take _ _ _ hstep) _
      (Snapshot.regions_failReadsAt h.memory us target _ hstep) es
  rw [warnings_runResult, warnings_runResult, if_pos hc, if_pos hc, hwarnings, hmissed,
    Host.accepts_failReadsAt]
  omega

/-- Degradation under read failures. If a run still returns with entries after reads have been made to fail, then
it returned before with the same entries and marks; of the captured regions those are left that meet none of the
pages, and each lost region and each entry whose hash lay in one is one more warning. When no load signature begins
in the eight bytes behind another one, the references and the commented addresses are among those of before. -/
theorem runModule_degrades (k : Marker) (h : Host) (us : List Address) (target : LoadedModule)
    (config : Config) (r' : RunResult) (hw : k.width = .bits64) (hc : config.wantsCorrelation = true)
    (hr' : (k.runModule (h.failReadsAt us) target config).value.1 = .ok r') (hfound : 0 < r'.found) :
    let run := k.runModule h target config
    let run' := k.runModule (h.failReadsAt us) target config
    let regions := (Snapshot.take h.memory target k.options.pageSize).value.captured.regions
    let regions' := (Snapshot.take (h.failReadsAt us).memory target k.options.pageSize).value.captured.regions
    let lost := regions.filter fun r => !decide (r.Avoids us)
    ∃ b es r, (Header.locate h.memory target.base k.width).run.value = .ok b ∧
      Table.entries h.memory target.base b = .ok es ∧ run.value.1 = .ok r ∧
      r.found = es.length ∧ r'.found = r.found ∧ r'.marked = r.marked ∧
      run'.value.2.annotations.marks = run.value.2.annotations.marks ∧
      regions' = regions.filter (fun r => decide (r.Avoids us)) ∧
      r'.warnings = r.warnings + lost.length +
        es.countP (fun e => lost.any fun r => (r.slice? e.address hashSize).isSome) ∧
      ((∀ r ∈ regions, Scene.LoadsApart r.bytes.toList) →
        (∀ p q, .xref p q ∈ run'.requests → .xref p q ∈ run.requests) ∧
        (∀ p, p ∈ run'.value.2.annotations.xrefs → p ∈ run.value.2.annotations.xrefs) ∧
        (∀ a text', .comment a text' ∈ run'.requests → ∃ text, .comment a text ∈ run.requests) ∧
        ∀ a, a ∈ run'.value.2.annotations.comments → a ∈ run.value.2.annotations.comments) := by
  intro run run' regions regions' lost
  obtain ⟨es, he', rfl⟩ := k.tableEntries_of_ok (h.failReadsAt us) target config r' hr'
  rw [found_runResult] at hfound
  have hes : es ≠ [] := List.length_pos_iff.mp hfound
  have he : k.tableEntries h.memory target = .ok es :=
    (refines_tableEntries (h.memory.refines_failReadsAt us) k target).eq_ok he'
  obtain ⟨b, hb, hentries⟩ := k.exists_block_of_tableEntries h.memory target es he
  have hstep : Snapshot.validStep k.options.pageSize = true := k.options.valid
  have hregions : regions = (k.scene h target es).captured.regions := rfl
  obtain ⟨hrun, hasked⟩ : run.value = _ ∧ run.requests = _ := k.runModule_of_tableEntries h target config es he
  obtain ⟨hrun', hasked'⟩ : run'.value = _ ∧ run'.requests = _ :=
    k.runModule_of_tableEntries (h.failReadsAt us) target config es he'
  refine ⟨b, es, k.runResult h target config es, ?_, hentries, by rw [hrun], found_runResult .., ?_, ?_, ?_, ?_,
    ?_, ?_⟩
  · rw [Header.locate_value, hb]
  · rw [found_runResult, found_runResult]
  · rw [marked_runResult, marked_runResult, Host.accepts_failReadsAt]
  · rw [hrun, hrun', performAll_runRequests, performAll_runRequests]
    simp only [annotated, Host.annotations_failReadsAt, Host.accepts_failReadsAt]
  · exact Snapshot.regions_failReadsAt h.memory us target _ hstep
  · simp only [lost, hregions]
    exact k.warnings_runResult_failReadsAt h us target config es ⟨hw, hc, hes⟩
  · intro hapart
    have husage {a : Address} {hash : UInt64} :
        (k.scene (h.failReadsAt us) target es).IsUsage a hash → (k.scene h target es).IsUsage a hash := by
      refine (k.within_failReadsAt h us target es).isUsage ?_
      intro start bytes hcaptured
      rw [hregions] at hapart
      exact hapart ⟨start, bytes.toArray⟩ ((Scene.mem_captured hstep _).mpr hcaptured)
    have hxref (p q : Address) : .xref p q ∈ run'.requests → .xref p q ∈ run.requests := by
      rw [hasked, hasked', xref_mem_runRequests_iff k _ target config es hw hc hes,
        xref_mem_runRequests_iff k _ target config es hw hc hes]
      rintro ⟨hon, a, hash, e, hu, hs, hpq⟩
      exact ⟨hon, a, hash, e, husage hu, (k.within_failReadsAt h us target es).shares hs, hpq⟩
    have hcomment (a : Address) (text' : String) :
        .comment a text' ∈ run'.requests → ∃ text, .comment a text ∈ run.requests := by
      simp only [hasked, hasked', comment_mem_runRequests_iff k _ target config es hw hc hes]
      rintro ⟨hon, hash, hu, -⟩
      exact ⟨_, hon, hash, husage hu, rfl⟩
    rw [hasked, hasked'] at hxref hcomment
    rw [hrun, hrun', hasked, hasked']
    refine ⟨hxref, ?_, hcomment, ?_⟩
    · intro p hp
      rw [Host.mem_xrefs_performAll] at hp ⊢
      exact hp.imp_right (hxref p.1 p.2)
    · intro a ha
      rw [Host.mem_comments_performAll] at ha ⊢
      rcases ha with hold | ⟨text', hm⟩
      · exact .inl hold
      · exact .inr (hcomment a text' hm)

/-- Reads fail in the third page of the code, and with it the only region and both hashes are lost. -/
theorem runModule_degrades_paired :
    let k : Marker := { width := .bits64 }
    let h := Specimen.paired.build
    let target := Specimen.paired.loadedModule
    ∃ r r', (k.runModule h target {}).value.1 = .ok r ∧
      (k.runModule (h.failReadsAt [0x140012000]) target {}).value.1 = .ok r' ∧ 0 < r'.found ∧
      r'.found = r.found ∧ r'.marked = r.marked ∧ r'.warnings = r.warnings + 3 ∧
      (Snapshot.take (h.failReadsAt [0x140012000]).memory target 0x1000).value.captured.regions = [] := by
  intro k h target
  have hintact := Specimen.guardIntact_paired
  have hend : Specimen.paired.tableEnd ≤ 0x2000 := by decide
  have hbase : Specimen.paired.base.toNat = 0x140000000 := by decide
  have hshows : Specimen.paired.Shows (h.failReadsAt [0x140012000]).memory Specimen.paired.tableEnd := by
    refine ⟨hintact.table, ?_⟩
    intro offset count hin
    refine (Memory.read_failReadsAt _ _ _ _ _).mpr ⟨hintact.shows.read offset count ?_, ?_⟩
    · exact Nat.le_trans hin hintact.table
    · intro u hu i hi
      obtain rfl := List.mem_singleton.mp hu
      have hpage : Memory.pageOf 0x140012000 = 0x140012 := by decide
      rw [Specimen.toNat_address _ _ (by unfold spaceSize; omega), hbase, hpage]
      simp only [pageSize]
      omega
  have hblock := (Specimen.find_of_shows hshows hintact.space (Nat.le_add_right _ _)
    (hintact.spares.mono (Nat.le_add_right _ _)) hintact.pointers.1 hintact.pointers.2).trans hintact.walked
  have hslots : Table.entries (h.failReadsAt [0x140012000]).memory Specimen.paired.base
      Specimen.paired.guardBlock = .ok Specimen.pairedEntries :=
    Specimen.entries_of_shows hshows hintact.space hintact.made (by decide) (by decide) (Nat.le_refl _)
      hintact.spares
  have hrun' := (runModule_of_entries k (h.failReadsAt [0x140012000]) target {} _ _ hblock hslots).1
  have hpositive : 0 < (k.runResult (h.failReadsAt [0x140012000]) target {} Specimen.pairedEntries).found := by
    rw [found_runResult]
    decide
  obtain ⟨region, hregions, hstart, hsize⟩ : ∃ region : Region,
      (Snapshot.take h.memory target 0x1000).value.captured.regions = [region] ∧
        region.start = 0x140010000 ∧ region.bytes.size = 0x4000 := by
    refine ⟨_, Specimen.regions_code hintact.isMapped hintact.space (by decide), by decide, ?_⟩
    rw [List.size_toArray, Bytes.length_part _ _ _ (by rw [Specimen.size_file]; exact Nat.le_refl _)]
    decide
  have hmeets : ¬region.Avoids [0x140012000] := by
    intro hall
    exact hall 0x140012000 (by decide) 0x2000 (by omega) (by rw [hstart]; decide)
  have hheld : ∀ e ∈ Specimen.pairedEntries, (region.slice? e.address hashSize).isSome = true := by
    simp only [Region.isSome_slice?, hstart, hsize]
    decide
  obtain ⟨b, es, r, hb, hes, hr, -, hfound, hmarked, -, hleft, hwarnings, -⟩ :=
    runModule_degrades k h [0x140012000] target {} _ rfl rfl (congrArg Prod.fst hrun') hpositive
  rw [Header.locate_value] at hb
  obtain rfl : Specimen.paired.guardBlock = b := Except.ok.inj (hintact.find.symm.trans hb)
  obtain rfl : Specimen.pairedEntries = es := Except.ok.inj (Specimen.entries_paired.symm.trans hes)
  have hstep : k.options.pageSize = 0x1000 := rfl
  have hlost : [region].filter (fun r => !decide (r.Avoids [0x140012000])) = [region] := by simp [hmeets]
  have hmissed : Specimen.pairedEntries.countP (fun e =>
      [region].any fun r => (r.slice? e.address hashSize).isSome) = 2 := by
    rw [List.countP_eq_length.mpr]
    · rfl
    · intro e he
      rw [List.any_cons, hheld e he]
      rfl
  rw [hstep, hregions] at hwarnings hleft
  refine ⟨r, _, hr, congrArg Prod.fst hrun', hpositive, hfound, hmarked, ?_, ?_⟩
  · rw [hwarnings, hlost, hmissed]
    rfl
  · rw [hleft]
    simp [hmeets]

end Marker

end FlowGuard
