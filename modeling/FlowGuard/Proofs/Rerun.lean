import FlowGuard.Proofs.Annotations
import FlowGuard.Proofs.Footprint
import FlowGuard.Proofs.Names

/-!
A run does not see what earlier runs have written. Its result and its requests depend on memory, symbols and on which
marks are refused, so a second run asks for the same things again; references, comments and marks take them in without
a change, and only the counters go on.
-/

namespace FlowGuard

namespace Marker

theorem runRequests_congr (k : Marker) (h h' : Host) (target : LoadedModule) (config : Config)
    (es : List Entry) (hm : h.memory = h'.memory) (hs : h.symbols = h'.symbols) :
    k.runRequests h target config es = k.runRequests h' target config es := by
  rw [runRequests, runRequests, siteRequests_congr k h h' target config es hm hs]

/-- What a run depends on. -/
theorem runModule_congr (k : Marker) (h h' : Host) (target : LoadedModule) (config : Config)
    (hm : h.memory = h'.memory) (hs : h.symbols = h'.symbols) (hr : ∀ a, h.refusal? a = h'.refusal? a) :
    (k.runModule h target config).value.1 = (k.runModule h' target config).value.1 ∧
      (k.runModule h target config).requests = (k.runModule h' target config).requests := by
  cases he : k.tableEntries h.memory target with
  | error e =>
    obtain ⟨hv, hreq⟩ := k.runModule_of_no_entries h target config e he
    rw [hm] at he
    obtain ⟨hv', hreq'⟩ := k.runModule_of_no_entries h' target config e he
    rw [hv, hv', hreq, hreq']
    exact ⟨rfl, rfl⟩
  | ok es =>
    obtain ⟨hv, hreq⟩ := k.runModule_of_tableEntries h target config es he
    rw [hm] at he
    obtain ⟨hv', hreq'⟩ := k.runModule_of_tableEntries h' target config es he
    rw [hv, hv', hreq, hreq', runResult_congr k h h' target config es hm hr,
      runRequests_congr k h h' target config es hm hs]
    exact ⟨rfl, rfl⟩

theorem accepts_performAll (h : Host) (rs : List Request) : (h.performAll rs).accepts = h.accepts := by
  funext a
  simp [Host.accepts]

/-- Requests that are carried out twice: the stores stay as they were after the first time, and the counters go on
by as much as before. -/
theorem performAll_twice (h : Host) (rs : List Request) :
    let first := h.performAll rs
    let second := first.performAll rs
    second.annotations.xrefs = first.annotations.xrefs ∧
    second.annotations.comments = first.annotations.comments ∧
    second.annotations.marks = first.annotations.marks ∧
    ∃ xrefs comments redraws,
      first.annotations.xrefCalls = h.annotations.xrefCalls + xrefs ∧
      second.annotations.xrefCalls = first.annotations.xrefCalls + xrefs ∧
      first.annotations.commentCalls = h.annotations.commentCalls + comments ∧
      second.annotations.commentCalls = first.annotations.commentCalls + comments ∧
      first.refreshCount = h.refreshCount + redraws ∧
      second.refreshCount = first.refreshCount + redraws := by
  intro first second
  have hfirst : first = _ := Host.performAll_eq h rs
  have hsecond : second = _ := Host.performAll_eq first rs
  have haccepts : first.accepts = h.accepts := accepts_performAll h rs
  rw [haccepts] at hsecond
  rw [hsecond, hfirst]
  refine ⟨insertMany_twice_set _ _, insertMany_twice_map _ _, insertMany_twice_map _ _, _, _, _,
    rfl, rfl, rfl, rfl, rfl, rfl⟩

/-- A run that is repeated returns the same result and leaves the same references, comments and marks, while every
counter advances as it did the first time. Two hosts that differ only in annotations, redraws and settings are told
apart by no run: it returns the same result and makes the same requests in the same order. -/
theorem runModule_repeats (k : Marker) (target : LoadedModule) (config : Config) :
    (∀ (h : Host) (r : RunResult), (k.runModule h target config).value.1 = .ok r →
      let first := (k.runModule h target config).value.2
      let second := (k.runModule first target config).value.2
      (k.runModule first target config).value.1 = .ok r ∧
      second.annotations.xrefs = first.annotations.xrefs ∧
      second.annotations.comments = first.annotations.comments ∧
      second.annotations.marks = first.annotations.marks ∧
      ∃ xrefs comments redraws,
        first.annotations.xrefCalls = h.annotations.xrefCalls + xrefs ∧
        second.annotations.xrefCalls = first.annotations.xrefCalls + xrefs ∧
        first.annotations.commentCalls = h.annotations.commentCalls + comments ∧
        second.annotations.commentCalls = first.annotations.commentCalls + comments ∧
        first.refreshCount = h.refreshCount + redraws ∧
        second.refreshCount = first.refreshCount + redraws) ∧
    ∀ h h' : Host,
      h' = { h with
        annotations := h'.annotations
        refreshCount := h'.refreshCount
        settings := h'.settings } →
      (k.runModule h target config).value.1 = (k.runModule h' target config).value.1 ∧
        (k.runModule h target config).requests = (k.runModule h' target config).requests := by
  constructor
  · intro h r hr first second
    obtain ⟨es, he, -⟩ := k.tableEntries_of_ok h target config r hr
    have hfirst : first = h.performAll (k.runRequests h target config es) := by
      simp only [first, (k.runModule_of_tableEntries h target config es he).1]
    have hmemory : first.memory = h.memory := by rw [hfirst, Host.memory_performAll]
    have hsymbols : first.symbols = h.symbols := by rw [hfirst, Host.symbols_performAll]
    have hrefusal : ∀ a, first.refusal? a = h.refusal? a := by
      intro a
      rw [hfirst, Host.refusal?_performAll]
    have hsame := k.runModule_congr first h target config hmemory hsymbols hrefusal
    refine ⟨hsame.1.trans hr, ?_⟩
    have hsecond : second = first.performAll (k.runRequests h target config es) := by
      have he' : k.tableEntries first.memory target = .ok es := by rw [hmemory, he]
      simp only [second, (k.runModule_of_tableEntries first target config es he').1,
        runRequests_congr k first h target config es hmemory hsymbols]
    rw [hsecond, hfirst]
    exact performAll_twice h _
  · intro h h' hdiffer
    rw [hdiffer]
    exact k.runModule_congr h _ target config rfl rfl fun _ => rfl

/-- The reference from a load to a function whose hash it loads is made by the first run, and the second one makes
it again. -/
theorem runModule_repeats_paired :
    let k : Marker := { width := .bits64 }
    let h := Specimen.paired.build
    ∃ r first second,
      (k.runModule h Specimen.paired.loadedModule {}).value = (.ok r, first) ∧
      (k.runModule first Specimen.paired.loadedModule {}).value = (.ok r, second) ∧
      first = { h with
        annotations := first.annotations
        refreshCount := first.refreshCount
        settings := first.settings } ∧
      (k.runModule h Specimen.paired.loadedModule {}).requests =
        (k.runModule first Specimen.paired.loadedModule {}).requests ∧
      (0x140010000, 0x140010100) ∈ first.annotations.xrefs ∧
      second.annotations.xrefs = first.annotations.xrefs ∧
      second.annotations.comments = first.annotations.comments ∧
      second.annotations.marks = first.annotations.marks ∧
      first.refreshCount = h.refreshCount + 1 ∧ second.refreshCount = first.refreshCount + 1 := by
  intro k h
  have hrun := (runModule_of_entries k h Specimen.paired.loadedModule {} Specimen.paired.guardBlock _
    Specimen.guardIntact_paired.find Specimen.entries_paired).1
  have hasked : .xref 0x140010000 0x140010100 ∈
      k.runRequests h Specimen.paired.loadedModule {} Specimen.pairedEntries :=
    xref_mem_runRequests_paired {} rfl
  have hlinked := (Host.mem_xrefs_performAll h _ (0x140010000, 0x140010100)).mpr (.inr hasked)
  -- From here on the bytes of the image must not be computed.
  clear_value h
  have hfirst := performAll_runRequests k h Specimen.paired.loadedModule {} Specimen.pairedEntries
  generalize h.performAll (k.runRequests h Specimen.paired.loadedModule {} Specimen.pairedEntries) = first at *
  have hredraw : first.refreshCount = h.refreshCount + 1 := congrArg Host.refreshCount hfirst
  have hdiffer : first = { h with
      annotations := first.annotations
      refreshCount := first.refreshCount
      settings := first.settings } := by
    rw [hfirst]
  obtain ⟨hagain, hblind⟩ := runModule_repeats k Specimen.paired.loadedModule {}
  have hvalue : (k.runModule h Specimen.paired.loadedModule {}).value.2 = first := congrArg Prod.snd hrun
  obtain ⟨hok, hxrefs, hcomments, hmarks, _, _, redraws, -, -, -, -, honce, htwice⟩ :=
    hagain h _ (congrArg Prod.fst hrun)
  rw [hvalue] at hok hxrefs hcomments hmarks honce htwice
  obtain rfl : redraws = 1 := Nat.add_left_cancel (honce.symm.trans hredraw)
  rcases hsecond : (k.runModule first Specimen.paired.loadedModule {}).value with ⟨outcome, second⟩
  rw [hsecond] at hok hxrefs hcomments hmarks htwice
  obtain rfl : outcome = .ok _ := hok
  exact ⟨_, first, second, hrun, hsecond, hdiffer, (hblind h first hdiffer).2, hlinked, hxrefs, hcomments, hmarks,
    honce, htwice⟩

end Marker

end FlowGuard
