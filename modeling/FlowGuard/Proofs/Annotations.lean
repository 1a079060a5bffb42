import FlowGuard.Proofs.Specimen.Code
import FlowGuard.Proofs.Specimen.Guard

/-!
What a marking run writes at usage sites: on a 64-bit target it annotates exactly the usage sites of the captured
runs, each with the entries that share its hash, and leaves every other reference and comment as it was.
-/

namespace FlowGuard

namespace Correlation

theorem xref_mem_groupRequests (config : Config) (text : String) (site : Address) (es : List Entry)
    (p q : Address) :
    .xref p q ∈ groupRequests config text site es ↔
      config.xrefs = true ∧ ∃ e ∈ es, (p, q) = (site, e.function) ∨ (p, q) = (e.function, site) := by
  unfold groupRequests linkRequests
  cases config.xrefs <;> cases config.comments <;> simp

theorem comment_mem_groupRequests (config : Config) (text : String) (site : Address) (es : List Entry)
    (a : Address) (other : String) :
    .comment a other ∈ groupRequests config text site es ↔
      config.comments = true ∧ a = site ∧ other = text := by
  unfold groupRequests linkRequests
  cases config.xrefs <;> cases config.comments <;> simp

end Correlation

namespace Marker

def scene (k : Marker) (h : Host) (target : LoadedModule) (es : List Entry) : Scene where
  memory := h.memory
  target := target
  step := k.options.pageSize
  entries := es

/-- Beside the marks and the redraw, a run that correlates asks for what its usage sites call for. -/
theorem mem_runRequests_iff (k : Marker) (h : Host) (target : LoadedModule) (config : Config)
    (es : List Entry) (hw : k.width = .bits64) (hc : config.wantsCorrelation = true) (hes : es ≠ [])
    (r : Request) (hmark : ∀ a size, r ≠ .mark a size) (hrefresh : r ≠ .refresh) :
    r ∈ k.runRequests h target config es ↔
      ∃ a hash, (k.scene h target es).IsUsage a hash ∧
        r ∈ Correlation.groupRequests config
          (Naming.group h k.width ((k.scene h target es).sharing hash)) a
          ((k.scene h target es).sharing hash) := by
  have hstep : Snapshot.validStep (k.scene h target es).step = true := k.options.valid
  have hx : HashIndex.Indexes (k.scene h target es).captured (k.scene h target es).entries
      (k.index h.memory target es) := (HashIndex.build_spec _ es).1
  have hsig : k.width.signature? = some [0x49, 0xBA] := by rw [hw]; rfl
  have hsites : k.siteRequests h target config es =
      (Correlation.sites (k.scene h target es).captured (k.index h.memory target es) [0x49, 0xBA]).flatMap
        (Correlation.siteRequests config k.width h (k.index h.memory target es)) := by
    simp only [siteRequests, sites, hsig]
    rfl
  have hmarks : r ∉ Table.markRequests es := by
    unfold Table.markRequests
    rw [List.mem_map]
    rintro ⟨e, -, rfl⟩
    exact hmark _ _ rfl
  rw [← Scene.mem_requests_iff hstep hx config k.width h r, ← hsites]
  simp [runRequests, hes, hc, hmarks, hrefresh]

theorem xref_mem_runRequests_iff (k : Marker) (h : Host) (target : LoadedModule) (config : Config)
    (es : List Entry) (hw : k.width = .bits64) (hc : config.wantsCorrelation = true) (hes : es ≠ [])
    (p q : Address) :
    .xref p q ∈ k.runRequests h target config es ↔
      config.xrefs = true ∧ ∃ a hash e,
        (k.scene h target es).IsUsage a hash ∧ (k.scene h target es).Shares hash e ∧
          ((p, q) = (a, e.function) ∨ (p, q) = (e.function, a)) := by
  rw [mem_runRequests_iff k h target config es hw hc hes _ (by simp) (by simp)]
  simp only [Correlation.xref_mem_groupRequests, Scene.mem_sharing]
  grind

/-- A run asks for the reference from the load of a hash to the first of two functions that share it. -/
theorem xref_mem_runRequests_paired (config : Config) (hx : config.xrefs = true) :
    .xref 0x140010000 0x140010100 ∈ runRequests { width := .bits64 } Specimen.paired.build
      Specimen.paired.loadedModule config Specimen.pairedEntries := by
  have hc : config.wantsCorrelation = true := by simp [Config.wantsCorrelation, hx]
  obtain ⟨husage, hshares⟩ := Specimen.isUsage_paired
  have hfunction : (Entry.ofRva 0x140000000 0x10100).function = 0x140010100 := by decide
  rw [xref_mem_runRequests_iff _ _ _ _ _ rfl hc (by decide)]
  refine ⟨hx, _, _, Entry.ofRva 0x140000000 0x10100, husage, hshares _ (by decide), .inl ?_⟩
  rw [hfunction]

theorem comment_mem_runRequests_iff (k : Marker) (h : Host) (target : LoadedModule) (config : Config)
    (es : List Entry) (hw : k.width = .bits64) (hc : config.wantsCorrelation = true) (hes : es ≠ [])
    (a : Address) (text : String) :
    .comment a text ∈ k.runRequests h target config es ↔
      config.comments = true ∧ ∃ hash, (k.scene h target es).IsUsage a hash ∧
        text = Naming.group h k.width ((k.scene h target es).sharing hash) := by
  rw [mem_runRequests_iff k h target config es hw hc hes _ (by simp) (by simp)]
  simp only [Correlation.comment_mem_groupRequests]
  grind

/-- A run that returns has read its table; the rest is in the requests. -/
theorem entries_of_runModule_ok (k : Marker) (h : Host) (target : LoadedModule) (config : Config)
    (r : RunResult) (hr : (k.runModule h target config).value.1 = .ok r) :
    ∃ b es, (Header.locate h.memory target.base k.width).run.value = .ok b ∧
      Table.entries h.memory target.base b = .ok es ∧
      r = k.runResult h target config es ∧
      (k.runModule h target config).requests = k.runRequests h target config es ∧
      (k.runModule h target config).value.2 = h.performAll (k.runRequests h target config es) := by
  rw [Header.locate_value]
  cases hb : Header.find h.memory target.base k.width with
  | error e => simp [(runModule_of_header_error k h target config e hb).1] at hr
  | ok b =>
    cases he : Table.entries h.memory target.base b with
    | error e => simp [(runModule_of_table_error k h target config b e hb he).1] at hr
    | ok es =>
      obtain ⟨hv, hreq⟩ := runModule_of_entries k h target config b es hb he
      rw [hv] at hr
      refine ⟨b, es, rfl, he, ?_, hreq, by rw [hv]⟩
      cases hr
      rfl

theorem found_runResult (k : Marker) (h : Host) (target : LoadedModule) (config : Config)
    (es : List Entry) : (k.runResult h target config es).found = es.length := by
  unfold runResult
  split <;> rfl

/-- Soundness and completeness of the annotations of a 64-bit run. The references and comments asked for are
those of the usage sites; after the run the references are the old ones and these, and a comment has changed
exactly where there is a usage site. -/
theorem runModule_annotations (k : Marker) (h : Host) (target : LoadedModule) (config : Config)
    (r : RunResult) (hw : k.width = .bits64) (hc : config.wantsCorrelation = true)
    (hr : (k.runModule h target config).value.1 = .ok r) (hfound : 0 < r.found) :
    ∃ b es, (Header.locate h.memory target.base k.width).run.value = .ok b ∧
      Table.entries h.memory target.base b = .ok es ∧ es.length = r.found ∧
      let s := k.scene h target es
      let linked (p q : Address) : Prop := config.xrefs = true ∧ ∃ a hash e,
        s.IsUsage a hash ∧ s.Shares hash e ∧ ((p, q) = (a, e.function) ∨ (p, q) = (e.function, a))
      let text (hash : UInt64) : String := Naming.group h k.width (s.sharing hash)
      let before := h.annotations
      let after := (k.runModule h target config).value.2.annotations
      (∀ p q, .xref p q ∈ (k.runModule h target config).requests ↔ linked p q) ∧
      (∀ a t, .comment a t ∈ (k.runModule h target config).requests ↔
        config.comments = true ∧ ∃ hash, s.IsUsage a hash ∧ t = text hash) ∧
      (∀ p q, (p, q) ∈ after.xrefs ↔ (p, q) ∈ before.xrefs ∨ linked p q) ∧
      (∀ a hash, config.comments = true → s.IsUsage a hash → after.comments[a]? = some (text hash)) ∧
      (∀ a, (config.comments = true → ∀ hash, ¬s.IsUsage a hash) →
        after.comments[a]? = before.comments[a]?) := by
  obtain ⟨b, es, hb, he, rfl, hreq, hhost⟩ := entries_of_runModule_ok k h target config r hr
  rw [found_runResult] at hfound
  have hes : es ≠ [] := List.length_pos_iff.mp hfound
  have hstep : Snapshot.validStep (k.scene h target es).step = true := k.options.valid
  have hxref := xref_mem_runRequests_iff k h target config es hw hc hes
  have hcomment := comment_mem_runRequests_iff k h target config es hw hc hes
  refine ⟨b, es, hb, he, (found_runResult k h target config es).symm, ?_⟩
  rw [hreq, hhost]
  refine ⟨hxref, hcomment, ?_, ?_, ?_⟩
  · intro p q
    rw [Host.mem_xrefs_performAll, hxref]
  · intro a hash hon hu
    refine Host.comments_performAll_of_mem h _ a _ ((hcomment a _).mpr ⟨hon, hash, hu, rfl⟩) ?_
    intro other ho
    obtain ⟨-, hash', hu', rfl⟩ := (hcomment a other).mp ho
    rw [hu.unique hstep hu']
  · intro a hnone
    apply Host.comments_performAll_of_not_mem
    intro t ht
    obtain ⟨hon, hash, hu, -⟩ := (hcomment a t).mp ht
    exact hnone hon hash hu

/-- A specimen with one hashed function and, at the start of its code, one load of the hash, which differs in
the lowest bit: the run links the two. -/
theorem runModule_annotations_specimen :
    let s := Specimen.made 0x140000000 .bits64 [.hashedFunction 0x10100 0x1234, .hashLoad 0x10000 0x1235]
    let k : Marker := { width := .bits64 }
    ∃ r after, (k.runModule s.build s.loadedModule {}).value = (.ok r, after) ∧ 0 < r.found ∧
      (0x140010000, 0x140010100) ∈ after.annotations.xrefs ∧
      (0x140010100, 0x140010000) ∈ after.annotations.xrefs ∧ 0x140010000 ∈ after.annotations.comments := by
  intro s k
  have hintact : s.GuardIntact := {
    made := Specimen.wellMade_made _ _ _
    config := rfl
    directories := by decide
    declared := by intro n hn; cases hn
    table := by decide
    spares := Specimen.sparesBelow_of_le (by decide)
    space := by decide
    low := by intro hw; cases hw }
  have hentries := hintact.entries (by decide) (by decide)
  have hrun := (runModule_of_entries k s.build s.loadedModule {} s.guardBlock _ hintact.find hentries).1
  have hfound : 0 <
      (k.runResult s.build s.loadedModule {} (s.slots.filterMap (Table.entryOf? s.base))).found := by
    rw [found_runResult]
    decide
  obtain ⟨b, es, hb, he, -, -, -, hxrefs, hcomments, -⟩ := runModule_annotations k s.build s.loadedModule {} _
    rfl rfl (congrArg Prod.fst hrun) hfound
  rw [Header.locate_value] at hb
  obtain rfl : s.guardBlock = b := Except.ok.inj (hintact.find.symm.trans hb)
  obtain rfl : [Entry.ofRva 0x140000000 0x10100] = es := Except.ok.inj (hentries.symm.trans he)
  let stored : Nat × List UInt8 := (0x100F8, LittleEndian.encode 8 (0x1234 : UInt64).toNat)
  let load : Nat × List UInt8 :=
    (Specimen.codeRva, [0x49, 0xBA] ++ LittleEndian.encode 8 (0x1235 : UInt64).toNat)
  have hplaced : s.placed = [stored, load] := rfl
  have hstored := s.part_file_of_placed [] [load] stored hplaced (by decide) (by decide)
  have hload := s.part_file_of_placed [stored] [] load hplaced (by decide) (by decide)
  rw [show stored.2.length = 8 from rfl] at hstored
  rw [show load.2.length = 10 from rfl] at hload
  obtain ⟨husage, hshares⟩ := Specimen.isUsage_codeStart hintact.isMapped hintact.space (by decide) _
    (Entry.ofRva 0x140000000 0x10100) 0x1235 0x1234 0x100F8 (List.mem_singleton_self _) (by decide)
    (by decide) (by decide) hstored hload (by decide)
  have hsite : s.address Specimen.codeRva = 0x140010000 := by decide
  have hfunction : (Entry.ofRva 0x140000000 0x10100).function = 0x140010100 := by decide
  rw [hsite] at husage
  rw [hrun] at hxrefs hcomments
  dsimp only at hxrefs hcomments
  refine ⟨_, _, hrun, hfound, ?_, ?_, ?_⟩
  · exact (hxrefs _ _).mpr (.inr ⟨rfl, _, _, _, husage, hshares, .inl (by rw [hfunction])⟩)
  · exact (hxrefs _ _).mpr (.inr ⟨rfl, _, _, _, husage, hshares, .inr (by rw [hfunction])⟩)
  · rw [Std.ExtTreeMap.mem_iff_isSome_getElem?, hcomments _ _ rfl husage]
    rfl

end Marker

end FlowGuard
