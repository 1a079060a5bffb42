import FlowGuard.Proofs.Effects
import FlowGuard.Proofs.Marker

/-!
What a run writes, kind by kind. Each switch decides about its own kind of request and about nothing else: the marks
are those of the entries, the references and the comments are fixed by memory, symbols and entries, and a switch that
is off leaves its kind out. The counts of the result are the lengths of these lists.
-/

namespace FlowGuard

namespace Correlation

def siteLinks (x : HashIndex) (site : Site) : List (Address × Address) :=
  match x.get? site.hash with
  | none => []
  | some group => group.entries.flatMap fun e => [(site.address, e.function), (e.function, site.address)]

def siteComments (w : Width) (h : Host) (x : HashIndex) (site : Site) : List (Address × String) :=
  match x.get? site.hash with
  | none => []
  | some group => [(site.address, Naming.group h w group.entries)]

theorem xrefs_linkRequests (site : Address) (es : List Entry) :
    (linkRequests site es).filterMap Request.xref? =
      es.flatMap fun e => [(site, e.function), (e.function, site)] := by
  rw [linkRequests, List.filterMap_flatMap]
  rfl

theorem comments_linkRequests (site : Address) (es : List Entry) :
    (linkRequests site es).filterMap Request.comment? = [] := by
  rw [linkRequests, List.filterMap_flatMap]
  simp [List.filterMap_cons, Request.comment?]

theorem marks_linkRequests (site : Address) (es : List Entry) :
    (linkRequests site es).filterMap Request.mark? = [] := by
  rw [linkRequests, List.filterMap_flatMap]
  simp [List.filterMap_cons, Request.mark?]

theorem xrefs_siteRequests (config : Config) (w : Width) (h : Host) (x : HashIndex) (site : Site) :
    (siteRequests config w h x site).filterMap Request.xref? =
      if config.xrefs then siteLinks x site else [] := by
  unfold siteRequests siteLinks
  cases x.get? site.hash with
  | none => simp
  | some group =>
    unfold groupRequests
    cases config.xrefs <;> cases config.comments <;>
      simp [xrefs_linkRequests, List.filterMap_cons, Request.xref?]

theorem comments_siteRequests (config : Config) (w : Width) (h : Host) (x : HashIndex) (site : Site) :
    (siteRequests config w h x site).filterMap Request.comment? =
      if config.comments then siteComments w h x site else [] := by
  unfold siteRequests siteComments
  cases x.get? site.hash with
  | none => simp
  | some group =>
    unfold groupRequests
    cases config.xrefs <;> cases config.comments <;>
      simp [comments_linkRequests, Request.comment?]

theorem marks_siteRequests (config : Config) (w : Width) (h : Host) (x : HashIndex) (site : Site) :
    (siteRequests config w h x site).filterMap Request.mark? = [] := by
  unfold siteRequests
  cases x.get? site.hash with
  | none => simp
  | some group =>
    unfold groupRequests
    cases config.xrefs <;> cases config.comments <;>
      simp [marks_linkRequests, List.filterMap_cons, Request.mark?]

theorem refresh_not_mem_siteRequests (config : Config) (w : Width) (h : Host) (x : HashIndex) (site : Site) :
    .refresh ∉ siteRequests config w h x site := by
  unfold siteRequests
  cases x.get? site.hash with
  | none => simp
  | some group =>
    unfold groupRequests linkRequests
    cases config.xrefs <;> cases config.comments <;> simp

theorem length_siteLinks (x : HashIndex) (site : Site) (group : HashGroup)
    (hg : x.get? site.hash = some group) : (siteLinks x site).length = 2 * group.entries.length := by
  simp [siteLinks, hg, List.length_flatMap, List.map_const', Nat.mul_comm]

/-- The counts after visiting sites are those of their references and comments. -/
theorem count_sites (config : Config) (w : Width) (h : Host) (x : HashIndex) (r : CorrelationResult)
    (sites : List Site) :
    2 * (sites.foldl (countSite config x) r).xrefs =
        2 * r.xrefs + (if config.xrefs then (sites.flatMap (siteLinks x)).length else 0) ∧
      (sites.foldl (countSite config x) r).comments =
        r.comments + if config.comments then (sites.flatMap (siteComments w h x)).length else 0 := by
  induction sites generalizing r with
  | nil => simp
  | cons site rest ih =>
    obtain ⟨hx, hc⟩ := ih (countSite config x r site)
    rw [List.foldl_cons, hx, hc, List.flatMap_cons, List.flatMap_cons, List.length_append, List.length_append]
    cases hg : x.get? site.hash with
    | none => simp [countSite, siteLinks, siteComments, hg]
    | some group =>
      have hlen := length_siteLinks x site group hg
      have hone : (siteComments w h x site).length = 1 := by simp [siteComments, hg]
      rw [hlen, hone]
      simp only [countSite, hg]
      constructor
      · cases config.xrefs
        · simp
        · simp only [if_true]
          omega
      · cases config.comments
        · simp
        · simp only [if_true]
          omega

end Correlation

namespace Marker

def links (k : Marker) (m : Memory) (target : LoadedModule) (es : List Entry) : List (Address × Address) :=
  (k.sites m target es).flatMap (Correlation.siteLinks (k.index m target es))

def texts (k : Marker) (h : Host) (target : LoadedModule) (es : List Entry) : List (Address × String) :=
  (k.sites h.memory target es).flatMap
    (Correlation.siteComments k.width h (k.index h.memory target es))

theorem get?_index_nil (k : Marker) (m : Memory) (target : LoadedModule) (hash : UInt64) :
    (k.index m target []).get? hash = none :=
  (HashIndex.build_spec (k.snapshot m target).captured []).1 hash

/-- Without entries there is no hash that could be loaded. -/
theorem sites_nil (k : Marker) (m : Memory) (target : LoadedModule) : k.sites m target [] = [] := by
  unfold sites
  cases k.width.signature? with
  | none => rfl
  | some signature => simp [Correlation.sites, Correlation.sitesIn, get?_index_nil]

theorem xrefs_siteRequests (k : Marker) (h : Host) (target : LoadedModule) (config : Config)
    (es : List Entry) :
    (k.siteRequests h target config es).filterMap Request.xref? =
      if config.xrefs then k.links h.memory target es else [] := by
  rw [siteRequests, List.filterMap_flatMap]
  simp only [Correlation.xrefs_siteRequests]
  cases config.xrefs <;> simp [links]

theorem comments_siteRequests (k : Marker) (h : Host) (target : LoadedModule) (config : Config)
    (es : List Entry) :
    (k.siteRequests h target config es).filterMap Request.comment? =
      if config.comments then k.texts h target es else [] := by
  rw [siteRequests, List.filterMap_flatMap]
  simp only [Correlation.comments_siteRequests]
  cases config.comments <;> simp [texts]

theorem marks_siteRequests (k : Marker) (h : Host) (target : LoadedModule) (config : Config)
    (es : List Entry) : (k.siteRequests h target config es).filterMap Request.mark? = [] := by
  rw [siteRequests, List.filterMap_flatMap]
  simp [Correlation.marks_siteRequests]

theorem refresh_not_mem_siteRequests (k : Marker) (h : Host) (target : LoadedModule) (config : Config)
    (es : List Entry) : .refresh ∉ k.siteRequests h target config es := by
  rw [siteRequests, List.mem_flatMap]
  rintro ⟨site, -, hm⟩
  exact Correlation.refresh_not_mem_siteRequests _ _ _ _ _ hm

/-- The references that a run asks for. -/
theorem xrefs_runRequests (k : Marker) (h : Host) (target : LoadedModule) (config : Config)
    (es : List Entry) :
    (k.runRequests h target config es).filterMap Request.xref? =
      if config.xrefs then k.links h.memory target es else [] := by
  have hmarks : (Table.markRequests es).filterMap Request.xref? = [] := by
    simp [Table.markRequests, Request.xref?]
  unfold runRequests
  by_cases hes : es = []
  · simp [hes, links, sites_nil]
  · cases hx : config.xrefs with
    | true => simp [hes, hx, Config.wantsCorrelation, hmarks, xrefs_siteRequests, Request.xref?]
    | false =>
      cases config.wantsCorrelation <;> simp [hes, hx, hmarks, xrefs_siteRequests, Request.xref?]

/-- The comments that a run asks for. -/
theorem comments_runRequests (k : Marker) (h : Host) (target : LoadedModule) (config : Config)
    (es : List Entry) :
    (k.runRequests h target config es).filterMap Request.comment? =
      if config.comments then k.texts h target es else [] := by
  have hmarks : (Table.markRequests es).filterMap Request.comment? = [] := by
    simp [Table.markRequests, Request.comment?]
  unfold runRequests
  by_cases hes : es = []
  · simp [hes, texts, sites_nil]
  · cases hc : config.comments with
    | true => simp [hes, hc, Config.wantsCorrelation, hmarks, comments_siteRequests, Request.comment?]
    | false =>
      cases config.wantsCorrelation <;> simp [hes, hc, hmarks, comments_siteRequests, Request.comment?]

/-- The marks that a run asks for. -/
theorem marks_runRequests (k : Marker) (h : Host) (target : LoadedModule) (config : Config)
    (es : List Entry) :
    (k.runRequests h target config es).filterMap Request.mark? = es.map fun e => (e.address, hashSize) := by
  have hmarks : (Table.markRequests es).filterMap Request.mark? = es.map fun e => (e.address, hashSize) := by
    rw [Table.markRequests, List.filterMap_map, ← List.filterMap_eq_map]
    rfl
  unfold runRequests
  by_cases hes : es = []
  · simp [hes]
  · cases config.wantsCorrelation <;> simp [hes, hmarks, marks_siteRequests, Request.mark?]

theorem refresh_runRequests (k : Marker) (h : Host) (target : LoadedModule) (config : Config)
    (es : List Entry) :
    (k.runRequests h target config es).count .refresh = if es = [] then 0 else 1 := by
  have hmarks : .refresh ∉ Table.markRequests es := by simp [Table.markRequests]
  have hsites := List.count_eq_zero.mpr (k.refresh_not_mem_siteRequests h target config es)
  unfold runRequests
  by_cases hes : es = []
  · simp [hes]
  · cases config.wantsCorrelation <;> simp [hes, List.count_eq_zero.mpr hmarks, hsites]

def annotated (k : Marker) (h : Host) (target : LoadedModule) (config : Config) (es : List Entry) :
    Annotations :=
  let links := if config.xrefs then k.links h.memory target es else []
  let texts := if config.comments then k.texts h target es else []
  { xrefs := h.annotations.xrefs.insertMany links
    comments := h.annotations.comments.insertMany texts
    marks := h.annotations.marks.insertMany
      ((es.map fun e => (e.address, hashSize)).filter fun p => h.accepts p.1)
    xrefCalls := h.annotations.xrefCalls + links.length
    commentCalls := h.annotations.commentCalls + texts.length }

/-- A run changes annotations and redraws, and nothing else of the host. -/
theorem performAll_runRequests (k : Marker) (h : Host) (target : LoadedModule) (config : Config)
    (es : List Entry) :
    h.performAll (k.runRequests h target config es) =
      { h with
        annotations := k.annotated h target config es
        refreshCount := h.refreshCount + if es = [] then 0 else 1 } := by
  rw [Host.performAll_eq, refresh_runRequests, Annotations.record, xrefs_runRequests, comments_runRequests,
    marks_runRequests]
  rfl

/-- The entries of the table of a module, or why a run does not get to them. -/
def tableEntries (k : Marker) (m : Memory) (target : LoadedModule) : Except RunError (List Entry) :=
  match Header.find m target.base k.width with
  | .error e => .error (.noGuardTable e)
  | .ok b => Table.entries m target.base b

theorem runModule_of_no_entries (k : Marker) (h : Host) (target : LoadedModule) (config : Config)
    (e : RunError) (he : k.tableEntries h.memory target = .error e) :
    (k.runModule h target config).value = (.error e, h) ∧ (k.runModule h target config).requests = [] := by
  unfold tableEntries at he
  cases hb : Header.find h.memory target.base k.width with
  | error e' =>
    rw [hb] at he
    cases he
    exact runModule_of_header_error k h target config e' hb
  | ok b =>
    rw [hb] at he
    exact runModule_of_table_error k h target config b e hb he

theorem exists_block_of_tableEntries (k : Marker) (m : Memory) (target : LoadedModule) (es : List Entry)
    (he : k.tableEntries m target = .ok es) :
    ∃ b, Header.find m target.base k.width = .ok b ∧ Table.entries m target.base b = .ok es := by
  unfold tableEntries at he
  cases hb : Header.find m target.base k.width with
  | error e =>
    rw [hb] at he
    cases he
  | ok b =>
    rw [hb] at he
    exact ⟨b, rfl, he⟩

theorem runModule_of_tableEntries (k : Marker) (h : Host) (target : LoadedModule) (config : Config)
    (es : List Entry) (he : k.tableEntries h.memory target = .ok es) :
    (k.runModule h target config).value =
        (.ok (k.runResult h target config es), h.performAll (k.runRequests h target config es)) ∧
      (k.runModule h target config).requests = k.runRequests h target config es := by
  obtain ⟨b, hb, hes⟩ := exists_block_of_tableEntries k h.memory target es he
  exact runModule_of_entries k h target config b es hb hes

/-- A run that returns has found the entries of its table. -/
theorem tableEntries_of_ok (k : Marker) (h : Host) (target : LoadedModule) (config : Config) (r : RunResult)
    (hr : (k.runModule h target config).value.1 = .ok r) :
    ∃ es, k.tableEntries h.memory target = .ok es ∧ r = k.runResult h target config es := by
  cases he : k.tableEntries h.memory target with
  | error e =>
    rw [(k.runModule_of_no_entries h target config e he).1] at hr
    cases hr
  | ok es =>
    rw [(k.runModule_of_tableEntries h target config es he).1] at hr
    cases hr
    exact ⟨es, rfl, rfl⟩

/-- The stage that looks for usage sites takes place. -/
def Correlates (k : Marker) (config : Config) (es : List Entry) : Prop :=
  k.width = .bits64 ∧ config.wantsCorrelation = true ∧ es ≠ []

instance (k : Marker) (config : Config) (es : List Entry) : Decidable (k.Correlates config es) :=
  inferInstanceAs (Decidable (_ ∧ _))

theorem not_correlates_iff (k : Marker) (config : Config) (es : List Entry) :
    ¬k.Correlates config es ↔
      es = [] ∨ config.wantsCorrelation = false ∨ k.width.signature? = none := by
  unfold Correlates
  cases k.width <;> cases config.wantsCorrelation <;> simp [Width.signature?]

/-- A run that does not look for usage sites has no references and comments to ask for. -/
theorem asked_of_not_correlates (k : Marker) (h : Host) (target : LoadedModule) (config : Config)
    (es : List Entry) (hc : ¬k.Correlates config es) :
    (config.xrefs = true → k.links h.memory target es = []) ∧
      (config.comments = true → k.texts h target es = []) := by
  rcases (k.not_correlates_iff config es).mp hc with rfl | hoff | hs
  · simp [links, texts, sites_nil]
  · obtain ⟨hx, ht⟩ : config.xrefs = false ∧ config.comments = false := by
      simpa [Config.wantsCorrelation] using hoff
    simp [hx, ht]
  · simp [links, texts, sites, hs]

/-- Without a look for usage sites, marks are all that changes. -/
theorem annotated_of_not_correlates (k : Marker) (h : Host) (target : LoadedModule) (config : Config)
    (es : List Entry) (hc : ¬k.Correlates config es) :
    k.annotated h target config es =
      { h.annotations with marks := (k.annotated h target config es).marks } := by
  obtain ⟨hx, ht⟩ := k.asked_of_not_correlates h target config es hc
  simp +contextual [annotated, hx, ht]

theorem runResult_of_not_correlates (k : Marker) (h : Host) (target : LoadedModule) (config : Config)
    (es : List Entry) (hc : ¬k.Correlates config es) :
    k.runResult h target config es = markResult h es := by
  rw [runResult, if_pos ((k.not_correlates_iff config es).mp hc)]

theorem marked_runResult (k : Marker) (h : Host) (target : LoadedModule) (config : Config)
    (es : List Entry) :
    (k.runResult h target config es).marked = es.countP fun e => h.accepts e.address := by
  unfold runResult
  split <;> rfl

/-- References are counted once for both directions, comments as they are. -/
theorem counts_runResult (k : Marker) (h : Host) (target : LoadedModule) (config : Config)
    (es : List Entry) :
    2 * (k.runResult h target config es).xrefs =
        (if config.xrefs then (k.links h.memory target es).length else 0) ∧
      (k.runResult h target config es).comments =
        if config.comments then (k.texts h target es).length else 0 := by
  by_cases hc : k.Correlates config es
  · have hcount := Correlation.count_sites config k.width h (k.index h.memory target es) {}
      (k.sites h.memory target es)
    rw [runResult, if_neg (fun hnot => (k.not_correlates_iff config es).mpr hnot hc)]
    simpa [links, texts] using hcount
  · rw [runResult_of_not_correlates k h target config es hc]
    obtain ⟨hx, ht⟩ := k.asked_of_not_correlates h target config es hc
    simp +contextual [markResult, hx, ht]

/-- Warnings are the refused marks and, when usage sites are looked for, the trouble with the captured code. -/
theorem warnings_runResult (k : Marker) (h : Host) (target : LoadedModule) (config : Config)
    (es : List Entry) :
    (k.runResult h target config es).warnings =
      (es.countP fun e => !h.accepts e.address) +
        if k.Correlates config es then
          (k.snapshot h.memory target).warnings +
            es.countP fun e => (HashIndex.storedHash? (k.snapshot h.memory target).captured e).isNone
        else 0 := by
  have hrefused : (markResult h es).warnings = es.countP fun e => !h.accepts e.address := by
    simp [markResult, Host.accepts]
  by_cases hc : k.Correlates config es
  · rw [runResult, if_neg (fun hnot => (k.not_correlates_iff config es).mpr hnot hc), if_pos hc, ← hrefused]
    exact Nat.add_assoc _ _ _
  · rw [runResult_of_not_correlates k h target config es hc, if_neg hc, hrefused, Nat.add_zero]

end Marker

end FlowGuard
