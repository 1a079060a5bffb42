import FlowGuard.Proofs.Marker

/-!
What the symbols of a host decide: the wording of comments and nothing else. Two hosts that differ in their
symbols give the same result, ask for the same things apart from that wording, and end with the same references,
the same marks and comments at the same addresses.
-/

namespace FlowGuard

def Request.wordless : Request → Request
  | .comment a _ => .comment a ""
  | r => r

/-- Annotations that differ at most in the wording of their comments. -/
structure Annotations.Alike (s t : Annotations) : Prop where
  xrefs : s.xrefs = t.xrefs
  marks : s.marks = t.marks
  commented : ∀ a, a ∈ s.comments ↔ a ∈ t.comments

namespace Host

structure Alike (h h' : Host) : Prop where
  annotations : h.annotations.Alike h'.annotations
  refusal : ∀ a, h.refusal? a = h'.refusal? a

theorem perform_alike {h h' : Host} {r r' : Request} (ha : Alike h h')
    (hr : r.wordless = r'.wordless) : Alike (h.perform r) (h'.perform r') := by
  have hx := ha.annotations.xrefs
  have hm := ha.annotations.marks
  have hc := ha.annotations.commented
  cases r with
  | mark a size =>
    have hr' : r' = .mark a size := by cases r' <;> simp_all [Request.wordless]
    subst hr'
    have hrefusal := ha.refusal a
    cases hf : h.refusal? a with
    | some e =>
      rw [hf] at hrefusal
      simpa [perform, markData, hf, ← hrefusal] using ha
    | none =>
      rw [hf] at hrefusal
      simp only [perform, markData, hf, ← hrefusal]
      exact ⟨⟨hx, by simp [Annotations.setMark, hm], hc⟩, ha.refusal⟩
  | xref p q =>
    have hr' : r' = .xref p q := by cases r' <;> simp_all [Request.wordless]
    subst hr'
    exact ⟨⟨by simp [perform, addXref, Annotations.addXref, hx], hm, hc⟩, ha.refusal⟩
  | comment a text =>
    obtain ⟨text', rfl⟩ : ∃ text', r' = .comment a text' := by
      cases r' <;> simp_all [Request.wordless]
    refine ⟨⟨hx, hm, ?_⟩, ha.refusal⟩
    intro b
    simp [perform, setComment, Annotations.setComment, hc]
  | refresh =>
    have hr' : r' = .refresh := by cases r' <;> simp_all [Request.wordless]
    subst hr'
    exact ⟨⟨hx, hm, hc⟩, ha.refusal⟩

theorem performAll_alike {h h' : Host} {rs rs' : List Request} (ha : Alike h h')
    (hr : rs.map Request.wordless = rs'.map Request.wordless) :
    Alike (h.performAll rs) (h'.performAll rs') := by
  induction rs generalizing rs' h h' with
  | nil =>
    have hr' : rs' = [] := by simpa using hr.symm
    subst hr'
    exact ha
  | cons r rs ih =>
    cases rs' with
    | nil => simp at hr
    | cons r' rs' =>
      simp only [List.map_cons, List.cons.injEq] at hr
      rw [performAll_cons, performAll_cons]
      exact ih (perform_alike ha hr.1) hr.2

end Host

namespace Correlation

theorem groupRequests_wordless (config : Config) (text text' : String) (site : Address) (es : List Entry) :
    (groupRequests config text site es).map Request.wordless =
      (groupRequests config text' site es).map Request.wordless := by
  unfold groupRequests
  cases config.comments <;> simp [Request.wordless]

theorem siteRequests_wordless (config : Config) (w : Width) (h h' : Host) (x : HashIndex) (site : Site) :
    (siteRequests config w h x site).map Request.wordless =
      (siteRequests config w h' x site).map Request.wordless := by
  unfold siteRequests
  split
  · rfl
  · exact groupRequests_wordless config _ _ _ _

end Correlation

namespace Marker

theorem runRequests_wordless (k : Marker) (h h' : Host) (target : LoadedModule) (config : Config)
    (es : List Entry) (hm : h.memory = h'.memory) :
    (k.runRequests h target config es).map Request.wordless =
      (k.runRequests h' target config es).map Request.wordless := by
  have hsites : (k.siteRequests h target config es).map Request.wordless =
      (k.siteRequests h' target config es).map Request.wordless := by
    unfold siteRequests
    rw [hm, List.map_flatMap, List.map_flatMap]
    congr 1
    funext site
    exact Correlation.siteRequests_wordless config k.width h h' _ site
  unfold runRequests
  split
  · rfl
  · cases config.wantsCorrelation <;> simp [hsites]

theorem runResult_congr (k : Marker) (h h' : Host) (target : LoadedModule) (config : Config)
    (es : List Entry) (hm : h.memory = h'.memory) (hr : ∀ a, h.refusal? a = h'.refusal? a) :
    k.runResult h target config es = k.runResult h' target config es := by
  have hmark : markResult h es = markResult h' es := by simp only [markResult, hr]
  simp only [runResult, hmark, hm]

/-- A run on a host with other symbols. -/
theorem runModule_symbols (k : Marker) (h : Host) (symbols : Std.ExtTreeMap Address String)
    (target : LoadedModule) (config : Config) :
    (k.runModule h target config).value.1 = (k.runModule { h with symbols } target config).value.1 ∧
      (k.runModule h target config).value.2.annotations.Alike
        (k.runModule { h with symbols } target config).value.2.annotations := by
  let h' : Host := { h with symbols }
  have halike : Host.Alike h h' := ⟨⟨rfl, rfl, fun _ => Iff.rfl⟩, fun _ => rfl⟩
  cases hb : Header.find h.memory target.base k.width with
  | error e =>
    rw [(runModule_of_header_error k h target config e hb).1,
      (runModule_of_header_error k h' target config e hb).1]
    exact ⟨rfl, halike.annotations⟩
  | ok b =>
    cases he : Table.entries h.memory target.base b with
    | error e =>
      rw [(runModule_of_table_error k h target config b e hb he).1,
        (runModule_of_table_error k h' target config b e hb he).1]
      exact ⟨rfl, halike.annotations⟩
    | ok es =>
      rw [(runModule_of_entries k h target config b es hb he).1,
        (runModule_of_entries k h' target config b es hb he).1]
      refine ⟨?_, ?_⟩
      · rw [runResult_congr k h h' target config es rfl halike.refusal]
      · exact (Host.performAll_alike halike (runRequests_wordless k h h' target config es rfl)).annotations

theorem run_symbols (k : Marker) (h : Host) (symbols : Std.ExtTreeMap Address String) (config : Config) :
    (k.run h config).value.1 = (k.run { h with symbols } config).value.1 ∧
      (k.run h config).value.2.annotations.Alike (k.run { h with symbols } config).value.2.annotations := by
  have hselected : ({ h with symbols } : Host).selectedModule? = h.selectedModule? := rfl
  unfold run
  rw [hselected]
  cases h.selectedModule? with
  | none => exact ⟨rfl, ⟨rfl, rfl, fun _ => Iff.rfl⟩⟩
  | some target => exact runModule_symbols k h symbols target config

end Marker

end FlowGuard
