import FlowGuard.Proofs.Correlation
import FlowGuard.Proofs.Header
import FlowGuard.Proofs.Snapshot
import FlowGuard.Proofs.Table
import FlowGuard.Run.Marker

/-!
A marking run in one equation. It fails if the header walk or the table does, and then it has asked for nothing;
otherwise it marks every entry, makes the requests of every usage site, redraws, and ends in the host that has
carried out its requests, with the counts that `runResult` gives.
-/

namespace FlowGuard

namespace Marker

def snapshot (k : Marker) (m : Memory) (target : LoadedModule) : Snapshot :=
  (Snapshot.take m target k.options.pageSize).value

def index (k : Marker) (m : Memory) (target : LoadedModule) (es : List Entry) : HashIndex :=
  (HashIndex.build (k.snapshot m target).captured es).value.1

/-- The usage sites of the entries, if the width has a signature to look for. -/
def sites (k : Marker) (m : Memory) (target : LoadedModule) (es : List Entry) : List Correlation.Site :=
  match k.width.signature? with
  | none => []
  | some signature =>
    Correlation.sites (k.snapshot m target).captured (k.index m target es) signature

def siteRequests (k : Marker) (h : Host) (target : LoadedModule) (config : Config) (es : List Entry) :
    List Request :=
  (k.sites h.memory target es).flatMap
    (Correlation.siteRequests config k.width h (k.index h.memory target es))

/-- What a run asks of the host once it has the entries of the table. -/
def runRequests (k : Marker) (h : Host) (target : LoadedModule) (config : Config) (es : List Entry) :
    List Request :=
  if es = [] then []
  else
    Table.markRequests es ++ (if config.wantsCorrelation then k.siteRequests h target config es else [])
      ++ [.refresh]

def markResult (h : Host) (es : List Entry) : RunResult where
  found := es.length
  marked := es.countP fun e => (h.refusal? e.address).isNone
  warnings := es.countP fun e => (h.refusal? e.address).isSome

def runResult (k : Marker) (h : Host) (target : LoadedModule) (config : Config) (es : List Entry) :
    RunResult :=
  if es = [] ∨ config.wantsCorrelation = false ∨ k.width.signature? = none then markResult h es
  else
    let c := (k.sites h.memory target es).foldl
      (Correlation.countSite config (k.index h.memory target es)) {}
    { markResult h es with
      xrefs := c.xrefs
      comments := c.comments
      warnings := (markResult h es).warnings + (k.snapshot h.memory target).warnings
        + es.countP fun e => (HashIndex.storedHash? (k.snapshot h.memory target).captured e).isNone }

theorem correlate_spec (k : Marker) (h : Host) (target : LoadedModule) (config : Config)
    (es : List Entry) (r : RunResult) :
    (k.correlate h target config es r).requests = k.siteRequests h target config es ∧
      (k.correlate h target config es r).value.2 = h.performAll (k.siteRequests h target config es) ∧
      (k.correlate h target config es r).value.1 =
        if k.width.signature? = none then r
        else
          let c := (k.sites h.memory target es).foldl
            (Correlation.countSite config (k.index h.memory target es)) {}
          { r with
            xrefs := c.xrefs
            comments := c.comments
            warnings := r.warnings + (k.snapshot h.memory target).warnings
              + es.countP fun e =>
                  (HashIndex.storedHash? (k.snapshot h.memory target).captured e).isNone } := by
  cases hsig : k.width.signature? with
  | none => simp [correlate, siteRequests, sites, hsig]
  | some signature =>
    obtain ⟨hi, hm, hb⟩ := HashIndex.build_spec (k.snapshot h.memory target).captured es
    obtain ⟨hr, hh, hc⟩ := Correlation.run_spec h (k.snapshot h.memory target).captured
      (k.index h.memory target es) signature config k.width es hi
    have hreq : (Snapshot.take h.memory target k.options.pageSize).requests = [] :=
      Dialogue.requests_run _ _
    have hsites : k.sites h.memory target es =
        Correlation.sites (k.snapshot h.memory target).captured (k.index h.memory target es) signature := by
      simp [sites, hsig]
    have hsnapshot : (Snapshot.take h.memory target k.options.pageSize).value =
        k.snapshot h.memory target := rfl
    have hindex : (HashIndex.build (k.snapshot h.memory target).captured es).value.1 =
        k.index h.memory target es := rfl
    simp only [correlate, hsig, Traced.requests_bind, Traced.value_bind, Traced.requests_note, Traced.requests_pure,
      Traced.value_pure, hsnapshot, hindex, hreq, hb, hr, hh, hc, hm, siteRequests, hsites]
    simp

theorem siteRequests_congr (k : Marker) (h h' : Host) (target : LoadedModule) (config : Config)
    (es : List Entry) (hm : h.memory = h'.memory) (hs : h.symbols = h'.symbols) :
    k.siteRequests h target config es = k.siteRequests h' target config es := by
  have hfun : Correlation.siteRequests config k.width h (k.index h'.memory target es) =
      Correlation.siteRequests config k.width h' (k.index h'.memory target es) := by
    funext site
    unfold Correlation.siteRequests
    split
    · rfl
    · rw [Naming.group_congr h h' k.width _ hs]
  rw [siteRequests, siteRequests, hm, hfun]

theorem finish_spec (k : Marker) (h : Host) (target : LoadedModule) (config : Config)
    (es : List Entry) :
    let marked : Host := h.performAll (Table.markRequests es)
    let t : DecodedTable := {
      entries := es
      marked := es.countP fun e => (h.refusal? e.address).isNone
      warnings := es.countP fun e => (h.refusal? e.address).isSome }
    Table.markRequests es ++ (k.finish marked target config t).requests = k.runRequests h target config es ∧
      (k.finish marked target config t).value =
        (k.runResult h target config es, h.performAll (k.runRequests h target config es)) := by
  intro marked t
  have hmem : marked.memory = h.memory := Host.memory_performAll _ _
  have hsym : marked.symbols = h.symbols := Host.symbols_performAll _ _
  obtain ⟨hr, hh, hc⟩ := correlate_spec k marked target config es (markResult h es)
  rw [siteRequests_congr k marked h target config es hmem hsym] at hr hh
  rw [hmem] at hc
  by_cases hes : es = []
  · subst hes
    simp [finish, t, marked, runRequests, runResult, markResult, Table.markRequests]
  · have hmark : ({ found := t.entries.length, marked := t.marked, warnings := t.warnings } : RunResult) =
        markResult h es := rfl
    cases hw : config.wantsCorrelation with
    | false =>
      simp [finish, t, hes, hw, runRequests, runResult, markResult, Host.performAll_append, Host.perform,
        marked]
    | true =>
      have hfinish : k.finish marked target config t = (do
          let done ← k.correlate marked target config es (markResult h es)
          Traced.request .refresh
          Traced.note (.summary done.1.summary)
          return (done.1, done.2.refresh)) := by
        simp [finish, t, hes, hw, markResult]
      rw [hfinish]
      constructor
      · simp [hr, runRequests, hes, hw]
      · simp only [Traced.value_bind, Traced.value_pure, hh, hc]
        simp [runRequests, runResult, hes, hw, Host.performAll_append, Host.perform, marked]

/-- A run whose headers lead nowhere stops there. -/
theorem runModule_of_header_error (k : Marker) (h : Host) (target : LoadedModule) (config : Config)
    (e : HeaderError) (he : Header.find h.memory target.base k.width = .error e) :
    (k.runModule h target config).value = (.error (.noGuardTable e), h) ∧
      (k.runModule h target config).requests = [] := by
  have hv := Header.locate_value h.memory target.base k.width
  rw [he] at hv
  simp [runModule, markModule, hv, Header.requests_locate]

/-- A run whose table cannot be read stops before it marks anything. -/
theorem runModule_of_table_error (k : Marker) (h : Host) (target : LoadedModule) (config : Config)
    (b : GuardBlock) (e : RunError) (hb : Header.find h.memory target.base k.width = .ok b)
    (he : Table.entries h.memory target.base b = .error e) :
    (k.runModule h target config).value = (.error e, h) ∧
      (k.runModule h target config).requests = [] := by
  have hv := Header.locate_value h.memory target.base k.width
  rw [hb] at hv
  simp [runModule, markModule, hv, Header.requests_locate, Table.decode, Debugger.decode, he]

/-- A run that has the entries of the table carries out its requests. -/
theorem runModule_of_entries (k : Marker) (h : Host) (target : LoadedModule) (config : Config)
    (b : GuardBlock) (es : List Entry) (hb : Header.find h.memory target.base k.width = .ok b)
    (he : Table.entries h.memory target.base b = .ok es) :
    (k.runModule h target config).value =
        (.ok (k.runResult h target config es), h.performAll (k.runRequests h target config es)) ∧
      (k.runModule h target config).requests = k.runRequests h target config es := by
  have hv := Header.locate_value h.memory target.base k.width
  rw [hb] at hv
  have hmr := (Debugger.ofHost.markAll_spec h { entries := es } es).1
  have hmv := Table.value_markAll h { entries := es } es
  obtain ⟨hfr, hfv⟩ := finish_spec k h target config es
  simp [runModule, markModule, hv, Header.requests_locate, Table.decode, Debugger.decode, he, hmr, hmv, hfr, hfv]

end Marker

end FlowGuard
