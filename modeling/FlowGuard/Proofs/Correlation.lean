import FlowGuard.Proofs.Scan
import FlowGuard.Run.Correlation

/-!
Correlation by its requests. The index that a correlation changes keeps its hashes, so the usage sites can be
found in advance, with the index at the start, and be visited one after another. A comment that a group keeps
is the one that would be made for it again, since names depend on the symbols alone; hence a correlation makes
at each site the requests that its group in the original index calls for, and ends in the host that has carried
them out.
-/

namespace FlowGuard

namespace Naming

theorem function_congr (h h' : Host) (w : Width) (a : Address) (hs : h.symbols = h'.symbols) :
    function h w a = function h' w a := by
  simp [function, Decoders.function, Host.symbolAt?, hs]

theorem group_congr (h h' : Host) (w : Width) (es : List Entry) (hs : h.symbols = h'.symbols) :
    group h w es = group h' w es := by
  unfold group
  simp only [function_congr h h' w _ hs]

end Naming

namespace Correlation

/-- The usage sites of a region: an indexed hash is not searched for further signatures. -/
def sitesIn (signature : List UInt8) (x : HashIndex) (r : Region) : List Site :=
  let known (hit : HashLoad) : Bool := (x.get? hit.hash).isSome
  ((HashLoad.search signature (fun _ hit => known hit) r.bytes.toList).filter known).map fun hit =>
    { address := r.start + UInt64.ofNat hit.offset, hash := hit.hash }

/-- The usage sites that a scan of the code at `start` still comes by, after a number of hits. -/
def sitesFrom (signature : List UInt8) (x : HashIndex) (start : Address) (code : List UInt8) (scan : HashLoad.Scan)
    (seen : Nat) : List Site :=
  let known (hit : HashLoad) : Bool := (x.get? hit.hash).isSome
  if signature = [] then []
  else
    ((HashLoad.searchFrom signature (fun _ hit => known hit) scan.position 0 seen
      (code.drop scan.position)).filter known).map fun hit =>
        { address := start + UInt64.ofNat hit.offset, hash := hit.hash }

def sites (c : Captured) (x : HashIndex) (signature : List UInt8) : List Site :=
  c.regions.flatMap (sitesIn signature x)

def visit (config : Config) (w : Width) (s : State) (site : Site) : Traced State :=
  match s.index.get? site.hash with
  | none => pure s
  | some group => annotate config w s site group

def visitAll (config : Config) (w : Width) (s : State) : List Site → Traced State
  | [] => pure s
  | site :: rest => do
    let s ← visit config w s site
    visitAll config w s rest

def linkRequests (site : Address) (es : List Entry) : List Request :=
  es.flatMap fun e => [.xref site e.function, .xref e.function site]

/-- What a site asks of the host when the functions that share its hash are these. -/
def groupRequests (config : Config) (text : String) (site : Address) (es : List Entry) : List Request :=
  (if config.xrefs then linkRequests site es else []) ++
    if config.comments then [.comment site text] else []

def siteRequests (config : Config) (w : Width) (h : Host) (x : HashIndex) (site : Site) : List Request :=
  match x.get? site.hash with
  | none => []
  | some group => groupRequests config (Naming.group h w group.entries) site.address group.entries

def countSite (config : Config) (x : HashIndex) (r : CorrelationResult) (site : Site) : CorrelationResult :=
  match x.get? site.hash with
  | none => r
  | some group =>
    { xrefs := r.xrefs + if config.xrefs then group.entries.length else 0
      comments := r.comments + if config.comments then 1 else 0
      sites := r.sites + 1 }

/-- The index `y` has the groups of `x`, and every comment kept in it is the one made afresh. -/
structure Keeps (h : Host) (w : Width) (x y : HashIndex) : Prop where
  entries : ∀ hash, (y.get? hash).map HashGroup.entries = (x.get? hash).map HashGroup.entries
  comment : ∀ hash group text, y.get? hash = some group → group.comment = some text →
    text = Naming.group h w group.entries

theorem linkAll_spec (h : Host) (site : Address) (es : List Entry) :
    (linkAll h site es).requests = linkRequests site es ∧
      (linkAll h site es).value = h.performAll (linkRequests site es) := by
  induction es generalizing h with
  | nil => simp [linkAll, linkRequests]
  | cons e es ih =>
    obtain ⟨hr, hv⟩ := ih ((h.addXref site e.function).addXref e.function site)
    simp only [linkRequests] at hr hv
    simp [linkAll, linkRequests, hr, hv, Host.perform]

theorem get?_setComment (x : HashIndex) (hash hash' : UInt64) (group : HashGroup) (text : String) :
    (x.setComment hash group text).get? hash' =
      if maskHash hash = maskHash hash' then some { group with comment := some text }
      else x.get? hash' := by
  unfold HashIndex.setComment HashIndex.get?
  simp only [Std.ExtTreeMap.getElem?_insert, Std.LawfulEqCmp.compare_eq_iff_eq]

theorem keeps_setComment {h : Host} {w : Width} {x y : HashIndex} (hk : Keeps h w x y) (hash : UInt64)
    (group : HashGroup) (hg : y.get? hash = some group) :
    Keeps h w x (y.setComment hash group (Naming.group h w group.entries)) := by
  constructor
  · intro hash'
    rw [get?_setComment]
    by_cases hm : maskHash hash = maskHash hash'
    · rw [← hk.entries hash', ← HashIndex.get?_congr y hash hash' hm, hg]
      simp [hm]
    · simp only [hm, if_false]
      exact hk.entries hash'
  · intro hash' group' text hg' ht
    rw [get?_setComment] at hg'
    by_cases hm : maskHash hash = maskHash hash'
    · simp only [hm, if_true, Option.some.injEq] at hg'
      subst hg'
      simpa using ht.symm
    · simp only [hm, if_false] at hg'
      exact hk.comment hash' group' text hg' ht

theorem link_spec (config : Config) (s : State) (site : Site) (group : HashGroup) :
    (link config s site group).requests =
        (if config.xrefs then linkRequests site.address group.entries else []) ∧
      (link config s site group).value.host =
        s.host.performAll (if config.xrefs then linkRequests site.address group.entries else []) ∧
      (link config s site group).value.index = s.index ∧
      (link config s site group).value.result =
        { s.result with xrefs := s.result.xrefs + if config.xrefs then group.entries.length else 0 } := by
  obtain ⟨hr, hv⟩ := linkAll_spec s.host site.address group.entries
  cases hx : config.xrefs with
  | true => simp [link, hx, hr, hv]
  | false => simp [link, hx]

theorem comment_spec (config : Config) (w : Width) (s : State) (site : Site) (group : HashGroup)
    (text : String) (ht : group.comment.getD (Naming.group s.host w group.entries) = text) :
    (comment config w s site group).requests =
        (if config.comments then [.comment site.address text] else []) ∧
      (comment config w s site group).value.host =
        s.host.performAll (if config.comments then [.comment site.address text] else []) ∧
      (comment config w s site group).value.index =
        (if config.comments then s.index.setComment site.hash group text else s.index) ∧
      (comment config w s site group).value.result =
        { s.result with comments := s.result.comments + if config.comments then 1 else 0 } := by
  cases hc : config.comments with
  | true => simp [comment, hc, ht, Host.perform]
  | false => simp [comment, hc]

/-- Annotating a site makes the requests of its group, with the comment that the group has kept or would get. -/
theorem annotate_spec (config : Config) (w : Width) (s : State) (site : Site) (group : HashGroup) (text : String)
    (ht : group.comment.getD (Naming.group s.host w group.entries) = text) :
    (annotate config w s site group).requests = groupRequests config text site.address group.entries ∧
      (annotate config w s site group).value.host =
        s.host.performAll (groupRequests config text site.address group.entries) ∧
      (annotate config w s site group).value.index =
        (if config.comments then s.index.setComment site.hash group text else s.index) ∧
      (annotate config w s site group).value.result =
        { xrefs := s.result.xrefs + if config.xrefs then group.entries.length else 0
          comments := s.result.comments + if config.comments then 1 else 0
          sites := s.result.sites + 1 } := by
  let s₁ : State := { s with result := { s.result with sites := s.result.sites + 1 } }
  obtain ⟨hlr, hlh, hli, hlc⟩ := link_spec config s₁ site group
  have hsymbols : (link config s₁ site group).value.host.symbols = s.host.symbols := by
    rw [hlh, Host.symbols_performAll]
  obtain ⟨hcr, hch, hci, hcc⟩ := comment_spec config w (link config s₁ site group).value site group text
    (by rw [Naming.group_congr _ _ w _ hsymbols, ht])
  have hannotate : annotate config w s site group =
      link config s₁ site group >>= fun s => comment config w s site group := rfl
  rw [hannotate]
  refine ⟨?_, ?_, ?_, ?_⟩
  · rw [Traced.requests_bind, hlr, hcr, groupRequests]
  · rw [Traced.value_bind, hch, hlh, groupRequests, Host.performAll_append]
  · rw [Traced.value_bind, hci, hli]
  · rw [Traced.value_bind, hcc, hlc]

def SameKeys (x y : HashIndex) : Prop :=
  ∀ hash, (y.get? hash).isSome = (x.get? hash).isSome

theorem sameKeys_setComment {x y : HashIndex} (h : SameKeys x y) {hash : UInt64} {group : HashGroup}
    (hg : y.get? hash = some group) (text : String) : SameKeys x (y.setComment hash group text) := by
  intro hash'
  rw [get?_setComment]
  by_cases hm : maskHash hash = maskHash hash'
  · rw [if_pos hm, ← h hash', ← HashIndex.get?_congr y hash hash' hm, hg]
    rfl
  · rw [if_neg hm, h hash']

/-- Annotating a site puts no hash into the index and takes none out of it. -/
theorem sameKeys_annotate {x : HashIndex} (config : Config) (w : Width) {s : State} (hkeys : SameKeys x s.index)
    {site : Site} {group : HashGroup} (hg : s.index.get? site.hash = some group) :
    SameKeys x (annotate config w s site group).value.index := by
  rw [(annotate_spec config w s site group _ rfl).2.2.1]
  split
  · exact sameKeys_setComment hkeys hg _
  · exact hkeys

theorem visitAll_append (config : Config) (w : Width) (s : State) (front back : List Site) :
    visitAll config w s (front ++ back) = visitAll config w s front >>= fun s => visitAll config w s back := by
  induction front generalizing s with
  | nil => rfl
  | cons site front ih => simp only [List.cons_append, visitAll, ih, Traced.bind_assoc]

theorem sameKeys_visitAll {x : HashIndex} (config : Config) (w : Width) (sites : List Site) {s : State}
    (hkeys : SameKeys x s.index) : SameKeys x (visitAll config w s sites).value.index := by
  induction sites generalizing s with
  | nil => exact hkeys
  | cons site rest ih =>
    rw [visitAll, Traced.value_bind]
    apply ih
    unfold visit
    split
    · exact hkeys
    · exact sameKeys_annotate config w hkeys ‹_›

section

variable {signature : List UInt8} {x : HashIndex} {start : Address} {code : List UInt8} {scan called : HashLoad.Scan}
  {hit : HashLoad}

theorem sitesFrom_of_end (hnext : scan.next signature code = (none, called)) (seen : Nat) :
    sitesFrom signature x start code scan seen = [] := by
  unfold sitesFrom
  split
  · rfl
  case isFalse hne =>
    rcases HashLoad.Scan.next_cases signature code hne (fun _ hit => (x.get? hit.hash).isSome) scan with
      ⟨-, hnone⟩ | ⟨hit, hsome, -⟩
    · simp only [hnone, List.filter_nil, List.map_nil]
    · rw [hnext] at hsome
      cases hsome

/-- The next hit is a site if its hash is in the index, and then this hash is passed over. -/
theorem sitesFrom_of_hit (hnext : scan.next signature code = (some hit, called)) (seen : Nat) :
    sitesFrom signature x start code scan seen =
      if (x.get? hit.hash).isSome then
        { address := start + UInt64.ofNat hit.offset, hash := hit.hash } ::
          sitesFrom signature x start code called.skipHash (seen + 1)
      else sitesFrom signature x start code called (seen + 1) := by
  by_cases hne : signature = []
  · simp [HashLoad.Scan.next, hne] at hnext
  · rcases HashLoad.Scan.next_cases signature code hne (fun _ hit => (x.get? hit.hash).isSome) scan with
      ⟨hnone, -⟩ | ⟨found, hsome, hsearch⟩
    · rw [hnext] at hnone
      cases hnone
    · rw [hnext] at hsome
      cases hsome
      by_cases hknown : (x.get? hit.hash).isSome = true
      · simp [sitesFrom, hne, hsearch, hknown, HashLoad.covered, HashLoad.Scan.skipHash, Nat.add_assoc]
      · simp [sitesFrom, hne, hsearch, hknown, HashLoad.covered]

end

theorem sitesFrom_start (signature : List UInt8) (x : HashIndex) (r : Region) :
    sitesFrom signature x r.start r.bytes.toList {} 0 = sitesIn signature x r := by
  unfold sitesFrom sitesIn HashLoad.search
  split <;> rfl

/-- Going on through a code visits the sites that are still to come, whatever comments the index has got in between. -/
theorem scanCode_eq (signature : List UInt8) (config : Config) (w : Width) (start : Address) (code : List UInt8)
    (scan : HashLoad.Scan) {x : HashIndex} {s : State} (hkeys : SameKeys x s.index) (seen : Nat) :
    scanCode signature config w start code scan s =
      visitAll config w s (sitesFrom signature x start code scan seen) := by
  fun_induction scanCode signature config w start code scan s generalizing seen with
  | case1 scan s called hnext =>
    rw [sitesFrom_of_end hnext]
    rfl
  | case2 scan s hit called hnext _ hg ih =>
    have hunknown : ¬(x.get? hit.hash).isSome = true := by simp [← hkeys hit.hash, hg]
    rw [ih hkeys (seen + 1), sitesFrom_of_hit hnext, if_neg hunknown]
  | case3 scan s hit called hnext _ group hg ih =>
    have hknown : (x.get? hit.hash).isSome = true := by simp [← hkeys hit.hash, hg]
    rw [sitesFrom_of_hit hnext, if_pos hknown, visitAll, visit]
    simp only [hg]
    exact Traced.bind_congr_value _ _ _ (ih _ (sameKeys_annotate config w hkeys hg) (seen + 1))

theorem scanAll_eq (signature : List UInt8) (config : Config) (w : Width) (regions : List Region) {x : HashIndex}
    {s : State} (hkeys : SameKeys x s.index) :
    scanAll signature config w s regions = visitAll config w s (regions.flatMap (sitesIn signature x)) := by
  induction regions generalizing s with
  | nil => rfl
  | cons r rest ih =>
    rw [scanAll, scanCode_eq signature config w r.start r.bytes.toList {} hkeys 0, sitesFrom_start,
      List.flatMap_cons, visitAll_append]
    exact Traced.bind_congr_value _ _ _ (ih (sameKeys_visitAll config w _ hkeys))

/-- The usage sites can be found in advance. -/
theorem run_eq_visitAll (h : Host) (c : Captured) (x : HashIndex) (signature : List UInt8) (config : Config)
    (w : Width) :
    run h c x signature config w = visitAll config w { host := h, index := x } (sites c x signature) :=
  scanAll_eq signature config w c.regions fun _ => rfl

/-- A visit makes the requests of its site, whatever comments have been kept before. -/
theorem visit_spec (config : Config) (w : Width) (h : Host) (x : HashIndex) (s : State) (site : Site)
    (hk : Keeps h w x s.index) (hs : s.host.symbols = h.symbols) :
    (visit config w s site).requests = siteRequests config w h x site ∧
      (visit config w s site).value.host = s.host.performAll (siteRequests config w h x site) ∧
      (visit config w s site).value.result = countSite config x s.result site ∧
      Keeps h w x (visit config w s site).value.index := by
  have he := hk.entries site.hash
  cases hg : s.index.get? site.hash with
  | none =>
    rw [hg] at he
    have hx : x.get? site.hash = none := Option.map_eq_none_iff.mp he.symm
    simp [visit, hg, siteRequests, countSite, hx, hk]
  | some group =>
    rw [hg] at he
    obtain ⟨group', hx, hge⟩ := Option.map_eq_some_iff.mp he.symm
    have hentries : group'.entries = group.entries := hge
    have htext : group.comment.getD (Naming.group s.host w group.entries) = Naming.group h w group.entries := by
      cases hc : group.comment with
      | none => exact Naming.group_congr _ _ w _ hs
      | some text => exact hk.comment site.hash group text hg hc
    obtain ⟨hr, hh, hi, hc⟩ := annotate_spec config w s site group _ htext
    have hreq : siteRequests config w h x site =
        groupRequests config (Naming.group h w group.entries) site.address group.entries := by
      simp [siteRequests, hx, hentries]
    simp only [visit, hg, hreq]
    refine ⟨hr, hh, ?_, ?_⟩
    · rw [hc]
      simp [countSite, hx, hentries]
    · rw [hi]
      split
      · exact keeps_setComment hk site.hash group hg
      · exact hk

/-- Visiting sites one after another makes the requests of each. -/
theorem visitAll_spec (config : Config) (w : Width) (h : Host) (x : HashIndex) (s : State)
    (sites : List Site) (hk : Keeps h w x s.index) (hs : s.host.symbols = h.symbols) :
    (visitAll config w s sites).requests = sites.flatMap (siteRequests config w h x) ∧
      (visitAll config w s sites).value.host =
        s.host.performAll (sites.flatMap (siteRequests config w h x)) ∧
      (visitAll config w s sites).value.result = sites.foldl (countSite config x) s.result ∧
      Keeps h w x (visitAll config w s sites).value.index := by
  induction sites generalizing s with
  | nil => simp [visitAll, hk]
  | cons site rest ih =>
    obtain ⟨hr, hh, hc, hk'⟩ := visit_spec config w h x s site hk hs
    have hs' : (visit config w s site).value.host.symbols = h.symbols := by
      rw [hh, Host.symbols_performAll]
      exact hs
    obtain ⟨ihr, ihh, ihc, ihk⟩ := ih (visit config w s site).value hk' hs'
    refine ⟨?_, ?_, ?_, ihk⟩
    · rw [visitAll, Traced.requests_bind, hr, ihr, List.flatMap_cons]
    · rw [visitAll, Traced.value_bind, ihh, hh, List.flatMap_cons, Host.performAll_append]
    · rw [visitAll, Traced.value_bind, ihc, hc, List.foldl_cons]

/-- An index without comments keeps its own groups. -/
theorem keeps_fresh (h : Host) (w : Width) (x : HashIndex) (c : Captured) (es : List Entry)
    (hx : HashIndex.Indexes c es x) : Keeps h w x x := by
  constructor
  · exact fun _ => rfl
  · intro hash group text hg ht
    rw [hx hash] at hg
    unfold HashIndex.groupOf at hg
    split at hg
    · cases hg
    · cases hg
      cases ht

/-- Every usage site loads an indexed hash. -/
theorem isSome_of_mem_sites {c : Captured} {x : HashIndex} {signature : List UInt8} {site : Site}
    (hm : site ∈ sites c x signature) : (x.get? site.hash).isSome = true := by
  obtain ⟨r, -, hr⟩ := List.mem_flatMap.mp hm
  obtain ⟨hit, hhit, rfl⟩ := List.mem_map.mp hr
  exact (List.mem_filter.mp hhit).2

/-- A correlation over a fresh index makes the requests of its sites in order and carries them out. -/
theorem run_spec (h : Host) (c : Captured) (x : HashIndex) (signature : List UInt8) (config : Config)
    (w : Width) (es : List Entry) (hx : HashIndex.Indexes c es x) :
    (run h c x signature config w).requests =
        (sites c x signature).flatMap (siteRequests config w h x) ∧
      (run h c x signature config w).value.host =
        h.performAll ((sites c x signature).flatMap (siteRequests config w h x)) ∧
      (run h c x signature config w).value.result =
        (sites c x signature).foldl (countSite config x) {} := by
  obtain ⟨hr, hh, hc, -⟩ := visitAll_spec config w h x { host := h, index := x } (sites c x signature)
    (keeps_fresh h w x c es hx) rfl
  rw [run_eq_visitAll]
  exact ⟨hr, hh, hc⟩

end Correlation

end FlowGuard
