import FlowGuard.Proofs.Footprint
import FlowGuard.Proofs.Partition

/-!
The order of the table. Entries in another order make an index with the same hashes, whose groups hold the same
entries in another order. Which hits are accepted, and what is skipped behind them, depends on the hashes alone, so
both correlations visit the same sites and differ only in the order in which comments name the functions of a group.
-/

namespace FlowGuard

open Std (ExtTreeMap ExtTreeSet)

namespace Naming

def listing (names : List String) : String :=
  toString names.length ++ "fn: " ++ ", ".intercalate names

theorem group_eq_listing (h : Host) (w : Width) (es : List Entry) :
    group h w es = listing (es.map fun e => function h w e.function) := by
  rw [group, listing, List.length_map]

end Naming

namespace HashIndex

/-- The second index has the groups of the first one, with their entries perhaps in another order. -/
def Reordered (x x' : HashIndex) : Prop :=
  ∀ hash, Option.Rel (fun group group' => group.entries.Perm group'.entries) (x.get? hash) (x'.get? hash)

theorem groupOf_perm {es es' : List Entry} (hperm : es.Perm es') :
    Option.Rel (fun group group' => group.entries.Perm group'.entries) (groupOf es) (groupOf es') := by
  have hnil : es = [] ↔ es' = [] := by
    rw [← List.length_eq_zero_iff, ← List.length_eq_zero_iff, hperm.length_eq]
  unfold groupOf
  by_cases hes : es = []
  · rw [if_pos hes, if_pos (hnil.mp hes)]
    exact .none
  · rw [if_neg hes, if_neg (mt hnil.mpr hes)]
    exact .some hperm

theorem reordered_of_perm {c : Captured} {es es' : List Entry} {x x' : HashIndex} (hx : Indexes c es x)
    (hx' : Indexes c es' x') (hperm : es.Perm es') : Reordered x x' := by
  intro hash
  rw [hx hash, hx' hash]
  exact groupOf_perm (hperm.filter _)

/-- Indexes of the same entries in another order. -/
theorem build_perm (c : Captured) {es es' : List Entry} (hperm : es.Perm es') :
    (build c es).value.2 = (build c es').value.2 ∧
      (∀ key, key ∈ (build c es).value.1.groups ↔ key ∈ (build c es').value.1.groups) ∧
      ∀ (key : UInt64) (group group' : HashGroup), (build c es).value.1.groups[key]? = some group →
        (build c es').value.1.groups[key]? = some group' → group.entries.Perm group'.entries := by
  obtain ⟨hx, hmissed, -⟩ := build_spec c es
  obtain ⟨hx', hmissed', -⟩ := build_spec c es'
  have hm := masked_build c es
  have hm' := masked_build c es'
  refine ⟨?_, ?_, ?_⟩
  · rw [hmissed, hmissed', hperm.countP_eq]
  · intro key
    rw [mem_groups_iff hx hm, mem_groups_iff hx' hm']
    exact (hperm.filterMap _).mem_iff
  · intro key group group' hg hg'
    obtain ⟨-, -, rfl⟩ := getElem?_groups hx hm hg
    obtain ⟨-, -, rfl⟩ := getElem?_groups hx' hm' hg'
    exact hperm.filter _

/-- Both indexes know a hash or neither does. -/
theorem Reordered.cases {x x' : HashIndex} (h : Reordered x x') (hash : UInt64) :
    x.get? hash = none ∧ x'.get? hash = none ∨
      ∃ group group', x.get? hash = some group ∧ x'.get? hash = some group' ∧
        group.entries.Perm group'.entries := by
  have hrel := h hash
  generalize x.get? hash = found at hrel
  generalize x'.get? hash = found' at hrel
  cases hrel with
  | none => exact .inl ⟨rfl, rfl⟩
  | some hperm => exact .inr ⟨_, _, rfl, rfl, hperm⟩

theorem Reordered.isSome_eq {x x' : HashIndex} (h : Reordered x x') (hash : UInt64) :
    (x.get? hash).isSome = (x'.get? hash).isSome := by
  rcases h.cases hash with ⟨hx, hx'⟩ | ⟨group, group', hx, hx', -⟩ <;> simp [hx, hx']

end HashIndex

namespace Correlation

section Reordered

variable {x x' : HashIndex} (h : x.Reordered x')
include h

theorem sites_reordered (c : Captured) (signature : List UInt8) : sites c x signature = sites c x' signature := by
  unfold sites sitesIn
  simp only [h.isSome_eq]

theorem countSite_reordered (config : Config) : countSite config x = countSite config x' := by
  funext r site
  unfold countSite
  rcases h.cases site.hash with ⟨hx, hx'⟩ | ⟨group, group', hx, hx', hperm⟩
  · rw [hx, hx']
  · rw [hx, hx']
    simp only [hperm.length_eq]

theorem siteLinks_reordered (site : Site) : (siteLinks x site).Perm (siteLinks x' site) := by
  unfold siteLinks
  rcases h.cases site.hash with ⟨hx, hx'⟩ | ⟨group, group', hx, hx', hperm⟩
  · rw [hx, hx']
  · rw [hx, hx']
    exact hperm.flatMap_right _

theorem links_reordered (sites : List Site) : (sites.flatMap (siteLinks x)).Perm (sites.flatMap (siteLinks x')) := by
  induction sites with
  | nil => exact .nil
  | cons site rest ih => exact (siteLinks_reordered h site).append ih

theorem commented_reordered (w : Width) (host : Host) (sites : List Site) :
    (sites.flatMap (siteComments w host x)).map Prod.fst = (sites.flatMap (siteComments w host x')).map Prod.fst := by
  have hsite : ∀ site, (siteComments w host x site).map Prod.fst = (siteComments w host x' site).map Prod.fst := by
    intro site
    unfold siteComments
    rcases h.cases site.hash with ⟨hx, hx'⟩ | ⟨group, group', hx, hx', -⟩ <;> simp [hx, hx']
  simp only [List.map_flatMap, hsite]

end Reordered

def lastAt? (sites : List Site) (a : Address) : Option Site :=
  sites.reverse.find? fun site => site.address == a

/-- Comments of sites go over those that were there, and the last one at an address stays. -/
theorem getElem?_insertMany_siteComments (w : Width) (h : Host) (x : HashIndex) (t : ExtTreeMap Address String)
    (sites : List Site) (hknown : ∀ site ∈ sites, (x.get? site.hash).isSome = true) (a : Address) :
    (t.insertMany (sites.flatMap (siteComments w h x)))[a]? =
      match lastAt? sites a with
      | none => t[a]?
      | some site => (x.get? site.hash).map fun group => Naming.group h w group.entries := by
  induction sites generalizing t with
  | nil => simp [lastAt?]
  | cons site rest ih =>
    obtain ⟨group, hg⟩ := Option.isSome_iff_exists.mp (hknown site (by simp))
    have hfirst : siteComments w h x site = [(site.address, Naming.group h w group.entries)] := by
      simp [siteComments, hg]
    rw [List.flatMap_cons, ExtTreeMap.insertMany_append, ih _ fun other ho => hknown other (by simp [ho]), hfirst]
    unfold lastAt?
    rw [List.reverse_cons, List.find?_append]
    cases rest.reverse.find? fun site => site.address == a with
    | some later => rfl
    | none =>
      by_cases ha : site.address = a
      · simp [ha, hg]
      · simp [ha, ExtTreeMap.getElem?_insert]

/-- What is left of the annotations when the sites of a fresh index have been visited. -/
theorem annotations_run (h : Host) (c : Captured) (x : HashIndex) (signature : List UInt8) (config : Config)
    (w : Width) (es : List Entry) (hx : HashIndex.Indexes c es x) :
    let links := if config.xrefs then (sites c x signature).flatMap (siteLinks x) else []
    let texts := if config.comments then (sites c x signature).flatMap (siteComments w h x) else []
    (run h c x signature config w).value.host.annotations =
      { h.annotations with
        xrefs := h.annotations.xrefs.insertMany links
        comments := h.annotations.comments.insertMany texts
        xrefCalls := h.annotations.xrefCalls + links.length
        commentCalls := h.annotations.commentCalls + texts.length } := by
  obtain ⟨-, hhost, -⟩ := run_spec h c x signature config w es hx
  have hnone {α : Type} (l : List Site) : l.flatMap (fun _ => ([] : List α)) = [] := by simp
  rw [hhost, Host.performAll_eq]
  simp only [Annotations.record, List.filterMap_flatMap, xrefs_siteRequests, comments_siteRequests,
    marks_siteRequests]
  cases config.xrefs <;> cases config.comments <;> simp [hnone]

theorem lastAt?_eq_some {sites : List Site} {a : Address} {site : Site} (h : lastAt? sites a = some site) :
    site ∈ sites :=
  List.mem_reverse.mp (List.mem_of_find?_eq_some h)

/-- A comment is asked for at the addresses of the sites, if comments are wanted. -/
theorem comment_mem_run (h : Host) (c : Captured) (x : HashIndex) (signature : List UInt8) (config : Config)
    (w : Width) (es : List Entry) (hx : HashIndex.Indexes c es x) (a : Address) :
    (∃ text, .comment a text ∈ (run h c x signature config w).requests) ↔
      config.comments = true ∧ (lastAt? (sites c x signature) a).isSome = true := by
  have hat : (lastAt? (sites c x signature) a).isSome = true ↔ ∃ site ∈ sites c x signature, site.address = a := by
    simp [lastAt?]
  rw [(run_spec h c x signature config w es hx).1, hat]
  simp only [Request.comment_mem_iff, List.filterMap_flatMap, comments_siteRequests]
  cases config.comments with
  | false => simp
  | true =>
    simp only [if_true, List.mem_flatMap, true_and]
    constructor
    · rintro ⟨text, site, hsite, hm⟩
      refine ⟨site, hsite, ?_⟩
      unfold siteComments at hm
      split at hm
      · cases hm
      · rw [List.mem_singleton, Prod.mk.injEq] at hm
        exact hm.1.symm
    · rintro ⟨site, hsite, rfl⟩
      obtain ⟨group, hg⟩ := Option.isSome_iff_exists.mp (isSome_of_mem_sites hsite)
      exact ⟨Naming.group h w group.entries, site, hsite, by simp [siteComments, hg]⟩

section Runs

variable (h : Host) (c : Captured) (signature : List UInt8) (config : Config) (w : Width) {es es' : List Entry}
  {x x' : HashIndex} (hx : HashIndex.Indexes c es x) (hx' : HashIndex.Indexes c es' x') (hre : x.Reordered x')
include hx hx' hre

/-- What two correlations count and link does not depend on the order in groups. -/
theorem run_reordered :
    let after := (run h c x signature config w).value
    let after' := (run h c x' signature config w).value
    after.result = after'.result ∧ after.host.annotations.xrefs = after'.host.annotations.xrefs ∧
      after.host.annotations.xrefCalls = after'.host.annotations.xrefCalls ∧
      after.host.annotations.commentCalls = after'.host.annotations.commentCalls ∧
      ∀ a, a ∈ after.host.annotations.comments ↔ a ∈ after'.host.annotations.comments := by
  intro after after'
  have hsites := sites_reordered hre c signature
  have hlinks := links_reordered hre (sites c x signature)
  have hcommented := commented_reordered hre w h (sites c x signature)
  have hannotations : after.host.annotations = _ := annotations_run h c x signature config w es hx
  have hannotations' : after'.host.annotations = _ := annotations_run h c x' signature config w es' hx'
  rw [hannotations, hannotations', ← hsites]
  refine ⟨?_, ?_, ?_, ?_, ?_⟩
  · have hresult := (run_spec h c x signature config w es hx).2.2
    have hresult' := (run_spec h c x' signature config w es' hx').2.2
    rw [← hsites, ← countSite_reordered hre] at hresult'
    exact hresult.trans hresult'.symm
  · apply ExtTreeSet.ext_mem
    intro p
    rw [ExtTreeSet.mem_insertMany_list, ExtTreeSet.mem_insertMany_list]
    cases config.xrefs with
    | false => rfl
    | true => simp only [if_true, List.contains_iff_mem, hlinks.mem_iff]
  · cases config.xrefs with
    | false => rfl
    | true => simp only [if_true, hlinks.length_eq]
  · cases config.comments with
    | false => rfl
    | true => simpa using congrArg List.length hcommented
  · intro a
    cases config.comments with
    | false => rfl
    | true => simp only [if_true, ExtTreeMap.mem_insertMany_list, hcommented]

/-- Where no comment is written both correlations leave what was there; elsewhere each leaves the comment of the group
of one and the same hash. -/
theorem comments_reordered (a : Address) :
    let before := h.annotations.comments
    let after := (run h c x signature config w).value.host.annotations.comments
    let after' := (run h c x' signature config w).value.host.annotations.comments
    ((∀ text, .comment a text ∉ (run h c x signature config w).requests) →
        after[a]? = before[a]? ∧ after'[a]? = before[a]?) ∧
      ∀ text, .comment a text ∈ (run h c x signature config w).requests →
        ∃ hash group group', x.get? hash = some group ∧ x'.get? hash = some group' ∧
          group.entries.Perm group'.entries ∧ after[a]? = some (Naming.group h w group.entries) ∧
          after'[a]? = some (Naming.group h w group'.entries) := by
  intro before after after'
  have hsites := sites_reordered hre c signature
  have hasked := comment_mem_run h c x signature config w es hx a
  have hlast := getElem?_insertMany_siteComments w h x before (sites c x signature) (fun _ => isSome_of_mem_sites) a
  have hlast' := getElem?_insertMany_siteComments w h x' before (sites c x signature)
    (fun _ hsite => isSome_of_mem_sites (hsites ▸ hsite)) a
  simp only [after, after', annotations_run h c x signature config w es hx,
    annotations_run h c x' signature config w es' hx', ← hsites]
  constructor
  · intro hnone
    have hnot := mt hasked.mpr (by simpa using hnone)
    cases hon : config.comments with
    | false => simp [before]
    | true =>
      have hat : lastAt? (sites c x signature) a = none := by simpa [hon] using hnot
      rw [hat] at hlast hlast'
      exact ⟨hlast, hlast'⟩
  · intro text htext
    obtain ⟨hon, hsome⟩ := hasked.mp ⟨text, htext⟩
    obtain ⟨site, hat⟩ := Option.isSome_iff_exists.mp hsome
    have hknown := isSome_of_mem_sites (lastAt?_eq_some hat)
    rcases hre.cases site.hash with ⟨hg, -⟩ | ⟨group, group', hg, hg', hentries⟩
    · rw [hg] at hknown
      cases hknown
    · simp only [hat, hg, Option.map_some] at hlast
      simp only [hat, hg', Option.map_some] at hlast'
      rw [hon]
      exact ⟨site.hash, group, group', hg, hg', hentries, hlast, hlast'⟩

end Runs

/-- Two tables with the same entries differ in the order of names only. Their indexes have missed the same number of
entries and have the same keys, and each group holds the entries of its counterpart. Correlations on equal hosts count
the same, write the same references, make as many calls, and comment the same addresses: a comment that a run has
written lists the names of its counterpart, perhaps in another order, and all others are as they were. -/
theorem order_shows_in_names_only (h : Host) (c : Captured) (signature : List UInt8) (config : Config) (w : Width)
    (es es' : List Entry) (hperm : es.Perm es') :
    let built := (HashIndex.build c es).value
    let built' := (HashIndex.build c es').value
    let run := Correlation.run h c built.1 signature config w
    let run' := Correlation.run h c built'.1 signature config w
    let after := run.value.host.annotations
    let after' := run'.value.host.annotations
    let names (group : HashGroup) : List String := group.entries.map fun e => Naming.function h w e.function
    built.2 = built'.2 ∧ (∀ key, key ∈ built.1.groups ↔ key ∈ built'.1.groups) ∧
      (∀ (key : UInt64) (group group' : HashGroup), built.1.groups[key]? = some group →
        built'.1.groups[key]? = some group' → group.entries.Perm group'.entries) ∧
      run.value.result = run'.value.result ∧ after.xrefs = after'.xrefs ∧ after.xrefCalls = after'.xrefCalls ∧
      after.commentCalls = after'.commentCalls ∧ (∀ a, a ∈ after.comments ↔ a ∈ after'.comments) ∧
      (∀ a, (∀ text, .comment a text ∉ run.requests) →
        after.comments[a]? = h.annotations.comments[a]? ∧ after'.comments[a]? = h.annotations.comments[a]?) ∧
      ∀ a text, .comment a text ∈ run.requests →
        ∃ hash group group', built.1.get? hash = some group ∧ built'.1.get? hash = some group' ∧
          (names group).Perm (names group') ∧ after.comments[a]? = some (Naming.listing (names group)) ∧
          after'.comments[a]? = some (Naming.listing (names group')) := by
  intro built built' run run' after after' names
  have hx := (HashIndex.build_spec c es).1
  have hx' := (HashIndex.build_spec c es').1
  have hre : built.1.Reordered built'.1 := HashIndex.reordered_of_perm hx hx' hperm
  obtain ⟨hmissed, hkeys, hgroups⟩ := HashIndex.build_perm c hperm
  obtain ⟨hresult, hxrefs, hcalls, hcomments, hcommented⟩ := run_reordered h c signature config w hx hx' hre
  refine ⟨hmissed, hkeys, hgroups, hresult, hxrefs, hcalls, hcomments, hcommented, ?_, ?_⟩
  · intro a
    exact (comments_reordered h c signature config w hx hx' hre a).1
  · intro a text htext
    obtain ⟨hash, group, group', hg, hg', hentries, htext, htext'⟩ :=
      (comments_reordered h c signature config w hx hx' hre a).2 text htext
    rw [Naming.group_eq_listing] at htext htext'
    exact ⟨hash, group, group', hg, hg', hentries.map _, htext, htext'⟩

/-- Two functions that share a hash, and a load of it behind them. -/
def sharedHash : Captured :=
  Captured.insert {} 0x1000 #[7, 0, 0, 0, 0, 0, 0, 0, 6, 0, 0, 0, 0, 0, 0, 0, 0x49, 0xBA, 7, 0, 0, 0, 0, 0, 0, 0]

theorem order_shows_in_names_only_swapped :
    let es : List Entry := [⟨0x1000⟩, ⟨0x1008⟩, ⟨0x5000⟩]
    let run (es : List Entry) :=
      Correlation.run {} sharedHash (HashIndex.build sharedHash es).value.1 [0x49, 0xBA] {} .bits64
    es.Perm es.reverse ∧ (run es).value.result = (run es.reverse).value.result ∧
      ∃ names names', names.Perm names' ∧
        (run es).value.host.annotations.comments[(0x1010 : Address)]? = some (Naming.listing names) ∧
        (run es.reverse).value.host.annotations.comments[(0x1010 : Address)]? = some (Naming.listing names') := by
  intro es run
  have hperm : es.Perm es.reverse := es.reverse_perm.symm
  obtain ⟨-, -, -, hresult, -, -, -, -, -, hcomments⟩ :=
    order_shows_in_names_only {} sharedHash [0x49, 0xBA] {} .bits64 es es.reverse hperm
  obtain ⟨text, htext⟩ := (comment_mem_run {} sharedHash (HashIndex.build sharedHash es).value.1 [0x49, 0xBA] {}
    .bits64 es (HashIndex.build_spec sharedHash es).1 0x1010).mpr ⟨rfl, by decide⟩
  obtain ⟨-, group, group', -, -, hnames, hat, hat'⟩ := hcomments 0x1010 text htext
  exact ⟨hperm, hresult, _, _, hnames, hat, hat'⟩

end Correlation

end FlowGuard
