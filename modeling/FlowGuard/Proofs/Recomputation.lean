import FlowGuard.Proofs.Correlation
import FlowGuard.Proofs.Partition

/-!
Comments that are kept against comments that are made again. The reference goes through the code call by call, asks
an index that it never changes whether to annotate a hit, and makes every comment from the host as it then stands. A
correlation that keeps the comment of a group in the index comes to the same host and the same counts, since what is
written into a host has no say in its symbols; it ends with a comment in exactly the groups that some site called for.
-/

namespace FlowGuard

namespace Correlation

open HashLoad (Scan)

namespace Afresh

structure State where
  host : Host
  result : CorrelationResult := {}
  accepted : List Site := []

def linkAll (h : Host) (site : Address) (es : List Entry) : Host :=
  es.foldl (fun h e => (h.addXref site e.function).addXref e.function site) h

/-- Annotates a site with the functions that share its hash; their names are looked up in the host at hand. -/
def annotate (config : Config) (w : Width) (es : List Entry) (s : State) (site : Site) : State :=
  let linked := if config.xrefs then linkAll s.host site.address es else s.host
  { host := if config.comments then linked.setComment site.address (Naming.group linked w es) else linked
    result :=
      { xrefs := s.result.xrefs + if config.xrefs then es.length else 0
        comments := s.result.comments + if config.comments then 1 else 0
        sites := s.result.sites + 1 }
    accepted := s.accepted ++ [site] }

/-- Goes on through a region, call by call. Behind a hit that is annotated its hash is skipped. -/
def scanRegion (signature : List UInt8) (config : Config) (w : Width) (x : HashIndex) (r : Region) (scan : Scan)
    (s : State) : State :=
  match hnext : scan.next signature r.bytes.toList with
  | (none, _) => s
  | (some hit, called) =>
    have := Scan.position_of_next hnext
    match x.get? hit.hash with
    | none => scanRegion signature config w x r called s
    | some group =>
      let site : Site := { address := r.start + UInt64.ofNat hit.offset, hash := hit.hash }
      scanRegion signature config w x r called.skipHash (annotate config w group.entries s site)
termination_by r.bytes.size - scan.position
decreasing_by
  all_goals
    have hskip := called.position_le_skipHash
    rw [Array.length_toList] at this
    omega

def run (h : Host) (c : Captured) (x : HashIndex) (signature : List UInt8) (config : Config) (w : Width) : State :=
  c.regions.foldl (fun s r => scanRegion signature config w x r {} s) { host := h }

def visit (config : Config) (w : Width) (x : HashIndex) (s : State) (site : Site) : State :=
  match x.get? site.hash with
  | none => s
  | some group => annotate config w group.entries s site

/-- Going on through a region visits the sites that are still to come. -/
theorem scanRegion_eq (signature : List UInt8) (config : Config) (w : Width) (x : HashIndex) (r : Region) (scan : Scan)
    (s : State) (seen : Nat) :
    scanRegion signature config w x r scan s =
      (sitesFrom signature x r.start r.bytes.toList scan seen).foldl (visit config w x) s := by
  fun_induction scanRegion signature config w x r scan s generalizing seen with
  | case1 scan s called hnext =>
    rw [sitesFrom_of_end hnext]
    rfl
  | case2 scan s hit called hnext _ hg ih =>
    rw [ih (seen + 1), sitesFrom_of_hit hnext, if_neg (by simp [hg])]
  | case3 scan s hit called hnext _ group hg site ih =>
    rw [ih (seen + 1), sitesFrom_of_hit hnext, if_pos (by simp [hg]), List.foldl_cons, visit]
    simp only [hg, site]

theorem run_eq (h : Host) (c : Captured) (x : HashIndex) (signature : List UInt8) (config : Config) (w : Width) :
    run h c x signature config w = (sites c x signature).foldl (visit config w x) { host := h } := by
  simp only [run, scanRegion_eq signature config w x _ {} _ 0, sitesFrom_start, sites, List.foldl_flatMap]

theorem linkAll_eq (h : Host) (site : Address) (es : List Entry) :
    linkAll h site es = h.performAll (linkRequests site es) := by
  induction es generalizing h with
  | nil => rfl
  | cons e es ih => exact ih _

/-- A visit carries out the requests of its site with the names of any host that has the same symbols. -/
theorem visit_spec (config : Config) (w : Width) (h : Host) (x : HashIndex) (s : State) (site : Site)
    (hs : s.host.symbols = h.symbols) :
    (visit config w x s site).host = s.host.performAll (siteRequests config w h x site) ∧
      (visit config w x s site).result = countSite config x s.result site := by
  unfold visit siteRequests countSite
  cases x.get? site.hash with
  | none => exact ⟨rfl, rfl⟩
  | some group =>
    refine ⟨?_, rfl⟩
    have hname (rs : List Request) : Naming.group (s.host.performAll rs) w group.entries =
        Naming.group h w group.entries :=
      Naming.group_congr _ _ w _ ((Host.symbols_performAll s.host rs).trans hs)
    have hown := Naming.group_congr s.host h w group.entries hs
    unfold annotate groupRequests
    cases config.xrefs <;> cases config.comments <;>
      simp [linkAll_eq, hname, hown, Host.performAll_append, Host.perform]

theorem foldl_visit_spec (config : Config) (w : Width) (h : Host) (x : HashIndex) (s : State) (sites : List Site)
    (hs : s.host.symbols = h.symbols) :
    (sites.foldl (visit config w x) s).host = s.host.performAll (sites.flatMap (siteRequests config w h x)) ∧
      (sites.foldl (visit config w x) s).result = sites.foldl (countSite config x) s.result := by
  induction sites generalizing s with
  | nil => exact ⟨rfl, rfl⟩
  | cons site rest ih =>
    obtain ⟨hh, hr⟩ := visit_spec config w h x s site hs
    have hs' : (visit config w x s site).host.symbols = h.symbols := by
      rw [hh, Host.symbols_performAll, hs]
    obtain ⟨ihh, ihr⟩ := ih (visit config w x s site) hs'
    rw [List.foldl_cons, List.foldl_cons, ihh, ihr, hh, hr, List.flatMap_cons, Host.performAll_append]
    exact ⟨rfl, rfl⟩

theorem accepted_foldl_visit (config : Config) (w : Width) (x : HashIndex) (s : State) (sites : List Site)
    (hknown : ∀ site ∈ sites, (x.get? site.hash).isSome = true) :
    (sites.foldl (visit config w x) s).accepted = s.accepted ++ sites := by
  induction sites generalizing s with
  | nil => simp
  | cons site rest ih =>
    obtain ⟨group, hg⟩ := Option.isSome_iff_exists.mp (hknown site (by simp))
    rw [List.foldl_cons, ih _ fun other ho => hknown other (by simp [ho])]
    simp [visit, hg, annotate]

end Afresh

/-- The group of a key after visits to some sites, with the names that its functions have in a host. -/
def withComment (config : Config) (w : Width) (h : Host) (visited : List Site) (key : UInt64) (group : HashGroup) :
    HashGroup where
  entries := group.entries
  comment :=
    if config.comments = true ∧ ∃ site ∈ visited, maskHash site.hash = key then
      some (Naming.group h w group.entries)
    else none

/-- The index `y` is `x` with the comments that visits to some sites leave. -/
def Commented (config : Config) (w : Width) (h : Host) (x : HashIndex) (visited : List Site) (y : HashIndex) :
    Prop :=
  ∀ key, y.groups[key]? = (x.groups[key]?).map (withComment config w h visited key)

theorem commented_nil (config : Config) (w : Width) (h : Host) (c : Captured) (es : List Entry) :
    Commented config w h (HashIndex.build c es).value.1 [] (HashIndex.build c es).value.1 := by
  intro key
  cases hg : (HashIndex.build c es).value.1.groups[key]? with
  | none => rfl
  | some group =>
    obtain ⟨-, -, rfl⟩ :=
      HashIndex.getElem?_groups (HashIndex.build_spec c es).1 (HashIndex.masked_build c es) hg
    simp [withComment]

/-- A visit to a site whose hash is indexed leaves the comment of its group, whether it was there or not. -/
theorem commented_visit {config : Config} {w : Width} {h : Host} {x : HashIndex} {visited : List Site} {s : State}
    (site : Site) (hc : Commented config w h x visited s.index) (hs : s.host.symbols = h.symbols)
    (hknown : (x.get? site.hash).isSome = true) :
    Commented config w h x (visited ++ [site]) (visit config w s site).value.index := by
  obtain ⟨original, hx⟩ := Option.isSome_iff_exists.mp hknown
  let group := withComment config w h visited (maskHash site.hash) original
  have hg : s.index.get? site.hash = some group := by
    have hkey := hc (maskHash site.hash)
    rw [HashIndex.get?] at hx ⊢
    rw [hkey, hx]
    rfl
  have htext : group.comment.getD (Naming.group s.host w group.entries) = Naming.group h w original.entries := by
    have hnamed : Naming.group s.host w group.entries = Naming.group h w original.entries :=
      Naming.group_congr _ _ w _ hs
    rw [hnamed]
    simp only [group, withComment]
    split <;> rfl
  have hindex : (visit config w s site).value.index =
      if config.comments then s.index.setComment site.hash group (Naming.group h w original.entries)
      else s.index := by
    simp only [visit, hg]
    exact (annotate_spec config w s site group _ htext).2.2.1
  intro key
  rw [hindex]
  by_cases hon : config.comments = true
  · rw [if_pos hon, HashIndex.setComment, Std.ExtTreeMap.getElem?_insert, hc key]
    by_cases hkey : maskHash site.hash = key
    · subst hkey
      have horiginal : x.groups[maskHash site.hash]? = some original := hx
      rw [horiginal]
      simp [withComment, group, hon]
    · rw [if_neg (by simpa using hkey)]
      cases x.groups[key]? <;> simp [withComment, hon, hkey]
  · rw [if_neg hon, hc key]
    cases x.groups[key]? <;> simp [withComment, hon]

theorem commented_visitAll {config : Config} {w : Width} {h : Host} {x : HashIndex} {visited : List Site} {s : State}
    (rest : List Site) (hc : Commented config w h x visited s.index) (hk : Keeps h w x s.index)
    (hs : s.host.symbols = h.symbols) (hknown : ∀ site ∈ rest, (x.get? site.hash).isSome = true) :
    Commented config w h x (visited ++ rest) (visitAll config w s rest).value.index := by
  induction rest generalizing visited s with
  | nil => simpa [visitAll] using hc
  | cons site rest ih =>
    obtain ⟨-, hh, -, hk'⟩ := visit_spec config w h x s site hk hs
    have hs' : (visit config w s site).value.host.symbols = h.symbols := by
      rw [hh, Host.symbols_performAll, hs]
    have hstep := commented_visit site hc hs (hknown site (by simp))
    have hrest := ih hstep hk' hs' fun other ho => hknown other (by simp [ho])
    rw [List.append_assoc, List.singleton_append] at hrest
    rw [visitAll, Traced.value_bind]
    exact hrest

/-- Keeping comments changes nothing but the index. With an index fresh from any entries, over any captured code, a
correlation ends in the host and with the counts of the reference that makes every comment again. The groups and their
entries stay, and a group has a comment exactly if comments are wanted and an annotated site loaded its hash; it is the
one made from the host at the start. -/
theorem run_agrees_with_afresh (h : Host) (c c' : Captured) (es : List Entry) (signature : List UInt8)
    (config : Config) (w : Width) :
    let x := (HashIndex.build c' es).value.1
    let kept := (run h c x signature config w).value
    let afresh := Afresh.run h c x signature config w
    kept.host = afresh.host ∧ kept.result = afresh.result ∧
      (∀ key, key ∈ kept.index.groups ↔ key ∈ x.groups) ∧
      ∀ key group, kept.index.groups[key]? = some group →
        (x.groups[key]?).map HashGroup.entries = some group.entries ∧
        (group.comment.isSome = true ↔
          config.comments = true ∧ ∃ site ∈ afresh.accepted, maskHash site.hash = key) ∧
        ∀ text, group.comment = some text → text = Naming.group h w group.entries := by
  intro x kept afresh
  have hkeeps := keeps_fresh h w x c' es (HashIndex.build_spec c' es).1
  have hknown : ∀ site ∈ sites c x signature, (x.get? site.hash).isSome = true := fun _ => isSome_of_mem_sites
  obtain ⟨-, hhost, hresult, -⟩ :=
    visitAll_spec config w h x { host := h, index := x } (sites c x signature) hkeeps rfl
  obtain ⟨hhost', hresult'⟩ := Afresh.foldl_visit_spec config w h x { host := h } (sites c x signature) rfl
  have hafresh : afresh = (sites c x signature).foldl (Afresh.visit config w x) { host := h } :=
    Afresh.run_eq h c x signature config w
  have haccepted : afresh.accepted = sites c x signature := by
    rw [hafresh, Afresh.accepted_foldl_visit config w x _ _ hknown]
    rfl
  have hkept : kept = (visitAll config w { host := h, index := x } (sites c x signature)).value :=
    congrArg Traced.value (run_eq_visitAll h c x signature config w)
  have hindex : Commented config w h x (sites c x signature) kept.index := by
    rw [hkept]
    exact commented_visitAll (s := { host := h, index := x }) (sites c x signature) (commented_nil config w h c' es)
      hkeeps rfl hknown
  refine ⟨?_, ?_, ?_, ?_⟩
  · rw [hafresh, hhost', hkept, hhost]
  · rw [hafresh, hresult', hkept, hresult]
  · intro key
    rw [Std.ExtTreeMap.mem_iff_isSome_getElem?, Std.ExtTreeMap.mem_iff_isSome_getElem?, hindex key,
      Option.isSome_map]
  · intro key group hg
    rw [hindex key] at hg
    obtain ⟨original, hx, rfl⟩ := Option.map_eq_some_iff.mp hg
    rw [hx, haccepted]
    refine ⟨rfl, ?_, ?_⟩
    · simp [withComment]
    · intro text htext
      simp only [withComment] at htext ⊢
      split at htext
      · exact (Option.some.inj htext).symm
      · cases htext

end Correlation

end FlowGuard
