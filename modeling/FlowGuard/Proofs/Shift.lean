import FlowGuard.Proofs.Annotations
import FlowGuard.Proofs.Footprint

/-!
A target at another place. When the table entries, the captured code, the symbols and the places that take marks
have all moved by one distance, a run comes to the same result and writes the same at places moved by that distance.
Only names that are made from addresses tell the two runs apart.
-/

namespace FlowGuard

open Std (ExtTreeMap ExtTreeSet)

namespace Address

/-- In a range that ends inside the address space, where something lies is a matter of its distance from the
start, taken around the end of the space. -/
theorem within_iff_distance (start a : Address) (size count : Nat) (hspace : start.toNat + size ≤ spaceSize)
    (hcount : 0 < count) :
    start.toNat ≤ a.toNat ∧ a.toNat - start.toNat + count ≤ size ↔ (a - start).toNat + count ≤ size := by
  have ha := a.toNat_lt
  unfold spaceSize at hspace
  rw [UInt64.toNat_sub]
  omega

theorem distance_shift (d start a : UInt64) : a + d - (start + d) = a - start := by
  have hstart := start.toNat_lt
  rw [← UInt64.toNat_inj]
  simp only [UInt64.toNat_sub, UInt64.toNat_add]
  omega

theorem shift_add (a d offset : UInt64) : a + d + offset = a + offset + d := by
  rw [UInt64.add_assoc, UInt64.add_comm d, UInt64.add_assoc]

end Address

namespace Entry

def shift (d : UInt64) (e : Entry) : Entry :=
  ⟨e.address + d⟩

@[simp] theorem address_shift (d : UInt64) (e : Entry) : (e.shift d).address = e.address + d := rfl

@[simp] theorem function_shift (d : UInt64) (e : Entry) : (e.shift d).function = e.function + d :=
  Address.shift_add e.address d 8

theorem ofRva_shift (base d : UInt64) (rva : UInt32) : ofRva (base + d) rva = (ofRva base rva).shift d := by
  rw [ofRva, ofRva, shift, UInt64.sub_eq_add_neg, UInt64.sub_eq_add_neg, Address.shift_add base, Address.shift_add]

end Entry

namespace Region

def shift (d : UInt64) (r : Region) : Region :=
  ⟨r.start + d, r.bytes⟩

def InSpace (r : Region) : Prop :=
  r.start.toNat + r.bytes.size ≤ spaceSize

theorem slice?_of_inSpace (r : Region) (hr : r.InSpace) (a : Address) (count : Nat) (hcount : 0 < count) :
    r.slice? a count =
      if (a - r.start).toNat + count ≤ r.bytes.size then
        some (r.bytes.extract (a - r.start).toNat ((a - r.start).toNat + count)).toList
      else none := by
  unfold slice?
  simp only [UInt64.le_iff_toNat_le, Address.within_iff_distance r.start a r.bytes.size count hr hcount]
  split
  case isFalse => rfl
  case isTrue hin =>
    have hle := ((Address.within_iff_distance r.start a r.bytes.size count hr hcount).mpr hin).1
    rw [UInt64.toNat_sub_of_le _ _ (UInt64.le_iff_toNat_le.mpr hle)]

theorem slice?_shift (r : Region) (d : UInt64) (hr : r.InSpace) (hr' : (r.shift d).InSpace) (a : Address)
    (count : Nat) (hcount : 0 < count) : (r.shift d).slice? (a + d) count = r.slice? a count := by
  rw [slice?_of_inSpace _ hr' _ _ hcount, slice?_of_inSpace r hr _ _ hcount]
  simp only [shift, Address.distance_shift]

end Region

namespace Captured

/-- The second code is the first one, moved by a distance, and look-ups in both find what they hold. -/
structure Shifted (d : UInt64) (c c' : Captured) : Prop where
  regions : c'.regions = c.regions.map (Region.shift d)
  separated : c.Separated
  separated' : c'.Separated
  inSpace : ∀ r ∈ c.regions, r.InSpace
  inSpace' : ∀ r ∈ c'.regions, r.InSpace

theorem Shifted.read? {d : UInt64} {c c' : Captured} (h : Shifted d c c') (a : Address) (count : Nat)
    (hcount : 0 < count) : c'.read? (a + d) count = c.read? a count := by
  apply Option.ext
  intro bytes
  rw [read?_eq_some_iff c' h.separated' _ _ hcount, read?_eq_some_iff c h.separated _ _ hcount, h.regions]
  simp only [List.mem_map, exists_exists_and_eq_and]
  refine exists_congr fun r => and_congr_right fun hr => ?_
  have hr' : (r.shift d).InSpace := h.inSpace' _ (by rw [h.regions]; exact List.mem_map_of_mem hr)
  rw [r.slice?_shift d (h.inSpace r hr) hr' a count hcount]

end Captured

def HashGroup.shift (d : UInt64) (g : HashGroup) : HashGroup :=
  { g with entries := g.entries.map (Entry.shift d) }

namespace HashIndex

/-- The groups of the second index are those of the first one, moved by a distance. -/
def Shifted (d : UInt64) (x x' : HashIndex) : Prop :=
  ∀ hash, x'.get? hash = (x.get? hash).map (HashGroup.shift d)

section Stored

variable {d : UInt64} {c c' : Captured} (h : Captured.Shifted d c c')
include h

theorem storedHash?_shift (e : Entry) : storedHash? c' (e.shift d) = storedHash? c e := by
  rw [storedHash?, storedHash?, Entry.address_shift, h.read? _ _ (by decide)]

theorem stores_shift (hash : UInt64) : stores c' hash ∘ Entry.shift d = stores c hash := by
  funext e
  rw [Function.comp_apply, stores, stores, storedHash?_shift h]

theorem filter_stores_shift (hash : UInt64) (es : List Entry) :
    (es.map (Entry.shift d)).filter (stores c' hash) = (es.filter (stores c hash)).map (Entry.shift d) := by
  rw [List.filter_map, stores_shift h]

theorem Indexes.shifted {es : List Entry} {x x' : HashIndex} (hx : Indexes c es x)
    (hx' : Indexes c' (es.map (Entry.shift d)) x') : Shifted d x x' := by
  intro hash
  rw [hx hash, hx' hash, filter_stores_shift h]
  cases es.filter (stores c hash) <;> rfl

end Stored

end HashIndex

namespace Correlation

def Site.shift (d : UInt64) (site : Site) : Site :=
  { site with address := site.address + d }

section Sites

variable {d : UInt64} {x x' : HashIndex} (hx : HashIndex.Shifted d x x')
include hx

theorem sitesIn_shift (signature : List UInt8) (r : Region) :
    sitesIn signature x' (r.shift d) = (sitesIn signature x r).map (Site.shift d) := by
  have hknown (hash : UInt64) : (x'.get? hash).isSome = (x.get? hash).isSome := by
    rw [hx hash, Option.isSome_map]
  simp only [sitesIn, hknown, List.map_map, Region.shift, Address.shift_add r.start d]
  rfl

theorem sites_shift {c c' : Captured} (hc : Captured.Shifted d c c') (signature : List UInt8) :
    sites c' x' signature = (sites c x signature).map (Site.shift d) := by
  simp only [sites, hc.regions, List.flatMap_map, List.map_flatMap, sitesIn_shift hx]

theorem siteLinks_shift (site : Site) :
    siteLinks x' (site.shift d) = (siteLinks x site).map fun p => (p.1 + d, p.2 + d) := by
  unfold siteLinks
  rw [show (site.shift d).hash = site.hash from rfl, hx site.hash]
  cases x.get? site.hash with
  | none => rfl
  | some group =>
    simp [HashGroup.shift, Site.shift, List.flatMap_map, List.map_flatMap]

theorem siteComments_shift (w : Width) (h h' : Host) (site : Site) :
    (siteComments w h' x' (site.shift d)).map Prod.fst = (siteComments w h x site).map fun p => p.1 + d := by
  unfold siteComments
  rw [show (site.shift d).hash = site.hash from rfl, hx site.hash]
  cases x.get? site.hash <;> rfl

end Sites

end Correlation

namespace Naming

/-- The symbol at the address has a name to show. -/
def IsNamed (h : Host) (a : Address) : Prop :=
  (h.symbolAt? a >>= Symbol.shownName?).isSome = true

section Symbols

variable {d : UInt64} {h h' : Host} (hs : ∀ a, h'.symbolAt? (a + d) = h.symbolAt? a)
include hs

theorem function_shift (w : Width) (a : Address) (hn : IsNamed h a) :
    function h' w (a + d) = function h w a := by
  obtain ⟨name, hname⟩ := Option.isSome_iff_exists.mp hn
  have hown : h.symbolAt? a >>= Decoders.own.shownName? = some name := hname
  simp only [function, Decoders.function, hs, hown]

/-- A group with names to show for all its functions is named alike wherever it lies. -/
theorem group_shift (w : Width) (es : List Entry) (hn : ∀ e ∈ es, IsNamed h e.function) :
    group h' w (es.map (Entry.shift d)) = group h w es := by
  have hnames : (es.map (Entry.shift d)).map (fun e => function h' w e.function) =
      es.map fun e => function h w e.function := by
    rw [List.map_map]
    refine List.map_congr_left fun e he => ?_
    rw [Function.comp_apply, Entry.function_shift, function_shift hs w _ (hn e he)]
  rw [group, group, hnames, List.length_map]

end Symbols

end Naming

section Stores

variable {β : Type} {d : UInt64}

theorem getElem?_insertMany_shift {t t' : ExtTreeMap Address β} (ht : ∀ a, t'[a + d]? = t[a]?)
    (l : List (Address × β)) (a : Address) :
    (t'.insertMany (l.map fun p => (p.1 + d, p.2)))[a + d]? = (t.insertMany l)[a]? := by
  induction l generalizing t t' with
  | nil => simpa using ht a
  | cons p rest ih =>
    rw [List.map_cons, ExtTreeMap.insertMany_cons, ExtTreeMap.insertMany_cons]
    refine ih fun b => ?_
    simp only [ExtTreeMap.getElem?_insert, Std.LawfulEqCmp.compare_eq_iff_eq, UInt64.add_left_inj, ht]

end Stores

/-- The second annotations are the first ones, moved by a distance and up to the wording of comments. -/
structure Annotations.Shifted (d : UInt64) (s s' : Annotations) : Prop where
  xrefs : ∀ p q, (p + d, q + d) ∈ s'.xrefs ↔ (p, q) ∈ s.xrefs
  marks : ∀ a, s'.marks[a + d]? = s.marks[a]?
  commented : ∀ a, a + d ∈ s'.comments ↔ a ∈ s.comments

theorem Annotations.shifted_empty (d : UInt64) : Shifted d {} {} := by
  constructor <;> simp

namespace Marker

/-- Of snapshots, only the regions have to be compared. -/
theorem shifted_snapshot (k : Marker) (d : UInt64) (m m' : Memory) (target target' : LoadedModule)
    (hregions : (k.snapshot m' target').captured.regions =
      (k.snapshot m target).captured.regions.map (Region.shift d)) :
    Captured.Shifted d (k.snapshot m target).captured (k.snapshot m' target').captured := by
  have hstep : Snapshot.validStep k.options.pageSize = true := k.options.valid
  have hspace (m : Memory) (target : LoadedModule) (r : Region)
      (hr : r ∈ (k.snapshot m target).captured.regions) : r.InSpace := by
    have hcaptured := ((Snapshot.mem_regions_take m target _ hstep r).mp hr).inSpace
    rwa [Array.length_toList] at hcaptured
  exact ⟨hregions, Snapshot.separated_take _ _ _ hstep, Snapshot.separated_take _ _ _ hstep,
    hspace m target, hspace m' target'⟩

/-- Everything that a run looks at has moved by one distance, and nothing has been annotated yet. -/
structure Shifted (k : Marker) (d : UInt64) (h : Host) (target : LoadedModule) (h' : Host)
    (target' : LoadedModule) : Prop where
  entries : k.tableEntries h'.memory target' =
    (k.tableEntries h.memory target).map (List.map (Entry.shift d))
  captured : Captured.Shifted d (k.snapshot h.memory target).captured (k.snapshot h'.memory target').captured
  warnings : (k.snapshot h'.memory target').warnings = (k.snapshot h.memory target).warnings
  accepts : ∀ a, h'.accepts (a + d) = h.accepts a
  symbols : ∀ a, h'.symbolAt? (a + d) = h.symbolAt? a
  fresh : h.annotations = {}
  fresh' : h'.annotations = {}

/-- After a run, the comment at a usage site lists the entries that share its hash. -/
theorem comment_of_isUsage (k : Marker) (h : Host) (target : LoadedModule) (config : Config) (es : List Entry)
    (hw : k.width = .bits64) (hon : config.comments = true) (a : Address) (hash : UInt64)
    (hu : (k.scene h target es).IsUsage a hash) :
    (k.annotated h target config es).comments[a]? =
      some (Naming.group h k.width ((k.scene h target es).sharing hash)) := by
  have hstep : Snapshot.validStep (k.scene h target es).step = true := k.options.valid
  have hes : es ≠ [] := by
    rintro rfl
    exact hu.sharing_ne_nil rfl
  have hasked := k.comment_mem_runRequests_iff h target config es hw (by simp [Config.wantsCorrelation, hon]) hes
  have hafter := congrArg Host.annotations (k.performAll_runRequests h target config es)
  simp only at hafter
  rw [← hafter]
  refine Host.comments_performAll_of_mem h _ a _ ((hasked a _).mpr ⟨hon, hash, hu, rfl⟩) ?_
  intro other ho
  obtain ⟨-, hash', hu', rfl⟩ := (hasked a other).mp ho
  rw [hu.unique hstep hu']

section Shifted

variable {k : Marker} {d : UInt64} {h h' : Host} {target target' : LoadedModule}
  (hs : k.Shifted d h target h' target')
include hs

theorem Shifted.index (es : List Entry) :
    HashIndex.Shifted d (k.index h.memory target es) (k.index h'.memory target' (es.map (Entry.shift d))) :=
  HashIndex.Indexes.shifted hs.captured (HashIndex.build_spec _ _).1 (HashIndex.build_spec _ _).1

theorem Shifted.sites (es : List Entry) : k.sites h'.memory target' (es.map (Entry.shift d)) =
    (k.sites h.memory target es).map (Correlation.Site.shift d) := by
  unfold Marker.sites
  cases k.width.signature? with
  | none => rfl
  | some signature => exact Correlation.sites_shift (hs.index es) hs.captured signature

theorem Shifted.links (es : List Entry) : k.links h'.memory target' (es.map (Entry.shift d)) =
    (k.links h.memory target es).map fun p => (p.1 + d, p.2 + d) := by
  simp only [Marker.links, hs.sites, List.flatMap_map, List.map_flatMap,
    Correlation.siteLinks_shift (hs.index es)]

theorem Shifted.texts (es : List Entry) : (k.texts h' target' (es.map (Entry.shift d))).map Prod.fst =
    (k.texts h target es).map fun p => p.1 + d := by
  simp only [Marker.texts, hs.sites, List.flatMap_map, List.map_flatMap,
    Correlation.siteComments_shift (hs.index es) k.width h h']

theorem Shifted.runResult (config : Config) (es : List Entry) :
    k.runResult h' target' config (es.map (Entry.shift d)) = k.runResult h target config es := by
  let r := k.runResult h target config es
  let r' := k.runResult h' target' config (es.map (Entry.shift d))
  have hfound : r'.found = r.found := by
    simp only [r, r', found_runResult, List.length_map]
  have hmarked : r'.marked = r.marked := by
    simp only [r, r', marked_runResult, List.countP_map, Function.comp_def, Entry.address_shift, hs.accepts]
  have hxrefs : 2 * r'.xrefs = 2 * r.xrefs := by
    rw [(k.counts_runResult h target config es).1, (k.counts_runResult h' target' config _).1, hs.links,
      List.length_map]
  have hcomments : r'.comments = r.comments := by
    have htexts := congrArg List.length (hs.texts es)
    rw [List.length_map, List.length_map] at htexts
    rw [(k.counts_runResult h target config es).2, (k.counts_runResult h' target' config _).2, htexts]
  have hwarnings : r'.warnings = r.warnings := by
    have hcorrelates : k.Correlates config (es.map (Entry.shift d)) ↔ k.Correlates config es := by
      simp [Correlates]
    simp only [r, r', warnings_runResult, List.countP_map, Function.comp_def, Entry.address_shift, hs.accepts,
      HashIndex.storedHash?_shift hs.captured, hs.warnings, hcorrelates]
  show r' = r
  clear_value r r'
  cases r
  cases r'
  simp only at hfound hmarked hxrefs hcomments hwarnings
  simp only [RunResult.mk.injEq]
  omega

theorem Shifted.annotated (config : Config) (es : List Entry) :
    Annotations.Shifted d (k.annotated h target config es)
      (k.annotated h' target' config (es.map (Entry.shift d))) := by
  constructor
  · intro p q
    have hlinks : (p + d, q + d) ∈ k.links h'.memory target' (es.map (Entry.shift d)) ↔
        (p, q) ∈ k.links h.memory target es := by
      simp only [hs.links, List.mem_map, Prod.mk.injEq, UInt64.add_left_inj, Prod.exists, exists_eq_right_right,
        exists_eq_right]
    cases hx : config.xrefs <;>
      simp [Marker.annotated, hx, hs.fresh, hs.fresh', ExtTreeSet.mem_insertMany_list, hlinks]
  · intro a
    have hmarks : ((es.map (Entry.shift d)).map fun e => (e.address, hashSize)).filter
        (fun p => h'.accepts p.1) =
          ((es.map fun e => (e.address, hashSize)).filter fun p => h.accepts p.1).map
            fun p => (p.1 + d, p.2) := by
      simp only [List.map_map, List.filter_map, Function.comp_def, Entry.address_shift, hs.accepts]
    simp only [Marker.annotated, hs.fresh, hs.fresh', hmarks]
    exact getElem?_insertMany_shift (by simp) _ a
  · intro a
    have htexts : a + d ∈ (k.texts h' target' (es.map (Entry.shift d))).map Prod.fst ↔
        a ∈ (k.texts h target es).map Prod.fst := by
      simp only [hs.texts, List.mem_map, UInt64.add_left_inj, Prod.exists, exists_and_right, exists_eq_right]
    cases hc : config.comments with
    | false => simp [Marker.annotated, hc, hs.fresh, hs.fresh']
    | true =>
      simp only [Marker.annotated, hc, hs.fresh, hs.fresh', if_true, ExtTreeMap.mem_insertMany_list,
        List.contains_iff_mem, htexts]
      simp

/-- A usage site moves with the code, and so do the entries that share its hash. -/
theorem Shifted.isUsage (es : List Entry) (a : Address) (hash : UInt64)
    (hu : (k.scene h target es).IsUsage a hash) :
    ∃ n, (k.scene h' target' (es.map (Entry.shift d))).IsUsage (a + d) n ∧
      (k.scene h' target' (es.map (Entry.shift d))).sharing n =
        ((k.scene h target es).sharing hash).map (Entry.shift d) := by
  let scene := k.scene h target es
  let scene' := k.scene h' target' (es.map (Entry.shift d))
  have hstep : Snapshot.validStep k.options.pageSize = true := k.options.valid
  have hx : HashIndex.Indexes scene.captured scene.entries (k.index h.memory target es) :=
    (HashIndex.build_spec _ _).1
  have hx' : HashIndex.Indexes scene'.captured scene'.entries
      (k.index h'.memory target' (es.map (Entry.shift d))) := (HashIndex.build_spec _ _).1
  have hcaptured : Captured.Shifted d scene.captured scene'.captured := hs.captured
  have hsite := (Scene.mem_sites hstep hx ⟨a, maskHash hash⟩).mpr ⟨hash, hu, rfl⟩
  have hmoved := List.mem_map_of_mem (f := Correlation.Site.shift d) hsite
  rw [← Correlation.sites_shift (hs.index es) hcaptured] at hmoved
  obtain ⟨n, hu', hmask⟩ := (Scene.mem_sites hstep hx' _).mp hmoved
  have hmask : maskHash hash = maskHash n := hmask
  refine ⟨n, hu', ?_⟩
  rw [Scene.sharing_eq hstep, Scene.sharing_eq hstep, ← HashIndex.filter_stores_shift hcaptured,
    ← Scene.stores_maskHash _ n, ← hmask, Scene.stores_maskHash]
  rfl

/-- The comment of a usage site does not depend on the place if all names in it are shown ones. -/
theorem Shifted.comments (hw : k.width = .bits64) (config : Config) (es : List Entry) (a : Address)
    (hash : UInt64) (hu : (k.scene h target es).IsUsage a hash)
    (hn : ∀ e ∈ (k.scene h target es).sharing hash, Naming.IsNamed h e.function) :
    (k.annotated h' target' config (es.map (Entry.shift d))).comments[a + d]? =
      (k.annotated h target config es).comments[a]? := by
  cases hc : config.comments with
  | false => simp [Marker.annotated, hc, hs.fresh, hs.fresh']
  | true =>
    obtain ⟨n, hu', hsharing⟩ := hs.isUsage es a hash hu
    rw [comment_of_isUsage k h target config es hw hc a hash hu,
      comment_of_isUsage k h' target' config _ hw hc _ n hu', hsharing, Naming.group_shift hs.symbols k.width _ hn]

/-- A run fails with the same error at both places, or it has the same result and its annotations have moved. -/
theorem Shifted.runModule (hw : k.width = .bits64) (config : Config) (es : List Entry)
    (hes : ∀ found, k.tableEntries h.memory target = .ok found → found = es) :
    let before := (k.runModule h target config).value
    let after := (k.runModule h' target' config).value
    after.1 = before.1 ∧ Annotations.Shifted d before.2.annotations after.2.annotations ∧
      ∀ a hash, (k.scene h target es).IsUsage a hash →
        (∀ e ∈ (k.scene h target es).sharing hash, Naming.IsNamed h e.function) →
        after.2.annotations.comments[a + d]? = before.2.annotations.comments[a]? := by
  intro before after
  have hentries := hs.entries
  cases he : k.tableEntries h.memory target with
  | error e =>
    rw [he] at hentries
    have hbefore : before = (.error e, h) := (k.runModule_of_no_entries h target config e he).1
    have hafter : after = (.error e, h') := (k.runModule_of_no_entries h' target' config e hentries).1
    rw [hbefore, hafter, hs.fresh, hs.fresh']
    exact ⟨rfl, Annotations.shifted_empty d, by simp⟩
  | ok found =>
    obtain rfl := hes found he
    rw [he] at hentries
    have hbefore := (k.runModule_of_tableEntries h target config found he).1
    have hafter := (k.runModule_of_tableEntries h' target' config _ hentries).1
    rw [hs.runResult config found, performAll_runRequests] at hafter
    rw [performAll_runRequests] at hbefore
    rw [show before = _ from hbefore, show after = _ from hafter]
    exact ⟨rfl, hs.annotated config found, hs.comments hw config found⟩

end Shifted

end Marker

end FlowGuard
