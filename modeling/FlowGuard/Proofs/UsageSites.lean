import FlowGuard.Proofs.HashLoad
import FlowGuard.Proofs.Marker

/-!
Usage sites, described without the search. The description speaks of captured runs, of the bytes that stand in
them and of the entries of the table; the sites that a run visits, and so everything it asks of the host
there, are shown to be the ones described.
-/

namespace FlowGuard

/-- What a run looks at: a module in memory, the step of the walk over it and the entries of its table. -/
structure Scene where
  memory : Memory
  target : LoadedModule
  step : UInt64
  entries : List Entry

namespace Scene

/-- Bytes that begin at `start` hold `part` at the address `a`. -/
def HoldsAt (start : Address) (bytes : List UInt8) (a : Address) (part : List UInt8) : Prop :=
  start.toNat ≤ a.toNat ∧ part <+: bytes.drop (a.toNat - start.toNat)

/-- A maximal run of executable steps whose bytes can be read at once. -/
def Captures (s : Scene) (start : Address) (bytes : List UInt8) : Prop :=
  Snapshot.IsCaptured s.memory s.target s.step start bytes

/-- The eight bytes of an entry lie inside one captured run and spell the hash. -/
def StoresHash (s : Scene) (e : Entry) (hash : UInt64) : Prop :=
  ∃ start bytes, s.Captures start bytes ∧
    HoldsAt start bytes e.address (LittleEndian.encode 8 hash.toNat)

/-- An entry of the table that stores a hash which agrees with the given one apart from the lowest bit. -/
def Shares (s : Scene) (hash : UInt64) (e : Entry) : Prop :=
  e ∈ s.entries ∧ ∃ stored, s.StoresHash e stored ∧ stored.toNat / 2 = hash.toNat / 2

/-- The bytes `49 BA` and a hash stand at the address. -/
def Loads (start : Address) (bytes : List UInt8) (a : Address) (hash : UInt64) : Prop :=
  HoldsAt start bytes a ([0x49, 0xBA] ++ LittleEndian.encode 8 hash.toNat)

def IsCandidate (s : Scene) (start : Address) (bytes : List UInt8) (a : Address) : Prop :=
  ∃ hash e, Loads start bytes a hash ∧ s.Shares hash e

/-- A usage site of a captured run: a candidate that does not lie in the ten bytes of a smaller usage site. -/
def IsSite (s : Scene) (start : Address) (bytes : List UInt8) (a : Address) : Prop :=
  s.IsCandidate start bytes a ∧
    ∀ b : Address, b.toNat < a.toNat → s.IsSite start bytes b → ¬a.toNat < b.toNat + 10
termination_by a.toNat

/-- A usage site of some captured run, and the hash that it loads. -/
def IsUsage (s : Scene) (a : Address) (hash : UInt64) : Prop :=
  ∃ start bytes, s.Captures start bytes ∧ s.IsSite start bytes a ∧ Loads start bytes a hash

open scoped Classical in
noncomputable def sharing (s : Scene) (hash : UInt64) : List Entry :=
  s.entries.filter fun e => decide (s.Shares hash e)

def captured (s : Scene) : Captured :=
  (Snapshot.take s.memory s.target s.step).value.captured

theorem holdsAt_iff_slice? (r : Region) (a : Address) (part : List UInt8) (hne : part ≠ []) :
    HoldsAt r.start r.bytes.toList a part ↔ r.slice? a part.length = some part := by
  rw [Region.slice?_eq_some_iff, HoldsAt, List.prefix_iff_eq_take]
  refine and_congr_right fun hle => ⟨fun h => ⟨?_, h⟩, And.right⟩
  have hlen := congrArg List.length h
  have hpos := List.length_pos_iff.mpr hne
  simp only [List.length_take, List.length_drop, Array.length_toList] at hlen
  omega

theorem encode_ne_nil (n : Nat) : LittleEndian.encode 8 n ≠ [] := by
  rw [← List.length_pos_iff, LittleEndian.length_encode]
  decide

variable {s : Scene}

theorem mem_captured (hstep : Snapshot.validStep s.step = true) (r : Region) :
    r ∈ s.captured.regions ↔ s.Captures r.start r.bytes.toList :=
  Snapshot.mem_regions_take s.memory s.target s.step hstep r

/-- The hash found for an entry in the captured code is the one that it stores. -/
theorem storedHash?_captured (hstep : Snapshot.validStep s.step = true) (e : Entry) (hash : UInt64) :
    HashIndex.storedHash? s.captured e = some hash ↔ s.StoresHash e hash := by
  have hsep : s.captured.Separated := Snapshot.separated_take _ _ _ hstep
  have hslice (r : Region) := holdsAt_iff_slice? r e.address (LittleEndian.encode 8 hash.toNat)
    (encode_ne_nil _)
  simp only [LittleEndian.length_encode] at hslice
  unfold HashIndex.storedHash?
  rw [Option.map_eq_some_iff]
  constructor
  · rintro ⟨bytes, hread, rfl⟩
    obtain ⟨r, hr, hs⟩ := (s.captured.read?_eq_some_iff hsep _ _ (by decide) _).mp hread
    have hlen : bytes.length = 8 := by
      obtain ⟨-, hsize, rfl⟩ := (r.slice?_eq_some_iff _ _ _).mp hs
      simp only [hashSize] at hsize
      simp only [hashSize, List.length_take, List.length_drop, Array.length_toList]
      omega
    refine ⟨r.start, r.bytes.toList, (mem_captured hstep r).mp hr, ?_⟩
    rw [hslice r, LittleEndian.encode_ofNat_decode bytes hlen]
    exact hs
  · rintro ⟨start, bytes, hc, hh⟩
    let r : Region := ⟨start, bytes.toArray⟩
    have hr : r ∈ s.captured.regions := (mem_captured hstep r).mpr hc
    refine ⟨_, ?_, LittleEndian.ofNat_decode_encode hash⟩
    exact (s.captured.read?_eq_some_iff hsep _ _ (by decide) _).mpr ⟨r, hr, (hslice r).mp hh⟩

theorem shares_iff (hstep : Snapshot.validStep s.step = true) (hash : UInt64) (e : Entry) :
    s.Shares hash e ↔ e ∈ s.entries ∧ HashIndex.stores s.captured hash e = true := by
  unfold Shares HashIndex.stores
  simp only [← storedHash?_captured hstep, beq_iff_eq, Option.map_eq_some_iff, maskHash_eq_iff]

theorem sharing_eq (hstep : Snapshot.validStep s.step = true) (hash : UInt64) :
    s.sharing hash = s.entries.filter (HashIndex.stores s.captured hash) := by
  apply List.filter_congr
  intro e he
  rw [Bool.eq_iff_iff]
  simp only [decide_eq_true_eq, shares_iff hstep]
  exact and_iff_right he

theorem mem_sharing (hash : UInt64) (e : Entry) : e ∈ s.sharing hash ↔ s.Shares hash e := by
  simp only [sharing, List.mem_filter, decide_eq_true_eq]
  exact and_iff_right_of_imp And.left

theorem stores_maskHash (c : Captured) (hash : UInt64) :
    HashIndex.stores c (maskHash hash) = HashIndex.stores c hash := by
  funext e
  simp [HashIndex.stores, maskHash_maskHash]

/-- The index over the captured code has, for each hash, the group of the entries that share it. -/
theorem get?_of_indexes (hstep : Snapshot.validStep s.step = true) {x : HashIndex}
    (hx : HashIndex.Indexes s.captured s.entries x) (hash : UInt64) :
    x.get? (maskHash hash) = HashIndex.groupOf (s.sharing hash) := by
  rw [hx, stores_maskHash, sharing_eq hstep]

theorem known_iff (hstep : Snapshot.validStep s.step = true) {x : HashIndex}
    (hx : HashIndex.Indexes s.captured s.entries x) (hash : UInt64) :
    (x.get? (maskHash hash)).isSome = true ↔ ∃ e, s.Shares hash e := by
  simp only [get?_of_indexes hstep hx, HashIndex.groupOf, ← mem_sharing]
  cases s.sharing hash with
  | nil => simp
  | cons e es => simp

theorem at?_iff_loads (start : Address) (bytes : List UInt8) (a : Address) (hash : UInt64)
    (hle : start.toNat ≤ a.toNat) :
    HashLoad.at? [0x49, 0xBA] (bytes.drop (a.toNat - start.toNat)) = some hash ↔
      ∃ n, Loads start bytes a n ∧ hash = maskHash n := by
  simp only [HashLoad.at?_eq_some_iff, Loads, HoldsAt, hle, true_and]

theorem IsSite.isCandidate {start a : Address} {bytes : List UInt8} (h : s.IsSite start bytes a) :
    s.IsCandidate start bytes a := by
  rw [IsSite] at h
  exact h.1

theorem IsSite.start_le {start a : Address} {bytes : List UInt8} (h : s.IsSite start bytes a) :
    start.toNat ≤ a.toNat := by
  obtain ⟨hash, e, hl, -⟩ := h.isCandidate
  exact hl.1

/-- Nothing in front of the start of a captured run can hide a candidate there. -/
theorem isSite_start {start : Address} {bytes : List UInt8} (h : s.IsCandidate start bytes start) :
    s.IsSite start bytes start := by
  rw [IsSite]
  refine ⟨h, ?_⟩
  intro b hlt hb
  exact absurd hb.start_le (by omega)

/-- A candidate with no other one in the nine bytes in front of it is a usage site. -/
theorem isSite_of_clear {start a : Address} {bytes : List UInt8} (h : s.IsCandidate start bytes a)
    (hclear : ∀ b : Address, b.toNat < a.toNat → a.toNat < b.toNat + 10 → ¬s.IsCandidate start bytes b) :
    s.IsSite start bytes a := by
  rw [IsSite]
  refine ⟨h, ?_⟩
  intro b hlt hb hnear
  exact hclear b hlt hnear hb.isCandidate

theorem HoldsAt.getElem? {start a : Address} {bytes part : List UInt8} (h : HoldsAt start bytes a part) (i : Nat)
    (hi : i < part.length) : bytes[a.toNat - start.toNat + i]? = part[i]? := by
  obtain ⟨-, rest, hrest⟩ := h
  rw [← List.getElem?_drop, ← hrest, List.getElem?_append_left hi]

/-- A load behind nine bytes that begin none is a usage site. -/
theorem isSite_of_filler {start first a : Address} {bytes filler : List UInt8} {hash : UInt64} {e : Entry}
    (hfiller : HoldsAt start bytes first filler) (hlength : filler.length = 9) (hclear : 0x49 ∉ filler)
    (ha : a.toNat = first.toNat + 9) (hload : Loads start bytes a hash) (hshares : s.Shares hash e) :
    s.IsSite start bytes a := by
  refine isSite_of_clear ⟨hash, e, hload, hshares⟩ ?_
  rintro b hlt hnear ⟨hash', e', hload', -⟩
  have hstart := hfiller.1
  -- a candidate this near would begin inside the filler
  have hoffset : b.toNat - start.toNat + 0 = first.toNat - start.toNat + (b.toNat - first.toNat) := by omega
  have hhead := hload'.getElem? 0 (by simp)
  rw [hoffset, hfiller.getElem? _ (by omega)] at hhead
  exact hclear (List.mem_of_getElem? hhead)

def known (x : HashIndex) (hit : HashLoad) : Bool :=
  (x.get? hit.hash).isSome

def accepted (x : HashIndex) (bytes : List UInt8) : List HashLoad :=
  (HashLoad.search [0x49, 0xBA] (fun _ hit => known x hit) bytes).filter (known x)

theorem mem_accepted (x : HashIndex) (bytes : List UInt8) (hit : HashLoad) :
    hit ∈ accepted x bytes ↔
      HashLoad.at? [0x49, 0xBA] (bytes.drop hit.offset) = some hit.hash ∧ known x hit = true ∧
        ∀ earlier ∈ accepted x bytes, earlier.offset < hit.offset → earlier.offset + 10 ≤ hit.offset :=
  HashLoad.mem_accepted_iff [0x49, 0xBA] (by decide) HashLoad.unbordered_signature (known x) bytes hit

/-- The search accepts a hit at an address exactly when the address is a usage site. Both sides say that a
candidate is not covered by what was found before it, so the induction is on the address. -/
theorem exists_accepted_iff (hstep : Snapshot.validStep s.step = true) {x : HashIndex}
    (hx : HashIndex.Indexes s.captured s.entries x) (start : Address) (bytes : List UInt8)
    (a : Address) (hle : start.toNat ≤ a.toNat) :
    (∃ hash, ⟨a.toNat - start.toNat, hash⟩ ∈ accepted x bytes) ↔ s.IsSite start bytes a := by
  rw [IsSite]
  constructor
  · rintro ⟨hash, hm⟩
    obtain ⟨hat, hk, hearlier⟩ := (mem_accepted x bytes _).mp hm
    obtain ⟨n, hl, rfl⟩ := (at?_iff_loads start bytes a hash hle).mp hat
    obtain ⟨e, he⟩ := (known_iff hstep hx n).mp hk
    refine ⟨⟨n, e, hl, he⟩, ?_⟩
    intro b hlt hb
    have hleb := hb.start_le
    obtain ⟨hash', hm'⟩ := (exists_accepted_iff hstep hx start bytes b hleb).mpr hb
    have hgap : b.toNat - start.toNat + 10 ≤ a.toNat - start.toNat :=
      hearlier _ hm' (show b.toNat - start.toNat < a.toNat - start.toNat by omega)
    omega
  · rintro ⟨⟨n, e, hl, he⟩, hb⟩
    refine ⟨maskHash n, (mem_accepted x bytes _).mpr ⟨?_, (known_iff hstep hx n).mpr ⟨e, he⟩, ?_⟩⟩
    · exact (at?_iff_loads start bytes a _ hle).mpr ⟨n, hl, rfl⟩
    · intro earlier hm hlt
      have hlt' : earlier.offset < a.toNat - start.toNat := hlt
      have halt := a.toNat_lt
      let b : Address := start + UInt64.ofNat earlier.offset
      have hbn : b.toNat = start.toNat + earlier.offset := by
        simp only [b, UInt64.toNat_add, UInt64.toNat_ofNat']
        omega
      have hoff : b.toNat - start.toNat = earlier.offset := by omega
      have hsite : s.IsSite start bytes b :=
        (exists_accepted_iff hstep hx start bytes b (by omega)).mp ⟨earlier.hash, by rwa [hoff]⟩
      have hgap := hb b (by omega) hsite
      show earlier.offset + 10 ≤ a.toNat - start.toNat
      omega
termination_by a.toNat

theorem sitesIn_eq (x : HashIndex) (r : Region) :
    Correlation.sitesIn [0x49, 0xBA] x r = (accepted x r.bytes.toList).map fun hit =>
      { address := r.start + UInt64.ofNat hit.offset, hash := hit.hash } := rfl

/-- An accepted hit in a captured region lies inside the address space. -/
theorem toNat_accepted (hstep : Snapshot.validStep s.step = true) (x : HashIndex) (r : Region)
    (hr : r ∈ s.captured.regions) (hit : HashLoad) (hm : hit ∈ accepted x r.bytes.toList) :
    (r.start + UInt64.ofNat hit.offset).toNat = r.start.toNat + hit.offset := by
  have hspace := ((mem_captured hstep r).mp hr).inSpace
  obtain ⟨hat, -, -⟩ := (mem_accepted x _ _).mp hm
  have hlen := (HashLoad.prefix_of_at? _ _ _ hat).length_le
  simp only [List.length_cons, List.length_drop, Array.length_toList, spaceSize] at hlen hspace
  simp only [UInt64.toNat_add, UInt64.toNat_ofNat']
  omega

/-- The sites that are found in a captured region. -/
theorem mem_sitesIn (hstep : Snapshot.validStep s.step = true) {x : HashIndex}
    (hx : HashIndex.Indexes s.captured s.entries x) (r : Region) (hr : r ∈ s.captured.regions)
    (site : Correlation.Site) :
    site ∈ Correlation.sitesIn [0x49, 0xBA] x r ↔
      s.IsSite r.start r.bytes.toList site.address ∧
        ∃ n, Loads r.start r.bytes.toList site.address n ∧ site.hash = maskHash n := by
  rw [sitesIn_eq, List.mem_map]
  constructor
  · rintro ⟨hit, hm, rfl⟩
    obtain ⟨hat, -, -⟩ := (mem_accepted x _ _).mp hm
    have hn := toNat_accepted hstep x r hr hit hm
    have hle : r.start.toNat ≤ (r.start + UInt64.ofNat hit.offset).toNat := by omega
    have hoff : (r.start + UInt64.ofNat hit.offset).toNat - r.start.toNat = hit.offset := by omega
    refine ⟨(exists_accepted_iff hstep hx _ _ _ hle).mp ⟨hit.hash, by rwa [hoff]⟩, ?_⟩
    rw [← hoff] at hat
    exact (at?_iff_loads _ _ _ _ hle).mp hat
  · rintro ⟨hs, hl⟩
    have hle := hs.start_le
    obtain ⟨hash, hm⟩ := (exists_accepted_iff hstep hx _ _ _ hle).mpr hs
    refine ⟨_, hm, ?_⟩
    have hat := ((mem_accepted x _ _).mp hm).1
    rw [(at?_iff_loads _ _ _ _ hle).mpr hl] at hat
    have haddr : r.start + UInt64.ofNat (site.address.toNat - r.start.toNat) = site.address := by
      have hlt := site.address.toNat_lt
      rw [← UInt64.toNat_inj, UInt64.toNat_add, UInt64.toNat_ofNat']
      omega
    cases site
    simp only [haddr, Correlation.Site.mk.injEq, true_and]
    exact (Option.some.inj hat).symm

/-- The sites that are found in the captured code. -/
theorem mem_sites (hstep : Snapshot.validStep s.step = true) {x : HashIndex}
    (hx : HashIndex.Indexes s.captured s.entries x) (site : Correlation.Site) :
    site ∈ Correlation.sites s.captured x [0x49, 0xBA] ↔
      ∃ n, s.IsUsage site.address n ∧ site.hash = maskHash n := by
  unfold Correlation.sites
  rw [List.mem_flatMap]
  constructor
  · rintro ⟨r, hr, hm⟩
    obtain ⟨hs, n, hl, hn⟩ := (mem_sitesIn hstep hx r hr site).mp hm
    exact ⟨n, ⟨r.start, r.bytes.toList, (mem_captured hstep r).mp hr, hs, hl⟩, hn⟩
  · rintro ⟨n, ⟨start, bytes, hc, hs, hl⟩, hn⟩
    let r : Region := ⟨start, bytes.toArray⟩
    have hr : r ∈ s.captured.regions := (mem_captured hstep r).mpr hc
    exact ⟨r, hr, (mem_sitesIn hstep hx r hr site).mpr ⟨hs, n, hl, hn⟩⟩

theorem length_load (n : Nat) : ([0x49, 0xBA] ++ LittleEndian.encode 8 n).length = 10 := by
  rw [List.length_append, LittleEndian.length_encode]
  rfl

theorem Loads.unique {start a : Address} {bytes : List UInt8} {hash hash' : UInt64}
    (h : Loads start bytes a hash) (h' : Loads start bytes a hash') : hash = hash' := by
  have heq : ([0x49, 0xBA] ++ LittleEndian.encode 8 hash.toNat).length =
      ([0x49, 0xBA] ++ LittleEndian.encode 8 hash'.toNat).length := by rw [length_load, length_load]
  have he := List.append_cancel_left
    ((List.prefix_of_prefix_length_le h.2 h'.2 (Nat.le_of_eq heq)).eq_of_length heq)
  rw [← LittleEndian.ofNat_decode_encode hash, he, LittleEndian.ofNat_decode_encode]

theorem Loads.lt {start a : Address} {bytes : List UInt8} {hash : UInt64} (h : Loads start bytes a hash) :
    a.toNat < start.toNat + bytes.length := by
  obtain ⟨hle, hp⟩ := h
  have hlen := hp.length_le
  simp only [List.length_append, List.length_cons, List.length_drop] at hlen
  omega

/-- Captured runs that hold one address are the same. -/
theorem Captures.unique (hstep : Snapshot.validStep s.step = true) {start start' a : Address}
    {bytes bytes' : List UInt8}
    (h : s.Captures start bytes) (h' : s.Captures start' bytes')
    (hle : start.toNat ≤ a.toNat) (hle' : start'.toNat ≤ a.toNat)
    (hlt : a.toNat < start.toNat + bytes.length) (hlt' : a.toNat < start'.toNat + bytes'.length) :
    start = start' ∧ bytes = bytes' := by
  have hstart : start = start' := by
    rw [← UInt64.toNat_inj]
    rcases Nat.lt_trichotomy start.toNat start'.toNat with hs | hs | hs
    · have := Snapshot.IsCaptured.separated (Snapshot.pos_of_validStep hstep) h h' hs
      omega
    · exact hs
    · have := Snapshot.IsCaptured.separated (Snapshot.pos_of_validStep hstep) h' h hs
      omega
  subst hstart
  have hr : ⟨start, bytes.toArray⟩ ∈ s.captured.regions := (mem_captured hstep _).mpr h
  have hr' : ⟨start, bytes'.toArray⟩ ∈ s.captured.regions := (mem_captured hstep _).mpr h'
  have he := Captured.eq_of_start_eq _ _ _ hr hr' rfl
  simpa using he

theorem IsUsage.unique (hstep : Snapshot.validStep s.step = true) {a : Address} {hash hash' : UInt64}
    (h : s.IsUsage a hash) (h' : s.IsUsage a hash') : hash = hash' := by
  obtain ⟨start, bytes, hc, -, hl⟩ := h
  obtain ⟨start', bytes', hc', -, hl'⟩ := h'
  obtain ⟨rfl, rfl⟩ := hc.unique hstep hc' hl.1 hl'.1 hl.lt hl'.lt
  exact hl.unique hl'

theorem IsUsage.sharing_ne_nil {a : Address} {hash : UInt64} (h : s.IsUsage a hash) :
    s.sharing hash ≠ [] := by
  obtain ⟨start, bytes, -, hs, hl⟩ := h
  obtain ⟨n, e, hl', he⟩ := hs.isCandidate
  obtain rfl := hl.unique hl'
  exact List.ne_nil_of_mem ((mem_sharing hash e).mpr he)

/-- What a usage site asks of the host. -/
theorem siteRequests_of_usage (hstep : Snapshot.validStep s.step = true) {x : HashIndex}
    (hx : HashIndex.Indexes s.captured s.entries x) (config : Config) (w : Width) (h : Host)
    {a : Address} {hash : UInt64} (hu : s.IsUsage a hash) :
    Correlation.siteRequests config w h x ⟨a, maskHash hash⟩ =
      Correlation.groupRequests config (Naming.group h w (s.sharing hash)) a (s.sharing hash) := by
  simp [Correlation.siteRequests, get?_of_indexes hstep hx, HashIndex.groupOf, hu.sharing_ne_nil]

/-- The requests of the sites of captured code, described. -/
theorem mem_requests_iff (hstep : Snapshot.validStep s.step = true) {x : HashIndex}
    (hx : HashIndex.Indexes s.captured s.entries x) (config : Config) (w : Width) (h : Host)
    (r : Request) :
    r ∈ (Correlation.sites s.captured x [0x49, 0xBA]).flatMap (Correlation.siteRequests config w h x) ↔
      ∃ a hash, s.IsUsage a hash ∧
        r ∈ Correlation.groupRequests config (Naming.group h w (s.sharing hash)) a (s.sharing hash) := by
  rw [List.mem_flatMap]
  constructor
  · rintro ⟨⟨a, masked⟩, hm, hr⟩
    obtain ⟨hash, hu, rfl⟩ := (mem_sites hstep hx _).mp hm
    rw [siteRequests_of_usage hstep hx config w h hu] at hr
    exact ⟨a, hash, hu, hr⟩
  · rintro ⟨a, hash, hu, hr⟩
    refine ⟨⟨a, maskHash hash⟩, (mem_sites hstep hx _).mpr ⟨hash, hu, rfl⟩, ?_⟩
    rw [siteRequests_of_usage hstep hx config w h hu]
    exact hr

theorem pairwise_sitesIn (hstep : Snapshot.validStep s.step = true) (x : HashIndex) (r : Region)
    (hr : r ∈ s.captured.regions) :
    (Correlation.sitesIn [0x49, 0xBA] x r).Pairwise fun site later =>
      site.address.toNat < later.address.toNat := by
  rw [sitesIn_eq, List.pairwise_map]
  refine ((HashLoad.pairwise_search _ _ _).filter _).imp_of_mem ?_
  intro hit later hm hm' hlt
  rw [toNat_accepted hstep x r hr hit hm, toNat_accepted hstep x r hr later hm']
  exact Nat.add_lt_add_left hlt _

/-- The sites come in ascending order: each region is searched from left to right, and the next one starts
behind its end. -/
theorem pairwise_sites (hstep : Snapshot.validStep s.step = true) {x : HashIndex}
    (hx : HashIndex.Indexes s.captured s.entries x) :
    (Correlation.sites s.captured x [0x49, 0xBA]).Pairwise fun site later =>
      site.address.toNat < later.address.toNat := by
  have hsep : s.captured.Separated := Snapshot.separated_take _ _ _ hstep
  unfold Correlation.sites
  rw [List.pairwise_flatMap]
  refine ⟨fun r hr => pairwise_sitesIn hstep x r hr, s.captured.pairwise_regions.imp_of_mem ?_⟩
  intro r r' hr hr' hlt site hm site' hm'
  obtain ⟨-, n, hl, -⟩ := (mem_sitesIn hstep hx r hr site).mp hm
  obtain ⟨hs', -⟩ := (mem_sitesIn hstep hx r' hr' site').mp hm'
  have hend := hl.lt
  rw [Array.length_toList] at hend
  have hgap := hsep r hr r' hr' hlt
  have hstart := hs'.start_le
  omega

/-- The usage sites in ascending order, each with the hash that it loads. -/
structure UsageList (s : Scene) (us : List (Address × UInt64)) : Prop where
  mem_iff : ∀ a hash, (a, hash) ∈ us ↔ s.IsUsage a hash
  ascending : us.Pairwise fun u later => u.1.toNat < later.1.toNat

/-- No two usage sites have the same address. -/
theorem UsageList.nodup_addresses {us : List (Address × UInt64)} (h : s.UsageList us) :
    (us.map Prod.fst).Nodup := by
  rw [List.Nodup, List.pairwise_map]
  refine h.ascending.imp ?_
  intro u later hlt he
  rw [he] at hlt
  omega

/-- Sites that load the hashes of a list. -/
theorem exists_loaded (sites : List Correlation.Site)
    (h : ∀ site ∈ sites, ∃ n, s.IsUsage site.address n ∧ site.hash = maskHash n) :
    ∃ us : List (Address × UInt64), sites = us.map (fun u => ⟨u.1, maskHash u.2⟩) ∧
      ∀ u ∈ us, s.IsUsage u.1 u.2 := by
  induction sites with
  | nil => exact ⟨[], rfl, by simp⟩
  | cons site rest ih =>
    obtain ⟨n, hu, hn⟩ := h site (by simp)
    obtain ⟨us, rfl, hall⟩ := ih fun site hm => h site (by simp [hm])
    refine ⟨(site.address, n) :: us, ?_, ?_⟩
    · cases site
      simp_all
    · intro u hm
      rcases List.mem_cons.mp hm with rfl | hm
      · exact hu
      · exact hall u hm

/-- The sites that a run visits are the usage sites in ascending order. -/
theorem exists_usageList (hstep : Snapshot.validStep s.step = true) {x : HashIndex}
    (hx : HashIndex.Indexes s.captured s.entries x) :
    ∃ us, s.UsageList us ∧
      Correlation.sites s.captured x [0x49, 0xBA] = us.map fun u => ⟨u.1, maskHash u.2⟩ := by
  obtain ⟨us, hsites, hall⟩ := exists_loaded (s := s) (Correlation.sites s.captured x [0x49, 0xBA])
    fun site hm => (mem_sites hstep hx site).mp hm
  refine ⟨us, ⟨?_, ?_⟩, hsites⟩
  · intro a hash
    constructor
    · exact hall (a, hash)
    · intro hu
      have hm := (mem_sites hstep hx ⟨a, maskHash hash⟩).mpr ⟨hash, hu, rfl⟩
      rw [hsites, List.mem_map] at hm
      obtain ⟨u, hin, he⟩ := hm
      have hu' := hall u hin
      obtain rfl : u.1 = a := congrArg Correlation.Site.address he
      rw [hu.unique hstep hu']
      exact hin
  · have hpair := pairwise_sites hstep hx
    rwa [hsites, List.pairwise_map] at hpair

end Scene

end FlowGuard
