import FlowGuard.Proofs.Shift
import FlowGuard.Proofs.Specimen.Code

/-!
One specimen at two bases. Below the end of its guard table the two images differ in what they say about their own
place; the code is the same. A run on either image stops for the same reason, or finds the same and writes the same
at places that differ by the distance of the bases.
-/

namespace FlowGuard

namespace Specimen

open Bytes
open Std (ExtTreeMap)

def shift (d : UInt64) (s : Specimen) : Specimen :=
  { s with base := s.base + d }

theorem shift_apply (d : UInt64) (s : Specimen) (c : Call) : (c.apply s).shift d = c.apply (s.shift d) := by
  cases c <;> rfl

theorem shift_foldl (d : UInt64) (s : Specimen) (calls : List Call) :
    (calls.foldl Call.apply s).shift d = calls.foldl Call.apply (s.shift d) := by
  induction calls generalizing s with
  | nil => rfl
  | cons c calls ih => rw [List.foldl_cons, List.foldl_cons, ih, shift_apply]

/-- Calls describe the same specimen at every base. -/
theorem shift_made (d : UInt64) (base : Address) (w : Width) (calls : List Call) :
    (made base w calls).shift d = made (base + d) w calls :=
  shift_foldl d _ calls

def decoded (s : Specimen) : Except RunError (List Entry) :=
  match s.walked with
  | .error e => .error (.noGuardTable e)
  | .ok _ => (Table.stride s.guardBlock).map fun _ => s.slots.filterMap (Table.entryOf? s.base)

theorem eq_guardBlock_of_walked {s : Specimen} {b : GuardBlock} (h : s.walked = .ok b) : b = s.guardBlock := by
  unfold walked at h
  split at h
  · cases h
  · split at h
    · cases h
    · split at h
      · cases h
      · cases h
        rfl

theorem eq_filterMap_of_decoded {s : Specimen} {es : List Entry} (h : s.decoded = .ok es) :
    es = s.slots.filterMap (Table.entryOf? s.base) := by
  unfold decoded at h
  cases hw : s.walked with
  | error e =>
    rw [hw] at h
    cases h
  | ok b =>
    rw [hw] at h
    cases hs : Table.stride s.guardBlock with
    | error e => simp [hs, Except.map] at h
    | ok size => simpa [hs, Except.map] using h.symm

theorem entryOf?_shift (base d : UInt64) (slot : UInt32 × UInt8) :
    Table.entryOf? (base + d) slot = (Table.entryOf? base slot).map (Entry.shift d) := by
  unfold Table.entryOf?
  split
  · rw [Option.map_some, Entry.ofRva_shift]
  · rfl

/-- The header walk sees the base in the place of the table only. -/
theorem walked_shift (d : UInt64) (s : Specimen) :
    (s.shift d).walked = s.walked.map fun b => { b with table := (s.shift d).tableAddress } := by
  have hcount : (s.shift d).directoryCount = s.directoryCount := rfl
  have hconfig : (s.shift d).hasLoadConfig = s.hasLoadConfig := rfl
  have hdeclared : (s.shift d).declared = s.declared := rfl
  have hwidth : (s.shift d).width = s.width := rfl
  simp only [walked, hcount, hconfig, hdeclared, hwidth]
  split
  · rfl
  · split
    · rfl
    · split <;> rfl

/-- The reasons to stop do not depend on the base, and the entries move with it. -/
theorem decoded_shift (d : UInt64) (s : Specimen) :
    (s.shift d).decoded = s.decoded.map (List.map (Entry.shift d)) := by
  have hentries : (s.shift d).slots.filterMap (Table.entryOf? (s.shift d).base) =
      (s.slots.filterMap (Table.entryOf? s.base)).map (Entry.shift d) := by
    rw [List.map_filterMap]
    congr 1
    funext slot
    exact entryOf?_shift s.base d slot
  have hstride : Table.stride (s.shift d).guardBlock = Table.stride s.guardBlock := Table.stride_congr rfl
  rw [decoded, decoded, walked_shift, hstride, hentries]
  cases s.walked with
  | error e => rfl
  | ok b => cases Table.stride s.guardBlock <;> rfl

theorem end_le_of_mem_slotPatches (metadata offset : Nat) (slots : List (UInt32 × UInt8))
    (p : Nat × List UInt8) (hp : p ∈ slotPatches metadata offset slots) :
    p.1 + p.2.length ≤ offset + slots.length * (4 + metadata) := by
  induction slots generalizing offset with
  | nil => cases hp
  | cons slot rest ih =>
    rw [List.length_cons, Nat.succ_mul]
    simp only [slotPatches, List.cons_append, List.mem_cons, List.mem_append] at hp
    rcases hp with rfl | hp | hp
    · simp only [long, LittleEndian.length_encode]
      omega
    · split at hp
      · obtain rfl := List.mem_singleton.mp hp
        simp only [List.length_singleton]
        omega
      · cases hp
    · have := ih _ hp
      omega

/-- Nothing of the layout reaches over the end of the guard table. -/
theorem end_le_tableEnd (s : Specimen) (p : Nat × List UInt8) (hp : p ∈ s.laidOut) :
    p.1 + p.2.length ≤ s.tableEnd := by
  rcases List.mem_append.mp hp with hp | hp
  · have hfront := s.ascends_front [(tableRva, [])] ⟨Nat.le_refl _, trivial⟩
    exact Nat.le_trans (hfront.end_le p _ hp (List.mem_singleton_self _)) (Nat.le_add_right _ _)
  · exact end_le_of_mem_slotPatches _ _ _ p hp

/-- Behind the guard table the file holds what was placed there, over zeros. -/
theorem part_file_behind (s : Specimen) (offset count : Nat) (h : s.tableEnd ≤ offset) :
    part s.file offset count = part (putAll (Array.replicate s.imageSize 0) s.placed) offset count := by
  apply part_congr
  intro i hi
  rw [file_eq, putAll_append]
  refine getElem?_putAll_congr _ _ (size_putAll _ _) (getElem?_putAll_of_not_covered _ _ _ ?_)
  intro p hp hc
  have := s.end_le_tableEnd p hp
  have := hc.2
  omega

/-- A specimen that keeps its layout and its code apart and lies at page boundaries. -/
structure Tidy (s : Specimen) : Prop where
  made : s.WellMade
  wide : s.width = .bits64
  spares : s.SparesBelow s.tableEnd
  table : s.tableEnd ≤ codeRva
  aligned : s.base.toNat % 0x1000 = 0
  space : s.base.toNat + s.imageSize < spaceSize

theorem Tidy.shift {s : Specimen} (h : s.Tidy) (d : UInt64) (haligned : (s.base + d).toNat % 0x1000 = 0)
    (hspace : (s.base + d).toNat + s.imageSize < spaceSize) : (s.shift d).Tidy :=
  ⟨⟨h.made.metadata, h.made.flags⟩, h.wide, h.spares, h.table, haligned, hspace⟩

section Tidy

variable {s : Specimen} (h : s.Tidy)
include h

theorem Tidy.isMapped : s.IsMapped s.build.memory :=
  s.isMapped_build (Nat.le_of_lt h.space)

theorem Tidy.tableEntries (k : Marker) (hk : k.width = .bits64) :
    k.tableEntries s.build.memory s.loadedModule = s.decoded := by
  have hshows := h.isMapped.shows (Nat.le_of_lt h.space)
  have htable : s.tableEnd ≤ s.imageSize := s.le_imageSize h.table
  have hlow : s.width = .bits32 → s.base.toNat + tableRva < 2 ^ 32 := by
    intro hw
    rw [h.wide] at hw
    cases hw
  obtain ⟨hpointer, hslots⟩ := s.pointers_lt htable h.space hlow
  have hfind := find_of_shows hshows h.space (s.le_imageSize (by decide))
    (h.spares.mono (Nat.le_add_right _ _)) hpointer hslots
  rw [h.wide] at hfind
  have hwalk : Header.find s.build.memory s.loadedModule.base k.width = s.walked := by
    rw [hk]
    exact hfind
  unfold Marker.tableEntries decoded
  rw [hwalk]
  cases hw : s.walked with
  | error e => rfl
  | ok b =>
    obtain rfl := eq_guardBlock_of_walked hw
    show Table.entries s.build.memory s.base s.guardBlock = _
    cases hs : Table.stride s.guardBlock with
    | error e => simp [Table.entries, hs, Except.map]
    | ok size =>
      have hon : s.guardBlock.isEnabled = true ∧ s.guardBlock.metadataSize ≠ 0 := by
        unfold Table.stride at hs
        grind
      have hmeta : 0 < s.metadataSize.toNat := by
        rw [← toNat_metadataSize_guardBlock h.made]
        exact Nat.pos_of_ne_zero fun hz => hon.2 (UInt32.toNat_inj.mp hz)
      have henabled : s.flags &&& GuardBlock.enabledFlag ≠ 0 := by
        simpa [isEnabled_guardBlock] using hon.1
      exact entries_of_shows hshows h.space h.made hmeta henabled htable h.spares

theorem Tidy.regions (k : Marker) (hk : k.options.pageSize = 0x1000) :
    (k.snapshot s.build.memory s.loadedModule).captured.regions =
      [⟨s.address codeRva,
        (part (putAll (Array.replicate s.imageSize 0) s.placed) codeRva s.codeBytes).toArray⟩] := by
  rw [Marker.snapshot, hk, regions_code h.isMapped h.space h.aligned, part_file_behind s _ _ h.table]

theorem Tidy.accepts (a : Address) :
    s.build.accepts a = decide ((a - s.base).toNat + 1 ≤ s.imageSize) := by
  have hend := toNat_endAddress s h.space
  have hin : s.loadedModule.contains a = decide ((a - s.base).toNat + 1 ≤ s.imageSize) := by
    simp only [← Address.within_iff_distance s.base a s.imageSize 1 (Nat.le_of_lt h.space) Nat.one_pos,
      LoadedModule.contains, UInt64.le_iff_toNat_le, UInt64.lt_iff_toNat_lt, hend, ← Bool.decide_and]
    rw [decide_eq_decide]
    show s.base.toNat ≤ _ ∧ _ ↔ _
    omega
  rw [Host.accepts, refusal?_build, hin]
  cases decide ((a - s.base).toNat + 1 ≤ s.imageSize) <;> rfl

end Tidy

theorem symbols_eq_insertMany (base : Address) (names : List (UInt32 × String)) (t : ExtTreeMap Address String) :
    names.foldl (fun t (rva, name) => t.insert (base + rva.toUInt64) name) t =
      t.insertMany (names.map fun p => (base + p.1.toUInt64, p.2)) := by
  induction names generalizing t with
  | nil => simp
  | cons p rest ih => rw [List.foldl_cons, ih, List.map_cons, ExtTreeMap.insertMany_cons]

theorem symbolAt?_shift (d : UInt64) (s : Specimen) (a : Address) :
    (s.shift d).build.symbolAt? (a + d) = s.build.symbolAt? a := by
  have hmoved : s.symbols.map (fun p => (s.base + d + p.1.toUInt64, p.2)) =
      (s.symbols.map fun p => (s.base + p.1.toUInt64, p.2)).map fun p => (p.1 + d, p.2) := by
    simp only [List.map_map, Function.comp_def, Address.shift_add s.base d]
  have hempty (b : Address) : (∅ : ExtTreeMap Address String)[b + d]? = (∅ : ExtTreeMap Address String)[b]? := by
    simp
  have hlookup := getElem?_insertMany_shift hempty (s.symbols.map fun p => (s.base + p.1.toUInt64, p.2)) a
  rw [← hmoved, ← symbols_eq_insertMany, ← symbols_eq_insertMany] at hlookup
  rw [Host.symbolAt?, Host.symbolAt?, build_eq, build_eq]
  exact hlookup

/-- The selected module of an image is the image. -/
theorem run_build (s : Specimen) (hspace : s.base.toNat + s.imageSize < spaceSize) (k : Marker)
    (config : Config) : k.run s.build config = k.runModule s.build s.loadedModule config := by
  have hpos : 0 < s.imageSize := s.le_imageSize (n := 1) (by decide)
  have hbase : s.loadedModule.contains s.base = true := by
    rw [LoadedModule.contains, Bool.and_eq_true, decide_eq_true_iff, decide_eq_true_iff, UInt64.lt_iff_toNat_lt,
      toNat_endAddress s hspace]
    exact ⟨UInt64.le_refl _, by omega⟩
  have hselected : s.build.selectedModule? = some s.loadedModule := by
    rw [build_eq]
    simp [Host.selectedModule?, Host.moduleAt?, hbase]
  rw [Marker.run, hselected]

/-- Two bases of a tidy specimen are two places of one target. -/
theorem Tidy.shifted {s : Specimen} {d : UInt64} (h : s.Tidy) (h' : (s.shift d).Tidy) :
    Marker.Shifted { width := .bits64 } d s.build s.loadedModule (s.shift d).build
      (s.shift d).loadedModule where
  entries := by rw [h.tableEntries _ rfl, h'.tableEntries _ rfl, decoded_shift]
  captured := by
    apply Marker.shifted_snapshot
    have hstart : (s.shift d).address codeRva = s.address codeRva + d := Address.shift_add s.base d _
    rw [h.regions _ rfl, h'.regions _ rfl, hstart]
    rfl
  warnings := by
    rw [Marker.snapshot, Marker.snapshot]
    exact (warnings_code h'.isMapped h'.space h'.aligned).trans
      (warnings_code h.isMapped h.space h.aligned).symm
  accepts := by
    intro a
    rw [h.accepts, h'.accepts, ← Address.distance_shift d s.base a]
    rfl
  symbols := symbolAt?_shift d s
  fresh := by rw [build_eq]
  fresh' := by rw [build_eq]

/-- Moving the base moves the run. On one specimen at two aligned bases a run fails with the same error, or has the
same result and leaves its references, marks and comments at places that differ by the distance of the bases; the
comment of a usage site is the same text if every function that shares its hash has a symbol that can be shown. -/
theorem run_shifts_with_base (calls : List Call) (base base' : Address) (s s' : Specimen) (config : Config)
    (hs : s = made base .bits64 calls) (hs' : s' = made base' .bits64 calls)
    (hspares : s.SparesBelow s.tableEnd) (htable : s.tableEnd ≤ 0x10000)
    (haligned : base.toNat % 0x1000 = 0) (haligned' : base'.toNat % 0x1000 = 0)
    (hspace : base.toNat + s.imageSize < spaceSize) (hspace' : base'.toNat + s.imageSize < spaceSize) :
    let k : Marker := { width := .bits64 }
    let d := base' - base
    let before := (k.run s.build config).value
    let after := (k.run s'.build config).value
    let scene := k.scene s.build s.loadedModule ((calls.filterMap Call.hashed?).map (Entry.ofRva base))
    after.1 = before.1 ∧ Annotations.Shifted d before.2.annotations after.2.annotations ∧
      ∀ a hash, scene.IsUsage a hash → (∀ e ∈ scene.sharing hash, Naming.IsNamed s.build e.function) →
        after.2.annotations.comments[a + d]? = before.2.annotations.comments[a]? := by
  intro k d before after scene
  have hbase : s.base = base := by rw [hs, base_made]
  have hmoved : base + d = base' := by rw [UInt64.add_comm, UInt64.sub_add_cancel]
  have hshift : s.shift d = s' := by rw [hs, hs', shift_made, hmoved]
  have htidy : s.Tidy := {
    made := hs ▸ wellMade_made base .bits64 calls
    wide := by rw [hs, width_made]
    spares := hspares
    table := htable
    aligned := by rwa [hbase]
    space := by rwa [hbase] }
  have htidy' : (s.shift d).Tidy := htidy.shift d (by rwa [hbase, hmoved]) (by rwa [hbase, hmoved])
  have hentries : ∀ found, k.tableEntries s.build.memory s.loadedModule = .ok found →
      found = (calls.filterMap Call.hashed?).map (Entry.ofRva base) := by
    intro found hfound
    rw [htidy.tableEntries k rfl] at hfound
    rw [eq_filterMap_of_decoded hfound, hbase, ← filterMap_entryOf?_slots, hs, slots_made]
  have hrun := (htidy.shifted htidy').runModule rfl config _ hentries
  rw [hshift] at hrun htidy'
  rw [← run_build s htidy.space, ← run_build s' htidy'.space] at hrun
  exact hrun

/-- Symbols are not part of the image. -/
theorem memory_build_symbols (s : Specimen) (names : List (UInt32 × String)) :
    ({ s with symbols := names } : Specimen).build.memory = s.build.memory := by
  rw [build_eq, build_eq]
  rfl

/-- Two functions that share a hash and a load of it, with names for both. -/
def namedCalls : List Call :=
  [.hashedFunction 0x10100 0x1234, .plainFunction 0x10200, .hashedFunction 0x10300 0x1235,
    .hashLoad 0x10000 0x1234, .symbol 0x10100 "first", .symbol 0x10300 "second"]

def named : Specimen :=
  { paired with symbols := [(0x10100, "first"), (0x10300, "second")] }

theorem isNamed_named (e : Entry) (he : e ∈ pairedEntries) : Naming.IsNamed named.build e.function := by
  have hsymbols : named.build.symbols =
      ((∅ : ExtTreeMap Address String).insert 0x140010100 "first").insert 0x140010300 "second" := by
    rw [build_eq]
    rfl
  have hfirst : named.build.symbolAt? 0x140010100 = some "first" := by
    rw [Host.symbolAt?, hsymbols, ExtTreeMap.getElem?_insert, ExtTreeMap.getElem?_insert]
    rfl
  have hsecond : named.build.symbolAt? 0x140010300 = some "second" := by
    rw [Host.symbolAt?, hsymbols, ExtTreeMap.getElem?_insert]
    rfl
  rcases List.mem_cons.mp he with rfl | he
  · have hplace : (Entry.ofRva 0x140000000 0x10100).function = 0x140010100 := by decide
    rw [Naming.IsNamed, hplace, hfirst]
    decide
  · obtain rfl := List.mem_singleton.mp he
    have hplace : (Entry.ofRva 0x140000000 0x10300).function = 0x140010300 := by decide
    rw [Naming.IsNamed, hplace, hsecond]
    decide

/-- The load has the same comment at both bases. -/
theorem run_shifts_with_base_named :
    let k : Marker := { width := .bits64 }
    let before := (k.run (made 0x140000000 .bits64 namedCalls).build {}).value
    let after := (k.run (made 0x7FF600000000 .bits64 namedCalls).build {}).value
    after.1 = before.1 ∧ Annotations.Shifted 0x7FF4C0000000 before.2.annotations after.2.annotations ∧
      after.2.annotations.comments[(0x7FF600010000 : Address)]? =
        before.2.annotations.comments[(0x140010000 : Address)]? := by
  have hmade : named = made 0x140000000 .bits64 namedCalls := rfl
  obtain ⟨hresult, hshifted, hcomments⟩ := run_shifts_with_base namedCalls 0x140000000 0x7FF600000000 named _ {}
    hmade rfl (sparesBelow_of_le (by decide)) (by decide) (by decide) (by decide) (by decide) (by decide)
  have hd : (0x7FF600000000 : Address) - 0x140000000 = 0x7FF4C0000000 := by decide
  have hsite : (0x140010000 : Address) + 0x7FF4C0000000 = 0x7FF600010000 := by decide
  have hentries : (namedCalls.filterMap Call.hashed?).map (Entry.ofRva 0x140000000) = pairedEntries := rfl
  have hmemory : named.build.memory = paired.build.memory := memory_build_symbols paired _
  have hmodule : named.loadedModule = paired.loadedModule := rfl
  rw [hd, hmade] at hshifted
  rw [hmade] at hresult
  rw [hd, hentries, Marker.scene, hmemory, hmodule] at hcomments
  have hsame := hcomments 0x140010000 0x1234 isUsage_paired.1
    fun e he => isNamed_named e ((Scene.mem_sharing _ e).mp he).1
  rw [hsite, hmade] at hsame
  exact ⟨hresult, hshifted, hsame⟩

end Specimen

end FlowGuard
