import FlowGuard.Proofs.HashIndex
import FlowGuard.Proofs.LittleEndian
import FlowGuard.Proofs.Lookup
import Mathlib.Algebra.BigOperators.Group.Finset.Basic
import Mathlib.Algebra.Ring.Nat

/-!
The hash index divides the entries whose hash was captured into groups, one for each hash without its lowest bit.
Only such masked hashes are keys, so the groups are as many as the distinct masked hashes, and together they have
as many entries as were not missed.
-/

namespace FlowGuard.HashIndex

/-- The captured code holds the eight bytes of the entry, and they spell the hash. -/
def IsStored (c : Captured) (e : Entry) (hash : UInt64) : Prop :=
  c.read? e.address 8 = some (LittleEndian.encode 8 hash.toNat)

def Shares (c : Captured) (hash : UInt64) (e : Entry) : Prop :=
  ∃ stored, IsStored c e stored ∧ stored.toNat / 2 = hash.toNat / 2

theorem storedHash?_eq_some_iff (c : Captured) (e : Entry) (hash : UInt64) :
    storedHash? c e = some hash ↔ IsStored c e hash := by
  unfold storedHash? IsStored
  rw [Option.map_eq_some_iff]
  constructor
  · rintro ⟨bytes, hread, rfl⟩
    obtain ⟨r, -, hgives⟩ := c.gives_of_read? _ _ _ hread
    rw [LittleEndian.encode_ofNat_decode bytes hgives.length]
    exact hread
  · intro hread
    exact ⟨_, hread, LittleEndian.ofNat_decode_encode hash⟩

theorem stores_iff_shares (c : Captured) (hash : UInt64) (e : Entry) :
    stores c hash e = true ↔ Shares c hash e := by
  simp only [stores, Shares, beq_iff_eq, Option.map_eq_some_iff, storedHash?_eq_some_iff, maskHash_eq_iff]

instance (c : Captured) (hash : UInt64) (e : Entry) : Decidable (Shares c hash e) :=
  decidable_of_iff (stores c hash e = true) (stores_iff_shares c hash e)

theorem filter_shares (c : Captured) (hash : UInt64) (es : List Entry) :
    es.filter (fun e => decide (Shares c hash e)) = es.filter (stores c hash) := by
  apply List.filter_congr
  intro e _
  rw [Bool.eq_iff_iff, decide_eq_true_iff, stores_iff_shares]

/-- Flipping the lowest bit changes no masked hash. -/
theorem maskHash_flip (hash : UInt64) : maskHash (hash ^^^ 1) = maskHash hash := by
  rw [maskHash_eq_iff, UInt64.toNat_xor, Nat.xor_div_two]
  exact Nat.xor_zero _

def Masked (x : HashIndex) : Prop :=
  ∀ key, key ∈ x.groups → maskHash key = key

theorem masked_add (x : HashIndex) (hx : x.Masked) (hash : UInt64) (e : Entry) : (x.add hash e).Masked := by
  intro key hkey
  rcases Std.ExtTreeMap.mem_insert.mp hkey with heq | hold
  · rw [← Std.LawfulEqCmp.compare_eq_iff_eq.mp heq, maskHash_maskHash]
  · exact hx key hold

theorem masked_addAll (c : Captured) (x : HashIndex) (hx : x.Masked) (missed : Nat) (es : List Entry) :
    (addAll c x missed es).value.1.Masked := by
  induction es generalizing x missed with
  | nil => exact hx
  | cons e rest ih =>
    cases he : storedHash? c e with
    | some hash =>
      simp only [addAll, he]
      exact ih (x.add hash e) (masked_add x hx hash e) missed
    | none =>
      simp only [addAll, he, Traced.value_bind]
      exact ih x hx (missed + 1)

theorem masked_build (c : Captured) (es : List Entry) : (build c es).value.1.Masked := by
  have hempty : Masked {} := fun key hkey => absurd hkey Std.ExtTreeMap.not_mem_empty
  exact masked_addAll c {} hempty 0 es

def maskedHash? (c : Captured) (e : Entry) : Option UInt64 :=
  (storedHash? c e).map maskHash

theorem mem_maskedHashes (c : Captured) (es : List Entry) (key : UInt64) :
    key ∈ es.filterMap (maskedHash? c) ↔ ∃ e ∈ es, ∃ stored, IsStored c e stored ∧ maskHash stored = key := by
  simp only [List.mem_filterMap, maskedHash?, Option.map_eq_some_iff, storedHash?_eq_some_iff]

section

variable {c : Captured} {es : List Entry} {x : HashIndex} (hx : Indexes c es x) (hm : x.Masked)
include hx hm

/-- The groups, key by key. -/
theorem getElem?_groups {key : UInt64} {group : HashGroup} (hg : x.groups[key]? = some group) :
    maskHash key = key ∧ es.filter (stores c key) ≠ [] ∧ group = { entries := es.filter (stores c key) } := by
  have hkey : maskHash key = key :=
    hm key (Std.ExtTreeMap.mem_iff_isSome_getElem?.mpr (Option.isSome_of_eq_some hg))
  have hget := hx key
  rw [get?, hkey, hg] at hget
  exact ⟨hkey, (groupOf_eq_some_iff _ _).mp hget.symm⟩

/-- The keys are the masked hashes of the entries. -/
theorem mem_groups_iff (key : UInt64) : key ∈ x.groups ↔ key ∈ es.filterMap (maskedHash? c) := by
  rw [Std.ExtTreeMap.mem_iff_isSome_getElem?, Option.isSome_iff_exists, List.mem_filterMap]
  constructor
  · rintro ⟨group, hg⟩
    obtain ⟨hkey, hne, -⟩ := getElem?_groups hx hm hg
    obtain ⟨e, he⟩ := List.exists_mem_of_ne_nil _ hne
    obtain ⟨hin, hs⟩ := List.mem_filter.mp he
    rw [stores, hkey, beq_iff_eq] at hs
    exact ⟨e, hin, hs⟩
  · rintro ⟨e, hin, hs⟩
    obtain ⟨stored, -, rfl⟩ := Option.map_eq_some_iff.mp hs
    have hstores : stores c (maskHash stored) e = true := by
      rw [stores, maskHash_maskHash, beq_iff_eq]
      exact hs
    have hne := List.ne_nil_of_mem (List.mem_filter.mpr ⟨hin, hstores⟩)
    have hget := hx (maskHash stored)
    rw [get?, maskHash_maskHash, (groupOf_eq_some_iff _ _).mpr ⟨hne, rfl⟩] at hget
    exact ⟨_, hget⟩

/-- A group has as many entries as there are captured hashes with its key. -/
theorem length_group {key : UInt64} {group : HashGroup} (hg : x.groups[key]? = some group) :
    group.entries.length = (es.filterMap (maskedHash? c)).count key := by
  obtain ⟨hkey, -, rfl⟩ := getElem?_groups hx hm hg
  rw [← List.countP_eq_length_filter, List.count_filterMap]
  unfold stores
  rw [hkey]
  rfl

/-- The sizes of the groups add up to the number of captured hashes. -/
theorem sum_lengths :
    (x.groups.toList.map fun p => p.2.entries.length).sum = (es.filterMap (maskedHash? c)).length := by
  -- every captured hash is counted once, under its own key
  have hkeys : x.groups.keys.toFinset = (es.filterMap (maskedHash? c)).toFinset := by
    ext key
    rw [List.mem_toFinset, List.mem_toFinset, Std.ExtTreeMap.mem_keys, mem_groups_iff hx hm]
  have hcounts : (x.groups.toList.map fun p => p.2.entries.length) =
      x.groups.keys.map fun key => (es.filterMap (maskedHash? c)).count key := by
    rw [← Std.ExtTreeMap.map_fst_toList_eq_keys, List.map_map]
    apply List.map_congr_left
    intro p hp
    exact length_group hx hm (Std.ExtTreeMap.mem_toList_iff_getElem?_eq_some.mp hp)
  rw [hcounts, ← List.sum_toFinset _ Std.ExtTreeMap.nodup_keys, hkeys, List.sum_toFinset_count_eq_length]

end

/-- The index divides the entries that were captured, and counts those that were not. -/
structure Partitions (c : Captured) (es : List Entry) (x : HashIndex) (missed : Nat) : Prop where
  missed_eq : missed = es.countP fun e => (c.read? e.address 8).isNone
  isSome_get? : ∀ hash, (x.get? hash).isSome ↔ ∃ e ∈ es, Shares c hash e
  /-- In table order, with repetitions. -/
  entries_eq : ∀ (hash : UInt64) (group : HashGroup), x.get? hash = some group →
    group.entries = es.filter fun e => decide (Shares c hash e)
  comment_eq : ∀ (hash : UInt64) (group : HashGroup), x.get? hash = some group → group.comment = none
  get?_flip : ∀ hash, x.get? hash = x.get? (hash ^^^ 1)
  nonempty : ∀ (key : UInt64) (group : HashGroup), x.groups[key]? = some group → group.entries ≠ []
  /-- There are as many groups as distinct masked hashes. -/
  size_eq : ∃ keys : List UInt64, keys.Nodup ∧ keys.length = x.size ∧
    ∀ key, key ∈ keys ↔ ∃ e ∈ es, ∃ stored, IsStored c e stored ∧ maskHash stored = key
  total : missed + (x.groups.toList.map fun p => p.2.entries.length).sum = es.length

/-- The index of any entries over any captured code is a partition of the entries that can be read there. -/
theorem build_partitions (c : Captured) (es : List Entry) :
    Partitions c es (build c es).value.1 (build c es).value.2 := by
  obtain ⟨hx, hmissed, -⟩ := build_spec c es
  have hm := masked_build c es
  have hread : ∀ e, (storedHash? c e).isNone = (c.read? e.address 8).isNone := by
    intro e
    rw [storedHash?, Option.isNone_map]
    rfl
  have hgroup : ∀ hash (group : HashGroup), (build c es).value.1.get? hash = some group ↔
      (∃ e ∈ es, Shares c hash e) ∧ group = { entries := es.filter (stores c hash) } := by
    intro hash group
    rw [hx hash, groupOf_eq_some_iff, ne_eq, List.filter_eq_nil_iff]
    simp only [stores_iff_shares, not_forall, not_not, exists_prop]
  constructor
  case missed_eq => simp only [hmissed, hread]
  case isSome_get? =>
    intro hash
    simp only [Option.isSome_iff_exists, hgroup, exists_and_left, exists_eq, and_true]
  case entries_eq =>
    intro hash group hg
    rw [((hgroup hash group).mp hg).2, filter_shares]
  case comment_eq =>
    intro hash group hg
    rw [((hgroup hash group).mp hg).2]
  case get?_flip => exact fun hash => get?_congr _ _ _ (maskHash_flip hash).symm
  case nonempty =>
    intro key group hg
    obtain ⟨-, hne, rfl⟩ := getElem?_groups hx hm hg
    exact hne
  case size_eq =>
    refine ⟨_, Std.ExtTreeMap.nodup_keys, Std.ExtTreeMap.length_keys, ?_⟩
    intro key
    rw [Std.ExtTreeMap.mem_keys, mem_groups_iff hx hm, mem_maskedHashes]
  case total =>
    have hcaptured : ∀ e, (decide ¬(storedHash? c e).isNone = true) = (maskedHash? c e).isSome := by
      intro e
      rw [maskedHash?, Option.isSome_map]
      cases storedHash? c e <;> rfl
    have hsplit := List.length_eq_countP_add_countP (fun e => (storedHash? c e).isNone) (l := es)
    simp only [hcaptured] at hsplit
    rw [sum_lengths hx hm, hmissed, List.length_filterMap_eq_countP, hsplit]

end FlowGuard.HashIndex
