import FlowGuard.Proofs.Requests
import FlowGuard.Run.HashIndex

/-!
The hash index as a partition. The group of a hash holds exactly the entries that store it up to the lowest
bit, in table order and with their repetitions; a hash that no entry stores has no group.
-/

namespace FlowGuard

theorem maskHash_maskHash (hash : UInt64) : maskHash (maskHash hash) = maskHash hash := by
  simp [maskHash, UInt64.and_assoc]

theorem toNat_maskHash (hash : UInt64) : (maskHash hash).toNat = 2 * (hash.toNat / 2) := by
  have hbits : hash.toBitVec &&& ~~~1#64 = (hash.toBitVec >>> 1) <<< 1 := by
    ext i hi
    rw [BitVec.getElem_and, BitVec.getElem_not, BitVec.getElem_one]
    cases i with
    | zero => simp
    | succ i => simp [Nat.add_comm 1 i, BitVec.getLsbD_eq_getElem hi]
  have h := congrArg BitVec.toNat hbits
  have hlt := hash.toNat_lt
  rw [BitVec.toNat_shiftLeft, BitVec.toNat_ushiftRight, Nat.shiftLeft_eq, Nat.shiftRight_eq_div_pow] at h
  have he : (maskHash hash).toNat = (hash.toBitVec &&& ~~~1#64).toNat := rfl
  have hn : hash.toBitVec.toNat = hash.toNat := rfl
  rw [he, h, hn]
  omega

/-- Masked hashes are equal exactly when the hashes agree apart from the lowest bit. -/
theorem maskHash_eq_iff (hash hash' : UInt64) :
    maskHash hash = maskHash hash' ↔ hash.toNat / 2 = hash'.toNat / 2 := by
  rw [← UInt64.toNat_inj, toNat_maskHash, toNat_maskHash]
  omega

namespace HashIndex

/-- Whether the captured code holds a hash at the entry that agrees with the given one apart from the
lowest bit. -/
def stores (c : Captured) (hash : UInt64) (e : Entry) : Bool :=
  (storedHash? c e).map maskHash == some (maskHash hash)

def groupOf (es : List Entry) : Option HashGroup :=
  if es = [] then none else some { entries := es }

theorem groupOf_eq_some_iff (es : List Entry) (group : HashGroup) :
    groupOf es = some group ↔ es ≠ [] ∧ group = { entries := es } := by
  unfold groupOf
  by_cases hes : es = []
  · simp [hes]
  · simp [hes, eq_comm]

/-- The index holds the groups of these entries and nothing else. -/
def Indexes (c : Captured) (es : List Entry) (x : HashIndex) : Prop :=
  ∀ hash, x.get? hash = groupOf (es.filter (stores c hash))

theorem get?_add (x : HashIndex) (hash hash' : UInt64) (e : Entry) :
    (x.add hash e).get? hash' =
      if maskHash hash = maskHash hash' then
        some { (x.get? hash').getD {} with entries := ((x.get? hash').getD {}).entries ++ [e] }
      else x.get? hash' := by
  unfold add get?
  simp only [Std.ExtTreeMap.getElem?_insert, Std.LawfulEqCmp.compare_eq_iff_eq]
  split
  case isTrue he => rw [he]
  case isFalse => rfl

theorem get?_congr (x : HashIndex) (hash hash' : UInt64) (he : maskHash hash = maskHash hash') :
    x.get? hash = x.get? hash' := by
  unfold get?
  rw [he]

theorem groupOf_append (es : List Entry) (e : Entry) :
    groupOf (es ++ [e]) =
      some { (groupOf es).getD {} with entries := ((groupOf es).getD {}).entries ++ [e] } := by
  unfold groupOf
  by_cases hes : es = []
  · simp [hes]
  · simp [hes]

theorem indexes_add (c : Captured) (es : List Entry) (x : HashIndex) (e : Entry) (hash : UInt64)
    (hx : Indexes c es x) (he : storedHash? c e = some hash) : Indexes c (es ++ [e]) (x.add hash e) := by
  intro hash'
  have hstores : stores c hash' e = decide (maskHash hash = maskHash hash') := by
    simp [stores, he, Bool.beq_eq_decide_eq]
  rw [get?_add, hx hash', List.filter_append]
  by_cases hm : maskHash hash = maskHash hash'
  · simp only [hm, if_true, List.filter_cons, hstores, decide_true, List.filter_nil]
    exact (groupOf_append _ e).symm
  · simp [hm, hstores]

theorem indexes_skip (c : Captured) (es : List Entry) (x : HashIndex) (e : Entry)
    (hx : Indexes c es x) (he : storedHash? c e = none) : Indexes c (es ++ [e]) x := by
  intro hash
  rw [hx hash, List.filter_append]
  simp [stores, he]

/-- Adding entries one after another indexes them all and counts those that are not captured. -/
theorem addAll_spec (c : Captured) (es : List Entry) (x : HashIndex) (missed : Nat) (rest : List Entry)
    (hx : Indexes c es x) :
    Indexes c (es ++ rest) (addAll c x missed rest).value.1 ∧
      (addAll c x missed rest).value.2 = missed + rest.countP (fun e => (storedHash? c e).isNone) ∧
      (addAll c x missed rest).requests = [] := by
  induction rest generalizing es x missed with
  | nil => simpa [addAll] using hx
  | cons e rest ih =>
    cases he : storedHash? c e with
    | some hash =>
      obtain ⟨hi, hm, hr⟩ := ih (es ++ [e]) (x.add hash e) missed (indexes_add c es x e hash hx he)
      rw [List.append_assoc] at hi
      simp only [addAll, he]
      refine ⟨hi, ?_, hr⟩
      rw [hm]
      simp [he]
    | none =>
      obtain ⟨hi, hm, hr⟩ := ih (es ++ [e]) x (missed + 1) (indexes_skip c es x e hx he)
      rw [List.append_assoc] at hi
      simp only [addAll, he, Traced.value_bind, Traced.requests_bind, Traced.requests_note]
      refine ⟨hi, ?_, hr⟩
      rw [hm]
      simp [he]
      omega

theorem build_spec (c : Captured) (es : List Entry) :
    Indexes c es (build c es).value.1 ∧
      (build c es).value.2 = es.countP (fun e => (storedHash? c e).isNone) ∧
      (build c es).requests = [] := by
  have hempty : Indexes c [] {} := by
    intro hash
    simp [get?, groupOf]
  obtain ⟨hi, hm, hr⟩ := addAll_spec c [] {} 0 es hempty
  refine ⟨hi, ?_, ?_⟩
  · simpa [build] using hm
  · simpa [build] using hr

end HashIndex

end FlowGuard
