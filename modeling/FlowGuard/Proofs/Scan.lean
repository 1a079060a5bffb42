import FlowGuard.Proofs.HashIndex
import FlowGuard.Proofs.HashLoad
import Mathlib.Logic.ExistsUnique

/-!
The search for hash loads as a scan that is resumed: each call looks for the next signature, and between two calls the
hash of the last hit may be skipped. Whatever is skipped, the calls give the hits of the search one after another and
then nothing any more, so what is known of the search is known of the scan.
-/

namespace FlowGuard.HashLoad

def firstIn? (signature : List UInt8) : List UInt8 → Option Nat
  | [] => if signature.isPrefixOf [] then some 0 else none
  | b :: rest =>
    if signature.isPrefixOf (b :: rest) then some 0 else (firstIn? signature rest).map (· + 1)

theorem firstFrom?_eq (signature : List UInt8) (offset : Nat) (code : List UInt8) :
    firstFrom? signature offset code = (firstIn? signature code).map (offset + ·) := by
  induction code generalizing offset with
  | nil =>
    rw [firstFrom?, firstIn?]
    split <;> rfl
  | cons b rest ih =>
    rw [firstFrom?, firstIn?, ih]
    split
    · rfl
    · rw [Option.map_map]
      congr 1
      funext distance
      exact Nat.add_right_comm offset 1 distance

namespace Scan

/-- The scan after a number of calls; after a hit with a given number, `skip` decides whether its hash is skipped. -/
def afterCalls (signature code : List UInt8) (skip : Nat → HashLoad → Bool) : Nat → Scan
  | 0 => {}
  | n + 1 =>
    let called := (afterCalls signature code skip n).next signature code
    match called.1 with
    | none => called.2
    | some hit => if skip n hit then called.2.skipHash else called.2

def answer (signature code : List UInt8) (skip : Nat → HashLoad → Bool) (n : Nat) : Option HashLoad :=
  ((afterCalls signature code skip n).next signature code).1

end Scan

section

variable {signature : List UInt8} (accept : Nat → HashLoad → Bool)

/-- Positions that are passed over can be left out. -/
theorem searchFrom_skip (offset skip seen : Nat) (code : List UInt8) :
    searchFrom signature accept offset skip seen code =
      searchFrom signature accept (offset + skip) 0 seen (code.drop skip) := by
  induction skip generalizing offset code with
  | zero => rfl
  | succ skip ih =>
    cases code with
    | nil => simp [searchFrom]
    | cons b rest =>
      rw [searchFrom, ih, List.drop_succ_cons, Nat.add_right_comm, Nat.add_assoc]

theorem at?_of_short (code : List UInt8) (h : code.length < signature.length + hashSize) :
    at? signature code = none := by
  cases ha : at? signature code with
  | none => rfl
  | some hash =>
    have hle := length_le_of_at? ha
    omega

/-- A signature without room for a hash behind it is the last one: there is none behind it with room. -/
theorem searchFrom_of_short (offset seen : Nat) (code : List UInt8)
    (h : code.length < signature.length + hashSize) : searchFrom signature accept offset 0 seen code = [] := by
  induction code generalizing offset with
  | nil => rfl
  | cons b rest ih =>
    simp only [searchFrom, at?_of_short (b :: rest) h]
    apply ih
    rw [List.length_cons] at h
    omega

/-- A signature has a hash behind it or no room for one. -/
theorem short_of_at?_eq_none (code : List UInt8) (hp : signature.isPrefixOf code = true)
    (ha : at? signature code = none) : code.length < signature.length + hashSize := by
  have hle := (List.isPrefixOf_iff_prefix.mp hp).length_le
  have hlen : ((code.drop signature.length).take hashSize).length ≠ hashSize := by
    intro hfull
    simp [at?, hp, hfull] at ha
  simp only [List.length_take, List.length_drop] at hlen
  omega

/-- The search by its first hit, which is at the first signature if it is anywhere. -/
theorem searchFrom_eq (hne : signature ≠ []) (offset seen : Nat) (code : List UInt8) :
    searchFrom signature accept offset 0 seen code =
      match firstIn? signature code with
      | none => []
      | some distance =>
        match at? signature (code.drop distance) with
        | none => []
        | some hash =>
          let hit : HashLoad := ⟨offset + distance, hash⟩
          let length := covered signature accept seen hit
          hit :: searchFrom signature accept (hit.offset + length) 0 (seen + 1)
            ((code.drop distance).drop length) := by
  induction code generalizing offset with
  | nil =>
    have hnil : signature.isPrefixOf [] = false := by
      cases signature with
      | nil => exact absurd rfl hne
      | cons b rest => rfl
    simp [searchFrom, firstIn?, hnil]
  | cons b rest ih =>
    by_cases hp : signature.isPrefixOf (b :: rest) = true
    · simp only [firstIn?, hp, if_true, List.drop_zero, Nat.add_zero]
      cases ha : at? signature (b :: rest) with
      | none => exact searchFrom_of_short accept offset seen _ (short_of_at?_eq_none _ hp ha)
      | some hash =>
        have hlen : 0 < signature.length := List.length_pos_iff.mpr hne
        have hpos : covered signature accept seen ⟨offset, hash⟩ =
            covered signature accept seen ⟨offset, hash⟩ - 1 + 1 := by
          unfold covered
          split <;> omega
        rw [searchFrom_of_hit _ _ _ _ _ _ _ ha, searchFrom_skip]
        simp only
        rw [hpos, List.drop_succ_cons, Nat.add_sub_cancel, Nat.add_right_comm, Nat.add_assoc]
    · have hnone : at? signature (b :: rest) = none := by simp [at?, hp]
      simp only [searchFrom, hnone, firstIn?, hp, Bool.false_eq_true, if_false]
      rw [ih]
      cases firstIn? signature rest with
      | none => rfl
      | some distance =>
        have hoffset : offset + 1 + distance = offset + (distance + 1) := by omega
        simp only [Option.map_some, List.drop_succ_cons, hoffset]

end

namespace Scan

/-- A call finds nothing and leaves the scan alone, and then there is nothing to find; or it gives the first hit and
goes behind its signature. -/
theorem next_cases (signature code : List UInt8) (hne : signature ≠ []) (accept : Nat → HashLoad → Bool) (s : Scan) :
    (s.next signature code = (none, s) ∧
        ∀ seen, searchFrom signature accept s.position 0 seen (code.drop s.position) = []) ∨
      ∃ hit, s.next signature code =
          (some hit, ⟨hit.offset + signature.length, hit.offset + signature.length + hashSize⟩) ∧
        ∀ seen, searchFrom signature accept s.position 0 seen (code.drop s.position) =
          hit :: searchFrom signature accept (hit.offset + covered signature accept seen hit) 0 (seen + 1)
            (code.drop (hit.offset + covered signature accept seen hit)) := by
  have hsearch (seen : Nat) := searchFrom_eq accept hne s.position seen (code.drop s.position)
  cases hf : firstIn? signature (code.drop s.position) with
  | none =>
    simp only [hf] at hsearch
    exact .inl ⟨by simp [next, firstFrom?_eq, hf], hsearch⟩
  | some distance =>
    simp only [hf, List.drop_drop] at hsearch
    cases ha : at? signature (code.drop (s.position + distance)) with
    | none =>
      simp only [ha] at hsearch
      exact .inl ⟨by simp [next, firstFrom?_eq, hf, ha], hsearch⟩
    | some hash =>
      simp only [ha] at hsearch
      exact .inr ⟨⟨s.position + distance, hash⟩, by simp [next, firstFrom?_eq, hne, hf, ha], hsearch⟩

variable {signature : List UInt8} (code : List UInt8) (skip : Nat → HashLoad → Bool)

def toCome (signature code : List UInt8) (skip : Nat → HashLoad → Bool) (n : Nat) : List HashLoad :=
  searchFrom signature skip (afterCalls signature code skip n).position 0 n
    (code.drop (afterCalls signature code skip n).position)

/-- A call gives the first of the hits to come and leaves the others. -/
theorem toCome_call (hne : signature ≠ []) (n : Nat) :
    (toCome signature code skip n).head? = answer signature code skip n ∧
      (toCome signature code skip n).tail = toCome signature code skip (n + 1) := by
  unfold toCome answer
  rw [afterCalls]
  rcases next_cases signature code hne skip (afterCalls signature code skip n) with
    ⟨hnext, hnone⟩ | ⟨hit, hnext, hsome⟩
  · simp only [hnext, hnone]
    exact ⟨rfl, rfl⟩
  · have hposition : (if skip n hit then
          skipHash ⟨hit.offset + signature.length, hit.offset + signature.length + hashSize⟩
        else ⟨hit.offset + signature.length, hit.offset + signature.length + hashSize⟩).position =
        hit.offset + covered signature skip n hit := by
      cases hskip : skip n hit
      · simp [covered, hskip]
      · simp [covered, hskip, skipHash, Nat.add_assoc]
    simp only [hnext, hsome n, hposition]
    exact ⟨rfl, rfl⟩

theorem toCome_eq_drop (hne : signature ≠ []) (n : Nat) :
    toCome signature code skip n = (search signature skip code).drop n := by
  induction n with
  | zero => simp [toCome, afterCalls, search, hne]
  | succ n ih => rw [← (toCome_call code skip hne n).2, ih, List.tail_drop]

/-- The calls give the hits of the search, and nothing once these are used up. -/
theorem answer_eq (hne : signature ≠ []) (n : Nat) :
    answer signature code skip n = (search signature skip code)[n]? := by
  rw [← (toCome_call code skip hne n).1, toCome_eq_drop code skip hne, List.head?_drop]

end Scan

/-- A hash load by what stands where: the signature, room for a hash, and the hash without its lowest bit. -/
theorem at?_drop_iff (signature code : List UInt8) (offset : Nat) (hash : UInt64) :
    at? signature (code.drop offset) = some hash ↔
      signature <+: code.drop offset ∧ offset + signature.length + 8 ≤ code.length ∧
        hash.toNat = 2 * (LittleEndian.decode ((code.drop (offset + signature.length)).take 8) / 2) := by
  by_cases hp : signature.isPrefixOf (code.drop offset) = true
  · have hstands := List.isPrefixOf_iff_prefix.mp hp
    simp only [at?, hp, if_true, List.drop_drop, hstands, true_and, hashSize]
    generalize hbytes : (code.drop (offset + signature.length)).take 8 = bytes
    have hroom : bytes.length = 8 ↔ offset + signature.length + 8 ≤ code.length := by
      rw [← hbytes, List.length_take, List.length_drop]
      omega
    rw [← hroom]
    by_cases hlen : bytes.length = 8
    · have hlt := LittleEndian.decode_lt bytes
      rw [hlen] at hlt
      simp only [hlen, if_true, Option.some.injEq, true_and]
      rw [eq_comm, ← UInt64.toNat_inj, toNat_maskHash, UInt64.toNat_ofNat', Nat.mod_eq_of_lt (by omega)]
    · simp [hlen]
  · have hstands : ¬signature <+: code.drop offset := fun h => hp (List.isPrefixOf_iff_prefix.mpr h)
    simp [at?, hp, hstands]

/-- Hits leave a position free if their signatures end in front of it and, where they are accepted, their hashes
too. -/
theorem clears_iff (signature : List UInt8) (accept : Nat → HashLoad → Bool) (hits : List HashLoad) (i : Nat) :
    Clears signature accept 0 hits i ↔
      ∀ n earlier, hits[n]? = some earlier → earlier.offset < i →
        earlier.offset + signature.length ≤ i ∧
          (accept n earlier = true → earlier.offset + signature.length + 8 ≤ i) := by
  have hcovered (n : Nat) (earlier : HashLoad) :
      earlier.offset + covered signature accept (0 + n) earlier ≤ i ↔
        earlier.offset + signature.length ≤ i ∧
          (accept n earlier = true → earlier.offset + signature.length + 8 ≤ i) := by
    rw [Nat.zero_add, covered, hashSize]
    cases accept n earlier
    · simp
    · simp only [if_true, forall_const]
      omega
  simp only [Clears, hcovered]

namespace Scan

section

variable {signature : List UInt8} (hne : signature ≠ []) (code : List UInt8) (skip : Nat → HashLoad → Bool)
include hne

/-- Later calls give greater offsets. -/
theorem offset_lt_offset {m n : Nat} {hit later : HashLoad} (hlt : m < n)
    (hm : answer signature code skip m = some hit) (hn : answer signature code skip n = some later) :
    hit.offset < later.offset := by
  rw [answer_eq code skip hne] at hm hn
  obtain ⟨hmlt, rfl⟩ := List.getElem?_eq_some_iff.mp hm
  obtain ⟨hnlt, rfl⟩ := List.getElem?_eq_some_iff.mp hn
  exact List.pairwise_iff_getElem.mp (pairwise_search signature skip code) m n hmlt hnlt hlt

theorem mem_search_of_answer {n : Nat} {hit : HashLoad} (hn : answer signature code skip n = some hit) :
    hit ∈ search signature skip code := by
  rw [answer_eq code skip hne] at hn
  exact List.mem_of_getElem? hn

/-- The offsets that are given. -/
theorem answer_offset_iff (i : Nat) :
    (∃ n hit, answer signature code skip n = some hit ∧ hit.offset = i) ↔
      signature <+: code.drop i ∧ i + signature.length + 8 ≤ code.length ∧
        ∀ n earlier, answer signature code skip n = some earlier → earlier.offset < i →
          earlier.offset + signature.length ≤ i ∧
            (skip n earlier = true → earlier.offset + signature.length + 8 ≤ i) := by
  simp only [answer_eq code skip hne]
  rw [← clears_iff]
  constructor
  · rintro ⟨n, hit, hn, rfl⟩
    obtain ⟨hat, hclear⟩ := (mem_search_iff signature hne skip code hit).mp (List.mem_of_getElem? hn)
    obtain ⟨hstands, hroom, -⟩ := (at?_drop_iff signature code hit.offset hit.hash).mp hat
    exact ⟨hstands, hroom, hclear⟩
  · rintro ⟨hstands, hroom, hclear⟩
    cases hat : at? signature (code.drop i) with
    | none =>
      have hshort := short_of_at?_eq_none _ (List.isPrefixOf_iff_prefix.mpr hstands) hat
      rw [List.length_drop, hashSize] at hshort
      omega
    | some hash =>
      have hmem := (mem_search_iff signature hne skip code ⟨i, hash⟩).mpr ⟨hat, hclear⟩
      obtain ⟨n, hn⟩ := List.mem_iff_getElem?.mp hmem
      exact ⟨n, ⟨i, hash⟩, hn, rfl⟩

/-- No offset is given twice. -/
theorem eq_of_offset_eq {m n : Nat} {hit hit' : HashLoad} (hm : answer signature code skip m = some hit)
    (hn : answer signature code skip n = some hit') (he : hit.offset = hit'.offset) : m = n := by
  rcases Nat.lt_trichotomy m n with hlt | heq | hgt
  · have := offset_lt_offset hne code skip hlt hm hn
    omega
  · exact heq
  · have := offset_lt_offset hne code skip hgt hn hm
    omega

/-- A signature that cannot overlap itself is found wherever it stands with room for a hash, if no hash is skipped. -/
theorem exists_answer_of_unbordered (hu : Unbordered signature) (i : Nat) (hstands : signature <+: code.drop i)
    (hroom : i + signature.length + 8 ≤ code.length) :
    ∃ n hit, answer signature code (fun _ _ => false) n = some hit ∧ hit.offset = i := by
  refine (answer_offset_iff hne code _ i).mpr ⟨hstands, hroom, ?_⟩
  intro n earlier hn hlt
  refine ⟨?_, by simp⟩
  by_cases hle : earlier.offset + signature.length ≤ i
  · exact hle
  · exfalso
    obtain ⟨hearlier, -⟩ := (answer_offset_iff hne code _ earlier.offset).mp ⟨n, earlier, hn, rfl⟩
    have hshift : code.drop i = (code.drop earlier.offset).drop (i - earlier.offset) := by
      rw [List.drop_drop]
      congr 1
      omega
    rw [hshift] at hstands
    exact hu (i - earlier.offset) (code.drop earlier.offset) (by omega) (by omega) hearlier hstands

end

/-- Whatever is skipped, the scan ends and stays ended, and its offsets increase. It gives an offset exactly if the
signature stands there with room for a hash behind it and nothing that was given before covers it, which are the
signature and, if it was skipped, the hash behind it; and it gives the hash without its lowest bit. These are the hits
of the search. On 64-bit targets, whose signature does not overlap itself, nothing is missed unless it is skipped. -/
theorem scan_is_exact (signature : List UInt8) (hne : signature ≠ []) (code : List UInt8)
    (skip : Nat → HashLoad → Bool) :
    (∃ count, ∀ n, answer signature code skip n = none ↔ count ≤ n) ∧
      (∀ m n hit later, m < n → answer signature code skip m = some hit →
        answer signature code skip n = some later → hit.offset < later.offset) ∧
      (∀ i, (∃ n hit, answer signature code skip n = some hit ∧ hit.offset = i) ↔
        signature <+: code.drop i ∧ i + signature.length + 8 ≤ code.length ∧
          ∀ n earlier, answer signature code skip n = some earlier → earlier.offset < i →
            earlier.offset + signature.length ≤ i ∧
              (skip n earlier = true → earlier.offset + signature.length + 8 ≤ i)) ∧
      (∀ n hit, answer signature code skip n = some hit → hit.hash.toNat =
        2 * (LittleEndian.decode ((code.drop (hit.offset + signature.length)).take 8) / 2)) ∧
      (∀ n, answer signature code skip n = (search signature skip code)[n]?) ∧
      ∀ i, [0x49, 0xBA] <+: code.drop i → i + 2 + 8 ≤ code.length →
        ∃! n, ∃ hit, answer [0x49, 0xBA] code (fun _ _ => false) n = some hit ∧ hit.offset = i := by
  refine ⟨⟨(search signature skip code).length, ?_⟩, ?_, answer_offset_iff hne code skip, ?_,
    answer_eq code skip hne, ?_⟩
  · intro n
    rw [answer_eq code skip hne, List.getElem?_eq_none_iff]
  · intro m n hit later hlt hm hn
    exact offset_lt_offset hne code skip hlt hm hn
  · intro n hit hn
    have hat := ((mem_search_iff signature hne skip code hit).mp (mem_search_of_answer hne code skip hn)).1
    exact ((at?_drop_iff signature code hit.offset hit.hash).mp hat).2.2
  · intro i hstands hroom
    have hsig : ([0x49, 0xBA] : List UInt8) ≠ [] := by simp
    obtain ⟨n, hit, hn, hi⟩ := exists_answer_of_unbordered hsig code unbordered_signature i hstands hroom
    refine ⟨n, ⟨hit, hn, hi⟩, ?_⟩
    rintro m ⟨hit', hm, hi'⟩
    exact eq_of_offset_eq hsig code _ hm hn (hi'.trans hi.symm)

/-- A signature that overlaps itself: the copy that starts inside the first hit is not given, the next one is. -/
theorem scan_is_exact_overlapping :
    let code : List UInt8 := [0xAA, 0xAA, 0xAA, 0xAA, 1, 2, 3, 4, 5, 6, 7, 8]
    [0xAA, 0xAA] <+: code.drop 1 ∧
      (¬∃ n hit, answer [0xAA, 0xAA] code (fun _ _ => false) n = some hit ∧ hit.offset = 1) ∧
      ∃ n hit, answer [0xAA, 0xAA] code (fun _ _ => false) n = some hit ∧ hit.offset = 2 := by
  obtain ⟨-, -, hoffsets, -⟩ := scan_is_exact [0xAA, 0xAA] (by simp)
    [0xAA, 0xAA, 0xAA, 0xAA, 1, 2, 3, 4, 5, 6, 7, 8] (fun _ _ => false)
  refine ⟨⟨_, rfl⟩, ?_, 1, ⟨2, 0x0807060504030200⟩, by decide, rfl⟩
  intro hgiven
  obtain ⟨-, -, hclear⟩ := (hoffsets 1).mp hgiven
  have hfirst := (hclear 0 ⟨0, 0x060504030201AAAA⟩ (by decide) (by decide)).1
  simp at hfirst

end Scan

end FlowGuard.HashLoad
