import FlowGuard.Code.HashLoad
import FlowGuard.Proofs.LittleEndian

/-!
The hash loads of a code, all at once, against the positions where they should be. A position is found exactly when
the signature and eight more bytes stand there and no earlier hit covers it, where a hit covers its signature and, when
it is accepted, its hash. For a signature that cannot overlap itself only accepted hits ever cover anything.
-/

namespace FlowGuard.HashLoad

/-- Searches the code at `offset` of the whole. The next `skip` positions are passed over, and `seen`
hits were found before; `accept` is asked with the number of each hit. -/
def searchFrom (signature : List UInt8) (accept : Nat → HashLoad → Bool) (offset skip seen : Nat) :
    List UInt8 → List HashLoad
  | [] => []
  | b :: rest =>
    match skip with
    | skip + 1 => searchFrom signature accept (offset + 1) skip seen rest
    | 0 =>
      match at? signature (b :: rest) with
      | none => searchFrom signature accept (offset + 1) 0 seen rest
      | some hash =>
        let hit : HashLoad := { offset, hash }
        let covered := if accept seen hit then signature.length + hashSize else signature.length
        hit :: searchFrom signature accept (offset + 1) (covered - 1) (seen + 1) rest

def search (signature : List UInt8) (accept : Nat → HashLoad → Bool) (code : List UInt8) :
    List HashLoad :=
  if signature = [] then [] else searchFrom signature accept 0 0 0 code

/-- A load is the signature followed by the eight bytes of a number, whose lowest bit is dropped. -/
theorem at?_eq_some_iff (signature code : List UInt8) (hash : UInt64) :
    at? signature code = some hash ↔
      ∃ n : UInt64, signature ++ LittleEndian.encode 8 n.toNat <+: code ∧ hash = maskHash n := by
  unfold at?
  by_cases hp : signature.isPrefixOf code = true
  · obtain ⟨rest, rfl⟩ := List.isPrefixOf_iff_prefix.mp hp
    simp only [hp, if_true, List.drop_left, hashSize]
    by_cases hlen : (rest.take 8).length = 8
    · simp only [hlen, if_true, Option.some.injEq, List.prefix_append_right_inj]
      constructor
      · rintro rfl
        refine ⟨UInt64.ofNat (LittleEndian.decode (rest.take 8)), ?_, rfl⟩
        rw [LittleEndian.encode_ofNat_decode _ hlen]
        exact List.take_prefix 8 rest
      · rintro ⟨n, hn, rfl⟩
        have htake : rest.take 8 = LittleEndian.encode 8 n.toNat := by
          have h := List.prefix_iff_eq_take.mp hn
          simpa using h.symm
        rw [htake, LittleEndian.ofNat_decode_encode]
    · simp only [hlen, if_false, reduceCtorEq, List.prefix_append_right_inj, false_iff]
      rintro ⟨n, hn, -⟩
      have hle := hn.length_le
      simp only [List.length_take, LittleEndian.length_encode] at hlen hle
      omega
  · simp only [hp, Bool.false_eq_true, if_false, reduceCtorEq, false_iff]
    rintro ⟨n, hn, -⟩
    apply hp
    exact List.isPrefixOf_iff_prefix.mpr ((List.prefix_append _ _).trans hn)

def covered (signature : List UInt8) (accept : Nat → HashLoad → Bool) (number : Nat) (hit : HashLoad) :
    Nat :=
  if accept number hit then signature.length + hashSize else signature.length

theorem le_offset_of_mem (signature : List UInt8) (accept : Nat → HashLoad → Bool)
    (offset skip seen : Nat) (code : List UInt8) (hit : HashLoad)
    (hm : hit ∈ searchFrom signature accept offset skip seen code) : offset + skip ≤ hit.offset := by
  induction code generalizing offset skip seen with
  | nil => simp [searchFrom] at hm
  | cons b rest ih =>
    cases skip with
    | succ skip =>
      have := ih (offset + 1) skip seen hm
      omega
    | zero =>
      cases ha : at? signature (b :: rest) with
      | none =>
        simp only [searchFrom, ha] at hm
        have := ih (offset + 1) 0 seen hm
        omega
      | some hash =>
        simp only [searchFrom, ha, List.mem_cons] at hm
        rcases hm with rfl | hm
        · simp
        · have := ih _ _ _ hm
          omega

/-- The hits come in the order of their offsets. -/
theorem pairwise_searchFrom (signature : List UInt8) (accept : Nat → HashLoad → Bool)
    (offset skip seen : Nat) (code : List UInt8) :
    (searchFrom signature accept offset skip seen code).Pairwise fun hit later => hit.offset < later.offset := by
  induction code generalizing offset skip seen with
  | nil => exact List.Pairwise.nil
  | cons b rest ih =>
    cases skip with
    | succ skip => exact ih (offset + 1) skip seen
    | zero =>
      cases ha : at? signature (b :: rest) with
      | none =>
        simp only [searchFrom, ha]
        exact ih (offset + 1) 0 seen
      | some hash =>
        simp only [searchFrom, ha, List.pairwise_cons]
        refine ⟨?_, ih _ _ _⟩
        intro later hm
        have := le_offset_of_mem _ _ _ _ _ _ _ hm
        omega

theorem pairwise_search (signature : List UInt8) (accept : Nat → HashLoad → Bool) (code : List UInt8) :
    (search signature accept code).Pairwise fun hit later => hit.offset < later.offset := by
  unfold search
  split
  · exact List.Pairwise.nil
  · exact pairwise_searchFrom signature accept 0 0 0 code

/-- The hits, numbered from `seen` on, leave the position free: those in front of it end there at the latest. -/
def Clears (signature : List UInt8) (accept : Nat → HashLoad → Bool) (seen : Nat) (hits : List HashLoad)
    (position : Nat) : Prop :=
  ∀ n earlier, hits[n]? = some earlier → earlier.offset < position →
    earlier.offset + covered signature accept (seen + n) earlier ≤ position

theorem clears_cons (signature : List UInt8) (accept : Nat → HashLoad → Bool) (seen : Nat)
    (first : HashLoad) (hits : List HashLoad) (position : Nat) :
    Clears signature accept seen (first :: hits) position ↔
      (first.offset < position → first.offset + covered signature accept seen first ≤ position) ∧
        Clears signature accept (seen + 1) hits position := by
  have hnext (n : Nat) : seen + (n + 1) = seen + 1 + n := by omega
  constructor
  · intro h
    refine ⟨h 0 first rfl, ?_⟩
    intro n earlier hn hlt
    rw [← hnext]
    exact h (n + 1) earlier hn hlt
  · rintro ⟨hfirst, hrest⟩ n earlier hn hlt
    cases n with
    | zero =>
      obtain rfl := Option.some.inj hn
      exact hfirst hlt
    | succ n =>
      rw [hnext]
      exact hrest n earlier hn hlt

/-- Hits behind a position leave it free. -/
theorem clears_of_le (signature : List UInt8) (accept : Nat → HashLoad → Bool) (seen : Nat)
    (hits : List HashLoad) (position : Nat) (h : ∀ hit ∈ hits, position ≤ hit.offset) :
    Clears signature accept seen hits position := by
  intro n earlier hn hlt
  have := h earlier (List.mem_of_getElem? hn)
  omega

/-- A hit decides where the search goes on. -/
theorem searchFrom_of_hit (signature : List UInt8) (accept : Nat → HashLoad → Bool) (offset seen : Nat)
    (b : UInt8) (rest : List UInt8) (hash : UInt64) (h : at? signature (b :: rest) = some hash) :
    searchFrom signature accept offset 0 seen (b :: rest) =
      ⟨offset, hash⟩ :: searchFrom signature accept (offset + 1)
        (covered signature accept seen ⟨offset, hash⟩ - 1) (seen + 1) rest := by
  simp only [searchFrom, h]
  rfl

/-- The hits from a position on, by what stands in the code and what the hits in front cover. -/
theorem mem_searchFrom_iff (signature : List UInt8) (hne : signature ≠ [])
    (accept : Nat → HashLoad → Bool) (offset skip seen : Nat) (code : List UInt8) (hit : HashLoad) :
    hit ∈ searchFrom signature accept offset skip seen code ↔
      offset + skip ≤ hit.offset ∧ at? signature (code.drop (hit.offset - offset)) = some hit.hash ∧
        Clears signature accept seen (searchFrom signature accept offset skip seen code) hit.offset := by
  induction code generalizing offset skip seen with
  | nil =>
    have hnil : at? signature [] = none := by
      cases signature with
      | nil => exact absurd rfl hne
      | cons b rest => rfl
    simp [searchFrom, hnil]
  | cons b rest ih =>
    have hdrop : offset < hit.offset →
        (b :: rest).drop (hit.offset - offset) = rest.drop (hit.offset - (offset + 1)) := by
      intro hlt
      have he : hit.offset - offset = hit.offset - (offset + 1) + 1 := by omega
      rw [he, List.drop_succ_cons]
    have hfirst : hit.offset = offset → (b :: rest).drop (hit.offset - offset) = b :: rest := by
      intro he
      rw [he, Nat.sub_self, List.drop_zero]
    cases skip with
    | succ skip =>
      rw [searchFrom, ih]
      constructor
      · rintro ⟨hle, ha, he⟩
        exact ⟨by omega, by rw [hdrop (by omega)]; exact ha, he⟩
      · rintro ⟨hle, ha, he⟩
        exact ⟨by omega, by rw [← hdrop (by omega)]; exact ha, he⟩
    | zero =>
      cases hhere : at? signature (b :: rest) with
      | none =>
        simp only [searchFrom, hhere]
        rw [ih]
        constructor
        · rintro ⟨hle, ha, he⟩
          exact ⟨by omega, by rw [hdrop (by omega)]; exact ha, he⟩
        · rintro ⟨hle, ha, he⟩
          have hlt : offset < hit.offset := by
            by_cases heq : hit.offset = offset
            · rw [hfirst heq, hhere] at ha
              cases ha
            · omega
          exact ⟨by omega, by rw [← hdrop hlt]; exact ha, he⟩
      | some hash =>
        have hcov : 0 < covered signature accept seen ⟨offset, hash⟩ := by
          have hpos : 0 < signature.length := List.length_pos_iff.mpr hne
          unfold covered
          split <;> omega
        rw [searchFrom_of_hit _ _ _ _ _ _ _ hhere, List.mem_cons, clears_cons, ih]
        constructor
        · rintro (rfl | ⟨hle, ha, he⟩)
          · refine ⟨Nat.le_refl _, by rw [hfirst rfl]; exact hhere,
              fun hlt => absurd hlt (Nat.lt_irrefl _), ?_⟩
            apply clears_of_le
            intro later hm
            have := le_offset_of_mem _ _ _ _ _ _ _ hm
            show offset ≤ later.offset
            omega
          · exact ⟨by omega, by rw [hdrop (by omega)]; exact ha, fun _ => by simp only; omega, he⟩
        · rintro ⟨hle, ha, hzero, he⟩
          by_cases heq : hit.offset = offset
          · rw [hfirst heq, hhere] at ha
            left
            cases hit
            simp_all
          · have hend := hzero (show offset < hit.offset by omega)
            simp only at hend
            exact .inr ⟨by omega, by rw [← hdrop (by omega)]; exact ha, he⟩

/-- The hits in a code. -/
theorem mem_search_iff (signature : List UInt8) (hne : signature ≠ []) (accept : Nat → HashLoad → Bool)
    (code : List UInt8) (hit : HashLoad) :
    hit ∈ search signature accept code ↔
      at? signature (code.drop hit.offset) = some hit.hash ∧
        Clears signature accept 0 (search signature accept code) hit.offset := by
  have h := mem_searchFrom_iff signature hne accept 0 0 0 code hit
  simpa [search, hne] using h

/-- A shifted copy of the signature never meets the signature itself. -/
def Unbordered (signature : List UInt8) : Prop :=
  ∀ shift code, 0 < shift → shift < signature.length → signature <+: code →
    ¬signature <+: code.drop shift

theorem prefix_of_at? (signature code : List UInt8) (hash : UInt64) (h : at? signature code = some hash) :
    signature <+: code := by
  obtain ⟨n, hp, -⟩ := (at?_eq_some_iff signature code hash).mp h
  exact (List.prefix_append _ _).trans hp

/-- The accepted hits of an unbordered signature: loads with a known hash that no earlier accepted hit
covers. What is not accepted hides nothing. -/
theorem mem_accepted_iff (signature : List UInt8) (hne : signature ≠ []) (hu : Unbordered signature)
    (known : HashLoad → Bool) (code : List UInt8) (hit : HashLoad) :
    hit ∈ (search signature (fun _ h => known h) code).filter known ↔
      at? signature (code.drop hit.offset) = some hit.hash ∧ known hit = true ∧
        ∀ earlier ∈ (search signature (fun _ h => known h) code).filter known,
          earlier.offset < hit.offset → earlier.offset + (signature.length + hashSize) ≤ hit.offset := by
  rw [List.mem_filter, mem_search_iff signature hne]
  constructor
  · rintro ⟨⟨ha, he⟩, hk⟩
    refine ⟨ha, hk, ?_⟩
    intro earlier hm hlt
    obtain ⟨hin, hk'⟩ := List.mem_filter.mp hm
    obtain ⟨n, hn⟩ := List.mem_iff_getElem?.mp hin
    have := he n earlier hn hlt
    simpa [covered, hk'] using this
  · rintro ⟨ha, hk, he⟩
    refine ⟨⟨ha, ?_⟩, hk⟩
    intro n earlier hn hlt
    have hin := List.mem_of_getElem? hn
    cases hk' : known earlier with
    | true =>
      have := he earlier (List.mem_filter.mpr ⟨hin, hk'⟩) hlt
      simpa [covered, hk'] using this
    | false =>
      have ha' := ((mem_search_iff signature hne _ code earlier).mp hin).1
      have hshift : code.drop hit.offset = (code.drop earlier.offset).drop (hit.offset - earlier.offset) := by
        rw [List.drop_drop]
        congr 1
        omega
      simp only [covered, hk', Bool.false_eq_true, if_false]
      by_cases hle : earlier.offset + signature.length ≤ hit.offset
      · exact hle
      · exfalso
        apply hu (hit.offset - earlier.offset) (code.drop earlier.offset) (by omega) (by omega)
        · exact prefix_of_at? _ _ _ ha'
        · rw [← hshift]
          exact prefix_of_at? _ _ _ ha

/-- The bytes in front of a loaded hash on 64-bit targets. -/
theorem unbordered_signature : Unbordered [0x49, 0xBA] := by
  intro shift code hpos hlt hp hp'
  have hone : shift = 1 := by
    simp only [List.length_cons, List.length_nil] at hlt
    omega
  obtain ⟨rest, rfl⟩ := hp
  subst hone
  obtain ⟨rest', he⟩ := hp'
  simp at he

end FlowGuard.HashLoad
