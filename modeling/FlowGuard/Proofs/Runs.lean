/-!
Maximal runs of consecutive indices. `runsFrom` collects them in one pass from left to right, carrying only
the length of the run it is in, and finds each maximal run exactly once and in order.
-/

namespace FlowGuard

/-- The `count` indices from `first` on satisfy `p`, and neither neighbour of them does. -/
structure MaximalRun (p : Nat → Prop) (first count : Nat) : Prop where
  nonempty : 0 < count
  holds : ∀ k, first ≤ k → k < first + count → p k
  starts : ∀ k, first = k + 1 → ¬p k
  ends : ¬p (first + count)

namespace MaximalRun

variable {p : Nat → Prop} {first count first' count' : Nat}

theorem first_holds (h : MaximalRun p first count) : p first :=
  h.holds first (by omega) (by have := h.nonempty; omega)

/-- Of two maximal runs the one that starts first ends before the other starts. -/
theorem separated (h : MaximalRun p first count) (h' : MaximalRun p first' count')
    (hlt : first < first') : first + count < first' := by
  by_cases hc : first + count < first'
  · exact hc
  · exfalso
    obtain ⟨k, rfl⟩ : ∃ k, first' = k + 1 := ⟨first' - 1, by omega⟩
    by_cases he : first + count = k + 1
    · apply h.ends
      rw [he]
      exact h'.first_holds
    · exact h'.starts k rfl (h.holds k (by omega) (by omega))

end MaximalRun

def pendingRun (size k : Nat) : List (Nat × Nat) :=
  if size = 0 then [] else [(k - size, size)]

/-- The runs of indices with `p` among the `n` indices from `k` on, when the `size` indices in front of `k`
already form a run. -/
def runsFrom (p : Nat → Bool) (size k : Nat) : Nat → List (Nat × Nat)
  | 0 => pendingRun size k
  | n + 1 =>
    if p k then runsFrom p (size + 1) (k + 1) n
    else pendingRun size k ++ runsFrom p 0 (k + 1) n

section

variable {p : Nat → Bool} {size k : Nat}

/-- At an index without `p` the pending run is the one maximal run that starts in it. -/
theorem mem_pendingRun (hsize : size ≤ k) (hin : ∀ i, k - size ≤ i → i < k → p i = true)
    (hstart : ∀ i, k - size = i + 1 → ¬p i = true) (hk : ¬p k = true) (run : Nat × Nat) :
    run ∈ pendingRun size k ↔
      k - size ≤ run.1 ∧ run.1 ≤ k ∧ MaximalRun (fun i => p i = true) run.1 run.2 := by
  obtain ⟨first, count⟩ := run
  unfold pendingRun
  by_cases hz : size = 0
  · simp only [hz, if_true, List.not_mem_nil, false_iff]
    rintro ⟨hlo, hhi, hrun⟩
    have hf := hrun.first_holds
    have he : first = k := by omega
    rw [he] at hf
    exact hk hf
  · simp only [hz, if_false, List.mem_singleton, Prod.mk.injEq]
    constructor
    · rintro ⟨rfl, rfl⟩
      refine ⟨Nat.le_refl _, by omega, by omega, ?_, hstart, ?_⟩
      · intro i hlo hhi
        exact hin i hlo (by omega)
      · have he : k - count + count = k := by omega
        rw [he]
        exact hk
    · rintro ⟨hlo, hhi, hrun⟩
      have hne : first ≠ k := by
        intro he
        have hf := hrun.first_holds
        rw [he] at hf
        exact hk hf
      have hfirst : first = k - size := by
        by_cases hgt : k - size < first
        · obtain ⟨i, rfl⟩ : ∃ i, first = i + 1 := ⟨first - 1, by omega⟩
          exact absurd (hin i (by omega) (by omega)) (hrun.starts i rfl)
        · omega
      have hge : k ≤ first + count := by
        by_cases hlt : first + count < k
        · exact absurd (hin (first + count) (by omega) hlt) hrun.ends
        · omega
      have hle : first + count ≤ k := by
        by_cases hgt : k < first + count
        · exact absurd (hrun.holds k hhi hgt) hk
        · omega
      omega

/-- One pass finds exactly the maximal runs that start at or behind the pending one. -/
theorem mem_runsFrom (n : Nat) (hsize : size ≤ k) (hin : ∀ i, k - size ≤ i → i < k → p i = true)
    (hstart : ∀ i, k - size = i + 1 → ¬p i = true) (hend : ∀ i, k + n ≤ i → ¬p i = true)
    (run : Nat × Nat) :
    run ∈ runsFrom p size k n ↔
      k - size ≤ run.1 ∧ MaximalRun (fun i => p i = true) run.1 run.2 := by
  induction n generalizing size k with
  | zero =>
    rw [runsFrom, mem_pendingRun hsize hin hstart (hend k (by omega))]
    constructor
    · rintro ⟨hlo, -, hrun⟩
      exact ⟨hlo, hrun⟩
    · rintro ⟨hlo, hrun⟩
      refine ⟨hlo, ?_, hrun⟩
      by_cases hgt : k < run.1
      · exact absurd hrun.first_holds (hend run.1 (by omega))
      · omega
  | succ n ih =>
    by_cases hk : p k = true
    · have hnext : k + 1 - (size + 1) = k - size := by omega
      simp only [runsFrom, hk, if_true]
      rw [ih (by omega) (by
        intro i hlo hhi
        by_cases he : i = k
        · rw [he]
          exact hk
        · exact hin i (by omega) (by omega)) (by rw [hnext]; exact hstart)
        (fun i hi => hend i (by omega)), hnext]
    · simp only [runsFrom, hk, Bool.false_eq_true, if_false, List.mem_append]
      rw [mem_pendingRun hsize hin hstart hk, ih (Nat.zero_le _) (by omega) (by
        intro i he
        have hi : i = k := by omega
        rw [hi]
        exact hk) (fun i hi => hend i (by omega))]
      constructor
      · rintro (⟨hlo, -, hrun⟩ | ⟨hlo, hrun⟩)
        · exact ⟨hlo, hrun⟩
        · exact ⟨by omega, hrun⟩
      · rintro ⟨hlo, hrun⟩
        by_cases hle : run.1 ≤ k
        · exact .inl ⟨hlo, hle, hrun⟩
        · exact .inr ⟨by omega, hrun⟩

theorem eq_of_mem_pendingRun {run : Nat × Nat} (h : run ∈ pendingRun size k) : run = (k - size, size) := by
  unfold pendingRun at h
  split at h
  · cases h
  · exact List.mem_singleton.mp h

theorem pairwise_pendingRun (size k : Nat) (R : Nat × Nat → Nat × Nat → Prop) :
    (pendingRun size k).Pairwise R := by
  unfold pendingRun
  split
  · exact List.Pairwise.nil
  · exact List.pairwise_singleton _ _

theorem le_of_mem_runsFrom (p : Nat → Bool) (size k n : Nat) (run : Nat × Nat)
    (hm : run ∈ runsFrom p size k n) : k - size ≤ run.1 := by
  induction n generalizing size k with
  | zero => exact Nat.le_of_eq (congrArg Prod.fst (eq_of_mem_pendingRun hm)).symm
  | succ n ih =>
    rw [runsFrom] at hm
    split at hm
    · have := ih _ _ hm
      omega
    · rcases List.mem_append.mp hm with hp | hr
      · exact Nat.le_of_eq (congrArg Prod.fst (eq_of_mem_pendingRun hp)).symm
      · have := ih _ _ hr
        omega

/-- The runs come in order, with a gap between any two. -/
theorem pairwise_runsFrom (p : Nat → Bool) (size k n : Nat) (hsize : size ≤ k) :
    (runsFrom p size k n).Pairwise fun run run' => run.1 + run.2 < run'.1 := by
  induction n generalizing size k with
  | zero => exact pairwise_pendingRun size k _
  | succ n ih =>
    rw [runsFrom]
    split
    · exact ih _ _ (by omega)
    · refine List.pairwise_append.mpr ⟨pairwise_pendingRun size k _, ih _ _ (by omega), ?_⟩
      intro run hr run' hr'
      have hle := le_of_mem_runsFrom p 0 (k + 1) n run' hr'
      rw [eq_of_mem_pendingRun hr]
      show k - size + size < run'.1
      omega

/-- No run is listed twice, since each lies behind the one before it. -/
theorem nodup_runsFrom (p : Nat → Bool) (size k n : Nat) (hsize : size ≤ k) : (runsFrom p size k n).Nodup := by
  refine (pairwise_runsFrom p size k n hsize).imp ?_
  rintro run run' hlt rfl
  omega

/-- Indices with `p` prolong the pending run. -/
theorem runsFrom_of_all (p : Nat → Bool) (size k count n : Nat)
    (h : ∀ i, k ≤ i → i < k + count → p i = true) :
    runsFrom p size k (count + n) = runsFrom p (size + count) (k + count) n := by
  induction count generalizing size k with
  | zero => rw [Nat.zero_add, Nat.add_zero, Nat.add_zero]
  | succ count ih =>
    have hnext : count + 1 + n = count + n + 1 := Nat.add_right_comm count 1 n
    rw [hnext, runsFrom, if_pos (h k (by omega) (by omega)),
      ih (size + 1) (k + 1) (fun i hlo hhi => h i (by omega) (by omega))]
    congr 1 <;> omega

/-- Indices without `p` end the pending run. -/
theorem runsFrom_of_none (p : Nat → Bool) (size k count n : Nat) (hpos : 0 < count)
    (h : ∀ i, k ≤ i → i < k + count → p i = false) :
    runsFrom p size k (count + n) = pendingRun size k ++ runsFrom p 0 (k + count) n := by
  induction count generalizing size k with
  | zero => omega
  | succ count ih =>
    have hnext : count + 1 + n = count + n + 1 := Nat.add_right_comm count 1 n
    rw [hnext, runsFrom, if_neg (by rw [h k (by omega) (by omega)]; decide)]
    congr 1
    rcases Nat.eq_zero_or_pos count with rfl | hmore
    · rw [Nat.zero_add]
    · rw [ih 0 (k + 1) hmore (fun i hlo hhi => h i (by omega) (by omega)), pendingRun, if_pos rfl,
        List.nil_append]
      congr 1
      omega

theorem pendingRun_scale (q : Nat) (hq : 0 < q) (size k : Nat) :
    pendingRun (q * size) (q * k) = (pendingRun size k).map fun run => (q * run.1, q * run.2) := by
  by_cases hz : size = 0
  · simp [pendingRun, hz]
  · have hne : q * size ≠ 0 := Nat.mul_ne_zero (Nat.ne_of_gt hq) hz
    simp [pendingRun, hz, hne, Nat.mul_sub]

/-- When every index is cut into `q` parts, the runs stay the same and all lengths are multiplied. -/
theorem runsFrom_scale (p : Nat → Bool) (q : Nat) (hq : 0 < q) (size k n : Nat) :
    runsFrom (fun i => p (i / q)) (q * size) (q * k) (q * n) =
      (runsFrom p size k n).map fun run => (q * run.1, q * run.2) := by
  induction n generalizing size k with
  | zero => exact pendingRun_scale q hq size k
  | succ n ih =>
    have hparts : ∀ i, q * k ≤ i → i < q * k + q → i / q = k := by
      intro i hlo hhi
      rw [Nat.div_eq_iff hq, Nat.mul_comm k q]
      omega
    have hcount : q * (n + 1) = q + q * n := by rw [Nat.mul_succ, Nat.add_comm]
    rw [hcount, runsFrom]
    cases hk : p k with
    | true =>
      rw [runsFrom_of_all _ _ _ _ _ (fun i hlo hhi => by rw [hparts i hlo hhi, hk]), ← Nat.mul_succ, ← Nat.mul_succ,
        ih, if_pos rfl]
    | false =>
      rw [runsFrom_of_none _ _ _ _ _ hq (fun i hlo hhi => by rw [hparts i hlo hhi, hk]), ← Nat.mul_succ,
        if_neg Bool.false_ne_true, List.map_append, ← ih, ← pendingRun_scale q hq, Nat.mul_zero]

end

end FlowGuard
