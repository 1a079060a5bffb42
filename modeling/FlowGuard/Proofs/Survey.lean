import FlowGuard.Code.Snapshot
import FlowGuard.Proofs.Captured
import FlowGuard.Proofs.Requests
import FlowGuard.Proofs.Runs
import Mathlib.Algebra.Group.Nat.Defs

/-!
The survey of a module with any host. The two loops of the walk move one cursor, which visits the steps
`base + k * step` in front of the end of the module and then stops, be it at the last address; so the walk is one
recursion over these steps. Whatever the answers, the rights of each step are asked for once, each maximal run of
executable steps is read at once, and each failed question is one warning. Only a run over the whole address space
is passed over, since its size is no 64-bit number.
-/

namespace FlowGuard

namespace Dialogue

variable {α β : Type}

/-- The pages whose rights a host is asked for, in order. -/
def asked (h : Answers) : Dialogue α → List Address
  | done _ => []
  | rights page next => page :: (next (h.rights page)).asked h
  | read start size next => (next (h.read start size)).asked h
  | note _ next => next.asked h

/-- The ranges whose bytes a host is asked for, in order. -/
def reads (h : Answers) : Dialogue α → List (Address × Nat)
  | done _ => []
  | rights page next => (next (h.rights page)).reads h
  | read start size next => (start, size) :: (next (h.read start size)).reads h
  | note _ next => next.reads h

theorem bind_done (d : Dialogue α) : d >>= done = d := by
  induction d with
  | done a => rfl
  | rights page next ih => exact congrArg (rights page) (funext ih)
  | read start size next ih => exact congrArg (read start size) (funext ih)
  | note n next ih => exact congrArg (note n) ih

theorem run_bind (h : Answers) (d : Dialogue α) (f : α → Dialogue β) :
    (d >>= f).run h = d.run h >>= fun a => (f a).run h := by
  induction d with
  | done a => rfl
  | rights page next ih => exact ih (h.rights page)
  | read start size next ih => exact ih (h.read start size)
  | note n next ih =>
    rw [run, Traced.bind_assoc, ← ih]
    rfl

theorem asked_bind (h : Answers) (d : Dialogue α) (f : α → Dialogue β) :
    (d >>= f).asked h = d.asked h ++ (f (d.run h).value).asked h := by
  induction d with
  | done a => rfl
  | rights page next ih => exact congrArg (page :: ·) (ih (h.rights page))
  | read start size next ih => exact ih (h.read start size)
  | note n next ih => exact ih

theorem reads_bind (h : Answers) (d : Dialogue α) (f : α → Dialogue β) :
    (d >>= f).reads h = d.reads h ++ (f (d.run h).value).reads h := by
  induction d with
  | done a => rfl
  | rights page next ih => exact ih (h.rights page)
  | read start size next ih => exact congrArg ((start, size) :: ·) (ih (h.read start size))
  | note n next ih => exact ih

/-- A dialogue asks nothing of a host but answers. -/
theorem requests_run (h : Answers) (d : Dialogue α) : (d.run h).requests = [] := by
  induction d with
  | done a => rfl
  | rights page next ih => exact ih (h.rights page)
  | read start size next ih => exact ih (h.read start size)
  | note n next ih => simpa [run] using ih

/-- With buffers a dialogue comes to its end exactly if each range that it reads fits into one. -/
theorem value_runBuffered (h : Answers) (d : Dialogue α) :
    (d.runBuffered h).value =
      if (d.reads h).any fun range => decide (bufferLimit < range.2) then none else some (d.run h).value := by
  induction d with
  | done a => rfl
  | rights page next ih => exact ih (h.rights page)
  | read start size next ih =>
    rw [runBuffered, reads, List.any_cons, run]
    by_cases hsize : size ≤ bufferLimit
    · rw [if_pos hsize, ih, decide_eq_false (Nat.not_lt.mpr hsize), Bool.false_or]
    · rw [if_neg hsize, decide_eq_true (Nat.lt_of_not_le hsize), Bool.true_or, if_pos rfl]
      rfl
  | note n next ih => exact ih

end Dialogue

namespace Note

def isRightsFailure : Note → Bool
  | rightsFailed .. => true
  | _ => false

def isReadFailure : Note → Bool
  | regionLost .. => true
  | _ => false

end Note

namespace Snapshot

def stepAddress (target : LoadedModule) (step : UInt64) (k : Nat) : Address :=
  target.base + UInt64.ofNat k * step

def IsStep (target : LoadedModule) (step : UInt64) (k : Nat) : Prop :=
  target.base.toNat + k * step.toNat < target.endAddress.toNat

/-- The number of steps from `base` until `stop` is reached. -/
def stepCount (base stop : Address) (step : UInt64) : Nat :=
  (stop.toNat - base.toNat + (step.toNat - 1)) / step.toNat

theorem validStep_iff (step : UInt64) : validStep step = true ↔ ∃ k, step.toNat = 2 ^ k := by
  simp only [validStep, List.any_eq_true, beq_iff_eq, List.mem_range, Nat.shiftLeft_eq, Nat.one_mul]
  constructor
  · rintro ⟨k, -, hk⟩
    exact ⟨k, hk⟩
  · rintro ⟨k, hk⟩
    have hlt : 2 ^ k < 2 ^ 64 := by
      rw [← hk]
      exact step.toNat_lt
    exact ⟨k, (Nat.pow_lt_pow_iff_right (by decide)).mp hlt, hk⟩

theorem pos_of_validStep {step : UInt64} (h : validStep step = true) : 0 < step.toNat :=
  Step.pos ⟨step, h⟩

theorem toNat_stepAddress (target : LoadedModule) (step : UInt64) (k : Nat) (h : IsStep target step k) :
    (stepAddress target step k).toNat = target.base.toNat + k * step.toNat := by
  have hlt : target.base.toNat + k * step.toNat < 2 ^ 64 := Nat.lt_trans h target.endAddress.toNat_lt
  unfold stepAddress
  rw [UInt64.toNat_add, UInt64.toNat_mul]
  simp only [UInt64.toNat_ofNat']
  rw [Nat.mod_mul_mod, Nat.add_mod_mod, Nat.mod_eq_of_lt hlt]

theorem isStep_iff (target : LoadedModule) (step : UInt64) (hstep : 0 < step.toNat) (k : Nat) :
    IsStep target step k ↔ k < stepCount target.base target.endAddress step := by
  unfold IsStep stepCount
  rw [← Nat.succ_le_iff (m := k), Nat.le_div_iff_mul_le hstep, Nat.succ_mul]
  omega

theorem stepAddress_lt (target : LoadedModule) (step : UInt64) (hstep : 0 < step.toNat) (k k' : Nat)
    (hk : IsStep target step k) (hk' : IsStep target step k') :
    (stepAddress target step k).toNat < (stepAddress target step k').toNat ↔ k < k' := by
  rw [toNat_stepAddress target step k hk, toNat_stepAddress target step k' hk', Nat.add_lt_add_iff_left]
  exact Nat.mul_lt_mul_right hstep

/-- Of two maximal runs of steps, the bytes of the one that starts first end before the other one starts. -/
theorem maximalRun_apart (target : LoadedModule) (step : UInt64) (hstep : 0 < step.toNat) {p : Nat → Prop}
    (hp : ∀ k, p k → IsStep target step k) {first count first' count' : Nat} (h : MaximalRun p first count)
    (h' : MaximalRun p first' count')
    (hlt : (stepAddress target step first).toNat < (stepAddress target step first').toNat) :
    (stepAddress target step first).toNat + count * step.toNat < (stepAddress target step first').toNat := by
  have hs := hp first h.first_holds
  have hs' := hp first' h'.first_holds
  have hgap := h.separated h' ((stepAddress_lt target step hstep first first' hs hs').mp hlt)
  have hmul : (first + count) * step.toNat < first' * step.toNat :=
    (Nat.mul_lt_mul_right hstep).mpr hgap
  rw [Nat.add_mul] at hmul
  rw [toNat_stepAddress target step first hs, toNat_stepAddress target step first' hs']
  omega

theorem leads_iff_execute (r : Rights) : r.text.toList.head? = some 'E' ↔ r.execute = true := by
  cases he : r.execute <;> simp [Rights.text, he]

/-- The size of `count` steps, as the walk adds it up. -/
def runSize (step : UInt64) (count : Nat) : UInt64 :=
  UInt64.ofNat (count * step.toNat)

def hasSize (step : UInt64) (run : Nat × Nat) : Bool :=
  decide (run.2 * step.toNat < spaceSize)

theorem runSize_succ (step : UInt64) (count : Nat) : runSize step (count + 1) = runSize step count + step := by
  unfold runSize
  rw [Nat.succ_mul, UInt64.ofNat_add, UInt64.ofNat_toNat]

theorem toNat_runSize (step : UInt64) (count : Nat) (h : count * step.toNat < spaceSize) :
    (runSize step count).toNat = count * step.toNat :=
  UInt64.toNat_ofNat_of_lt' h

/-- Steps are powers of two, so those of a module cover at most the whole address space. -/
theorem mul_le_spaceSize {target : LoadedModule} {step : UInt64} (hstep : validStep step = true) {count : Nat}
    (hcount : count ≤ stepCount target.base target.endAddress step) : count * step.toNat ≤ spaceSize := by
  obtain ⟨j, hj⟩ := (validStep_iff step).mp hstep
  have hpos := pos_of_validStep hstep
  have hlt : 2 ^ j < 2 ^ 64 := by
    rw [← hj]
    exact step.toNat_lt
  have hle : j ≤ 64 := Nat.le_of_lt ((Nat.pow_lt_pow_iff_right (by decide)).mp hlt)
  have hspace : spaceSize = 2 ^ (64 - j) * step.toNat := by
    rw [hj, ← Nat.pow_add, Nat.sub_add_cancel hle]
    rfl
  have hend := target.endAddress.toNat_lt_size
  have hsize : spaceSize = UInt64.size := rfl
  rw [stepCount, Nat.le_div_iff_mul_le hpos] at hcount
  have hbound : count * step.toNat < (2 ^ (64 - j) + 1) * step.toNat := by
    rw [Nat.succ_mul, ← hspace]
    omega
  rw [hspace]
  exact Nat.mul_le_mul_right _ (Nat.le_of_lt_succ ((Nat.mul_lt_mul_right hpos).mp hbound))

end Snapshot

namespace Answers

open Snapshot

variable (h : Answers) (target : LoadedModule) (step : UInt64)

/-- The step lies in the module, and the text of its rights can be had and begins with the letter of
executable pages. -/
def IsExecutable (k : Nat) : Prop :=
  IsStep target step k ∧
    ∃ text, h.rights (stepAddress target step k) = .ok text ∧ text.toList.head? = some 'E'

def executes (k : Nat) : Bool :=
  decide (k < stepCount target.base target.endAddress step) &&
    match h.rights (stepAddress target step k) with
    | .ok text => text.toList.head? == some 'E'
    | .error _ => false

theorem executes_iff_isExecutable (hstep : 0 < step.toNat) (k : Nat) :
    h.executes target step k = true ↔ h.IsExecutable target step k := by
  unfold executes IsExecutable
  rw [Bool.and_eq_true, decide_eq_true_iff, isStep_iff target step hstep]
  cases h.rights (stepAddress target step k) <;> simp

def readRun (run : Nat × Nat) : Except MemoryError (List UInt8) :=
  h.read (stepAddress target step run.1) (run.2 * step.toNat)

def region? (run : Nat × Nat) : Option Region :=
  match h.readRun target step run with
  | .ok bytes => some ⟨stepAddress target step run.1, bytes.toArray⟩
  | .error _ => none

def refused (k : Nat) : Bool :=
  !(h.rights (stepAddress target step k)).isOk

def lost (run : Nat × Nat) : Bool :=
  !(h.readRun target step run).isOk

/-- A snapshot that has come by more runs, and by steps whose rights could not be had. -/
def extend (s : Snapshot) (runs : List (Nat × Nat)) (refusals : Nat) : Snapshot where
  captured := s.captured.insertAll (runs.filterMap (h.region? target step))
  warnings := s.warnings + refusals + runs.countP (h.lost target step)

@[simp] theorem extend_extend (s : Snapshot) (runs runs' : List (Nat × Nat)) (refusals refusals' : Nat) :
    h.extend target step (h.extend target step s runs refusals) runs' refusals' =
      h.extend target step s (runs ++ runs') (refusals + refusals') := by
  simp only [extend, Captured.insertAll, List.filterMap_append, List.foldl_append, List.countP_append,
    Snapshot.mk.injEq, true_and]
  omega

def runs : List (Nat × Nat) :=
  (runsFrom (h.executes target step) 0 0 (stepCount target.base target.endAddress step)).filter (hasSize step)

theorem mem_runs (hstep : 0 < step.toNat) (run : Nat × Nat) :
    run ∈ h.runs target step ↔
      MaximalRun (h.IsExecutable target step) run.1 run.2 ∧ run.2 * step.toNat < spaceSize := by
  have hp : (fun i => h.executes target step i = true) = h.IsExecutable target step := by
    funext i
    exact propext (h.executes_iff_isExecutable target step hstep i)
  rw [runs, List.mem_filter, hasSize, decide_eq_true_iff,
    mem_runsFrom _ (by omega) (by omega) (by omega) (by
      intro i hi
      simp only [executes, Bool.and_eq_true, decide_eq_true_iff, not_and]
      omega), hp]
  simp

theorem region?_eq_some_iff (run : Nat × Nat) (r : Region) :
    h.region? target step run = some r ↔
      r.start = stepAddress target step run.1 ∧ h.readRun target step run = .ok r.bytes.toList := by
  unfold region?
  cases h.readRun target step run with
  | error e => simp
  | ok bytes =>
    obtain ⟨start, found⟩ := r
    simp only [Option.some.injEq, Region.mk.injEq, Except.ok.injEq]
    rw [eq_comm (a := stepAddress target step run.1), ← Array.toList_inj]

theorem lost_eq (run : Nat × Nat) : h.lost target step run = (h.region? target step run).isNone := by
  unfold lost region?
  cases h.readRun target step run <;> rfl

/-- The runs that can be read come in the order of their regions. -/
theorem pairwise_regions (hstep : 0 < step.toNat) :
    ((h.runs target step).filterMap (h.region? target step)).Pairwise Region.Before := by
  rw [List.pairwise_filterMap]
  refine ((pairwise_runsFrom (h.executes target step) 0 0 _ (Nat.le_refl 0)).filter _).imp_of_mem ?_
  intro run run' hm hm' hlt r hr r' hr'
  have hrun := ((h.mem_runs target step hstep run).mp hm).1
  have hrun' := ((h.mem_runs target step hstep run').mp hm').1
  rw [Region.Before, ((h.region?_eq_some_iff target step run r).mp hr).1,
    ((h.region?_eq_some_iff target step run' r').mp hr').1,
    stepAddress_lt target step hstep run.1 run'.1 hrun.first_holds.1 hrun'.first_holds.1]
  omega

end Answers

namespace Survey

open Snapshot

section

variable (target : LoadedModule) (step : UInt64)

def cursor (k : Nat) : Address :=
  UInt64.ofNat (min (target.base.toNat + k * step.toNat) (spaceSize - 1))

theorem toNat_cursor (k : Nat) :
    (cursor target step k).toNat = min (target.base.toNat + k * step.toNat) (spaceSize - 1) := by
  have hspace : 0 < spaceSize := by decide
  exact UInt64.toNat_ofNat_of_lt' (Nat.lt_of_le_of_lt (Nat.min_le_right _ _) (Nat.sub_one_lt_of_lt hspace))

theorem cursor_zero : cursor target step 0 = target.base := by
  have hlt := target.base.toNat_lt_size
  have hspace : spaceSize = UInt64.size := rfl
  rw [← UInt64.toNat_inj, toNat_cursor]
  omega

theorem addSat_cursor (k : Nat) : Address.addSat (cursor target step k) step = cursor target step (k + 1) := by
  rw [← UInt64.toNat_inj, Address.toNat_addSat, toNat_cursor, toNat_cursor, Nat.succ_mul]
  omega

theorem cursor_lt_iff (k : Nat) : cursor target step k < target.endAddress ↔ IsStep target step k := by
  have hlt := target.endAddress.toNat_lt_size
  have hspace : spaceSize = UInt64.size := rfl
  rw [UInt64.lt_iff_toNat_lt, toNat_cursor, IsStep]
  omega

theorem cursor_eq (k : Nat) (hk : IsStep target step k) : cursor target step k = stepAddress target step k := by
  have hlt := target.endAddress.toNat_lt_size
  have hspace : spaceSize = UInt64.size := rfl
  rw [← UInt64.toNat_inj, toNat_cursor, toNat_stepAddress target step k hk]
  unfold IsStep at hk
  omega

/-- The walk, step by step: `n` steps from step `k` on are left, and `size` executable ones stand right in front. -/
def steps (s : Snapshot) (size k : Nat) : Nat → Dialogue Snapshot
  | 0 => capture s (stepAddress target step (k - size)) (runSize step size)
  | n + 1 =>
    .rights (stepAddress target step k) fun
      | .ok text =>
        if text.toList.head? = some 'E' then steps s (size + 1) (k + 1) n
        else do
          let s ← capture s (stepAddress target step (k - size)) (runSize step size)
          steps s 0 (k + 1) n
      | .error e =>
        .note (.rightsFailed (stepAddress target step k) e) do
          let s ← capture { s with warnings := s.warnings + 1 } (stepAddress target step (k - size))
            (runSize step size)
          steps s 0 (k + 1) n

end

theorem capture_zero (s : Snapshot) (start : Address) : capture s start 0 = .done s := if_pos rfl

theorem runSize_zero (step : UInt64) : runSize step 0 = 0 := by simp [runSize]

section

variable (target : LoadedModule) (step : Step)

/-- The cursor is at step `k`, and the `size` steps in front of it make up `bytes` bytes from `start` on. -/
structure Behind (size k : Nat) (start page : Address) (bytes : UInt64) : Prop where
  size_le : size ≤ k
  le_count : k ≤ stepCount target.base target.endAddress step.size
  start_eq : start = cursor target step.size (k - size)
  page_eq : page = cursor target step.size k
  bytes_eq : bytes = runSize step.size size

namespace Behind

variable {target step} {size k : Nat} {start page : Address} {bytes : UInt64}

theorem empty (hk : k ≤ stepCount target.base target.endAddress step.size) :
    Behind target step 0 k (cursor target step.size k) (cursor target step.size k) 0 :=
  ⟨Nat.zero_le k, hk, rfl, rfl, (runSize_zero _).symm⟩

theorem lt_iff (h : Behind target step size k start page bytes) :
    page < target.endAddress ↔ k < stepCount target.base target.endAddress step.size := by
  rw [h.page_eq, cursor_lt_iff, isStep_iff target step.size step.pos]

theorem addSat (h : Behind target step size k start page bytes) :
    Address.addSat page step.size = cursor target step.size (k + 1) := by
  rw [h.page_eq, addSat_cursor]

theorem grow (h : Behind target step size k start page bytes)
    (hk : k < stepCount target.base target.endAddress step.size) :
    Behind target step (size + 1) (k + 1) start (Address.addSat page step.size) (bytes + step.size) where
  size_le := Nat.succ_le_succ h.size_le
  le_count := hk
  start_eq := by rw [Nat.add_sub_add_right, h.start_eq]
  page_eq := h.addSat
  bytes_eq := by rw [h.bytes_eq, runSize_succ]

/-- A run starts at one of the steps, unless it is empty. -/
theorem capture (h : Behind target step size k start page bytes) (s : Snapshot) :
    capture s start bytes = capture s (stepAddress target step.size (k - size)) (runSize step.size size) := by
  rw [h.bytes_eq]
  rcases Nat.eq_zero_or_pos size with rfl | hpos
  · rw [runSize_zero, capture_zero, capture_zero]
  · have hsize := h.size_le
    have hk := h.le_count
    have hstep : IsStep target step.size (k - size) := (isStep_iff target step.size step.pos _).mpr (by omega)
    rw [h.start_eq, cursor_eq target step.size _ hstep]

end Behind

def afterRun (stop start : Address) (run : RunEnd start) : Dialogue Snapshot := do
  let s ← capture run.snapshot start run.size
  walk step stop s (Address.addSat run.page step.size)

theorem walk_of_lt {stop : Address} (s : Snapshot) {page : Address} (h : page < stop) :
    walk step stop s page =
      walkRun step stop page s 0 page (UInt64.le_refl page) >>= afterRun step stop page := by
  rw [walk, if_pos h]
  rfl

theorem walk_of_not_lt {stop : Address} (s : Snapshot) {page : Address} (h : ¬page < stop) :
    walk step stop s page = .done s := by
  rw [walk, if_neg h]

variable {target step}

/-- The outer loop goes from step to step if the inner one does, since it starts it with an empty run. -/
theorem walk_cursor (s : Snapshot) {k n : Nat} (hn : k + n = stepCount target.base target.endAddress step.size)
    (hrun : walkRun step target.endAddress (cursor target step.size k) s 0 (cursor target step.size k)
      (UInt64.le_refl _) >>= afterRun step target.endAddress _ = steps target step.size s 0 k n) :
    walk step target.endAddress s (cursor target step.size k) = steps target step.size s 0 k n := by
  have hb : Behind target step 0 k (cursor target step.size k) (cursor target step.size k) 0 := .empty (by omega)
  have hlt := hb.lt_iff
  by_cases hmore : k < stepCount target.base target.endAddress step.size
  · rw [walk_of_lt step s (hlt.mpr hmore), hrun]
  · obtain rfl : n = 0 := by omega
    rw [walk_of_not_lt step s (fun h => hmore (hlt.mp h)), steps, runSize_zero, capture_zero]

/-- Both loops together go from step to step. -/
theorem walkRun_eq_steps (s : Snapshot) {size k n : Nat} {start page : Address} {bytes : UInt64}
    (hn : k + n = stepCount target.base target.endAddress step.size)
    (hb : Behind target step size k start page bytes) (hle : start ≤ page) :
    walkRun step target.endAddress start s bytes page hle >>= afterRun step target.endAddress start =
      steps target step.size s size k n := by
  induction n generalizing s size k start page bytes with
  | zero =>
    have hstop : ¬page < target.endAddress := by
      rw [hb.lt_iff]
      omega
    have hends (s : Snapshot) : walk step target.endAddress s (cursor target step.size (k + 1)) = .done s := by
      refine walk_of_not_lt step s ?_
      rw [cursor_lt_iff, isStep_iff target step.size step.pos]
      omega
    rw [walkRun, if_neg hstop, steps, ← hb.capture, ← Dialogue.bind_done (capture s start bytes)]
    change afterRun step target.endAddress start ⟨page, bytes, s, hle⟩ = _
    simp only [afterRun, hb.addSat, hends]
  | succ n ih =>
    have hk : k < stepCount target.base target.endAddress step.size := by omega
    have hin : stepAddress target step.size k = page := by
      rw [hb.page_eq, cursor_eq target step.size k ((isStep_iff target step.size step.pos k).mpr hk)]
    -- behind a step that ends a run the outer loop takes over
    have hends (s : Snapshot) : afterRun step target.endAddress start ⟨page, bytes, s, hle⟩ =
        capture s (stepAddress target step.size (k - size)) (runSize step.size size) >>= fun s =>
          steps target step.size s 0 (k + 1) n := by
      have hwalk (s : Snapshot) := walk_cursor s (k := k + 1) (n := n) (by omega)
        (ih s (by omega) (.empty (by omega)) (UInt64.le_refl _))
      simp only [afterRun, hb.addSat, hwalk, hb.capture]
    rw [walkRun, if_pos (hb.lt_iff.mpr hk), steps, hin]
    refine congrArg (Dialogue.rights page) (funext fun answer => ?_)
    cases answer with
    | error e => exact congrArg (Dialogue.note _) (hends _)
    | ok text =>
      by_cases hx : text.toList.head? = some 'E'
      · simp only [hx, if_true]
        exact ih s (by omega) (hb.grow hk) _
      · simp only [hx, if_false]
        exact hends s

/-- The walk over a module visits its steps, one after another. -/
theorem walk_eq_steps (s : Snapshot) :
    walk step target.endAddress s target.base =
      steps target step.size s 0 0 (stepCount target.base target.endAddress step.size) := by
  have hwalk : walk step target.endAddress s (cursor target step.size 0) =
      steps target step.size s 0 0 (stepCount target.base target.endAddress step.size) :=
    walk_cursor s (Nat.zero_add _) (walkRun_eq_steps s (Nat.zero_add _) (.empty (Nat.zero_le _)) _)
  rwa [cursor_zero] at hwalk

end

theorem take_of_valid {target : LoadedModule} {step : UInt64} (hstep : validStep step = true) :
    take target step = steps target step {} 0 0 (stepCount target.base target.endAddress step) := by
  rw [take, dif_pos hstep, walk_eq_steps]

theorem take_of_not_valid {target : LoadedModule} {size : UInt64} (hsize : ¬validStep size = true) :
    take target size = .note (.pageSizeReplaced size defaultStep) (take target defaultStep) := by
  rw [take, dif_neg hsize, take, dif_pos]

section

variable (h : Answers) (target : LoadedModule) (step : UInt64)

theorem asked_capture (s : Snapshot) (start : Address) (size : UInt64) : (capture s start size).asked h = [] := by
  unfold capture
  split
  · rfl
  · cases hr : h.read start size.toNat <;> simp [Dialogue.asked, hr]

/-- Each step of a walk asks for the rights of its own page. -/
theorem asked_steps (s : Snapshot) (size k n : Nat) :
    (steps target step s size k n).asked h = (List.range' k n).map (stepAddress target step) := by
  induction n generalizing s size k with
  | zero => exact asked_capture h s _ _
  | succ n ih =>
    rw [steps, List.range'_succ, List.map_cons, Dialogue.asked]
    congr 1
    cases hr : h.rights (stepAddress target step k) with
    | error e => simp only [Dialogue.asked, Dialogue.asked_bind, asked_capture, ih, List.nil_append]
    | ok text =>
      simp only [apply_ite (Dialogue.asked h), Dialogue.asked_bind, asked_capture, ih, List.nil_append, ite_self]

def range (run : Nat × Nat) : Address × Nat :=
  (stepAddress target step run.1, run.2 * step.toNat)

/-- What a dialogue does with a snapshot: it adds some runs, reading each of them once and at once, and comes by some
steps whose rights are refused; each failure is noted once, as a warning. -/
structure Yields (d : Dialogue Snapshot) (s : Snapshot) (runs : List (Nat × Nat)) (refusals : Nat) : Prop where
  value_eq : (d.run h).value = h.extend target step s runs refusals
  reads_eq : d.reads h = runs.map (range target step)
  refusals_eq : (d.run h).notes.countP Note.isRightsFailure = refusals
  losses_eq : (d.run h).notes.countP Note.isReadFailure = runs.countP (h.lost target step)
  warnings_eq : ((d.run h).notes.countP fun n => n.level = .warn) = refusals + runs.countP (h.lost target step)
  minor : ∀ n ∈ (d.run h).notes, n.level = .debug ∨ n.level = .warn

namespace Yields

variable {h target step}

theorem done (s : Snapshot) : Yields h target step (.done s) s [] 0 :=
  ⟨rfl, rfl, rfl, rfl, rfl, by simp [Dialogue.run]⟩

theorem bind {d : Dialogue Snapshot} {f : Snapshot → Dialogue Snapshot} {s : Snapshot}
    {runs runs' : List (Nat × Nat)} {refusals refusals' : Nat} (hd : Yields h target step d s runs refusals)
    (hf : ∀ s, Yields h target step (f s) s runs' refusals') :
    Yields h target step (d >>= f) s (runs ++ runs') (refusals + refusals') where
  value_eq := by
    rw [Dialogue.run_bind, Traced.value_bind, (hf _).value_eq, hd.value_eq, Answers.extend_extend]
  reads_eq := by rw [Dialogue.reads_bind, hd.reads_eq, (hf _).reads_eq, List.map_append]
  refusals_eq := by
    rw [Dialogue.run_bind, Traced.notes_bind, List.countP_append, hd.refusals_eq, (hf _).refusals_eq]
  losses_eq := by
    rw [Dialogue.run_bind, Traced.notes_bind, List.countP_append, hd.losses_eq, (hf _).losses_eq, List.countP_append]
  warnings_eq := by
    rw [Dialogue.run_bind, Traced.notes_bind, List.countP_append, hd.warnings_eq, (hf _).warnings_eq,
      List.countP_append]
    omega
  minor n hn := by
    rw [Dialogue.run_bind, Traced.notes_bind, List.mem_append] at hn
    exact hn.elim (hd.minor n) ((hf _).minor n)

theorem rights {page : Address} {next : Except MemoryError String → Dialogue Snapshot} {s : Snapshot}
    {runs : List (Nat × Nat)} {refusals : Nat} (hd : Yields h target step (next (h.rights page)) s runs refusals) :
    Yields h target step (.rights page next) s runs refusals :=
  ⟨hd.value_eq, hd.reads_eq, hd.refusals_eq, hd.losses_eq, hd.warnings_eq, hd.minor⟩

/-- A step whose rights are refused is noted. -/
theorem refused {d : Dialogue Snapshot} {s : Snapshot} {runs : List (Nat × Nat)} {refusals : Nat} (page : Address)
    (e : MemoryError) (hd : Yields h target step d { s with warnings := s.warnings + 1 } runs refusals) :
    Yields h target step (.note (.rightsFailed page e) d) s runs (refusals + 1) where
  value_eq := by
    have hwarn : { s with warnings := s.warnings + 1 } = h.extend target step s [] 1 := rfl
    rw [hwarn] at hd
    rw [Dialogue.run, Traced.value_bind, hd.value_eq, Answers.extend_extend, List.nil_append, Nat.add_comm]
  reads_eq := hd.reads_eq
  refusals_eq := by simp [Dialogue.run, List.countP_cons, Note.isRightsFailure, hd.refusals_eq]
  losses_eq := by simp [Dialogue.run, Note.isReadFailure, hd.losses_eq]
  warnings_eq := by
    have hlevel : (Note.rightsFailed page e).level = .warn := rfl
    simp only [Dialogue.run, Traced.notes_bind, Traced.notes_note, List.countP_append, List.countP_singleton,
      hlevel, hd.warnings_eq, decide_true, if_true]
    omega
  minor n hn := by
    simp only [Dialogue.run, Traced.notes_bind, Traced.notes_note, List.mem_append, List.mem_singleton] at hn
    rcases hn with rfl | hn
    · exact .inr rfl
    · exact hd.minor n hn

end Yields

variable (hstep : validStep step = true)
include hstep

/-- The run of `size` steps in front of step `k` is read if it is not empty and has a size. -/
theorem yields_capture (s : Snapshot) (size k : Nat)
    (hsize : size ≤ stepCount target.base target.endAddress step) :
    Yields h target step (capture s (stepAddress target step (k - size)) (runSize step size)) s
      ((pendingRun size k).filter (hasSize step)) 0 := by
  by_cases hzero : size = 0
  · subst hzero
    rw [runSize_zero, capture_zero]
    exact .done s
  · by_cases hfits : size * step.toNat < spaceSize
    · have hrun : (pendingRun size k).filter (hasSize step) = [(k - size, size)] := by
        simp [pendingRun, hzero, hasSize, hfits]
      have hne : runSize step size ≠ 0 := by
        rw [ne_eq, ← UInt64.toNat_inj, toNat_runSize step size hfits]
        exact Nat.mul_ne_zero hzero (Nat.ne_of_gt (pos_of_validStep hstep))
      rw [hrun, capture, if_neg hne, toNat_runSize step size hfits]
      cases hr : h.read (stepAddress target step (k - size)) (size * step.toNat) with
      | ok bytes =>
        have hlevel : (Note.regionCaptured (stepAddress target step (k - size)) (runSize step size)).level = .debug :=
          rfl
        constructor <;>
          simp [Dialogue.run, Dialogue.reads, range, Answers.extend, Answers.region?, Answers.lost, Answers.readRun,
            hr, Captured.insertAll, Except.isOk, Except.toBool, Note.isRightsFailure, Note.isReadFailure, hlevel]
      | error e =>
        have hlevel : (Note.regionLost (stepAddress target step (k - size)) (runSize step size) e).level = .warn := rfl
        constructor <;>
          simp [Dialogue.run, Dialogue.reads, range, Answers.extend, Answers.region?, Answers.lost, Answers.readRun,
            hr, Captured.insertAll, Except.isOk, Except.toBool, Note.isRightsFailure, Note.isReadFailure, hlevel]
    · have hwhole : size * step.toNat = spaceSize := by
        have := mul_le_spaceSize hstep hsize
        omega
      have hnone : (pendingRun size k).filter (hasSize step) = [] := by
        simp [pendingRun, hzero, hasSize, hfits]
      rw [hnone, runSize, hwhole]
      exact .done s

/-- The walk adds the runs it comes by, one after another. -/
theorem yields_steps (s : Snapshot) (size k n : Nat)
    (hn : k + n = stepCount target.base target.endAddress step) (hsize : size ≤ k) :
    Yields h target step (steps target step s size k n) s
      ((runsFrom (h.executes target step) size k n).filter (hasSize step))
      ((List.range' k n).countP (h.refused target step)) := by
  induction n generalizing s size k with
  | zero => exact yields_capture h target step hstep s size k (by omega)
  | succ n ih =>
    -- A step that is not executable ends the pending run, and the walk starts afresh behind it.
    have hends (s : Snapshot) := (yields_capture h target step hstep s size k (by omega)).bind
      fun s => ih s 0 (k + 1) (by omega) (Nat.zero_le _)
    rw [Nat.zero_add, ← List.filter_append] at hends
    have hk : k < stepCount target.base target.endAddress step := by omega
    rw [steps, runsFrom, List.range'_succ, List.countP_cons]
    apply Yields.rights
    cases hr : h.rights (stepAddress target step k) with
    | error e =>
      have hf : h.refused target step k = true := by simp [Answers.refused, hr, Except.isOk, Except.toBool]
      have he : h.executes target step k = false := by simp [Answers.executes, hr]
      simp only [he, hf, Bool.false_eq_true, if_false, if_true]
      exact (hends _).refused _ e
    | ok text =>
      have hf : h.refused target step k = false := by simp [Answers.refused, hr, Except.isOk, Except.toBool]
      by_cases hx : text.toList.head? = some 'E'
      · have he : h.executes target step k = true := by simp [Answers.executes, hr, hk, hx]
        simp only [hx, he, hf, if_true, Bool.false_eq_true, if_false, Nat.add_zero]
        exact ih s (size + 1) (k + 1) (by omega) (by omega)
      · have he : h.executes target step k = false := by simp [Answers.executes, hr, hx]
        simp only [hx, he, hf, Bool.false_eq_true, if_false, Nat.add_zero]
        exact hends s

theorem yields_take :
    Yields h target step (take target step) {} (h.runs target step)
      ((List.range (stepCount target.base target.endAddress step)).countP (h.refused target step)) := by
  rw [take_of_valid hstep, List.range_eq_range']
  exact yields_steps h target step hstep {} 0 0 _ (Nat.zero_add _) (Nat.le_refl 0)

theorem value_take :
    ((take target step).run h).value =
      h.extend target step {} (h.runs target step)
        ((List.range (stepCount target.base target.endAddress step)).countP (h.refused target step)) :=
  (yields_take h target step hstep).value_eq

theorem regions_take :
    ((take target step).run h).value.captured.regions =
      (h.runs target step).filterMap (h.region? target step) := by
  rw [value_take h target step hstep]
  exact Captured.regions_insertAll {} _ (h.pairwise_regions target step (pos_of_validStep hstep))

theorem asked_take :
    (take target step).asked h =
      (List.range (stepCount target.base target.endAddress step)).map (stepAddress target step) := by
  rw [take_of_valid hstep, asked_steps, List.range_eq_range']

theorem pairwise_asked_take : ((take target step).asked h).Pairwise (· < ·) := by
  have hpos := pos_of_validStep hstep
  rw [asked_take h target step hstep, List.pairwise_map]
  refine List.pairwise_lt_range.imp_of_mem ?_
  intro k k' hk hk' hlt
  rw [List.mem_range, ← isStep_iff target step hpos] at hk hk'
  rw [UInt64.lt_iff_toNat_lt, stepAddress_lt target step hpos k k' hk hk']
  exact hlt

theorem mem_asked_take (a : Address) :
    a ∈ (take target step).asked h ↔
      ∃ k, a.toNat = target.base.toNat + k * step.toNat ∧ a < target.endAddress := by
  simp only [asked_take h target step hstep, List.mem_map, List.mem_range,
    ← isStep_iff target step (pos_of_validStep hstep), UInt64.lt_iff_toNat_lt]
  constructor
  · rintro ⟨k, hk, rfl⟩
    have ha := toNat_stepAddress target step k hk
    refine ⟨k, ha, ?_⟩
    rw [ha]
    exact hk
  · rintro ⟨k, ha, hlt⟩
    have hk : IsStep target step k := by
      rw [IsStep, ← ha]
      exact hlt
    refine ⟨k, hk, UInt64.toNat_inj.mp ?_⟩
    rw [toNat_stepAddress target step k hk, ha]

end

end Survey

end FlowGuard
