import FlowGuard.Header.GuardBlock
import FlowGuard.Proofs.Requests

/-!
The header walk without its notes: what it finds is decided by four steps, each of which can fail, and it asks
nothing of the host.
-/

namespace FlowGuard.Header

def find (m : Memory) (base : Address) (w : Width) : Except HeaderError GuardBlock := do
  let nt ← ofMemory (ntHeaders m base)
  let (rva, _) ← loadConfigDirectory m nt w
  let loadConfig ← fieldAt base rva.toNat
  guardBlockOf m w loadConfig

@[simp] theorem ofMemory_ok {α : Type} (x : α) : ofMemory (.ok x) = .ok x :=
  rfl

theorem locate_value (m : Memory) (base : Address) (w : Width) :
    (locate m base w).run.value = find m base w := by
  have hlift : ∀ {α : Type} (x : Except HeaderError α), (locate.liftExcept x).run.value = x :=
    fun _ => rfl
  have hnote : ∀ n : Note, (locate.note n).run.value = pure () := fun _ => rfl
  have hpure : ∀ b : GuardBlock, (pure b : ExceptT HeaderError Traced GuardBlock).run.value = pure b :=
    fun _ => rfl
  simp only [locate, Traced.value_run_bind, hlift, hnote, hpure, pure_bind, bind_pure]
  rfl

/-- A part of the walk that leaves nothing but details for debugging behind. -/
def Detailed {α : Type} (x : ExceptT HeaderError Traced α) : Prop :=
  ∀ e ∈ x.run.trail, ∃ n : Note, e = .note n ∧ n.level = .debug

namespace Detailed

variable {α β : Type}

theorem finished (a : α) : Detailed (pure a : ExceptT HeaderError Traced α) := by
  intro e he
  cases he

/-- What can fail leaves nothing behind, and nothing follows it if it does. -/
theorem lifted (x : Except HeaderError α) {f : α → ExceptT HeaderError Traced β} (hf : ∀ a, Detailed (f a)) :
    Detailed (locate.liftExcept x >>= f) := by
  cases x with
  | error failure =>
    intro e he
    cases he
  | ok a => exact hf a

theorem noted {n : Note} (hn : n.level = .debug) {f : Unit → ExceptT HeaderError Traced β} (hf : Detailed (f ())) :
    Detailed (locate.note n >>= f) := by
  intro e he
  rcases List.mem_cons.mp (show e ∈ .note n :: (f ()).run.trail from he) with rfl | he
  · exact ⟨n, rfl, hn⟩
  · exact hf e he

theorem requests {x : ExceptT HeaderError Traced α} (hx : Detailed x) : x.run.requests = [] := by
  refine List.filterMap_eq_nil_iff.mpr fun e he => ?_
  obtain ⟨n, rfl, -⟩ := hx e he
  rfl

theorem level {x : ExceptT HeaderError Traced α} (hx : Detailed x) {n : Note} (hn : n ∈ x.run.notes) :
    n.level = .debug := by
  obtain ⟨e, he, hen⟩ := List.mem_filterMap.mp hn
  obtain ⟨n', rfl, hn'⟩ := hx e he
  obtain rfl : n' = n := Option.some.inj hen
  exact hn'

end Detailed

theorem detailed_locate (m : Memory) (base : Address) (w : Width) : Detailed (locate m base w) :=
  .lifted _ fun _ => .noted rfl <| .lifted _ fun _ => .lifted _ fun _ => .noted rfl <|
    .lifted _ fun block => .noted rfl (.finished block)

theorem requests_locate (m : Memory) (base : Address) (w : Width) : (locate m base w).run.requests = [] :=
  (detailed_locate m base w).requests

end FlowGuard.Header
