import FlowGuard.Plugin.Command
import FlowGuard.Proofs.Marker

/-!
When the command fails. It does so for its arguments, for the lack of a module, for what the headers and the
guard table say, and for nothing else; whatever the reason, the host is as it was before.
-/

namespace FlowGuard

namespace Marker

theorem runModule_fails_iff (k : Marker) (h : Host) (target : LoadedModule) (config : Config) :
    (∃ e, (k.runModule h target config).value.1 = .error e) ↔
      (∃ e, Header.find h.memory target.base k.width = .error e) ∨
        ∃ b, Header.find h.memory target.base k.width = .ok b ∧
          ∃ e, Table.entries h.memory target.base b = .error e := by
  cases hb : Header.find h.memory target.base k.width with
  | error e =>
    obtain ⟨hv, -⟩ := runModule_of_header_error k h target config e hb
    simp [hv]
  | ok b =>
    cases he : Table.entries h.memory target.base b with
    | error e =>
      obtain ⟨hv, -⟩ := runModule_of_table_error k h target config b e hb he
      simp [hv, he]
    | ok es =>
      obtain ⟨hv, -⟩ := runModule_of_entries k h target config b es hb he
      simp [hv, he]

/-- A run that fails has not changed the host. -/
theorem runModule_error_host (k : Marker) (h : Host) (target : LoadedModule) (config : Config)
    (e : RunError) (he : (k.runModule h target config).value.1 = .error e) :
    (k.runModule h target config).value.2 = h := by
  cases hb : Header.find h.memory target.base k.width with
  | error e' =>
    obtain ⟨hv, -⟩ := runModule_of_header_error k h target config e' hb
    rw [hv]
  | ok b =>
    cases ht : Table.entries h.memory target.base b with
    | error e' =>
      obtain ⟨hv, -⟩ := runModule_of_table_error k h target config b e' hb ht
      rw [hv]
    | ok es =>
      obtain ⟨hv, -⟩ := runModule_of_entries k h target config b es hb ht
      rw [hv] at he
      cases he

end Marker

theorem selectedModule?_eq_none_iff (h : Host) :
    h.selectedModule? = none ↔
      ∀ a, h.selection = some a → ∀ target ∈ h.modules, target.contains a = false := by
  unfold Host.selectedModule? Host.moduleAt?
  cases h.selection with
  | none => simp
  | some a => simp [List.find?_eq_none]

namespace Plugin

theorem command_value (k : Marker) (h : Host) (config : Config) (args : List String) :
    (command k h config args).value =
      if args = [] then (k.run h config).value else (.error (.arguments args.length), h) := by
  have hlogged : ∀ outcome, (logged outcome).value = outcome := by
    rintro ⟨(e | r), h⟩ <;> rfl
  unfold command
  split
  · rw [Traced.value_bind, hlogged]
  · exact hlogged _

/-- The command fails exactly when it has arguments, when no module holds the selection, when the header walk
fails, when the guard flags say that there are no hashes or no metadata, or when the address or the flag byte of
some table slot cannot be read. Refused marks and trouble with the captured code do not matter, and a failure
leaves the host as it was. -/
theorem command_fails_iff (k : Marker) (h : Host) (config : Config) (args : List String) :
    ((∃ e, (command k h config args).value.1 = .error e) ↔
      args ≠ [] ∨
        (∀ a, h.selection = some a → ∀ target ∈ h.modules, target.contains a = false) ∨
        ∃ target, h.selectedModule? = some target ∧
          ((∃ e, (Header.locate h.memory target.base k.width).run.value = .error e) ∨
            ∃ b, (Header.locate h.memory target.base k.width).run.value = .ok b ∧
              (b.isEnabled = false ∨ b.metadataSize = 0 ∨
                ∃ i, i < b.count.toNat ∧
                  ((∃ e, h.memory.readUInt32 (Table.slotAddress b i) = .error e) ∨
                    ∃ e, h.memory.readUInt8 (Table.slotAddress b i + 4) = .error e)))) ∧
      ∀ e, (command k h config args).value.1 = .error e → (command k h config args).value.2 = h := by
  rw [command_value]
  by_cases ha : args = []
  · simp only [ha, if_true, ne_eq, not_true, false_or, Header.locate_value]
    rw [← selectedModule?_eq_none_iff]
    cases hm : h.selectedModule? with
    | none => simp [Marker.run, hm]
    | some target =>
      simp only [Marker.run, hm, reduceCtorEq, false_or, Option.some.injEq, exists_eq_left']
      refine ⟨?_, k.runModule_error_host h target config⟩
      rw [Marker.runModule_fails_iff]
      simp only [Table.entries_fails_iff]
  · simp [ha]

end Plugin

end FlowGuard
