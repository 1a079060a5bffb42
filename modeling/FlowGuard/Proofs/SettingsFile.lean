import FlowGuard.Proofs.Json.RoundTrip
import FlowGuard.Settings.File

/-!
Settings on disk against settings in memory. Settings that are written are read back as they were, whatever the names
of sections and keys are. A write replaces all that stands at the path, or is refused and leaves it alone.
-/

namespace FlowGuard

open Std (ExtTreeMap)

namespace Settings

/-- A number that is set is found, and all others are found as before. -/
theorem get?_set (s : Settings) (name key : String) (value : UInt64) (name' key' : String) :
    (s.set name key value).get? name' key' =
      if name' = name ∧ key' = key then some value else s.get? name' key' := by
  unfold get? set
  by_cases hname : name' = name
  · subst hname
    by_cases hkey : key' = key
    · subst hkey
      simp
    · have hne : key ≠ key' := fun h => hkey h.symm
      cases hs : s.sections[name']? with
      | none => simp [hkey, hs, hne, ExtTreeMap.getD_eq_getD_getElem?]
      | some entries => simp [hkey, hs, ExtTreeMap.getElem?_insert, hne, ExtTreeMap.getD_eq_getD_getElem?]
  · have hne : name ≠ name' := fun h => hname h.symm
    simp [hname, ExtTreeMap.getElem?_insert, hne]

/-- An object of entries is read back when its values are. -/
theorem entries?_record {α : Type} (read? : Json → Option α) (write : α → Json)
    (hread : ∀ a, read? (write a) = some a) (m : ExtTreeMap String α) :
    entries? read? (Json.record (m.toList.map fun entry => (entry.1, write entry.2))) = some m := by
  have hnames := Json.texts?_fields (m.toList.map fun entry => (entry.1, write entry.2))
  have hvalues := Json.mapM_map_of_reads (fun entry : String × Json => do return (entry.1, ← read? entry.2))
    (fun entry => (entry.1, write entry.2)) (by simp [hread]) m.toList
  simp only [Option.bind_eq_bind] at hvalues
  simp only [entries?, Json.record, Option.bind_eq_bind]
  rw [hnames, Option.bind_some, hvalues, Option.bind_some, Option.pure_def, Json.ofList_toList]

theorem number?_ofNat (n : UInt64) : number? (Json.ofNat n.toNat) = some n := by
  rw [number?, Json.naturalBelow?_ofNat n.toNat_lt_size, Option.map_some, UInt64.ofNat_toNat]

theorem ofJson?_toJson (s : Settings) : ofJson? s.toJson = some s := by
  have hsection (entries : SettingsSection) : entries? number? (sectionJson entries) = some entries :=
    entries?_record number? (fun n => Json.ofNat n.toNat) number?_ofNat entries
  have hall := entries?_record (entries? number?) sectionJson hsection s.sections
  simp only [ofJson?, toJson]
  rw [hall]
  rfl

theorem canonical_toJson (s : Settings) : s.toJson.Canonical := by
  apply Json.canonical_record
  intro field hfield
  obtain ⟨entry, -, rfl⟩ := List.mem_map.mp hfield
  apply Json.canonical_record
  intro field hfield
  obtain ⟨number, -, rfl⟩ := List.mem_map.mp hfield
  exact .ofNat _

/-- The contents of a settings file stand for the settings they were made from. -/
theorem parse?_render (s : Settings) : parse? s.render = some s := by
  rw [parse?, render, Json.parse?_pretty s.canonical_toJson]
  exact s.ofJson?_toJson

end Settings

namespace SettingsFile

def refusal? (path : String) : StoredText → Option SettingsError
  | .directory => some (.isDirectory path)
  | .missing .throughFile => some (.unreachable path .throughFile)
  | .missing .nameTooLong => some (.unreachable path .nameTooLong)
  | .missing .absent | .notText | .text _ => none

/-- A change reaches memory in any case, and the path unless writing is refused. -/
theorem replace_eq (f : SettingsFile) (stored : StoredText) (values : Settings) :
    f.replace stored values =
      { file := { f with values }
        stored := if (refusal? f.path stored).isNone then .text values.render else stored
        outcome := match refusal? f.path stored with | some e => .error e | none => .ok () } := by
  cases stored with
  | missing fault => cases fault <;> rfl
  | directory => rfl
  | notText => rfl
  | text s => rfl

/-- What is written is opened again. -/
theorem load_render (path : String) (values : Settings) :
    (load path (.text values.render)).value = .ok { path, values } := by
  rw [load, Settings.parse?_render]
  rfl

theorem path_of_load (path : String) (stored : StoredText) (f : SettingsFile)
    (h : (load path stored).value = .ok f) : f.path = path := by
  cases stored with
  | missing fault =>
    cases fault <;> cases h
    rfl
  | directory => cases h
  | notText => cases h
  | text s =>
    simp only [load] at h
    split at h <;> cases h
    rfl

end SettingsFile

end FlowGuard
