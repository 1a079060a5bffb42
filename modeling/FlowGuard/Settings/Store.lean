import Std.Data.ExtTreeMap

/-!
Named unsigned numbers, grouped in sections.
-/

namespace FlowGuard

open Std (ExtTreeMap)

abbrev SettingsSection := ExtTreeMap String UInt64

structure Settings where
  sections : ExtTreeMap String SettingsSection := ∅

namespace Settings

def get? (s : Settings) (name key : String) : Option UInt64 :=
  s.sections[name]? >>= fun entries => entries[key]?

def set (s : Settings) (name key : String) (value : UInt64) : Settings :=
  let entries := s.sections.getD name ∅
  { sections := s.sections.insert name (entries.insert key value) }

end Settings

end FlowGuard
