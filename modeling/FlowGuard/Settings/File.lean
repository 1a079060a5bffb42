import FlowGuard.Folder
import FlowGuard.Json.Codec
import FlowGuard.Run.Event
import FlowGuard.Settings.Config

/-!
Settings kept in a JSON file: an object of sections, each an object of numbers. Every change is written
to the file at once. What a path holds is a value here, so that opening and saving are functions.
-/

namespace FlowGuard

open Std (ExtTreeMap)

inductive StoredText where
  | missing (fault : PathFault)
  | directory
  /-- A file whose bytes are not UTF-8. -/
  | notText
  | text (s : String)
  deriving DecidableEq, Repr

inductive SettingsError where
  | unreachable (path : String) (fault : PathFault)
  | isDirectory (path : String)
  | notText (path : String)
  /-- The file is not an object of sections of numbers. -/
  | malformed (path : String)
  deriving DecidableEq, Repr

def SettingsError.message : SettingsError → String
  | unreachable p e => "Settings error: " ++ p ++ ": " ++ e.message
  | isDirectory p => "Settings error: " ++ p ++ ": Is a directory (os error 21)"
  | notText p => "Settings error: " ++ p ++ ": stream did not contain valid UTF-8"
  | malformed p => "Settings error: " ++ p ++ ": expected an object of sections of numbers"

namespace Settings

/-- The members of an object by the texts of their keys; of equal keys the last one counts. -/
def entries? {α : Type} (read? : Json → Option α) : Json → Option (ExtTreeMap String α)
  | .object members => do
    let members ← Json.texts? members
    let entries ← members.mapM fun (key, v) => do return (key, ← read? v)
    return ExtTreeMap.ofList entries
  | _ => none

def number? (v : Json) : Option UInt64 :=
  (Json.naturalBelow? UInt64.size v).map UInt64.ofNat

def ofJson? (v : Json) : Option Settings := do
  return { sections := ← entries? (entries? number?) v }

def sectionJson (entries : SettingsSection) : Json :=
  Json.record (entries.toList.map fun (key, n) => (key, Json.ofNat n.toNat))

def toJson (s : Settings) : Json :=
  Json.record (s.sections.toList.map fun (name, entries) => (name, sectionJson entries))

def render (s : Settings) : String :=
  s.toJson.pretty

def parse? (text : String) : Option Settings :=
  Json.parse? text >>= ofJson?

end Settings

/-- Settings together with the path they are kept at. -/
structure SettingsFile where
  path : String
  values : Settings := {}

namespace SettingsFile

/-- Opens the settings at a path; an absent file holds none. -/
def load (path : String) (stored : StoredText) : Traced (Except SettingsError SettingsFile) :=
  match stored with
  | .missing .absent => do
    Traced.note (.settingsAbsent path)
    return .ok { path }
  | .missing fault => pure (.error (.unreachable path fault))
  | .directory => pure (.error (.isDirectory path))
  | .notText => pure (.error (.notText path))
  | .text s =>
    match Settings.parse? s with
    | some values => pure (.ok { path, values })
    | none => pure (.error (.malformed path))

def flush (f : SettingsFile) (stored : StoredText) : Except SettingsError StoredText :=
  match stored with
  | .directory => .error (.isDirectory f.path)
  | .missing .throughFile => .error (.unreachable f.path .throughFile)
  | .missing .nameTooLong => .error (.unreachable f.path .nameTooLong)
  | _ => .ok (.text f.values.render)

/-- What a change leaves behind: the settings change even if they cannot be written. -/
structure Changed where
  file : SettingsFile
  stored : StoredText
  outcome : Except SettingsError Unit

def replace (f : SettingsFile) (stored : StoredText) (values : Settings) : Changed :=
  let file := { f with values }
  match file.flush stored with
  | .ok stored => { file, stored, outcome := .ok () }
  | .error e => { file, stored, outcome := .error e }

def set (f : SettingsFile) (stored : StoredText) (name key : String) (value : UInt64) : Changed :=
  f.replace stored (f.values.set name key value)

def toggleXrefs (f : SettingsFile) (stored : StoredText) (c : Config) : Config × Changed :=
  let c := c.flipXrefs
  (c, f.replace stored (c.saveXrefs f.values))

def toggleComments (f : SettingsFile) (stored : StoredText) (c : Config) : Config × Changed :=
  let c := c.flipComments
  (c, f.replace stored (c.saveComments f.values))

end SettingsFile

namespace StoredText

/-- Deletes a file, and tells whether there was one. -/
def remove : StoredText → StoredText × Bool
  | missing fault => (missing fault, false)
  | directory => (directory, false)
  | notText => (missing .absent, true)
  | text _ => (missing .absent, true)

def text? : StoredText → Option String
  | text s => some s
  | _ => none

end StoredText

end FlowGuard
