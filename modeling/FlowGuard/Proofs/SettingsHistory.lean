import FlowGuard.Proofs.SettingsFile

/-!
Histories of a settings file. Between the program's own operations others may remove the file, put a directory in its
place or write to it. A history is compared with a plain account of two copies: what the program finds under each name
and key, and what opening the path would give. A change always reaches the first copy; it reaches the second, together
with all that is missing there, exactly if the path can be written.
-/

namespace FlowGuard.SettingsFile

inductive Step where
  | set (name key : String) (value : UInt64)
  | toggleXrefs
  | toggleComments
  | reopen
  /-- Others remove what stands at the path or replace it, by a directory or by anything else. -/
  | outside (stored : StoredText)

/-- A settings file in use, what stands at its path, and the switches that were taken from it. -/
structure Session where
  file : SettingsFile
  stored : StoredText
  config : Config

namespace Session

def after (config : Config) (c : Changed) : Session :=
  { file := c.file, stored := c.stored, config }

def step (s : Session) : Step → Session
  | .set name key value => after s.config (s.file.set s.stored name key value)
  | .toggleXrefs =>
    let toggled := s.file.toggleXrefs s.stored s.config
    after toggled.1 toggled.2
  | .toggleComments =>
    let toggled := s.file.toggleComments s.stored s.config
    after toggled.1 toggled.2
  | .reopen =>
    match (load s.file.path s.stored).value with
    | .ok file => { s with file }
    | .error _ => s
  | .outside stored => { s with stored }

def run (s : Session) (steps : List Step) : Session :=
  steps.foldl step s

end Session

abbrev Kept := String → String → Option UInt64

/-- The program's copy of the settings and the one that opening the path would give. -/
structure Copies where
  path : String
  memory : Kept
  disk : Except SettingsError Kept
  config : Config

def opened (path : String) (stored : StoredText) : Except SettingsError Kept :=
  match (load path stored).value with
  | .ok f => .ok f.values.get?
  | .error e => .error e

namespace Copies

/-- Why nothing can be written: a file that cannot be read can still be replaced, anything else stands in the way. -/
def refusal? (c : Copies) : Option SettingsError :=
  match c.disk with
  | .error (.isDirectory path) => some (.isDirectory path)
  | .error (.unreachable path fault) => some (.unreachable path fault)
  | .error (.notText _) | .error (.malformed _) | .ok _ => none

def put (c : Copies) (name key : String) (value : UInt64) : Copies :=
  let memory : Kept := fun name' key' => if name' = name ∧ key' = key then some value else c.memory name' key'
  { c with
    memory
    disk := if c.refusal?.isNone then .ok memory else c.disk }

def step (c : Copies) : Step → Copies
  | .set name key value => c.put name key value
  | .toggleXrefs =>
    { c with config := c.config.flipXrefs }.put Config.sectionName Config.xrefsKey
      (Config.flagValue !c.config.xrefs)
  | .toggleComments =>
    { c with config := c.config.flipComments }.put Config.sectionName Config.commentsKey
      (Config.flagValue !c.config.comments)
  | .reopen =>
    match c.disk with
    | .ok kept => { c with memory := kept }
    | .error _ => c
  | .outside stored => { c with disk := opened c.path stored }

def run (c : Copies) (steps : List Step) : Copies :=
  steps.foldl step c

end Copies

def Session.copies (s : Session) : Copies where
  path := s.file.path
  memory := s.file.values.get?
  disk := opened s.file.path s.stored
  config := s.config

theorem opened_render (path : String) (values : Settings) : opened path (.text values.render) = .ok values.get? := by
  rw [opened, load_render]

/-- Whether a path can be written shows when it is opened. -/
theorem refusal?_copies (s : Session) : s.copies.refusal? = refusal? s.file.path s.stored := by
  simp only [Copies.refusal?, Session.copies, opened]
  cases s.stored with
  | missing fault => cases fault <;> rfl
  | directory => rfl
  | notText => rfl
  | text t =>
    simp only [load]
    cases Settings.parse? t <;> rfl

/-- Setting a number changes the two copies as the account says. -/
theorem copies_replace (s : Session) (config : Config) (name key : String) (value : UInt64) :
    (Session.after config (s.file.replace s.stored (s.file.values.set name key value))).copies =
      { s.copies with config }.put name key value := by
  have hmemory : (s.file.values.set name key value).get? =
      fun name' key' => if name' = name ∧ key' = key then some value else s.file.values.get? name' key' := by
    funext name' key'
    exact s.file.values.get?_set name key value name' key'
  have hrefusal : ({ s.copies with config }).refusal? = refusal? s.file.path s.stored := refusal?_copies s
  rw [replace_eq, Copies.put, hrefusal]
  cases hr : refusal? s.file.path s.stored with
  | none => simp [Session.copies, Session.after, opened_render, hmemory]
  | some e => simp [Session.copies, Session.after, hmemory]

/-- One step changes the two copies as the account says. -/
theorem copies_step (s : Session) (st : Step) : (s.step st).copies = s.copies.step st := by
  cases st with
  | set name key value => exact copies_replace s s.config name key value
  | toggleXrefs => exact copies_replace s s.config.flipXrefs _ _ _
  | toggleComments => exact copies_replace s s.config.flipComments _ _ _
  | reopen =>
    simp only [Session.step, Copies.step, Session.copies, opened]
    cases hload : (load s.file.path s.stored).value with
    | error e => simp [hload]
    | ok f => simp [path_of_load s.file.path s.stored f hload, hload]
  | outside stored => rfl

/-- A whole history changes them as the account says. -/
theorem copies_run (s : Session) (steps : List Step) : (s.run steps).copies = s.copies.run steps := by
  induction steps generalizing s with
  | nil => rfl
  | cons st steps ih =>
    rw [Session.run, List.foldl_cons, ← Session.run, ih, copies_step]
    rfl

/-- Setting a number either writes all settings, or is refused and leaves the path alone. -/
theorem set_cases (f : SettingsFile) (stored : StoredText) (name key : String) (value : UInt64) :
    (refusal? f.path stored = none ∧ (f.set stored name key value).outcome = .ok () ∧
        (f.set stored name key value).stored = .text (f.values.set name key value).render) ∨
      ∃ e, refusal? f.path stored = some e ∧ (f.set stored name key value).outcome = .error e ∧
        (f.set stored name key value).stored = stored := by
  rw [set, replace_eq]
  cases refusal? f.path stored with
  | none => exact .inl ⟨rfl, rfl, rfl⟩
  | some e => exact .inr ⟨e, rfl, rfl, rfl⟩

theorem file_set (f : SettingsFile) (stored : StoredText) (name key : String) (value : UInt64) :
    (f.set stored name key value).file = { f with values := f.values.set name key value } := by
  rw [set, replace_eq]

/-- After any history the two copies are those of the account, and a number that is set then is found in memory while
all others are found as before. If setting succeeds, opening the path gives the settings in memory, with all that could
not be written before; it fails exactly where nothing can be written, and then leaves the path as it was. -/
theorem history_persists (start : Session) (steps : List Step) (name key : String) (value : UInt64) :
    let s := start.run steps
    let done := s.file.set s.stored name key value
    s.copies = start.copies.run steps ∧
      (∀ name' key', done.file.values.get? name' key' =
        if name' = name ∧ key' = key then some value else s.file.values.get? name' key') ∧
      (done.outcome = .ok () → ∃ f, (load done.file.path done.stored).value = .ok f ∧
        ∀ name' key', f.values.get? name' key' = done.file.values.get? name' key') ∧
      (∀ e, done.outcome = .error e → done.stored = s.stored) ∧
      (∀ e, done.outcome = .error e ↔ s.copies.refusal? = some e) := by
  intro s done
  have hfile : done.file = { s.file with values := s.file.values.set name key value } := file_set ..
  refine ⟨copies_run start steps, ?_, ?_⟩
  · rw [hfile]
    exact s.file.values.get?_set name key value
  · rw [refusal?_copies, hfile]
    rcases set_cases s.file s.stored name key value with ⟨hnone, hok, hstored⟩ | ⟨e, hsome, herror, hstored⟩
    · have hopen := load_render s.file.path (s.file.values.set name key value)
      refine ⟨fun _ => ⟨_, by rw [hstored]; exact hopen, fun _ _ => rfl⟩, ?_, ?_⟩
      · intro e he
        rw [hok] at he
        cases he
      · intro e
        rw [hok, hnone]
        simp
    · refine ⟨?_, fun _ _ => hstored, ?_⟩
      · intro hok
        rw [herror] at hok
        cases hok
      · intro e'
        rw [herror, hsome]
        simp

/-- A number that could not be written while a directory stood at the path is there after the next write. -/
theorem history_persists_unblocked :
    let start : Session := { file := { path := "settings.json" }, stored := .directory, config := {} }
    let first := start.file.set start.stored "a\"\\\n" "\u00e9" 7
    let s := start.run [.set "a\"\\\n" "\u00e9" 7, .outside (.missing .absent)]
    let done := s.file.set s.stored "XFG Marker" "AddXrefs" 0
    first.outcome = .error (.isDirectory "settings.json") ∧ done.outcome = .ok () ∧
      ∃ f, (load done.file.path done.stored).value = .ok f ∧
        f.values.get? "a\"\\\n" "\u00e9" = some 7 ∧ f.values.get? "XFG Marker" "AddXrefs" = some 0 := by
  intro start first s done
  obtain ⟨hcopies, hget, hopen, -⟩ := history_persists start
    [.set "a\"\\\n" "\u00e9" 7, .outside (.missing .absent)] "XFG Marker" "AddXrefs" 0
  obtain ⟨f, hf, hagree⟩ := hopen rfl
  have hkept : s.file.values.get? "a\"\\\n" "\u00e9" = some 7 :=
    congrArg (fun c => c.memory "a\"\\\n" "\u00e9") hcopies
  refine ⟨rfl, rfl, f, hf, ?_, ?_⟩
  · rw [hagree, hget, if_neg (by decide)]
    exact hkept
  · rw [hagree, hget, if_pos ⟨rfl, rfl⟩]

end FlowGuard.SettingsFile
