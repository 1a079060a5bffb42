import FlowGuard.Plugin.Menu
import FlowGuard.Proofs.Failure
import FlowGuard.Proofs.SettingsHistory
import Mathlib.Logic.Function.Iterate

/-!
Sessions with the menu. The switches stand twice, in the configuration at hand and in the settings; a click on a switch
changes both, and marking, which works on the same host, changes neither. So the two agree after any number of clicks,
whether or not a target is attached and whatever becomes of the marks. For settings in a file the agreement is with the
program's copy of them, and does not depend on what can be written.
-/

namespace FlowGuard

namespace Config

theorem flag_set_same (s : Settings) (key : String) (on : Bool) :
    flag (s.set sectionName key (flagValue on)) key = on := by
  rw [flag, Settings.get?_set, if_pos ⟨rfl, rfl⟩]
  cases on <;> rfl

theorem flag_set_other (s : Settings) (key key' : String) (value : UInt64) (hne : key' ≠ key) :
    flag (s.set sectionName key value) key' = flag s key' := by
  rw [flag, Settings.get?_set, if_neg (fun h => hne h.2), flag]

/-- The reference switch that is kept is loaded again, and the other one is loaded as before. -/
theorem load_saveXrefs (c : Config) (s : Settings) : load (c.saveXrefs s) = { load s with xrefs := c.xrefs } := by
  rw [load, saveXrefs, flag_set_same, flag_set_other s _ _ _ (by decide)]
  rfl

theorem load_saveComments (c : Config) (s : Settings) :
    load (c.saveComments s) = { load s with comments := c.comments } := by
  rw [load, saveComments, flag_set_same, flag_set_other s _ _ _ (by decide)]
  rfl

/-- Switches that agree with the settings still do when one of them is flipped and kept. -/
theorem load_flipXrefs {c : Config} {s : Settings} (h : c = load s) :
    c.flipXrefs = load (c.flipXrefs.saveXrefs s) := by
  rw [load_saveXrefs, ← h]
  rfl

theorem load_flipComments {c : Config} {s : Settings} (h : c = load s) :
    c.flipComments = load (c.flipComments.saveComments s) := by
  rw [load_saveComments, ← h]
  rfl

end Config

namespace SettingsFile

/-- The settings are left to the switches: one of them is flipped, or others do something at the path. -/
def Step.flips : Step → Bool
  | .toggleXrefs | .toggleComments | .outside _ => true
  | .set .. | .reopen => false

/-- Switches that agree with the settings of a file still do after they are flipped, written or not. -/
theorem Session.agrees_run (s : Session) (steps : List Step) (hsteps : ∀ st ∈ steps, st.flips = true)
    (ha : s.config = Config.load s.file.values) : (s.run steps).config = Config.load (s.run steps).file.values := by
  induction steps generalizing s with
  | nil => exact ha
  | cons st steps ih =>
    apply ih (s.step st) (fun st hst => hsteps st (by simp [hst]))
    cases st with
    | toggleXrefs =>
      simp only [step, toggleXrefs, replace_eq, after]
      exact Config.load_flipXrefs ha
    | toggleComments =>
      simp only [step, toggleComments, replace_eq, after]
      exact Config.load_flipComments ha
    | outside stored => exact ha
    | set name key value => cases hsteps _ List.mem_cons_self
    | reopen => cases hsteps _ List.mem_cons_self

end SettingsFile

/-- A run reaches nothing of the host but the annotations and the number of redraws. -/
theorem Marker.bare_run (k : Marker) (h : Host) (config : Config) : (k.run h config).value.2.bare = h.bare := by
  unfold Marker.run
  cases h.selectedModule? with
  | none => rfl
  | some target =>
    cases hb : Header.find h.memory target.base k.width with
    | error e => rw [(k.runModule_of_header_error h target config e hb).1]
    | ok b =>
      cases ht : Table.entries h.memory target.base b with
      | error e => rw [(k.runModule_of_table_error h target config b e hb ht).1]
      | ok es =>
        rw [(k.runModule_of_entries h target config b es hb ht).1]
        exact h.bare_performAll _

namespace Plugin

/-- What can happen between two looks at the menu. -/
inductive Action where
  | click (entry : MenuEntry)
  /-- A target is attached or lost. -/
  | debugging (on : Bool)
  deriving DecidableEq, Repr

structure Session where
  host : Host
  config : Config

namespace Session

def start (h : Host) : Session :=
  { host := h, config := Config.load h.settings }

def act (k : Marker) (s : Session) : Action → Session
  | .click entry =>
    let clicked := (click k s.host s.config entry).value
    { host := clicked.host, config := clicked.config }
  | .debugging on => { s with host := s.host.setDebugging on }

def run (k : Marker) (s : Session) (actions : List Action) : Session :=
  actions.foldl (act k) s

end Session

/-- Marking leaves all but annotations and redraws alone, and leaves everything alone without a target. -/
theorem click_mark (k : Marker) (h : Host) (config : Config) :
    let clicked := (click k h config .mark).value
    clicked.config = config ∧ clicked.host.bare = h.bare ∧ (h.isDebugging = false → clicked.host = h) ∧
      ∀ entry on, clicked.outcome ≠ .ok (.toggled entry on) := by
  by_cases hd : h.isDebugging = true
  · have hvalue := command_value k h config []
    rw [if_pos rfl] at hvalue
    simp only [click, hd, if_true, Traced.value_bind, Traced.value_pure, hvalue]
    refine ⟨trivial, k.bare_run h config, by simp, ?_⟩
    intro entry on
    cases (k.run h config).value.1 <;> simp [Except.map]
  · simp [click, hd]

/-- No other entry changes more of the host than its settings. -/
theorem host_click_of_ne_mark (k : Marker) (h : Host) (config : Config) (entry : MenuEntry) (hne : entry ≠ .mark) :
    (click k h config entry).value.host = { h with settings := (click k h config entry).value.host.settings } := by
  cases entry with
  | mark => exact absurd rfl hne
  | toggleXrefs => rfl
  | toggleComments => rfl
  | about => rfl

/-- A click flips the switch it is made on, and no other. -/
theorem config_click (k : Marker) (h : Host) (config : Config) (entry : MenuEntry) :
    (click k h config entry).value.config =
      { xrefs := if entry = .toggleXrefs then !config.xrefs else config.xrefs
        comments := if entry = .toggleComments then !config.comments else config.comments } := by
  cases entry with
  | mark => exact (click_mark k h config).1
  | toggleXrefs => rfl
  | toggleComments => rfl
  | about => rfl

/-- A click that flips a switch reports the new state, and no other click reports one. -/
theorem outcome_click (k : Marker) (h : Host) (config : Config) (entry entry' : MenuEntry) (on : Bool) :
    (click k h config entry).value.outcome = .ok (.toggled entry' on) ↔
      entry' = entry ∧ entry.checked? (click k h config entry).value.config = some on := by
  cases entry with
  | mark => simp [(click_mark k h config).2.2.2, MenuEntry.checked?]
  | toggleXrefs => simp [click, MenuEntry.checked?, eq_comm]
  | toggleComments => simp [click, MenuEntry.checked?, eq_comm]
  | about => simp [click, MenuEntry.checked?]

/-- A click keeps the switches in agreement with the settings. -/
theorem agrees_click (k : Marker) (h : Host) (config : Config) (entry : MenuEntry)
    (ha : config = Config.load h.settings) :
    (click k h config entry).value.config = Config.load (click k h config entry).value.host.settings := by
  cases entry with
  | mark =>
    obtain ⟨hc, hbare, -⟩ := click_mark k h config
    have hsettings := congrArg Host.settings hbare
    rw [hc]
    exact ha.trans (congrArg Config.load hsettings.symm)
  | toggleXrefs => exact Config.load_flipXrefs ha
  | toggleComments => exact Config.load_flipComments ha
  | about => exact ha

namespace Session

theorem agrees_run (k : Marker) (s : Session) (actions : List Action) (ha : s.config = Config.load s.host.settings) :
    (s.run k actions).config = Config.load (s.run k actions).host.settings := by
  induction actions generalizing s with
  | nil => exact ha
  | cons action actions ih =>
    apply ih
    cases action with
    | click entry => exact agrees_click k s.host s.config entry ha
    | debugging on => exact ha

/-- After a session a switch has been flipped once for each click on it. -/
theorem config_run (k : Marker) (s : Session) (actions : List Action) :
    (s.run k actions).config.xrefs = not^[actions.count (.click .toggleXrefs)] s.config.xrefs ∧
      (s.run k actions).config.comments = not^[actions.count (.click .toggleComments)] s.config.comments := by
  induction actions generalizing s with
  | nil => exact ⟨rfl, rfl⟩
  | cons action actions ih =>
    obtain ⟨hx, hc⟩ := ih (s.act k action)
    rw [run, List.foldl_cons, ← run, hx, hc]
    cases action with
    | debugging on => simp [act]
    | click entry =>
      rw [act, config_click]
      cases entry <;> simp

end Session

/-- Whatever was clicked, and whether or not a target was attached or marks were refused: the switches at hand are
those of the settings, each flipped once for every click on it. The next click changes nothing but settings unless
it marks; if it marks it changes neither settings nor switches, and nothing at all without a target; and a flipped
switch is reported as it then stands. Switches that are kept in a file agree with it in the same way, even if it
cannot be written. -/
theorem menu_session_agrees (k : Marker) (h : Host) (actions : List Action) (entry : MenuEntry) :
    let s := (Session.start h).run k actions
    let clicked := (click k s.host s.config entry).value
    s.config = Config.load s.host.settings ∧
      s.config.xrefs = not^[actions.count (.click .toggleXrefs)] (Config.load h.settings).xrefs ∧
      s.config.comments = not^[actions.count (.click .toggleComments)] (Config.load h.settings).comments ∧
      (entry ≠ .mark → clicked.host = { s.host with settings := clicked.host.settings }) ∧
      (entry = .mark → clicked.host.settings = s.host.settings ∧ clicked.config = s.config ∧
        (s.host.isDebugging = false → clicked.host = s.host)) ∧
      (∀ entry' on, clicked.outcome = .ok (.toggled entry' on) ↔
        entry' = entry ∧ entry.checked? clicked.config = some on) ∧
      ∀ (file : SettingsFile) (stored : StoredText) (steps : List SettingsFile.Step),
        (∀ st ∈ steps, st.flips = true) →
          let kept := SettingsFile.Session.run { file, stored, config := Config.load file.values } steps
          kept.config = Config.load kept.file.values := by
  intro s clicked
  obtain ⟨hxrefs, hcomments⟩ := (Session.start h).config_run k actions
  refine ⟨(Session.start h).agrees_run k actions rfl, hxrefs, hcomments,
    host_click_of_ne_mark k s.host s.config entry, ?_, outcome_click k s.host s.config entry, ?_⟩
  · rintro rfl
    obtain ⟨hconfig, hbare, hidle, -⟩ := click_mark k s.host s.config
    have hsettings := congrArg Host.settings hbare
    exact ⟨hsettings, hconfig, hidle⟩
  · intro file stored steps hsteps
    exact SettingsFile.Session.agrees_run _ steps hsteps rfl

end Plugin

end FlowGuard
