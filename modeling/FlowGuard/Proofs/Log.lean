import FlowGuard.Plugin.Command
import FlowGuard.Proofs.Header
import FlowGuard.Proofs.Marker

/-!
What the command logs. Every stage of a run counts its trouble and logs it side by side; here the two are held
together, stage by stage, so that the events of a command are as many warnings as its result says and one last line
that reports the result or the failure. Beside these events the log has a line of its own for a run that closes.
-/

namespace FlowGuard

/-- Notes of which `count` are warnings and all others are details for debugging. -/
structure Asides (notes : List Note) (count : Nat) : Prop where
  minor : ∀ n ∈ notes, n.level = .debug ∨ n.level = .warn
  warnings : (notes.countP fun n => n.level = .warn) = count

namespace Asides

theorem nil : Asides [] 0 := ⟨by simp, rfl⟩

theorem debug {n : Note} (h : n.level = .debug) : Asides [n] 0 := ⟨by simp [h], by simp [h]⟩

theorem of_debug {ns : List Note} (h : ∀ n ∈ ns, n.level = .debug) : Asides ns 0 where
  minor n hn := .inl (h n hn)
  warnings := List.countP_eq_zero.mpr fun n hn => by simp [h n hn]

theorem warn {n : Note} (h : n.level = .warn) : Asides [n] 1 := ⟨by simp [h], by simp [h]⟩

theorem append {ns ns' : List Note} {count count' : Nat} (h : Asides ns count) (h' : Asides ns' count') :
    Asides (ns ++ ns') (count + count') where
  minor n hn := (List.mem_append.mp hn).elim (h.minor n) (h'.minor n)
  warnings := by rw [List.countP_append, h.warnings, h'.warnings]

/-- Notes that are no warnings add nothing. -/
theorem append_debug {ns ns' : List Note} {count : Nat} (h : Asides ns count) (h' : Asides ns' 0) :
    Asides (ns ++ ns') count :=
  h.append h'

theorem debug_append {ns ns' : List Note} {count : Nat} (h : Asides ns 0) (h' : Asides ns' count) :
    Asides (ns ++ ns') count := by
  have happend := h.append h'
  rwa [Nat.zero_add] at happend

/-- What is logged when asides are followed by one line of another level. -/
theorem countP_concat {ns : List Note} {count : Nat} (h : Asides ns count) {last : Note} {level l : Level}
    (hlast : last.level = level) (hd : l ≠ .debug) :
    ((ns ++ [last]).countP fun n => n.level = l) =
      (if l = .warn then count else 0) + if level = l then 1 else 0 := by
  have hfront : (ns.countP fun n => n.level = l) = if l = .warn then count else 0 := by
    by_cases hw : l = .warn
    · rw [if_pos hw, hw, h.warnings]
    · rw [if_neg hw, List.countP_eq_zero]
      intro n hn
      rcases h.minor n hn with he | he
      · simpa [he] using hd.symm
      · simpa [he] using Ne.symm hw
  rw [List.countP_append, hfront]
  simp [List.countP_cons, hlast]

/-- Asides are events. -/
theorem filter_isEvent {ns : List Note} {count : Nat} (h : Asides ns count) : ns.filter Note.isEvent = ns := by
  rw [List.filter_eq_self]
  intro n hn
  cases n with
  | runClosed base width => exact absurd (h.minor _ hn) (by simp [Note.level])
  | _ => rfl

end Asides

namespace Debugger

/-- Each refused mark is counted once and logged once. -/
theorem asides_markAll {σ : Type} (t : Debugger σ) (s : σ) (table : DecodedTable) (es : List Entry) :
    ∃ count, Asides (t.markAll s table es).notes count ∧
      (t.markAll s table es).value.2.warnings = table.warnings + count := by
  induction es generalizing s table with
  | nil => exact ⟨0, .nil, rfl⟩
  | cons e es ih =>
    rcases hm : t.mark s e.address hashSize with ⟨answer, s'⟩
    cases answer with
    | ok _ =>
      obtain ⟨count, ha, hv⟩ := ih s' { table with marked := table.marked + 1 }
      exact ⟨count, by simpa [markAll, hm] using ha, by simpa [markAll, hm] using hv⟩
    | error r =>
      obtain ⟨count, ha, hv⟩ := ih s' { table with warnings := table.warnings + 1 }
      have hn : Asides [.markRefused e.address r] 1 := .warn rfl
      refine ⟨1 + count, by simpa [markAll, hm] using hn.append ha, ?_⟩
      simp only [markAll, hm, Traced.value_bind, hv]
      omega

end Debugger

namespace Snapshot

/-- Each failure of the walk is counted once and logged once. -/
theorem asides_take (m : Memory) (target : LoadedModule) (step : UInt64) (hstep : validStep step = true) :
    Asides (take m target step).notes (take m target step).value.warnings := by
  have hyields := Survey.yields_take (.ofMemory m) target step hstep
  refine ⟨hyields.minor, ?_⟩
  rw [take, hyields.warnings_eq, hyields.value_eq, Answers.extend, Nat.zero_add]

end Snapshot

namespace HashIndex

/-- Each entry whose hash was not captured is counted once and logged once. -/
theorem asides_addAll (c : Captured) (x : HashIndex) (missed : Nat) (es : List Entry) :
    ∃ count, Asides (addAll c x missed es).notes count ∧ (addAll c x missed es).value.2 = missed + count := by
  induction es generalizing x missed with
  | nil => exact ⟨0, .nil, rfl⟩
  | cons e es ih =>
    cases he : storedHash? c e with
    | some hash => simpa only [addAll, he] using ih (x.add hash e) missed
    | none =>
      obtain ⟨count, ha, hv⟩ := ih x (missed + 1)
      have hn : Asides [.hashMissed e.address] 1 := .warn rfl
      simp only [addAll, he, Traced.notes_bind, Traced.value_bind, Traced.notes_note]
      exact ⟨1 + count, hn.append ha, by omega⟩

theorem asides_build (c : Captured) (es : List Entry) : Asides (build c es).notes (build c es).value.2 := by
  obtain ⟨count, ha, hv⟩ := asides_addAll c {} 0 es
  have hn : Asides [.indexBuilt (addAll c {} 0 es).value.1.size] 0 := .debug rfl
  have hcount : (addAll c {} 0 es).value.2 = count := by rw [hv, Nat.zero_add]
  simpa [build, hcount] using ha.append_debug hn

end HashIndex

namespace Correlation

theorem notes_linkAll (h : Host) (site : Address) (es : List Entry) : (linkAll h site es).notes = [] := by
  induction es generalizing h with
  | nil => rfl
  | cons e es ih => simp [linkAll, ih]

theorem notes_annotate (config : Config) (w : Width) (s : State) (site : Site) (group : HashGroup) :
    (annotate config w s site group).notes = [] := by
  cases hx : config.xrefs <;> cases hc : config.comments <;> simp [annotate, link, comment, hx, hc, notes_linkAll]

theorem notes_scanCode (signature : List UInt8) (config : Config) (w : Width) (start : Address) (code : List UInt8)
    (scan : HashLoad.Scan) (s : State) : (scanCode signature config w start code scan s).notes = [] := by
  fun_induction scanCode signature config w start code scan s with
  | case1 => rfl
  | case2 scan s hit called hnext _ hg ih => exact ih
  | case3 scan s hit called hnext _ group hg ih => rw [Traced.notes_bind, notes_annotate, List.nil_append, ih]

theorem notes_scanAll (signature : List UInt8) (config : Config) (w : Width) (s : State) (regions : List Region) :
    (scanAll signature config w s regions).notes = [] := by
  induction regions generalizing s with
  | nil => rfl
  | cons r rest ih => rw [scanAll, Traced.notes_bind, notes_scanCode, List.nil_append, ih]

end Correlation

namespace Marker

/-- A correlation adds as many warnings to the result as it logs. -/
theorem asides_correlate (k : Marker) (h : Host) (target : LoadedModule) (config : Config) (es : List Entry)
    (r : RunResult) :
    ∃ count, Asides (k.correlate h target config es r).notes count ∧
      (k.correlate h target config es r).value.1.warnings = r.warnings + count := by
  cases hsig : k.width.signature? with
  | none =>
    have hn : Asides [.correlationSkipped k.width] 0 := .debug rfl
    exact ⟨0, by simpa [correlate, hsig] using hn, by simp [correlate, hsig]⟩
  | some signature =>
    have ha := Snapshot.asides_take h.memory target k.options.pageSize k.options.valid
    have hb := HashIndex.asides_build (k.snapshot h.memory target).captured es
    refine ⟨(k.snapshot h.memory target).warnings +
      (HashIndex.build (k.snapshot h.memory target).captured es).value.2, ?_, ?_⟩
    · simp only [correlate, hsig, Traced.notes_bind, Traced.notes_pure, Traced.notes_note, Correlation.run,
        Correlation.notes_scanAll, List.nil_append, List.append_nil]
      exact ha.append (hb.append_debug (.debug rfl))
    · rw [← Nat.add_assoc]
      simp only [correlate, hsig, Traced.value_bind, Traced.value_pure]
      rfl

/-- The end of a run: asides that are counted in the result, and then the summary. -/
theorem notes_finish (k : Marker) (h : Host) (target : LoadedModule) (config : Config) (t : DecodedTable) :
    ∃ front count, (k.finish h target config t).notes =
        front ++ [.summary (k.finish h target config t).value.1.summary] ∧
      Asides front count ∧ (k.finish h target config t).value.1.warnings = t.warnings + count := by
  by_cases hes : t.entries = []
  · exact ⟨[], 0, by simp [finish, hes], .nil, by simp [finish, hes]⟩
  · cases hc : config.wantsCorrelation with
    | false => exact ⟨[], 0, by simp [finish, hes, hc], .nil, by simp [finish, hes, hc]⟩
    | true =>
      let r : RunResult := { found := t.entries.length, marked := t.marked, warnings := t.warnings }
      obtain ⟨count, ha, hv⟩ := k.asides_correlate h target config t.entries r
      have hfinish : k.finish h target config t = (do
          let done ← k.correlate h target config t.entries r
          Traced.request .refresh
          Traced.note (.summary done.1.summary)
          return (done.1, done.2.refresh)) := by
        simp [finish, hes, hc, r]
      rw [hfinish]
      exact ⟨_, count, by simp, ha, hv⟩

/-- The work of a run that returns logs its warnings among asides, and then the summary; work that stops logs no
warning. -/
theorem notes_markModule (k : Marker) (h : Host) (target : LoadedModule) (config : Config) :
    match (k.markModule h target config).value.1 with
    | .ok r => ∃ front, (k.markModule h target config).notes = front ++ [.summary r.summary] ∧
        Asides front r.warnings
    | .error _ => Asides (k.markModule h target config).notes 0 := by
  have hlocate : Asides (Header.locate h.memory target.base k.width).run.notes 0 :=
    .of_debug fun _ => (Header.detailed_locate h.memory target.base k.width).level
  cases hb : (Header.locate h.memory target.base k.width).run.value with
  | error e => simpa [markModule, hb] using hlocate
  | ok b =>
    cases he : Table.entries h.memory target.base b with
    | error e => simpa [markModule, hb, Table.decode, Debugger.decode, Debugger.fields_ofHost, he] using hlocate
    | ok es =>
      obtain ⟨refused, hmark, hmarked⟩ := Debugger.ofHost.asides_markAll h { entries := es } es
      rcases hm : (Debugger.ofHost.markAll h { entries := es } es).value with ⟨h', t⟩
      rw [hm] at hmarked
      obtain ⟨front, count, hnotes, hfront, hcount⟩ := k.notes_finish h' target config t
      have hwalked : Asides [.tableWalked b.count es.length] 0 := .debug rfl
      have hwarnings : (k.finish h' target config t).value.1.warnings = refused + count := by
        rw [hcount, hmarked]
        exact congrArg (· + count) (Nat.zero_add refused)
      simp only [markModule, hb, Table.decode, Debugger.decode, Debugger.fields_ofHost, he, hm, Traced.value_bind,
        Traced.value_pure, Traced.notes_bind, Traced.notes_note, Traced.notes_pure, hnotes, hwarnings,
        List.append_nil, ← List.append_assoc]
      exact ⟨_, rfl, ((hlocate.append_debug hwalked).debug_append hmark).append hfront⟩

theorem notes_runModule (k : Marker) (h : Host) (target : LoadedModule) (config : Config) :
    (k.runModule h target config).notes =
      (k.markModule h target config).notes ++ [.runClosed target.base k.width] := by
  simp [runModule]

end Marker

namespace Plugin

/-- What the log adds to the events of a command: one line for the run, if there is one. -/
def closing (k : Marker) (h : Host) (args : List String) : List Note :=
  if args = [] then (h.selectedModule?.map fun target => .runClosed target.base k.width).toList else []

/-- The events of a command are those of its work and the wording of a failure; a run is closed behind its work. -/
theorem notes_command (k : Marker) (h : Host) (config : Config) (args : List String) :
    match (command k h config args).value.1 with
    | .ok r => ∃ front, (command k h config args).notes = front ++ [.summary r.summary] ++ closing k h args ∧
        Asides front r.warnings ∧ (closing k h args).map Note.level = [.info]
    | .error e => ∃ front, (command k h config args).notes = front ++ closing k h args ++ [.failed e.message] ∧
        Asides front 0 := by
  unfold command closing
  by_cases ha : args = []
  · simp only [ha, if_true, Marker.run]
    cases h.selectedModule? with
    | none => exact ⟨[], rfl, .nil⟩
    | some target =>
      have hwork := k.notes_markModule h target config
      have hvalue : (k.runModule h target config).value = (k.markModule h target config).value := rfl
      rcases hv : (k.markModule h target config).value with ⟨outcome, after⟩
      rw [hv] at hwork hvalue
      simp only [Traced.value_bind, Traced.notes_bind, hvalue, Marker.notes_runModule, Option.map_some,
        Option.toList_some]
      cases outcome with
      | ok r =>
        obtain ⟨front, hnotes, hfront⟩ := hwork
        exact ⟨front, by simp [hnotes, logged], hfront, rfl⟩
      | error e => exact ⟨_, by simp [logged], hwork⟩
  · simp only [ha, if_false, logged, Traced.value_bind, Traced.notes_bind, Traced.value_pure, Traced.notes_note,
      Traced.notes_pure, List.append_nil]
    exact ⟨[], rfl, .nil⟩

theorem filter_closing (k : Marker) (h : Host) (args : List String) :
    (closing k h args).filter Note.isEvent = [] := by
  unfold closing
  split
  · cases h.selectedModule? <;> rfl
  · rfl

end Plugin

end FlowGuard
