import FlowGuard.Proofs.Annotations
import FlowGuard.Proofs.Json.RoundTrip

/-!
The summary line against the counts that it reports. Every number in the line stands between fixed words, a count of
zero is left out together with its words, and no part of the line can be taken for another one, so lines that read
alike report the same counts. A run that finds no entry has nothing to count, and so the line without any number
tells the result of a run as well.
-/

namespace FlowGuard

namespace RunResult

def phrase (before : List Char) (n : Nat) (after : List Char) : List Char :=
  before ++ (Nat.toDigits 10 n ++ ' ' :: after)

/-- A phrase that is left out when there is nothing to count. -/
def part (before : List Char) (n : Nat) (after : List Char) : List Char :=
  if 0 < n then phrase before n after else []

def entriesPart (found marked : Nat) : List Char :=
  if found = marked then phrase "Found and marked ".toList found "XFG entries".toList
  else phrase "Found ".toList found (phrase "XFG entries, marked ".toList marked "entries".toList)

def warningsPart (w : Nat) : List Char :=
  part " (".toList w "warnings, see log)".toList

def commentsPart (c w : Nat) : List Char :=
  part ", added ".toList c "comments".toList ++ warningsPart w

def xrefsPart (x c w : Nat) : List Char :=
  part ", added ".toList x "xrefs".toList ++ commentsPart c w

theorem toList_counted (before : String) (n : Nat) (after : String) (words : List Char)
    (hafter : after.toList = ' ' :: words) : (counted before n after).toList = part before.toList n words := by
  unfold counted part phrase
  split
  · simp [hafter]
  · rfl

theorem toList_summary {r : RunResult} (hfound : 0 < r.found) :
    r.summary.toList = entriesPart r.found r.marked ++ xrefsPart r.xrefs r.comments r.warnings := by
  have hxrefs := toList_counted ", added " r.xrefs " xrefs" _ rfl
  have hcomments := toList_counted ", added " r.comments " comments" _ rfl
  have hwarnings := toList_counted " (" r.warnings " warnings, see log)" _ rfl
  unfold summary entriesPart
  rw [if_neg (by omega)]
  simp only [String.toList_append, hxrefs, hcomments, hwarnings, List.append_assoc, xrefsPart, commentsPart,
    warningsPart]
  congr 1
  split <;> simp [phrase]

/-- Phrases that start with the same words read alike only if they tell the same number. -/
theorem phrase_append_inj {before after after' s t : List Char} {m n : Nat}
    (h : phrase before m after ++ s = phrase before n after' ++ t) : m = n ∧ after ++ s = after' ++ t := by
  simp only [phrase, List.append_assoc, List.append_cancel_left_eq, List.cons_append] at h
  obtain ⟨hn, hrest⟩ := Json.toDigits_append_inj (.cons (by decide)) (.cons (by decide)) h
  exact ⟨hn, (List.cons.inj hrest).2⟩

/-- A word in the place of the number makes another phrase. -/
theorem phrase_append_ne {before more after after' s t : List Char} {c : Char} (hc : c.isDigit = false) (m n : Nat) :
    phrase (before ++ c :: more) m after ++ s ≠ phrase before n after' ++ t := by
  intro h
  simp only [phrase, List.append_assoc, List.append_cancel_left_eq, List.cons_append] at h
  cases hds : Nat.toDigits 10 n with
  | nil => exact absurd hds Nat.toDigits_ne_nil
  | cons d ds =>
    have hd := Json.isDigit_of_mem n d (by simp [hds])
    rw [hds] at h
    rw [← (List.cons.inj h).1, hc] at hd
    cases hd

/-- The text does not start with a phrase of these words, whatever the number. -/
def Lacks (before after s : List Char) : Prop :=
  ∀ n rest, s ≠ phrase before n after ++ rest

theorem lacks_of_head {c : Char} {before after s : List Char} (hs : s.head? ≠ some c) :
    Lacks (c :: before) after s := by
  rintro n rest rfl
  exact hs rfl

/-- A part with other words behind its number, or left out, is no phrase of these words. -/
theorem Lacks.part {before after after' s : List Char} (hs : Lacks before after s)
    (hwords : ∀ u v, after' ++ u ≠ after ++ v) (n : Nat) : Lacks before after (part before n after' ++ s) := by
  intro m rest h
  unfold RunResult.part at h
  split at h
  · exact hwords _ _ (phrase_append_inj h).2
  · exact hs m rest h

/-- A part can be told from what follows it, and its number can be read from it. -/
theorem part_append_inj {before after s t : List Char} {m n : Nat} (hs : Lacks before after s)
    (ht : Lacks before after t) (h : part before m after ++ s = part before n after ++ t) : m = n ∧ s = t := by
  unfold part at h
  split at h <;> split at h
  · obtain ⟨hn, hrest⟩ := phrase_append_inj h
    exact ⟨hn, List.append_cancel_left hrest⟩
  · exact absurd h.symm (ht m s)
  · exact absurd h (hs n t)
  · exact ⟨by omega, h⟩

theorem lacks_warningsPart (after : List Char) (w : Nat) : Lacks ", added ".toList after (warningsPart w) := by
  apply lacks_of_head (c := ',')
  unfold warningsPart part
  split <;> simp [phrase]

theorem lacks_commentsPart (c w : Nat) : Lacks ", added ".toList "xrefs".toList (commentsPart c w) := by
  refine (lacks_warningsPart _ w).part ?_ c
  intro u v h
  simp at h

theorem warningsPart_inj {w w' : Nat} (h : warningsPart w = warningsPart w') : w = w' := by
  have hnil : Lacks " (".toList "warnings, see log)".toList [] := lacks_of_head (c := ' ') (by simp)
  exact (part_append_inj hnil hnil (by simpa [warningsPart] using h)).1

theorem commentsPart_inj {c w c' w' : Nat} (h : commentsPart c w = commentsPart c' w') : c = c' ∧ w = w' := by
  obtain ⟨hc, hrest⟩ := part_append_inj (lacks_warningsPart _ w) (lacks_warningsPart _ w') h
  exact ⟨hc, warningsPart_inj hrest⟩

theorem xrefsPart_inj {x c w x' c' w' : Nat} (h : xrefsPart x c w = xrefsPart x' c' w') :
    x = x' ∧ c = c' ∧ w = w' := by
  obtain ⟨hx, hrest⟩ := part_append_inj (lacks_commentsPart c w) (lacks_commentsPart c' w') h
  exact ⟨hx, commentsPart_inj hrest⟩

theorem entriesPart_append_inj {found marked found' marked' : Nat} {s t : List Char}
    (h : entriesPart found marked ++ s = entriesPart found' marked' ++ t) :
    found = found' ∧ marked = marked' ∧ s = t := by
  -- where one line goes on with a digit, a line of the other kind goes on with this letter
  have hother : "Found and marked ".toList = "Found ".toList ++ 'a' :: "nd marked ".toList := rfl
  unfold entriesPart at h
  split at h <;> split at h
  case isTrue.isTrue heq heq' =>
    obtain ⟨hfound, hrest⟩ := phrase_append_inj h
    exact ⟨hfound, by omega, List.append_cancel_left hrest⟩
  case isTrue.isFalse =>
    rw [hother] at h
    exact absurd h (phrase_append_ne (by decide) _ _)
  case isFalse.isTrue =>
    rw [hother] at h
    exact absurd h.symm (phrase_append_ne (by decide) _ _)
  case isFalse.isFalse =>
    obtain ⟨hfound, hrest⟩ := phrase_append_inj h
    obtain ⟨hmarked, hrest⟩ := phrase_append_inj hrest
    exact ⟨hfound, hmarked, List.append_cancel_left hrest⟩

/-- A summary that reports entries tells every count. -/
theorem eq_of_summary_eq {r r' : RunResult} (hfound : 0 < r.found) (hfound' : 0 < r'.found)
    (h : r.summary = r'.summary) : r = r' := by
  have htext := congrArg String.toList h
  rw [toList_summary hfound, toList_summary hfound'] at htext
  obtain ⟨hf, hm, hrest⟩ := entriesPart_append_inj htext
  obtain ⟨hx, hc, hw⟩ := xrefsPart_inj hrest
  cases r
  cases r'
  simp only [RunResult.mk.injEq]
  exact ⟨hf, hm, hx, hc, hw⟩

/-- A summary that reports no entries reads like no other one. -/
theorem found_eq_zero_of_summary_eq {r r' : RunResult} (hfound : r.found = 0) (h : r.summary = r'.summary) :
    r'.found = 0 := by
  by_contra hfound'
  have htext := congrArg String.toList h
  rw [summary, if_pos hfound, toList_summary (Nat.pos_of_ne_zero hfound')] at htext
  unfold entriesPart at htext
  split at htext <;> simp [phrase] at htext

end RunResult

namespace Marker

/-- A run that finds no entry has nothing to report. -/
theorem result_of_found_eq_zero (k : Marker) (h : Host) (target : LoadedModule) (config : Config) (r : RunResult)
    (hr : (k.runModule h target config).value.1 = .ok r) (hfound : r.found = 0) : r = {} := by
  obtain ⟨-, es, -, -, rfl, -, -⟩ := entries_of_runModule_ok k h target config r hr
  rw [found_runResult] at hfound
  obtain rfl := List.length_eq_zero_iff.mp hfound
  rw [runResult, if_pos (.inl rfl)]
  rfl

/-- The summary line loses nothing. Results with entries are told apart by their lines, a run without entries has the
result that counts nothing, and so any two runs that end well with the same line, whatever they were run on, have the
same result. -/
theorem summary_tells_result :
    (∀ r r' : RunResult, 0 < r.found → 0 < r'.found → r.summary = r'.summary → r = r') ∧
      (∀ (k : Marker) (h : Host) (target : LoadedModule) (config : Config) (r : RunResult),
        (k.runModule h target config).value.1 = .ok r → r.found = 0 → r = {}) ∧
      ∀ (k k' : Marker) (h h' : Host) (target target' : LoadedModule) (config config' : Config)
        (r r' : RunResult), (k.runModule h target config).value.1 = .ok r →
          (k'.runModule h' target' config').value.1 = .ok r' → r.summary = r'.summary → r = r' := by
  refine ⟨fun r r' => RunResult.eq_of_summary_eq, result_of_found_eq_zero, ?_⟩
  intro k k' h h' target target' config config' r r' hr hr' hsummary
  by_cases hfound : r.found = 0
  · have hfound' := RunResult.found_eq_zero_of_summary_eq hfound hsummary
    rw [result_of_found_eq_zero k h target config r hr hfound,
      result_of_found_eq_zero k' h' target' config' r' hr' hfound']
  · have hfound' : r'.found ≠ 0 := fun h0 => hfound (RunResult.found_eq_zero_of_summary_eq h0 hsummary.symm)
    exact RunResult.eq_of_summary_eq (Nat.pos_of_ne_zero hfound) (Nat.pos_of_ne_zero hfound') hsummary

/-- What a run without correlation reports for a host with the bytes of the specimen that accepts its marks. -/
theorem runModule_off_paired (k : Marker) (h : Host) (hwidth : k.width = .bits64)
    (hmemory : h.memory = Specimen.paired.build.memory)
    (haccepts : ∀ e ∈ Specimen.pairedEntries, h.refusal? e.address = none) :
    (k.runModule h Specimen.paired.loadedModule { xrefs := false, comments := false }).value.1 =
      .ok { found := 2, marked := 2 } := by
  have hfind := Specimen.guardIntact_paired.find
  have hentries := Specimen.entries_paired
  rw [← hmemory] at hfind hentries
  have hmarked : Specimen.pairedEntries.countP (fun e => (h.refusal? e.address).isNone) = 2 :=
    List.countP_eq_length.mpr fun e he => by rw [haccepts e he]; rfl
  have hrefused : Specimen.pairedEntries.countP (fun e => (h.refusal? e.address).isSome) = 0 :=
    List.countP_eq_zero.mpr fun e he => by rw [haccepts e he]; simp
  have hrun := runModule_of_entries k h Specimen.paired.loadedModule { xrefs := false, comments := false }
    Specimen.paired.guardBlock Specimen.pairedEntries (hwidth ▸ hfind) hentries
  rw [hrun.1, runResult, if_pos (.inr (.inl rfl)), markResult, hmarked, hrefused]
  rfl

/-- Two markers with different steps, on a host and on the same host after a redraw, report one line. -/
theorem summary_tells_result_paired :
    let k : Marker := { width := .bits64 }
    let k' : Marker := { width := .bits64, options := { pageSize := 0x800 } }
    let off : Config := { xrefs := false, comments := false }
    ∃ r r', (k.runModule Specimen.paired.build Specimen.paired.loadedModule off).value.1 = .ok r ∧
      (k'.runModule Specimen.paired.build.refresh Specimen.paired.loadedModule off).value.1 = .ok r' ∧
      r.summary = "Found and marked 2 XFG entries" ∧ r'.summary = "Found and marked 2 XFG entries" ∧ r = r' := by
  have haccepts : ∀ e ∈ Specimen.pairedEntries, Specimen.paired.build.refusal? e.address = none := by
    intro e he
    rw [Specimen.refusal?_build, if_pos]
    revert e
    decide
  have hmemory (h : Host) : h.refresh.memory = h.memory := rfl
  have hrefusal (h : Host) (a : Address) : h.refresh.refusal? a = h.refusal? a := rfl
  have hrun := runModule_off_paired { width := .bits64 } Specimen.paired.build rfl rfl haccepts
  have hrun' := runModule_off_paired { width := .bits64, options := { pageSize := 0x800 } }
    Specimen.paired.build.refresh rfl (hmemory _) fun e he => (hrefusal _ _).trans (haccepts e he)
  exact ⟨_, _, hrun, hrun', rfl, rfl, summary_tells_result.2.2 _ _ _ _ _ _ _ _ _ _ hrun hrun' rfl⟩

end Marker

end FlowGuard
