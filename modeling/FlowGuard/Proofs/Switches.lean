import FlowGuard.Proofs.Annotations
import FlowGuard.Proofs.Footprint
import FlowGuard.Proofs.Names

/-!
The two switches are independent. Marks and what is found do not depend on them, references depend on the one and
comments on the other, and two runs on one host leave the stores that a single run leaves when a switch is on in it
as soon as it is on in one of the two.
-/

namespace FlowGuard

open Std (ExtTreeMap ExtTreeSet)

section Stores

variable {α β : Type} {cmp : α → α → Ordering} [Std.TransCmp cmp] [Std.LawfulEqCmp cmp] [BEq α] [LawfulBEq α]

theorem insertMany_switched_set (t : ExtTreeSet α cmp) (l : List α) (on on' : Bool) :
    (t.insertMany (if on then l else [])).insertMany (if on' then l else []) =
      t.insertMany (if on || on' then l else []) := by
  cases on <;> cases on' <;> simp [insertMany_twice_set]

theorem insertMany_switched_map (t : ExtTreeMap α β cmp) (l : List (α × β)) (on on' : Bool) :
    (t.insertMany (if on then l else [])).insertMany (if on' then l else []) =
      t.insertMany (if on || on' then l else []) := by
  cases on <;> cases on' <;> simp [insertMany_twice_map]

end Stores

/-- A switch is on when it is on in one of two configurations. -/
def Config.union (c c' : Config) : Config where
  xrefs := c.xrefs || c'.xrefs
  comments := c.comments || c'.comments

namespace Marker

/-- The warnings depend on whether usage sites are looked for. -/
theorem warnings_runResult_congr (k : Marker) (h : Host) (target : LoadedModule) (c c' : Config)
    (es : List Entry) (hc : c.wantsCorrelation = c'.wantsCorrelation) :
    (k.runResult h target c es).warnings = (k.runResult h target c' es).warnings := by
  have hiff : k.Correlates c es ↔ k.Correlates c' es := by simp only [Correlates, hc]
  simp only [warnings_runResult, hiff]

theorem xrefs_runResult_congr (k : Marker) (h : Host) (target : LoadedModule) (c c' : Config)
    (es : List Entry) (hx : c.xrefs = c'.xrefs) :
    (k.runResult h target c es).xrefs = (k.runResult h target c' es).xrefs := by
  have hcount := (k.counts_runResult h target c es).1
  rw [hx, ← (k.counts_runResult h target c' es).1] at hcount
  omega

theorem comments_runResult_congr (k : Marker) (h : Host) (target : LoadedModule) (c c' : Config)
    (es : List Entry) (ht : c.comments = c'.comments) :
    (k.runResult h target c es).comments = (k.runResult h target c' es).comments := by
  rw [(k.counts_runResult h target c es).2, (k.counts_runResult h target c' es).2, ht]

/-- The stores after a run that follows another one. -/
theorem annotated_after (k : Marker) (h : Host) (target : LoadedModule) (c c' : Config) (es : List Entry)
    (redraws : Nat) :
    let first := { h with annotations := k.annotated h target c es, refreshCount := redraws }
    let once := k.annotated h target (c.union c') es
    (k.annotated first target c' es).xrefs = once.xrefs ∧
      (k.annotated first target c' es).comments = once.comments ∧
      (k.annotated first target c' es).marks = once.marks := by
  intro first once
  -- The second run has the memory, the symbols and the refusals of the first, and hence its lists.
  exact ⟨insertMany_switched_set _ (k.links h.memory target es) c.xrefs c'.xrefs,
    insertMany_switched_map _ (k.texts h target es) c.comments c'.comments, insertMany_twice_map _ _⟩

end Marker

end FlowGuard
