import FlowGuard.Proofs.Requests

/-!
A list of requests as one update. References, comments and marks do not get in each other's way: each kind goes in
order into its own store, and the counters grow by the number of requests. Hence a list that is carried out twice
leaves the stores as after the first time.
-/

namespace FlowGuard

open Std (ExtTreeMap ExtTreeSet)

section Stores

variable {α β : Type} {cmp : α → α → Ordering} [Std.TransCmp cmp] [Std.LawfulEqCmp cmp] [BEq α] [LawfulBEq α]

theorem insertMany_twice_set (t : ExtTreeSet α cmp) (l : List α) :
    (t.insertMany l).insertMany l = t.insertMany l := by
  apply ExtTreeSet.ext_mem
  intro k
  rw [ExtTreeSet.mem_insertMany_list, ExtTreeSet.mem_insertMany_list, or_assoc, or_self]

/-- Of several values for one key the last one stays, so writing all of them again changes nothing. -/
theorem insertMany_twice_map (t : ExtTreeMap α β cmp) (l : List (α × β)) :
    (t.insertMany l).insertMany l = t.insertMany l := by
  apply ExtTreeMap.ext_getElem?
  intro k
  rw [ExtTreeMap.getElem?_insertMany_list, ExtTreeMap.getElem?_insertMany_list, ← Option.or_assoc,
    Option.or_self]

omit [BEq α] [LawfulBEq α] in
/-- A value that is found after writing was written or was there before. -/
theorem mem_of_getElem?_foldl_insert (l : List (α × β)) (t : ExtTreeMap α β cmp) (k : α) (v : β)
    (h : (l.foldl (fun t p => t.insert p.1 p.2) t)[k]? = some v) : (k, v) ∈ l ∨ t[k]? = some v := by
  induction l generalizing t with
  | nil => exact .inr h
  | cons p rest ih =>
    rcases ih _ h with hmem | hold
    · exact .inl (List.mem_cons_of_mem p hmem)
    · rw [ExtTreeMap.getElem?_insert] at hold
      split at hold
      case isTrue hk =>
        cases hold
        exact .inl (List.mem_cons.mpr (.inl (Prod.ext (Std.LawfulEqCmp.eq_of_compare hk).symm rfl)))
      case isFalse => exact .inr hold

end Stores

namespace Request

def xref? : Request → Option (Address × Address)
  | .xref source target => some (source, target)
  | .mark .. | .comment .. | .refresh => none

def comment? : Request → Option (Address × String)
  | .comment a text => some (a, text)
  | .mark .. | .xref .. | .refresh => none

def mark? : Request → Option (Address × Nat)
  | .mark a size => some (a, size)
  | .xref .. | .comment .. | .refresh => none

theorem comment_mem_iff (rs : List Request) (a : Address) (text : String) :
    .comment a text ∈ rs ↔ (a, text) ∈ rs.filterMap comment? := by
  rw [List.mem_filterMap]
  constructor
  · exact fun hm => ⟨_, hm, rfl⟩
  · rintro ⟨r, hm, hr⟩
    cases r <;> cases hr
    exact hm

end Request

namespace Annotations

/-- Records requests, where marks count only at some addresses. -/
def record (s : Annotations) (accepts : Address → Bool) (rs : List Request) : Annotations where
  xrefs := s.xrefs.insertMany (rs.filterMap Request.xref?)
  comments := s.comments.insertMany (rs.filterMap Request.comment?)
  marks := s.marks.insertMany ((rs.filterMap Request.mark?).filter fun p => accepts p.1)
  xrefCalls := s.xrefCalls + (rs.filterMap Request.xref?).length
  commentCalls := s.commentCalls + (rs.filterMap Request.comment?).length

@[simp] theorem record_nil (s : Annotations) (accepts : Address → Bool) : s.record accepts [] = s := by
  simp [record]

end Annotations

namespace Host

def accepts (h : Host) (a : Address) : Bool :=
  (h.refusal? a).isNone

theorem memory_rejectMark (h : Host) (a : Address) : (h.rejectMark a).memory = h.memory := rfl

theorem refusal?_rejectMark (h : Host) (a b : Address) :
    (h.rejectMark a).refusal? b = if a = b then some (.rejected b) else h.refusal? b := by
  unfold refusal? rejectMark moduleAt?
  by_cases hab : a = b <;> simp [hab]

theorem refusal?_of_bare {h h' : Host} (hb : h.bare = h'.bare) (a : Address) :
    h.refusal? a = h'.refusal? a := by
  have hrejected := congrArg rejectedMarks hb
  have hmodules := congrArg modules hb
  unfold bare at hrejected hmodules
  unfold refusal? moduleAt?
  rw [hrejected, hmodules]

@[simp] theorem refusal?_performAll (h : Host) (rs : List Request) (a : Address) :
    (h.performAll rs).refusal? a = h.refusal? a :=
  refusal?_of_bare (bare_performAll h rs) a

/-- One request in front of others. -/
theorem record_perform (h : Host) (r : Request) (rs : List Request) :
    (h.perform r).annotations.record h.accepts rs = h.annotations.record h.accepts (r :: rs) := by
  cases r with
  | mark a size =>
    cases hf : h.refusal? a with
    | none =>
      have ha : h.accepts a = true := by simp [accepts, hf]
      simp [perform, markData, hf, Annotations.record, Annotations.setMark, List.filterMap_cons, Request.xref?,
        Request.comment?, Request.mark?, ha, ExtTreeMap.insertMany_cons]
    | some e =>
      have ha : h.accepts a = false := by simp [accepts, hf]
      simp [perform, markData, hf, Annotations.record, List.filterMap_cons, Request.xref?, Request.comment?,
        Request.mark?, ha]
  | xref source target =>
    simp [perform, addXref, Annotations.record, Annotations.addXref, List.filterMap_cons, Request.xref?,
      Request.comment?, Request.mark?, ExtTreeSet.insertMany_cons, Nat.add_right_comm, Nat.add_assoc]
  | comment a text =>
    simp [perform, setComment, Annotations.record, Annotations.setComment, List.filterMap_cons, Request.xref?,
      Request.comment?, Request.mark?, ExtTreeMap.insertMany_cons, Nat.add_right_comm, Nat.add_assoc]
  | refresh =>
    simp [perform, refresh, Annotations.record, List.filterMap_cons, Request.xref?, Request.comment?,
      Request.mark?]

theorem refreshCount_perform (h : Host) (r : Request) :
    (h.perform r).refreshCount = h.refreshCount + [r].count .refresh := by
  cases r with
  | mark a size => cases hf : h.refusal? a <;> simp [perform, markData, hf]
  | xref source target => simp [perform, addXref]
  | comment a text => simp [perform, setComment]
  | refresh => simp [perform, refresh]

/-- What is left of a host when requests have been carried out. -/
theorem performAll_eq (h : Host) (rs : List Request) :
    h.performAll rs =
      { h with
        annotations := h.annotations.record h.accepts rs
        refreshCount := h.refreshCount + rs.count .refresh } := by
  induction rs generalizing h with
  | nil => simp
  | cons r rs ih =>
    have hb := bare_perform h r
    have haccepts : (h.perform r).accepts = h.accepts := by
      funext a
      unfold accepts
      rw [refusal?_of_bare hb a]
    rw [performAll_cons, ih, haccepts, record_perform, refreshCount_perform, Nat.add_assoc, ← List.count_append,
      List.singleton_append]
    cases hp : h.perform r
    cases h
    rw [hp] at hb
    simp only [bare, Host.mk.injEq] at hb
    simp [hb]

/-- The addresses with a comment are the old ones and those at which one was asked for. -/
theorem mem_comments_performAll (h : Host) (rs : List Request) (a : Address) :
    a ∈ (h.performAll rs).annotations.comments ↔
      a ∈ h.annotations.comments ∨ ∃ text, .comment a text ∈ rs := by
  rw [performAll_eq]
  simp only [Annotations.record, ExtTreeMap.mem_insertMany_list, List.contains_iff_mem, List.mem_map,
    Request.comment_mem_iff]
  constructor
  · rintro (hold | ⟨⟨b, text⟩, hm, rfl⟩)
    · exact .inl hold
    · exact .inr ⟨text, hm⟩
  · rintro (hold | ⟨text, hm⟩)
    · exact .inl hold
    · exact .inr ⟨(a, text), hm, rfl⟩

end Host

end FlowGuard
