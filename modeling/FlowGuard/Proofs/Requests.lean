import FlowGuard.Guard.Table

/-!
What a computation asks of its host decides what becomes of the host. `Host.perform` carries out one
request and `Host.performAll` a list of them; only annotations and the number of redraws can change. The
stages of a run are described by the requests they make, so a statement about the host after a run is a
statement about a list.
-/

namespace FlowGuard

theorem bind_eq_ok_iff {ε α β : Type} (x : Except ε α) (f : α → Except ε β) (b : β) :
    x >>= f = .ok b ↔ ∃ a, x = .ok a ∧ f a = .ok b := by
  cases x with
  | error e => simp [bind, Except.bind]
  | ok a => simp [bind, Except.bind]

theorem throw_or_eq_ok_iff {ε α : Type} (c : Prop) [Decidable c] (e : ε) (k : PUnit → Except ε α) (x : Except ε α)
    (a : α) : (if c then throw e >>= k else x) = .ok a ↔ ¬c ∧ x = .ok a := by
  by_cases hc : c
  · simp [hc, throw, throwThe, MonadExceptOf.throw, bind, Except.bind]
  · simp [hc]

namespace Traced

variable {α β : Type}

@[simp] theorem requests_pure (a : α) : (pure a : Traced α).requests = [] := rfl

@[simp] theorem requests_bind (x : Traced α) (f : α → Traced β) :
    (x >>= f).requests = x.requests ++ (f x.value).requests := by
  simp [requests]

@[simp] theorem requests_note (n : Note) : (note n).requests = [] := rfl

@[simp] theorem requests_request (r : Request) : (request r).requests = [r] := rfl

@[simp] theorem notes_pure (a : α) : (pure a : Traced α).notes = [] := rfl

@[simp] theorem notes_bind (x : Traced α) (f : α → Traced β) :
    (x >>= f).notes = x.notes ++ (f x.value).notes := by
  simp [notes]

@[simp] theorem notes_note (n : Note) : (note n).notes = [n] := rfl

@[simp] theorem notes_request (r : Request) : (request r).notes = [] := rfl

theorem bind_assoc {γ : Type} (x : Traced α) (f : α → Traced β) (g : β → Traced γ) :
    x >>= f >>= g = x >>= fun a => f a >>= g := by
  simp only [bind, List.append_assoc]

/-- What follows a computation matters at its value only. -/
theorem bind_congr_value (x : Traced α) (f g : α → Traced β) (h : f x.value = g x.value) : x >>= f = x >>= g := by
  simp only [bind, h]

variable {ε : Type}

/-- A computation that may fail, without its trail. -/
theorem value_run_bind (x : ExceptT ε Traced α) (f : α → ExceptT ε Traced β) :
    (x >>= f).run.value = x.run.value >>= fun a => (f a).run.value := by
  rw [ExceptT.run_bind, value_bind]
  cases x.run.value <;> rfl

end Traced

/-- References that compare as equal are equal. -/
instance : Std.LawfulEqCmp xrefOrder where
  compare_self := by simp [xrefOrder, compareLex, compareOn]
  eq_of_compare := by
    intro p q he
    obtain ⟨hs, ht⟩ := compareLex_eq_eq.mp he
    have hs' : p.1 = q.1 := Std.LawfulEqCmp.eq_of_compare hs
    have ht' : p.2 = q.2 := Std.LawfulEqCmp.eq_of_compare ht
    exact Prod.ext hs' ht'

namespace Host

/-- Carries out a request. A mark that is refused changes nothing. -/
def perform (h : Host) : Request → Host
  | .mark a size =>
    match h.markData a size with
    | .ok h => h
    | .error _ => h
  | .xref source target => h.addXref source target
  | .comment a text => h.setComment a text
  | .refresh => h.refresh

def performAll (h : Host) (rs : List Request) : Host :=
  rs.foldl perform h

@[simp] theorem performAll_nil (h : Host) : h.performAll [] = h := rfl

@[simp] theorem performAll_cons (h : Host) (r : Request) (rs : List Request) :
    h.performAll (r :: rs) = (h.perform r).performAll rs := rfl

theorem performAll_append (h : Host) (rs ss : List Request) :
    h.performAll (rs ++ ss) = (h.performAll rs).performAll ss := by
  simp [performAll, List.foldl_append]

theorem markData_ok (h h' : Host) (a : Address) (size : Nat) (hm : h.markData a size = .ok h') :
    h' = { h with annotations := h.annotations.setMark a size } := by
  unfold markData at hm
  split at hm
  · cases hm
  · cases hm
    rfl

/-- The host without what requests write into it. -/
def bare (h : Host) : Host :=
  { h with annotations := {}, refreshCount := 0 }

/-- A request reaches nothing but the annotations and the number of redraws. -/
theorem bare_perform (h : Host) (r : Request) : (h.perform r).bare = h.bare := by
  cases r with
  | mark a size =>
    cases hm : h.markData a size with
    | error e => simp [perform, hm]
    | ok h' =>
      have he := markData_ok h h' a size hm
      subst he
      simp [perform, hm, bare]
  | xref source target => rfl
  | comment a text => rfl
  | refresh => rfl

theorem bare_performAll (h : Host) (rs : List Request) : (h.performAll rs).bare = h.bare := by
  induction rs generalizing h with
  | nil => rfl
  | cons r rs ih =>
    rw [performAll_cons, ih]
    exact bare_perform h r

@[simp] theorem memory_performAll (h : Host) (rs : List Request) :
    (h.performAll rs).memory = h.memory := by
  have he := congrArg memory (bare_performAll h rs)
  exact he

@[simp] theorem symbols_performAll (h : Host) (rs : List Request) :
    (h.performAll rs).symbols = h.symbols := by
  have he := congrArg symbols (bare_performAll h rs)
  exact he

/-- A request changes the references only by adding its own. -/
theorem mem_xrefs_perform (h : Host) (r : Request) (p : Address × Address) :
    p ∈ (h.perform r).annotations.xrefs ↔
      p ∈ h.annotations.xrefs ∨ r = .xref p.1 p.2 := by
  cases r with
  | mark a size =>
    cases hm : h.markData a size with
    | error e => simp [perform, hm]
    | ok h' =>
      have he := markData_ok h h' a size hm
      subst he
      simp [perform, hm, Annotations.setMark]
  | xref source target =>
    simp only [perform, addXref, Annotations.addXref, Std.ExtTreeSet.mem_insert,
      Std.LawfulEqCmp.compare_eq_iff_eq, Request.xref.injEq]
    rw [or_comm, Prod.ext_iff]
  | comment a text => simp [perform, setComment, Annotations.setComment]
  | refresh => simp [perform, refresh]

theorem mem_xrefs_performAll (h : Host) (rs : List Request) (p : Address × Address) :
    p ∈ (h.performAll rs).annotations.xrefs ↔
      p ∈ h.annotations.xrefs ∨ .xref p.1 p.2 ∈ rs := by
  induction rs generalizing h with
  | nil => simp
  | cons r rs ih =>
    rw [performAll_cons, ih, mem_xrefs_perform, List.mem_cons, or_assoc]
    simp only [eq_comm]

/-- A request that is not a comment at an address leaves the comment there. -/
theorem comments_perform_of_ne (h : Host) (r : Request) (a : Address)
    (hr : ∀ text, r ≠ .comment a text) :
    (h.perform r).annotations.comments[a]? = h.annotations.comments[a]? := by
  cases r with
  | mark b size =>
    cases hm : h.markData b size with
    | error e => simp [perform, hm]
    | ok h' =>
      have he := markData_ok h h' b size hm
      subst he
      simp [perform, hm, Annotations.setMark]
  | xref source target => rfl
  | comment b text =>
    have hb : b ≠ a := fun he => hr text (by rw [he])
    simp [perform, setComment, Annotations.setComment, Std.ExtTreeMap.getElem?_insert, hb]
  | refresh => rfl

theorem comments_performAll_of_not_mem (h : Host) (rs : List Request) (a : Address)
    (hr : ∀ text, .comment a text ∉ rs) :
    (h.performAll rs).annotations.comments[a]? = h.annotations.comments[a]? := by
  induction rs generalizing h with
  | nil => rfl
  | cons r rs ih =>
    rw [performAll_cons, ih]
    · apply comments_perform_of_ne
      intro text he
      exact hr text (by simp [he])
    · intro text hm
      exact hr text (by simp [hm])

/-- If all comments at an address say the same, that is what stands there in the end. -/
theorem comments_performAll_of_mem (h : Host) (rs : List Request) (a : Address) (text : String)
    (hm : .comment a text ∈ rs) (hu : ∀ other, .comment a other ∈ rs → other = text) :
    (h.performAll rs).annotations.comments[a]? = some text := by
  induction rs generalizing h with
  | nil => simp at hm
  | cons r rs ih =>
    rw [performAll_cons]
    by_cases hrest : .comment a text ∈ rs
    · exact ih (h.perform r) hrest fun other ho => hu other (by simp [ho])
    · have hr : r = .comment a text := by
        rcases List.mem_cons.mp hm with he | he
        · exact he.symm
        · exact absurd he hrest
      subst hr
      rw [comments_performAll_of_not_mem]
      · simp [perform, setComment, Annotations.setComment]
      · intro other ho
        have he := hu other (by simp [ho])
        subst he
        exact hrest ho

end Host

end FlowGuard
