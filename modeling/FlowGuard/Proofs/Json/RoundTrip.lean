import FlowGuard.Proofs.Json.Literals
import Std.Data.ExtTreeMap
import Std.Data.ExtTreeSet

/-!
Written values, read back. Both printers put nothing but blanks between the parts of a value, so reading is shown
once, for every printer that does so: a value whose literals come from texts and numbers is read back as it was, and
reading stops where its text ends. The text is long enough to serve as the reader's own bound on its steps.
-/

namespace FlowGuard.Json

/-- Blanks between the parts of a text: those in front of an item or a closing bracket at a level of nesting, and
those behind a colon. -/
structure Layout where
  line : Nat → List Char
  gap : List Char
  blank_line : ∀ level, ∀ c ∈ line level, isBlank c = true
  blank_gap : ∀ c ∈ gap, isBlank c = true

def Layout.memberText (l : Layout) (print : Json → List Char) (m : List Char × Json) : List Char :=
  '"' :: (m.1 ++ '"' :: ':' :: (l.gap ++ print m.2))

def Layout.enclosed (l : Layout) (level : Nat) (opening closing : Char) (parts : List (List Char)) : List Char :=
  opening :: (l.line (level + 1) ++ (separated (',' :: l.line (level + 1)) parts ++ (l.line level ++ [closing])))

/-- The printer writes values with the blanks of a layout and with no others. -/
structure Layout.Prints (l : Layout) (print : Nat → Json → List Char) : Prop where
  null : ∀ level, print level .null = ['n', 'u', 'l', 'l']
  bool : ∀ level b, print level (.bool b) = truth b
  number : ∀ level literal, print level (.number literal) = literal
  string : ∀ level literal, print level (.string literal) = quoted literal
  emptyArray : ∀ level, print level (.array []) = ['[', ']']
  array : ∀ level items, items ≠ [] →
    print level (.array items) = l.enclosed level '[' ']' (items.map (print (level + 1)))
  emptyObject : ∀ level, print level (.object []) = ['\x7b', '\x7d']
  object : ∀ level members, members ≠ [] →
    print level (.object members) =
      l.enclosed level '\x7b' '\x7d' (members.map (l.memberText (print (level + 1))))

/-- Every literal of the value comes from a text or a natural number. -/
inductive Canonical : Json → Prop where
  | null : Canonical .null
  | bool (b : Bool) : Canonical (.bool b)
  | ofNat (n : Nat) : Canonical (Json.ofNat n)
  | string (text : List Char) : Canonical (.string (escape text))
  | array {items : List Json} (canonical : ∀ v ∈ items, Canonical v) : Canonical (.array items)
  | object {members : List (List Char × Json)} (keys : ∀ m ∈ members, ∃ text, m.1 = escape text)
    (canonical : ∀ m ∈ members, Canonical m.2) : Canonical (.object members)

theorem skipBlanks_append {blanks : List Char} (hb : ∀ c ∈ blanks, isBlank c = true) (s : List Char) :
    skipBlanks (blanks ++ s) = skipBlanks s :=
  List.dropWhile_append_of_pos hb

theorem skipBlanks_cons {c : Char} (hc : isBlank c = false) (s : List Char) : skipBlanks (c :: s) = c :: s := by
  rw [skipBlanks, List.dropWhile_cons_of_neg (by simp [hc])]

theorem eq_of_isBlank {c : Char} (hc : isBlank c = true) : c = ' ' ∨ c = '\t' ∨ c = '\n' ∨ c = '\x0d' := by
  simpa [isBlank, or_assoc] using hc

theorem not_isBlank_of_isDigit {c : Char} (hc : c.isDigit = true) : isBlank c = false := by
  rw [Bool.eq_false_iff]
  intro hblank
  rcases eq_of_isBlank hblank with rfl | rfl | rfl | rfl <;> cases hc

theorem EndsNumber.nil : EndsNumber [] := by
  intro c hc
  cases hc

theorem EndsNumber.cons {c : Char} {s : List Char}
    (hc : c.isDigit = false ∧ c ≠ '.' ∧ c ≠ 'e' ∧ c ≠ 'E') : EndsNumber (c :: s) := by
  rintro c' ⟨⟩
  exact hc

/-- Blanks end a number, and so does what may stand behind them. -/
theorem EndsNumber.blanks {blanks s : List Char} (hb : ∀ c ∈ blanks, isBlank c = true) (hs : EndsNumber s) :
    EndsNumber (blanks ++ s) := by
  cases blanks with
  | nil => exact hs
  | cons c blanks =>
    rcases eq_of_isBlank (hb c (by simp)) with rfl | rfl | rfl | rfl <;> exact EndsNumber.cons (by decide)

section blanks

variable {blanks : List Char} (hb : ∀ c ∈ blanks, isBlank c = true)
include hb

/-- Blanks in front of a value are passed over. -/
theorem value?_blanks (fuel : Nat) (s : List Char) : value? fuel (blanks ++ s) = value? fuel s := by
  cases fuel with
  | zero => rfl
  | succ fuel => rw [value?, value?, skipBlanks_append hb]

theorem items?_blanks (fuel : Nat) (s : List Char) : items? fuel (blanks ++ s) = items? fuel s := by
  cases fuel with
  | zero => rfl
  | succ fuel => rw [items?, items?, value?_blanks hb]

theorem members?_blanks (fuel : Nat) (s : List Char) : members? fuel (blanks ++ s) = members? fuel s := by
  cases fuel with
  | zero => rfl
  | succ fuel => rw [members?, members?, skipBlanks_append hb]

end blanks

theorem value?_of_digit {c : Char} (hc : c.isDigit = true) (fuel : Nat) (s : List Char) :
    value? (fuel + 1) (c :: s) = (number? (c :: s)).map fun found => (.number found.1, found.2) := by
  rw [value?, skipBlanks_cons (not_isBlank_of_isDigit hc)]
  split
  case h_7 => rfl
  -- every other alternative starts with a character that is no digit
  all_goals
    next heq =>
      obtain ⟨rfl, -⟩ := List.cons.inj heq
      cases hc

theorem separated_cons_cons (mark first second : List Char) (parts : List (List Char)) :
    separated mark (first :: second :: parts) = first ++ (mark ++ separated mark (second :: parts)) := by
  rw [separated, List.append_assoc]
  simp

theorem separated_head (mark : List Char) (c : Char) (s : List Char) (parts : List (List Char)) :
    ∃ s', separated mark ((c :: s) :: parts) = c :: s' := by
  cases parts with
  | nil => exact ⟨s, rfl⟩
  | cons part parts => exact ⟨_, separated_cons_cons mark (c :: s) part parts⟩

section reading

variable {l : Layout} {print : Nat → Json → List Char}

/-- What reading a printed value comes to, whatever follows it. -/
def Reads (print : Nat → Json → List Char) (v : Json) : Prop :=
  ∀ level fuel rest, 2 * (print level v).length ≤ fuel → EndsNumber rest →
    value? fuel (print level v ++ rest) = some (v, rest)

/-- A printed value starts neither with a blank nor with a closing bracket. -/
theorem Layout.Prints.head (hp : l.Prints print) {v : Json} (hv : Canonical v) (level : Nat) :
    ∃ c s, print level v = c :: s ∧ isBlank c = false ∧ c ≠ ']' := by
  cases hv with
  | null => exact ⟨_, _, hp.null level, by decide, by decide⟩
  | bool b => cases b <;> exact ⟨_, _, hp.bool level _, by decide, by decide⟩
  | ofNat n =>
    cases hds : Nat.toDigits 10 n with
    | nil => exact absurd hds Nat.toDigits_ne_nil
    | cons d ds =>
      have hd := isDigit_of_mem n d (by simp [hds])
      refine ⟨d, ds, by rw [Json.ofNat, hp.number, hds], not_isBlank_of_isDigit hd, ?_⟩
      rintro rfl
      cases hd
  | string text => exact ⟨_, _, hp.string level _, by decide, by decide⟩
  | @array items _ =>
    cases items with
    | nil => exact ⟨_, _, hp.emptyArray level, by decide, by decide⟩
    | cons v items => exact ⟨_, _, hp.array level _ (by simp), by decide, by decide⟩
  | @object members _ _ =>
    cases members with
    | nil => exact ⟨_, _, hp.emptyObject level, by decide, by decide⟩
    | cons m members => exact ⟨_, _, hp.object level _ (by simp), by decide, by decide⟩

/-- A value takes at least one step to read. -/
theorem Layout.Prints.reads_of_succ (hp : l.Prints print) {v : Json} (hv : Canonical v)
    (h : ∀ level fuel rest, 2 * (print level v).length ≤ fuel + 1 → EndsNumber rest →
      value? (fuel + 1) (print level v ++ rest) = some (v, rest)) : Reads print v := by
  intro level fuel rest hfuel hrest
  cases fuel with
  | zero =>
    obtain ⟨c, s, he, -⟩ := hp.head hv level
    simp [he] at hfuel
  | succ fuel => exact h level fuel rest hfuel hrest

/-- Items are read one by one up to the closing bracket. -/
theorem items?_separated (l : Layout) (level : Nat) {items : List Json} (hne : items ≠ [])
    (hread : ∀ v ∈ items, Reads print v) (fuel : Nat) (blanks rest : List Char)
    (hfuel : 2 * (separated (',' :: l.line level) (items.map (print level))).length < fuel)
    (hb : ∀ c ∈ blanks, isBlank c = true) :
    items? fuel (separated (',' :: l.line level) (items.map (print level)) ++ (blanks ++ ']' :: rest)) =
      some (items, rest) := by
  induction items generalizing fuel with
  | nil => exact absurd rfl hne
  | cons v items ih =>
    obtain ⟨fuel, rfl⟩ : ∃ n, fuel = n + 1 := ⟨fuel - 1, by omega⟩
    have hv := hread v (by simp)
    cases items with
    | nil =>
      simp only [List.map_cons, List.map_nil, separated] at hfuel ⊢
      rw [items?, hv level fuel _ (by omega) ((EndsNumber.cons (by decide)).blanks hb)]
      simp [skipBlanks_append hb, skipBlanks_cons (show isBlank ']' = false by decide)]
    | cons w items =>
      rw [List.map_cons, List.map_cons, separated_cons_cons] at hfuel ⊢
      simp only [List.length_append, List.length_cons] at hfuel
      have hmore := ih (by simp) (fun v hm => hread v (by simp [hm])) fuel (by simp only [List.map_cons]; omega)
      rw [List.map_cons] at hmore
      simp only [List.append_assoc, List.cons_append]
      rw [items?, hv level fuel _ (by omega) (EndsNumber.cons (by decide))]
      simp [skipBlanks_cons (show isBlank ',' = false by decide), items?_blanks (l.blank_line level), hmore]

/-- A member is read up to its value; what follows tells whether there are more. -/
theorem members?_member (l : Layout) (level : Nat) (text : List Char) {v : Json} (hread : Reads print v)
    (fuel : Nat) (rest after : List Char)
    (hfuel : 2 * (l.memberText (print level) (escape text, v)).length ≤ fuel) (hrest : EndsNumber rest) :
    (skipBlanks rest = '\x7d' :: after →
      members? (fuel + 1) (l.memberText (print level) (escape text, v) ++ rest) =
        some ([(escape text, v)], after)) ∧
    (skipBlanks rest = ',' :: after →
      members? (fuel + 1) (l.memberText (print level) (escape text, v) ++ rest) =
        (members? fuel after).map fun found => ((escape text, v) :: found.1, found.2)) := by
  simp only [Layout.memberText, List.length_cons, List.length_append] at hfuel
  have hv := hread level fuel rest (by omega) hrest
  simp only [Layout.memberText, List.cons_append, List.append_assoc]
  rw [members?, skipBlanks_cons (by decide)]
  simp only [stringBody?_escape, skipBlanks_cons (show isBlank ':' = false by decide),
    value?_blanks l.blank_gap, hv, Option.bind_eq_bind, Option.bind_some]
  constructor
  · intro hclose
    simp [hclose]
  · intro hcomma
    cases hmore : members? fuel after <;> simp [hcomma, hmore]

/-- Members are read one by one up to the closing brace. -/
theorem members?_separated (l : Layout) (level : Nat) {members : List (List Char × Json)} (hne : members ≠ [])
    (hkeys : ∀ m ∈ members, ∃ text, m.1 = escape text) (hread : ∀ m ∈ members, Reads print m.2)
    (fuel : Nat) (blanks rest : List Char)
    (hfuel : 2 * (separated (',' :: l.line level) (members.map (l.memberText (print level)))).length < fuel)
    (hb : ∀ c ∈ blanks, isBlank c = true) :
    members? fuel (separated (',' :: l.line level) (members.map (l.memberText (print level))) ++
        (blanks ++ '\x7d' :: rest)) =
      some (members, rest) := by
  induction members generalizing fuel with
  | nil => exact absurd rfl hne
  | cons m members ih =>
    obtain ⟨fuel, rfl⟩ : ∃ n, fuel = n + 1 := ⟨fuel - 1, by omega⟩
    obtain ⟨key, v⟩ := m
    obtain ⟨text, rfl⟩ := hkeys (key, v) (by simp)
    have hv : Reads print v := hread (escape text, v) (by simp)
    cases members with
    | nil =>
      simp only [List.map_cons, List.map_nil, separated] at hfuel ⊢
      refine (members?_member l level text hv fuel _ rest (by omega) ((EndsNumber.cons (by decide)).blanks hb)).1 ?_
      rw [skipBlanks_append hb, skipBlanks_cons (by decide)]
    | cons w members =>
      rw [List.map_cons, List.map_cons, separated_cons_cons] at hfuel ⊢
      simp only [List.length_append, List.length_cons] at hfuel
      have hmore := ih (by simp) (fun m hm => hkeys m (by simp [hm])) (fun m hm => hread m (by simp [hm])) fuel
        (by simp only [List.map_cons]; omega)
      rw [List.map_cons] at hmore
      simp only [List.append_assoc, List.cons_append]
      rw [(members?_member l level text hv fuel _ _ (by omega) (EndsNumber.cons (by decide))).2
        (skipBlanks_cons (by decide) _), members?_blanks (l.blank_line level), hmore]
      rfl

theorem Layout.Prints.reads_array (hp : l.Prints print) {items : List Json} (hc : ∀ v ∈ items, Canonical v)
    (ih : ∀ v ∈ items, Reads print v) : Reads print (.array items) := by
  refine hp.reads_of_succ (.array hc) ?_
  intro level fuel rest hfuel _
  cases items with
  | nil =>
    rw [hp.emptyArray, List.cons_append, value?, skipBlanks_cons (by decide)]
    rfl
  | cons v items =>
    have hne : v :: items ≠ [] := by simp
    rw [hp.array level _ hne, Layout.enclosed] at hfuel ⊢
    simp only [List.length_cons, List.length_append] at hfuel
    have hitems := items?_separated l (level + 1) hne ih fuel (l.line level) rest (by omega) (l.blank_line level)
    obtain ⟨c, s, hv, hblank, hclose⟩ := hp.head (hc v (by simp)) (level + 1)
    obtain ⟨s', hs⟩ := separated_head (',' :: l.line (level + 1)) c s (items.map (print (level + 1)))
    rw [List.map_cons, hv, hs] at hitems ⊢
    simp only [List.cons_append, List.append_assoc, List.nil_append] at hitems ⊢
    rw [value?, skipBlanks_cons (by decide)]
    simp only [skipBlanks_append (l.blank_line (level + 1)), skipBlanks_cons hblank]
    split
    · next heq => exact absurd (List.cons.inj heq).1 hclose
    · rw [hitems]
      rfl

theorem Layout.Prints.reads_object (hp : l.Prints print) {members : List (List Char × Json)}
    (hkeys : ∀ m ∈ members, ∃ text, m.1 = escape text) (hc : ∀ m ∈ members, Canonical m.2)
    (ih : ∀ m ∈ members, Reads print m.2) : Reads print (.object members) := by
  refine hp.reads_of_succ (.object hkeys hc) ?_
  intro level fuel rest hfuel _
  cases members with
  | nil =>
    rw [hp.emptyObject, List.cons_append, value?, skipBlanks_cons (by decide)]
    rfl
  | cons m members =>
    have hne : m :: members ≠ [] := by simp
    rw [hp.object level _ hne, Layout.enclosed] at hfuel ⊢
    simp only [List.length_cons, List.length_append] at hfuel
    have hmembers := members?_separated l (level + 1) hne hkeys ih fuel (l.line level) rest (by omega)
      (l.blank_line level)
    obtain ⟨s', hs⟩ := separated_head (',' :: l.line (level + 1)) '"' _
      (members.map (l.memberText (print (level + 1))))
    rw [List.map_cons, Layout.memberText, hs] at hmembers ⊢
    simp only [List.cons_append, List.append_assoc, List.nil_append] at hmembers ⊢
    rw [value?, skipBlanks_cons (by decide)]
    simp only [skipBlanks_append (l.blank_line (level + 1)), skipBlanks_cons (show isBlank '"' = false by decide)]
    simp [hmembers]

/-- Every printed value is read back. -/
theorem Layout.Prints.reads (hp : l.Prints print) {v : Json} (hv : Canonical v) : Reads print v := by
  induction hv with
  | null =>
    refine hp.reads_of_succ .null ?_
    intro level fuel rest _ _
    rw [hp.null, List.cons_append, value?, skipBlanks_cons (by decide)]
    rfl
  | bool b =>
    refine hp.reads_of_succ (.bool b) ?_
    intro level fuel rest _ _
    rw [hp.bool]
    cases b <;> rfl
  | ofNat n =>
    refine hp.reads_of_succ (.ofNat n) ?_
    intro level fuel rest _ hrest
    have hnumber := number?_toDigits n rest hrest
    have hdigit := isDigit_of_mem n
    rw [Json.ofNat, hp.number]
    cases hds : Nat.toDigits 10 n with
    | nil => exact absurd hds Nat.toDigits_ne_nil
    | cons d ds =>
      rw [hds, List.cons_append] at hnumber
      rw [List.cons_append, value?_of_digit (hdigit d (by simp [hds])), hnumber]
      rfl
  | string text =>
    refine hp.reads_of_succ (.string text) ?_
    intro level fuel rest _ _
    simp only [hp.string, quoted, List.cons_append, List.append_assoc, List.nil_append]
    rw [value?, skipBlanks_cons (by decide)]
    simp [stringBody?_escape]
  | array hc ih => exact hp.reads_array hc ih
  | object hkeys hc ih => exact hp.reads_object hkeys hc ih

/-- The text of a printed value stands for that value. -/
theorem Layout.Prints.parse? (hp : l.Prints print) {v : Json} (hv : Canonical v) (level : Nat) :
    Json.parse? (String.ofList (print level v)) = some v := by
  have h := hp.reads hv level (2 * (print level v).length + 2) [] (by omega) EndsNumber.nil
  rw [List.append_nil] at h
  rw [Json.parse?, String.toList_ofList, h]
  rfl

end reading

def Layout.dense : Layout where
  line _ := []
  gap := []
  blank_line _ := by simp
  blank_gap := by simp

def Layout.indented : Layout where
  line := newline
  gap := [' ']
  blank_line level := by
    intro c hc
    rcases List.mem_cons.mp hc with rfl | hc
    · rfl
    · rw [(List.mem_replicate.mp hc).2]
      rfl
  blank_gap := by simp [isBlank]

theorem compactItems_eq_map (items : List Json) : compactItems items = items.map compact := by
  induction items with
  | nil => rfl
  | cons v items ih => rw [compactItems, ih, List.map_cons]

theorem compactMembers_eq_map (members : List (List Char × Json)) :
    compactMembers members = members.map (Layout.dense.memberText compact) := by
  induction members with
  | nil => rfl
  | cons m members ih =>
    rw [compactMembers, ih, List.map_cons]
    simp [Layout.memberText, Layout.dense, quoted]

theorem prettyItems_eq_map (level : Nat) (items : List Json) :
    prettyItems level items = items.map (prettyAt level) := by
  induction items with
  | nil => rfl
  | cons v items ih => rw [prettyItems, ih, List.map_cons]

theorem prettyMembers_eq_map (level : Nat) (members : List (List Char × Json)) :
    prettyMembers level members = members.map (Layout.indented.memberText (prettyAt level)) := by
  induction members with
  | nil => rfl
  | cons m members ih =>
    rw [prettyMembers, ih, List.map_cons]
    simp [Layout.memberText, Layout.indented, quoted]

theorem prints_compact : Layout.dense.Prints fun _ => compact where
  null _ := rfl
  bool _ _ := rfl
  number _ _ := rfl
  string _ _ := rfl
  emptyArray _ := rfl
  array _ items _ := by simp [compact, compactItems_eq_map, Layout.enclosed, Layout.dense]
  emptyObject _ := rfl
  object _ members _ := by simp [compact, compactMembers_eq_map, Layout.enclosed, Layout.dense]

theorem prints_pretty : Layout.indented.Prints prettyAt where
  null _ := by rw [prettyAt]
  bool _ _ := by rw [prettyAt]
  number _ _ := by rw [prettyAt]
  string _ _ := by rw [prettyAt]
  emptyArray _ := by rw [prettyAt]
  array level items hne := by
    cases items with
    | nil => exact absurd rfl hne
    | cons v items => simp [prettyAt, prettyItems_eq_map, Layout.enclosed, Layout.indented]
  emptyObject _ := by rw [prettyAt]
  object level members hne := by
    cases members with
    | nil => exact absurd rfl hne
    | cons m members => simp [prettyAt, prettyMembers_eq_map, Layout.enclosed, Layout.indented]

/-- A list that is written item by item is read item by item. -/
theorem mapM_map_eq_some {α β γ : Type} (read? : β → Option γ) (write : α → β) (result : α → γ) (items : List α)
    (hread : ∀ a ∈ items, read? (write a) = some (result a)) :
    (items.map write).mapM read? = some (items.map result) := by
  induction items with
  | nil => rfl
  | cons a items ih =>
    rw [List.map_cons, List.mapM_cons, hread a (by simp), ih fun b hb => hread b (by simp [hb])]
    rfl

/-- A list is read back when each of its items is. -/
theorem mapM_map_of_mem {α β : Type} (read? : β → Option α) (write : α → β) (items : List α)
    (hread : ∀ a ∈ items, read? (write a) = some a) : (items.map write).mapM read? = some items := by
  rw [mapM_map_eq_some read? write id items hread, List.map_id]

theorem mapM_map_of_reads {α β : Type} (read? : β → Option α) (write : α → β)
    (hread : ∀ a, read? (write a) = some a) (items : List α) : (items.map write).mapM read? = some items :=
  mapM_map_of_mem read? write items fun a _ => hread a

/-- The names of the fields of a record are read back. -/
theorem texts?_fields (fields : List (String × Json)) :
    texts? (fields.map fun field => (escape field.1.toList, field.2)) = some fields :=
  mapM_map_of_reads _ _ (by simp) fields

theorem canonical_record {fields : List (String × Json)} (hc : ∀ field ∈ fields, field.2.Canonical) :
    (record fields).Canonical := by
  refine .object ?_ ?_
  · intro m hm
    obtain ⟨field, -, rfl⟩ := List.mem_map.mp hm
    exact ⟨field.1.toList, rfl⟩
  · intro m hm
    obtain ⟨field, hfield, rfl⟩ := List.mem_map.mp hm
    exact hc field hfield

section stores

variable {α β : Type} {cmp : α → α → Ordering} [Std.TransCmp cmp] [Std.LawfulEqCmp cmp] [BEq α] [LawfulBEq α]

/-- The entries of a map make up the map. -/
theorem ofList_toList (m : Std.ExtTreeMap α β cmp) : Std.ExtTreeMap.ofList m.toList cmp = m := by
  apply Std.ExtTreeMap.ext_getElem?
  intro key
  cases hm : m[key]? with
  | none =>
    rw [Std.ExtTreeMap.getElem?_ofList_of_contains_eq_false]
    simpa using hm
  | some v =>
    exact Std.ExtTreeMap.getElem?_ofList_of_mem (by simp) Std.ExtTreeMap.distinct_keys_toList
      (Std.ExtTreeMap.mem_toList_iff_getElem?_eq_some.mpr hm)

/-- The members of a set make up the set. -/
theorem ofList_toList_set (m : Std.ExtTreeSet α cmp) : Std.ExtTreeSet.ofList m.toList cmp = m := by
  apply Std.ExtTreeSet.ext_mem
  intro key
  rw [Std.ExtTreeSet.mem_ofList, List.contains_iff_mem, Std.ExtTreeSet.mem_toList]

end stores

/-- Text without blanks is read back. -/
theorem parse?_write {v : Json} (hv : Canonical v) : parse? v.write = some v :=
  prints_compact.parse? hv 0

/-- Indented text is read back. -/
theorem parse?_pretty {v : Json} (hv : Canonical v) : parse? v.pretty = some v :=
  prints_pretty.parse? hv 0

end FlowGuard.Json
