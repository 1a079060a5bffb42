import FlowGuard.Proofs.Effects
import FlowGuard.Proofs.Json.RoundTrip
import FlowGuard.Run.Codecs

/-!
Results and settings of a run as JSON text, read back. For each type the text that is written for a value stands for
that value again, and a text that was written by anyone else stands for a value that survives being written and
read. The only values without a text of their own are those with a count of 2^64 or more, and no text stands for
such a value either.
-/

namespace FlowGuard

open Std (ExtTreeMap ExtTreeSet)

namespace Json

theorem escapeChar_of_isDigit {c : Char} (hc : c.isDigit = true) : escapeChar c = [c] := by
  rcases escapeChar_cases c with ⟨e, -, -, he⟩ | ⟨a, b, -, -, hlow⟩ | ⟨hplain, -⟩
  · unfold simpleEscape? at he
    split at he <;> cases he <;> cases hc
  · have hhigh : '0'.toNat ≤ c.toNat := (Char.isDigit_iff_toNat.mp hc).1
    have hzero : '0'.toNat = 48 := rfl
    omega
  · exact hplain

/-- Digits need no escapes. -/
theorem escape_toDigits (n : Nat) : escape (Nat.toDigits 10 n) = Nat.toDigits 10 n := by
  have hplain : ∀ ds : List Char, (∀ c ∈ ds, c.isDigit = true) → ds.flatMap escapeChar = ds := by
    intro ds hds
    induction ds with
    | nil => rfl
    | cons c ds ih =>
      rw [List.flatMap_cons, escapeChar_of_isDigit (hds c (by simp)), ih fun d hd => hds d (by simp [hd])]
      rfl
  exact hplain _ (isDigit_of_mem n)

theorem canonical_ofWord (w : UInt64) : (ofWord w).Canonical :=
  .ofNat _

theorem canonical_ofString (s : String) : (ofString s).Canonical :=
  .string _

theorem canonical_array {α : Type} {write : α → Json} (hc : ∀ a, (write a).Canonical) (items : List α) :
    (array (items.map write)).Canonical := by
  refine .array ?_
  intro v hv
  obtain ⟨a, -, rfl⟩ := List.mem_map.mp hv
  exact hc a

theorem canonical_addressed {β : Type} {write : β → Json} (hc : ∀ b, (write b).Canonical) (m : ExtTreeMap Address β) :
    (numbered (m.toList.map fun e => (e.1.toNat, write e.2))).Canonical := by
  refine .object ?_ ?_
  · intro member hm
    obtain ⟨e, -, rfl⟩ := List.mem_map.mp hm
    exact ⟨_, (escape_toDigits e.1).symm⟩
  · intro member hm
    obtain ⟨e, he, rfl⟩ := List.mem_map.mp hm
    obtain ⟨a, -, rfl⟩ := List.mem_map.mp he
    exact hc a.2

theorem filter_name_eq {fields : List (String × Json)} (hnames : (fields.map Prod.fst).Nodup)
    {field : String × Json} (hmem : field ∈ fields) : fields.filter (fun m => m.1 = field.1) = [field] := by
  induction fields with
  | nil => cases hmem
  | cons first fields ih =>
    rw [List.map_cons, List.nodup_cons] at hnames
    rcases List.mem_cons.mp hmem with rfl | hmem
    · have hnone : fields.filter (fun m => m.1 = field.1) = [] := by
        rw [List.filter_eq_nil_iff]
        intro m hm hname
        exact hnames.1 (List.mem_map.mpr ⟨m, hm, of_decide_eq_true hname⟩)
      rw [List.filter_cons_of_pos (by simp), hnone]
    · have hother : first.1 ≠ field.1 := fun he => hnames.1 (he ▸ List.mem_map_of_mem hmem)
      rw [List.filter_cons_of_neg (by simpa using hother), ih hnames.2 hmem]

/-- The fields of a record are found by their names. -/
theorem fields?_record (fields : List (String × Json)) (hnames : (fields.map Prod.fst).Nodup) :
    fields? (fields.map Prod.fst) (record fields) = some (fields.map Prod.snd) := by
  have hfound : ∀ field ∈ fields, onlyMember? fields field.1 = some field.2 := by
    intro field hfield
    rw [onlyMember?, filter_name_eq hnames hfield]
  have htexts := texts?_fields fields
  simp only [fields?, record, Option.bind_eq_bind]
  rw [htexts, Option.bind_some]
  exact mapM_map_eq_some _ _ _ fields hfound

theorem count?_ofNat {n : Nat} (hn : n < spaceSize) : (ofNat n).count? = some n :=
  naturalBelow?_ofNat hn

@[simp] theorem word?_ofWord (w : UInt64) : (ofWord w).word? = some w := by
  have hlt : w.toNat < spaceSize := w.toNat_lt_size
  rw [word?, ofWord, naturalBelow?_ofNat hlt, Option.map_some, UInt64.ofNat_toNat]

@[simp] theorem text?_ofString (s : String) : (ofString s).text? = some s := by
  simp [text?, ofString]

@[simp] theorem variant?_ofString (s : String) : (ofString s).variant? = some s := by
  simp [variant?, ofString]

/-- An object of numbered entries is read back when its keys are below the bound. -/
theorem numbered?_numbered {bound : Nat} {entries : List (Nat × Json)} (hkeys : ∀ e ∈ entries, e.1 < bound) :
    numbered? bound (numbered entries) = some entries := by
  refine mapM_map_of_mem _ _ entries ?_
  intro e he
  simp [Option.filter, hkeys e he]

/-- A map from addresses is read back when its values are: first its keys, then the values. -/
theorem addressed_reads {β : Type} (read? : Json → Option β) (write : β → Json) (m : ExtTreeMap Address β)
    (hread : ∀ (a : Address) (b : β), m[a]? = some b → read? (write b) = some b) :
    let entries := m.toList.map fun e => (e.1.toNat, write e.2)
    numbered? spaceSize (numbered entries) = some entries ∧
      entries.mapM (fun e => (read? e.2).bind fun b => some (UInt64.ofNat e.1, b)) = some m.toList := by
  intro entries
  constructor
  · apply numbered?_numbered
    intro e he
    obtain ⟨e, -, rfl⟩ := List.mem_map.mp he
    exact e.1.toNat_lt_size
  · refine mapM_map_of_mem _ _ m.toList ?_
    rintro ⟨a, b⟩ he
    simp [hread a b (ExtTreeMap.mem_toList_iff_getElem?_eq_some.mp he)]

theorem exists_of_mem_mapM {β γ : Type} {f : β → Option γ} {l : List β} {out : List γ} (h : l.mapM f = some out)
    {c : γ} (hc : c ∈ out) : ∃ b ∈ l, f b = some c := by
  induction l generalizing out with
  | nil =>
    obtain rfl : [] = out := by simpa using h
    cases hc
  | cons b l ih =>
    rw [List.mapM_cons] at h
    obtain ⟨first, hfirst, h⟩ := Option.bind_eq_some_iff.mp h
    obtain ⟨rest, hrest, h⟩ := Option.bind_eq_some_iff.mp h
    obtain rfl : first :: rest = out := by simpa using h
    rcases List.mem_cons.mp hc with rfl | hc
    · exact ⟨b, by simp, hfirst⟩
    · obtain ⟨b', hb', hf⟩ := ih hrest hc
      exact ⟨b', by simp [hb'], hf⟩

theorem mem_of_getElem?_ofList {β : Type} {l : List (Address × β)} {a : Address} {b : β}
    (h : (ExtTreeMap.ofList l)[a]? = some b) : (a, b) ∈ l := by
  rw [ExtTreeMap.ofList_eq_foldl] at h
  exact (mem_of_getElem?_foldl_insert l ∅ a b h).resolve_right (by simp)

theorem canonical_pair (p : Address × Address) : (array [ofWord p.1, ofWord p.2]).Canonical :=
  .array (by simp [canonical_ofWord])

theorem pair?_write (p : Address × Address) : pair? (.array [ofWord p.1, ofWord p.2]) = some p := by
  simp [pair?, elements?]

end Json

structure RunResult.Fits (r : RunResult) : Prop where
  found : r.found < spaceSize
  marked : r.marked < spaceSize
  xrefs : r.xrefs < spaceSize
  comments : r.comments < spaceSize
  warnings : r.warnings < spaceSize

structure DecodedTable.Fits (t : DecodedTable) : Prop where
  marked : t.marked < spaceSize
  warnings : t.warnings < spaceSize

structure Annotations.Fits (s : Annotations) : Prop where
  marks : ∀ (a : Address) (size : Nat), s.marks[a]? = some size → size < spaceSize
  xrefCalls : s.xrefCalls < spaceSize
  commentCalls : s.commentCalls < spaceSize

namespace JsonCodec

/-- What a type has to keep for its texts to be read back. Writing uses only literals that come from texts and numbers,
reading undoes writing for the values that fit, and reading gives no other ones. -/
structure Lawful (α : Type) [JsonCodec α] (Fits : α → Prop) : Prop where
  canonical : ∀ a : α, (toJson a).Canonical
  ofJson?_toJson : ∀ a : α, Fits a → ofJson? (toJson a) = some a
  fits : ∀ (v : Json) (a : α), ofJson? v = some a → Fits a

/-- The values that fit are those whose text is read back, with blanks and without. Whatever text a value was read
from, it survives being written and read. -/
structure ReadsBack (α : Type) [JsonCodec α] (Fits : α → Prop) : Prop where
  read?_write : ∀ a : α, read? α (write a) = some a ↔ Fits a
  read?_pretty : ∀ a : α, Fits a → read? α (toJson a).pretty = some a
  read?_again : ∀ (text : String) (a : α), read? α text = some a → read? α (write a) = some a

variable {α : Type} [JsonCodec α] {Fits : α → Prop}

theorem Lawful.readsBack (h : Lawful α Fits) : ReadsBack α Fits := by
  have hwrite : ∀ a, Fits a → read? α (write a) = some a := by
    intro a ha
    rw [read?, write, Json.parse?_write (h.canonical a)]
    exact h.ofJson?_toJson a ha
  have hfits : ∀ (text : String) (a : α), read? α text = some a → Fits a := by
    intro text a hread
    obtain ⟨v, -, hv⟩ := Option.bind_eq_some_iff.mp hread
    exact h.fits v a hv
  refine ⟨fun a => ⟨hfits _ a, hwrite a⟩, ?_, fun text a hread => hwrite a (hfits text a hread)⟩
  intro a ha
  rw [read?, Json.parse?_pretty (h.canonical a)]
  exact h.ofJson?_toJson a ha

/-- A record keeps the laws if its fields are read back. The names and what is made of the fields are those of the
codec. -/
theorem lawful_record {names : List String} {values : α → List (String × Json)} {build : List Json → Option α}
    (htoJson : ∀ a, toJson a = Json.record (values a)) (hofJson? : ∀ v, ofJson? v = Json.fields? names v >>= build)
    (hnames : names.Nodup) (hnamed : ∀ a, (values a).map Prod.fst = names)
    (hcanonical : ∀ a, ∀ field ∈ values a, field.2.Canonical)
    (hbuild : ∀ a, Fits a → build ((values a).map Prod.snd) = some a)
    (hfits : ∀ vs a, build vs = some a → Fits a) : Lawful α Fits where
  canonical a := by
    rw [htoJson]
    exact Json.canonical_record (hcanonical a)
  ofJson?_toJson a ha := by
    have hfields := Json.fields?_record (values a) (hnamed a ▸ hnames)
    rw [hnamed] at hfields
    rw [htoJson, hofJson?, hfields]
    exact hbuild a ha
  fits v a h := by
    rw [hofJson?] at h
    obtain ⟨vs, -, hvs⟩ := Option.bind_eq_some_iff.mp h
    exact hfits vs a hvs

theorem lawful_loadedModule : Lawful LoadedModule fun _ => True := by
  refine lawful_record (fun _ => rfl) (fun _ => rfl) (by decide) (fun _ => rfl) ?_ ?_ fun _ _ _ => trivial
  · simp [Json.canonical_ofWord]
  · simp

theorem lawful_entry : Lawful Entry fun _ => True := by
  refine lawful_record (fun _ => rfl) (fun _ => rfl) (by decide) (fun _ => rfl) ?_ ?_ fun _ _ _ => trivial
  · simp [Json.canonical_ofWord]
  · simp

theorem lawful_guardBlock : Lawful GuardBlock fun _ => True := by
  refine lawful_record (fun _ => rfl) (fun _ => rfl) (by decide) (fun _ => rfl) ?_ ?_ fun _ _ _ => trivial
  · simp [Json.canonical_ofWord, Json.Canonical.ofNat]
  · intro b _
    have hflags := Json.naturalBelow?_ofNat b.flags.toNat_lt_size
    simp [hflags]

theorem lawful_config : Lawful Config fun _ => True := by
  refine lawful_record (fun _ => rfl) (fun _ => rfl) (by decide) (fun _ => rfl) ?_ ?_ fun _ _ _ => trivial
  · simp [Json.Canonical.bool]
  · simp [Json.bool?]

theorem lawful_runResult : Lawful RunResult RunResult.Fits := by
  refine lawful_record (fun _ => rfl) (fun _ => rfl) (by decide) (fun _ => rfl) ?_ ?_ ?_
  · simp [Json.Canonical.ofNat]
  · intro r hr
    simp [Json.count?_ofNat hr.found, Json.count?_ofNat hr.marked, Json.count?_ofNat hr.xrefs,
      Json.count?_ofNat hr.comments, Json.count?_ofNat hr.warnings]
  · intro vs r h
    split at h
    · simp only [Option.bind_eq_bind, Option.bind_eq_some_iff, Option.pure_def, Option.some.injEq] at h
      obtain ⟨_, hfound, _, hmarked, _, hxrefs, _, hcomments, _, hwarnings, rfl⟩ := h
      exact ⟨Json.lt_of_naturalBelow? hfound, Json.lt_of_naturalBelow? hmarked, Json.lt_of_naturalBelow? hxrefs,
        Json.lt_of_naturalBelow? hcomments, Json.lt_of_naturalBelow? hwarnings⟩
    · cases h

theorem lawful_decodedTable : Lawful DecodedTable DecodedTable.Fits := by
  refine lawful_record (fun _ => rfl) (fun _ => rfl) (by decide) (fun _ => rfl) ?_ ?_ ?_
  · intro t
    have hentries := Json.canonical_array lawful_entry.canonical t.entries
    simp [hentries, Json.Canonical.ofNat]
  · intro t ht
    have hentries := Json.mapM_map_of_reads (ofJson? : Json → Option Entry) toJson
      (fun e => lawful_entry.ofJson?_toJson e trivial) t.entries
    simp [Json.elements?, hentries, Json.count?_ofNat ht.marked, Json.count?_ofNat ht.warnings]
  · intro vs t h
    split at h
    · simp only [Option.bind_eq_bind, Option.bind_eq_some_iff, Option.pure_def, Option.some.injEq] at h
      obtain ⟨_, -, _, -, _, hmarked, _, hwarnings, rfl⟩ := h
      exact ⟨Json.lt_of_naturalBelow? hmarked, Json.lt_of_naturalBelow? hwarnings⟩
    · cases h

theorem lawful_annotations : Lawful Annotations Annotations.Fits := by
  refine lawful_record (fun _ => rfl) (fun _ => rfl) (by decide) (fun _ => rfl) ?_ ?_ ?_
  · intro s
    have hxrefs := Json.canonical_array Json.canonical_pair s.xrefs.toList
    have hcomments := Json.canonical_addressed Json.canonical_ofString s.comments
    have hmarks := Json.canonical_addressed Json.Canonical.ofNat s.marks
    simp [hxrefs, hcomments, hmarks, Json.Canonical.ofNat]
  · intro s hs
    have hxrefs := Json.mapM_map_of_reads Json.pair? _ Json.pair?_write s.xrefs.toList
    obtain ⟨hkeys, htexts⟩ := Json.addressed_reads Json.text? Json.ofString s.comments (by simp)
    obtain ⟨hkeys', hsizes⟩ := Json.addressed_reads Json.count? Json.ofNat s.marks
      fun a n h => Json.count?_ofNat (hs.marks a n h)
    simp [Json.elements?, hxrefs, hkeys, htexts, hkeys', hsizes, Json.ofList_toList, Json.ofList_toList_set,
      Json.count?_ofNat hs.xrefCalls, Json.count?_ofNat hs.commentCalls]
  · intro vs s h
    split at h
    · simp only [Option.bind_eq_bind, Option.bind_eq_some_iff, Option.pure_def, Option.some.injEq] at h
      obtain ⟨_, -, _, -, _, -, _, -, _, -, marks, hmarks, _, hxrefCalls, _, hcommentCalls, rfl⟩ := h
      refine ⟨?_, Json.lt_of_naturalBelow? hxrefCalls, Json.lt_of_naturalBelow? hcommentCalls⟩
      -- a size that is found in the map was read with one of its entries
      intro a size hsize
      obtain ⟨e, -, he⟩ := Json.exists_of_mem_mapM hmarks (Json.mem_of_getElem?_ofList hsize)
      obtain ⟨n, hn, heq⟩ := Option.bind_eq_some_iff.mp he
      obtain ⟨-, rfl⟩ := Prod.mk.inj (Option.some.inj heq)
      exact Json.lt_of_naturalBelow? hn
    · cases h

theorem lawful_width : Lawful Width fun _ => True where
  canonical w := by cases w <;> exact Json.canonical_ofString _
  ofJson?_toJson w _ := by cases w <;> simp [ofJson?, toJson]
  fits _ _ _ := trivial

theorem lawful_menuEntry : Lawful MenuEntry fun _ => True where
  canonical e := Json.canonical_ofString e.name
  ofJson?_toJson e _ := by
    have hfind : MenuEntry.all.find? (fun e' => e'.name = e.name) = some e := by cases e <;> decide
    simp [ofJson?, toJson, hfind]
  fits _ _ _ := trivial

/-- The texts of results and settings are read back as the values that they were written for, and reading a text,
writing the value and reading again changes nothing. -/
theorem texts_read_back :
    ReadsBack Annotations Annotations.Fits ∧ ReadsBack DecodedTable DecodedTable.Fits ∧
      ReadsBack Entry (fun _ => True) ∧ ReadsBack RunResult RunResult.Fits ∧ ReadsBack GuardBlock (fun _ => True) ∧
      ReadsBack LoadedModule (fun _ => True) ∧ ReadsBack Config (fun _ => True) ∧ ReadsBack Width (fun _ => True) ∧
      ReadsBack MenuEntry (fun _ => True) :=
  ⟨lawful_annotations.readsBack, lawful_decodedTable.readsBack, lawful_entry.readsBack, lawful_runResult.readsBack,
    lawful_guardBlock.readsBack, lawful_loadedModule.readsBack, lawful_config.readsBack, lawful_width.readsBack,
    lawful_menuEntry.readsBack⟩

/-- The last address, the largest size and a comment of a quote, a backslash, a control character and a letter outside
the first plane are read back. A counter that is one too large is not. -/
theorem texts_read_back_extreme :
    let s : Annotations := {
      xrefs := ExtTreeSet.ofList [(0xFFFFFFFFFFFFFFFF, 0)] xrefOrder
      comments := ExtTreeMap.ofList [((0xFFFFFFFFFFFFFFFF : Address), "\"\\\x01𝔄")]
      marks := ExtTreeMap.ofList [((0 : Address), spaceSize - 1)]
      xrefCalls := spaceSize - 1
      commentCalls := 1 }
    read? Annotations (write s) = some s ∧
      read? Annotations (write { s with commentCalls := spaceSize }) ≠ some { s with commentCalls := spaceSize } := by
  intro s
  have hmarks : ∀ (a : Address) (size : Nat), s.marks[a]? = some size → size < spaceSize := by
    intro a size hsize
    have hmem := Json.mem_of_getElem?_ofList hsize
    obtain ⟨-, rfl⟩ := Prod.mk.inj (List.mem_singleton.mp hmem)
    decide
  obtain ⟨hannotations, -⟩ := texts_read_back
  refine ⟨(hannotations.read?_write s).mpr ⟨hmarks, by decide, by decide⟩, ?_⟩
  intro hread
  exact Nat.lt_irrefl _ ((hannotations.read?_write _).mp hread).commentCalls

end JsonCodec

end FlowGuard
