import FlowGuard.Json.Codec
import FlowGuard.Plugin.Menu

/-!
The JSON forms of the results and settings of a run. Counts and sizes are read below 2^64.
-/

namespace FlowGuard

open Std (ExtTreeMap ExtTreeSet)

def Json.count? : Json → Option Nat :=
  Json.naturalBelow? spaceSize

def Json.word? (v : Json) : Option UInt64 :=
  (Json.naturalBelow? spaceSize v).map UInt64.ofNat

def Json.ofWord (w : UInt64) : Json :=
  Json.ofNat w.toNat

instance : JsonCodec LoadedModule where
  toJson m := Json.record [("base", Json.ofWord m.base), ("size", Json.ofWord m.size)]
  ofJson? v := do
    match ← Json.fields? ["base", "size"] v with
    | [base, size] => return { base := ← base.word?, size := ← size.word? }
    | _ => none

instance : JsonCodec Entry where
  toJson e := Json.record [("address", Json.ofWord e.address)]
  ofJson? v := do
    match ← Json.fields? ["address"] v with
    | [address] => return { address := ← address.word? }
    | _ => none

instance : JsonCodec DecodedTable where
  toJson t := Json.record [("entries", .array (t.entries.map JsonCodec.toJson)),
    ("marked", Json.ofNat t.marked), ("warnings", Json.ofNat t.warnings)]
  ofJson? v := do
    match ← Json.fields? ["entries", "marked", "warnings"] v with
    | [entries, marked, warnings] =>
      let entries ← (← entries.elements?).mapM JsonCodec.ofJson?
      return { entries, marked := ← marked.count?, warnings := ← warnings.count? }
    | _ => none

instance : JsonCodec RunResult where
  toJson r := Json.record [("entries_found", Json.ofNat r.found), ("entries_marked", Json.ofNat r.marked),
    ("xref_count", Json.ofNat r.xrefs), ("comment_count", Json.ofNat r.comments),
    ("warning_count", Json.ofNat r.warnings)]
  ofJson? v := do
    match ← Json.fields?
      ["entries_found", "entries_marked", "xref_count", "comment_count", "warning_count"] v with
    | [found, marked, xrefs, comments, warnings] =>
      return {
        found := ← found.count?
        marked := ← marked.count?
        xrefs := ← xrefs.count?
        comments := ← comments.count?
        warnings := ← warnings.count? }
    | _ => none

instance : JsonCodec GuardBlock where
  toJson b := Json.record [("guard_cf_check_function_pointer", Json.ofWord b.checkPointer),
    ("guard_cf_dispatch_function_pointer", Json.ofWord b.dispatchPointer),
    ("guard_cf_function_table", Json.ofWord b.table), ("guard_cf_function_count", Json.ofWord b.count),
    ("guard_flags", Json.ofNat b.flags.toNat)]
  ofJson? v := do
    match ← Json.fields? ["guard_cf_check_function_pointer", "guard_cf_dispatch_function_pointer",
      "guard_cf_function_table", "guard_cf_function_count", "guard_flags"] v with
    | [check, dispatch, table, count, flags] =>
      return {
        checkPointer := ← check.word?
        dispatchPointer := ← dispatch.word?
        table := ← table.word?
        count := ← count.word?
        flags := UInt32.ofNat (← Json.naturalBelow? UInt32.size flags) }
    | _ => none

instance : JsonCodec Config where
  toJson c := Json.record [("add_xrefs", .bool c.xrefs), ("add_comments", .bool c.comments)]
  ofJson? v := do
    match ← Json.fields? ["add_xrefs", "add_comments"] v with
    | [xrefs, comments] => return { xrefs := ← xrefs.bool?, comments := ← comments.bool? }
    | _ => none

instance : JsonCodec Width where
  toJson
    | .bits32 => Json.ofString "Bits32"
    | .bits64 => Json.ofString "Bits64"
  ofJson? v := do
    match ← v.variant? with
    | "Bits32" => return .bits32
    | "Bits64" => return .bits64
    | _ => none

instance : JsonCodec MenuEntry where
  toJson e := Json.ofString e.name
  ofJson? v := do
    let name ← v.variant?
    MenuEntry.all.find? fun e => e.name = name

def Json.pair? (v : Json) : Option (Address × Address) := do
  match ← v.elements? with
  | [source, target] => return (← source.word?, ← target.word?)
  | _ => none

instance : JsonCodec Annotations where
  toJson s := Json.record [
    ("xrefs", .array (s.xrefs.toList.map fun (a, b) => .array [Json.ofWord a, Json.ofWord b])),
    ("comments", Json.numbered (s.comments.toList.map fun (a, t) => (a.toNat, Json.ofString t))),
    ("data_marks", Json.numbered (s.marks.toList.map fun (a, n) => (a.toNat, Json.ofNat n))),
    ("xref_calls", Json.ofNat s.xrefCalls), ("comment_calls", Json.ofNat s.commentCalls)]
  ofJson? v := do
    match ← Json.fields? ["xrefs", "comments", "data_marks", "xref_calls", "comment_calls"] v with
    | [xrefs, comments, marks, xrefCalls, commentCalls] =>
      let xrefs ← (← xrefs.elements?).mapM Json.pair?
      let comments ← (← Json.numbered? spaceSize comments).mapM fun (a, t) => do
        return (UInt64.ofNat a, ← t.text?)
      let marks ← (← Json.numbered? spaceSize marks).mapM fun (a, n) => do
        return (UInt64.ofNat a, ← n.count?)
      return {
        xrefs := ExtTreeSet.ofList xrefs xrefOrder
        comments := ExtTreeMap.ofList comments
        marks := ExtTreeMap.ofList marks
        xrefCalls := ← xrefCalls.count?
        commentCalls := ← commentCalls.count? }
    | _ => none

end FlowGuard
