import Concordance.Json.Read
import Concordance.Json.Write
import Concordance.Registry
import Concordance.Settings.Basic

/-!
# The JSON forms of the library's values

Each value has one form. Reading a form is strict on what it asks for and indifferent to the rest:
every field must be there once, other fields are passed over, and of several values under one key of
a map the last one counts. A record may also be given as the list of its fields in order. Document
numbers are written as numbers, and as keys between quotes.

Model of the derived JSON forms of `InvertedIndex`, `Registry`, `SearchHit` and `Settings`.
-/

namespace Concordance

namespace Json

/-- The values of the fields of a record, in the order of their names. -/
def Value.record? (names : List Text) : Value → Option (List Value)
  | .arr items => if items.length = names.length then some items else none
  | .obj members => do
    let members ← members.mapM fun (key, v) => (unescape? key).map (·, v)
    names.mapM fun name =>
      match members.filter (·.1 = name) with
      | [(_, v)] => some v
      | _ => none
  | _ => none

/-- The members of a map, their keys as spelled. -/
def Value.members? : Value → Option (List (Text × Value))
  | .obj members => some members
  | _ => none

/-- The items of a list. -/
def Value.items? : Value → Option (List Value)
  | .arr items => some items
  | _ => none

/-- The text that a string denotes. -/
def Value.text? : Value → Option Text
  | .str spelled => unescape? spelled
  | _ => none

/-- The document of a number without sign, fraction or exponent. -/
def Value.docId? : Value → Option DocId
  | .num spelled => (Text.ofDigits? spelled).bind DocId.ofNat?
  | _ => none

/-- The document of a key that spells its number. -/
def docIdOfKey? (key : Text) : Option DocId :=
  if isPlainNumber key then (Text.ofDigits? key).bind DocId.ofNat? else none

/-- The value of a document number. -/
def Value.ofDocId (d : DocId) : Value := .ofNat d.toNat

end Json

open Json

/-- The index that a value is the form of. -/
def Index.ofJson? (v : Json.Value) : Option Index := do
  let [words] ← v.record? ["postings".toList] | none
  let entries ← (← words.members?).mapM fun (key, v) => do
    let ids ← (← v.items?).mapM Json.Value.docId?
    return (← unescape? key, AscSet.ofList ids)
  return .ofList entries

/-- The form of an index. -/
def Index.toJson (x : Index) : Json.Value :=
  .obj [("postings".toList, .obj (x.toList.map fun (w, ds) =>
    (escape w, .arr (ds.toList.map Json.Value.ofDocId))))]

/-- The registry that a value is the form of. -/
def Registry.ofJson? (v : Json.Value) : Option Registry := do
  let [urls] ← v.record? ["urls".toList] | none
  let entries ← (← urls.members?).mapM fun (key, v) => do
    return (← docIdOfKey? key, ← v.text?)
  return .ofList entries

/-- The form of a registry. -/
def Registry.toJson (r : Registry) : Json.Value :=
  .obj [("urls".toList, .obj (r.toList.map fun (d, url) => (d.toText, .ofText url)))]

/-- The hit that a value is the form of. -/
def Hit.ofJson? (v : Json.Value) : Option Hit := do
  let [doc, url] ← v.record? ["doc_id".toList, "url".toList] | none
  return ⟨← doc.docId?, ← url.text?⟩

/-- The form of a hit. -/
def Hit.toJson (h : Hit) : Json.Value :=
  .obj [("doc_id".toList, .ofDocId h.doc), ("url".toList, .ofText h.url)]

/-- The settings that a value is the form of. -/
def Settings.ofJson? (v : Json.Value) : Option Settings := do
  let [table] ← v.record? [tableKey] | none
  let values ← (← table.record? keys).mapM Json.Value.text?
  ofValues? values

/-- The form of settings. -/
def Settings.toJson (s : Settings) : Json.Value :=
  .obj [(tableKey, .obj (keys.zip (s.values.map Json.Value.ofText)))]

end Concordance
