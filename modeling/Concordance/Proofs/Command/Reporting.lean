import Concordance.Collection
import Concordance.Command.Report
import Concordance.Proofs.Json.RoundTrip
import Concordance.Proofs.Registry.Reading

/-!
# Reading hits off a report

What a search shows can be read back by whoever is at the other end, whatever the query and the
addresses are. Lines of text are read by passing over the line that announces the number of hits,
dropping the two spaces before a hit and cutting at the first tab (`readText?`); the other format is
read as one JSON document (`readJson?`).

An address may have tabs and carriage returns inside, and it may be empty. Lines of text give the
hits back all the same, because the number before the first tab is of digits alone, and because no
address has a line feed that was read from the lines of a registry (`not_mem_url`). JSON needs no
such condition, since line feeds are escaped in it.

The report is that of `print_hits`, of what `search_hits` finds.

* **`readText?_textReport`**, **`readJson?_jsonReport`**: what a report of any hits says.
* **`hits_reported`**: what a search reports.

Out of scope: a report that is cut off because its output is refused.
-/

namespace Concordance

namespace Command

open Json (Value)

variable {t q : Text} {h : Hit} {hits : List Hit} {c : Collection}

/-! ## Readers -/

/-- The number of hits that the line before them announces. -/
def announced? (line : Text) : Option Nat := do
  let (number, what) ← Text.cutAt (· == ' ') (← Text.dropLead "Found ".toList line)
  if what = "documents".toList then Text.ofDigits? number else none

/-- The hit on a line: after two spaces its document, and after the first tab its address. -/
def hitOfLine? (line : Text) : Option Hit := do
  let (doc, url) ← Text.cutAt (· == '\t') (← Text.dropLead "  ".toList line)
  return ⟨← DocId.ofText? doc, url⟩

/-- What lines of text report: the number of hits that is announced, and the hits on the lines after
that. -/
def readText? (t : Text) : Option (Nat × List Hit) :=
  match Text.pieces (· == '\n') t with
  | [] :: found :: rest => do return (← announced? found, ← rest.dropLast.mapM hitOfLine?)
  | _ => none

/-- The number of a value. -/
def natOf? : Value → Option Nat
  | .num spelled => Text.ofDigits? spelled
  | _ => none

/-- The names of the fields of a report. -/
def reportFields : List Text := ["query".toList, "count".toList, "results".toList]

/-- What a JSON document reports: the query, the number of hits, and the hits. -/
def readJson? (t : Text) : Option (Text × Nat × List Hit) := do
  let [query, count, results] ← (← Value.read? t).record? reportFields | none
  return (← query.text?, ← natOf? count, ← (← results.items?).mapM Hit.ofJson?)

/-! ## Lines -/

/-- The line that announces a number of hits, without its line feed. -/
def countLine (n : Nat) : Text := "Found ".toList ++ (Text.toDecimal n ++ " documents".toList)

theorem announced?_countLine (n : Nat) : announced? (countLine n) = some n := by
  have hcut : Text.cutAt (· == ' ') (Text.toDecimal n ++ " documents".toList) =
      some (Text.toDecimal n, "documents".toList) :=
    Text.cutAt_beq_eq_some_iff.mpr ⟨rfl, Text.not_mem_toDecimal n (by decide)⟩
  rw [announced?, Text.dropLead_eq_some_iff.mpr (rfl : countLine n = _), Option.bind_eq_bind,
    Option.bind_some, hcut, Option.bind_eq_bind, Option.bind_some]
  exact (if_pos rfl).trans (Text.ofDigits?_toDecimal n)

theorem not_mem_countLine (n : Nat) : '\n' ∉ countLine n := by
  intro h
  rcases List.mem_append.mp h with h | h
  · exact absurd h (by decide)
  · rcases List.mem_append.mp h with h | h
    · exact Text.not_mem_toDecimal n (by decide) h
    · exact absurd h (by decide)

/-- The line of a hit without its line feed. -/
def entry (h : Hit) : Text := "  ".toList ++ (h.doc.toText ++ '\t' :: h.url)

theorem hitLine_eq (h : Hit) : hitLine h = entry h ++ ['\n'] := by
  simp [hitLine, entry]

/-- **The line of a hit reads back**, whatever its address is. -/
theorem hitOfLine?_entry (h : Hit) : hitOfLine? (entry h) = some h := by
  have hcut : Text.cutAt (· == '\t') (h.doc.toText ++ '\t' :: h.url) = some (h.doc.toText, h.url) :=
    Text.cutAt_beq_eq_some_iff.mpr ⟨rfl, Text.not_mem_toDecimal h.doc.toNat (by decide)⟩
  rw [hitOfLine?, Text.dropLead_eq_some_iff.mpr (rfl : entry h = _), Option.bind_eq_bind,
    Option.bind_some, hcut]
  simp only [Option.bind_eq_bind, Option.bind_some, DocId.ofText?_toText]
  rfl

theorem not_mem_entry (hurl : '\n' ∉ h.url) : '\n' ∉ entry h := by
  have hdoc : '\n' ∉ h.doc.toText := Text.not_mem_toDecimal h.doc.toNat (by decide)
  simp [entry, hdoc, hurl]

/-- The lines of hits are the pieces between line feeds, and nothing follows the last one. -/
theorem pieces_hitLines (hurls : ∀ h ∈ hits, '\n' ∉ h.url) :
    Text.pieces (· == '\n') (hits.flatMap hitLine) = hits.map entry ++ [[]] := by
  induction hits with
  | nil => rfl
  | cons h hits ih =>
    obtain ⟨hurl, hurls⟩ := List.forall_mem_cons.mp hurls
    rw [List.flatMap_cons, hitLine_eq, List.append_assoc, List.singleton_append,
      Text.pieces_append rfl, Text.pieces_of_not_mem (not_mem_entry hurl), ih hurls,
      List.singleton_append, List.map_cons, List.cons_append]

theorem textReport_eq (hits : List Hit) :
    textReport hits = '\n' :: (countLine hits.length ++ '\n' :: hits.flatMap hitLine) := by
  have hbefore : "\nFound ".toList = '\n' :: "Found ".toList := by decide
  have hafter : " documents\n".toList = " documents".toList ++ ['\n'] := by decide
  unfold textReport countLine
  rw [hbefore, hafter]
  simp only [List.append_assoc, List.cons_append, List.nil_append]

/-- **What lines of text report** are the hits, if no address has a line feed. -/
theorem readText?_textReport (hurls : ∀ h ∈ hits, '\n' ∉ h.url) :
    readText? (textReport hits) = some (hits.length, hits) := by
  have hpieces : Text.pieces (· == '\n') (textReport hits) =
      [] :: countLine hits.length :: (hits.map entry ++ [[]]) := by
    rw [textReport_eq, ← List.nil_append ('\n' :: _), Text.pieces_append rfl,
      Text.pieces_append rfl, Text.pieces_of_not_mem (not_mem_countLine _), pieces_hitLines hurls]
    rfl
  have hlines : (hits.map entry).mapM hitOfLine? = some hits :=
    Json.mapM_map_eq_some hitOfLine?_entry hits
  rw [readText?, hpieces]
  simp only [announced?_countLine, List.dropLast_concat, hlines, Option.bind_eq_bind,
    Option.bind_some]
  rfl

/-! ## JSON -/

/-- **The form of a hit reads back.** -/
theorem ofJson?_toJson (h : Hit) : Hit.ofJson? h.toJson = some h := by
  have hrecord : h.toJson.record? ["doc_id".toList, "url".toList] =
      some [.ofDocId h.doc, .ofText h.url] :=
    Json.record?_zip ["doc_id".toList, "url".toList] [.ofDocId h.doc, .ofText h.url] (by decide)
      (by decide) rfl
  have hdoc : (Value.ofDocId h.doc).docId? = some h.doc := by
    rw [Value.ofDocId, Json.Value.ofNat, Value.docId?, Text.ofDigits?_toDecimal, Option.bind_some,
      DocId.ofNat?_toNat]
  have hurl : (Value.ofText h.url).text? = some h.url := Json.unescape?_escape h.url
  simp only [Hit.ofJson?, hrecord, hdoc, hurl, Option.bind_eq_bind, Option.bind_some]
  rfl

theorem spelled_toJson (h : Hit) : h.toJson.Spelled :=
  ⟨Json.readString_escape "doc_id".toList, Json.spelled_ofNat h.doc.toNat,
    Json.readString_escape "url".toList, Json.spelled_ofText h.url, trivial⟩

theorem spelled_jsonReport (q : Text) (hits : List Hit) : (jsonReport q hits).Spelled := by
  refine ⟨Json.readString_escape "query".toList, Json.spelled_ofText q,
    Json.readString_escape "count".toList, Json.spelled_ofNat hits.length,
    Json.readString_escape "results".toList, Json.allSpelled_iff.mpr fun v hv => ?_, trivial⟩
  obtain ⟨h, -, rfl⟩ := List.mem_map.mp hv
  exact spelled_toJson h

/-- **What a JSON document reports** are the query and the hits, whatever their texts are. -/
theorem readJson?_jsonReport (q : Text) (hits : List Hit) :
    readJson? ((jsonReport q hits).indented 0 ++ ['\n']) = some (q, hits.length, hits) := by
  have hread := Json.read?_indented (spelled_jsonReport q hits) 0 (r := ['\n']) rfl
    (Json.ends_cons (by decide))
  have hrecord : (jsonReport q hits).record? reportFields =
      some [.ofText q, .ofNat hits.length, .arr (hits.map Hit.toJson)] :=
    Json.record?_zip reportFields [.ofText q, .ofNat hits.length, .arr (hits.map Hit.toJson)]
      (by decide) (by decide) rfl
  have hquery : (Value.ofText q).text? = some q := Json.unescape?_escape q
  have hcount : natOf? (.ofNat hits.length) = some hits.length :=
    Text.ofDigits?_toDecimal hits.length
  have hresults : (hits.map Hit.toJson).mapM Hit.ofJson? = some hits :=
    Json.mapM_map_eq_some ofJson?_toJson hits
  simp only [readJson?, hread, hrecord, hquery, hcount, Value.items?, hresults,
    Option.bind_eq_bind, Option.bind_some]
  rfl

/-! ## What a search reports -/

/-- No address of a registry that was read has a line feed. -/
theorem not_mem_url (hread : Registry.ofText t = .ok c.registry) (hh : h ∈ c.hits q) :
    '\n' ∉ h.url := by
  obtain ⟨d, -, rfl⟩ := List.mem_map.mp hh
  change '\n' ∉ c.registry.url d
  unfold Registry.url
  cases hget : c.registry.get? d with
  | none => exact List.not_mem_nil
  | some url =>
    rcases (Registry.get?_of_readLines hread).mp hget with hlast | ⟨-, habsent⟩
    · obtain ⟨line, hline, hregisters⟩ := hlast.exists_registers
      exact fun hmem => Text.not_mem_of_mem_lines hline (hregisters.address.1 hmem)
    · cases habsent

/-- **A search reports its hits** in both formats: every document that is found, once and in
ascending order, with its address or without one; and what is shown can be read back. -/
theorem hits_reported (hread : Registry.ofText t = .ok c.registry) (q : Text) :
    ((c.hits q).map (·.doc) = (c.search q).toList ∧
      ((c.hits q).map (·.doc)).Pairwise (· < ·) ∧
      ∀ h ∈ c.hits q, c.registry.get? h.doc = some h.url ∨
        c.registry.get? h.doc = none ∧ h.url = []) ∧
    readText? (hitReport q (c.hits q) .text) = some ((c.hits q).length, c.hits q) ∧
    readJson? (hitReport q (c.hits q) .json) = some (q, (c.hits q).length, c.hits q) := by
  have hdocs : (c.hits q).map (·.doc) = (c.search q).toList :=
    c.registry.map_doc_annotate (c.search q)
  refine ⟨⟨hdocs, hdocs ▸ (c.search q).ascending, fun h hh => ?_⟩,
    readText?_textReport fun h hh => not_mem_url hread hh, readJson?_jsonReport q (c.hits q)⟩
  obtain ⟨d, -, rfl⟩ := List.mem_map.mp hh
  cases hget : c.registry.get? d with
  | none => exact .inr ⟨rfl, by simp [Registry.url, hget]⟩
  | some url => exact .inl (by simp [Registry.url, hget])

/-- An address with a tab and a carriage return inside, an empty one, and a document that is not
registered, found by a query with a quote and a backslash. -/
theorem hits_reported_awkward :
    let t := "3\thttp://a\tb\rc\n5\n".toList
    let x : Index := .ofList [("x".toList, .ofList [9, 5, 3])]
    let c : Collection := ⟨x, .ofList [(3, "http://a\tb\rc".toList), (5, [])], ∅⟩
    let q := "\"y\\\" OR X".toList
    let hits : List Hit := [⟨3, "http://a\tb\rc".toList⟩, ⟨5, []⟩, ⟨9, []⟩]
    Registry.ofText t = .ok c.registry ∧ c.hits q = hits ∧
      readText? (hitReport q hits .text) = some (3, hits) ∧
      readJson? (hitReport q hits .json) = some (q, 3, hits) := by
  intro t x c q hits
  have hread : Registry.ofText t = .ok c.registry := rfl
  have hhits : c.hits q = hits := by decide +kernel
  obtain ⟨-, htext, hjson⟩ := hits_reported hread q
  rw [hhits] at htext hjson
  exact ⟨hread, hhits, htext, hjson⟩

end Command

end Concordance
