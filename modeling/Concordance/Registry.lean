import Concordance.Index

/-!
# The registry

A registry holds the address of each registered document; an address may be empty. The universe of
a collection is what is registered, or every document of the index where nothing is registered.

Model of `Registry` (`insert`, `url`, `contains`, `len`, `is_empty`, `doc_ids`, `iter`, `annotate`),
`SearchHit` and `Universe.derive`.
-/

namespace Concordance

/-- The addresses of documents. -/
structure Registry where
  urls : AscMap DocId Text
  deriving DecidableEq

/-- A document that a search finds, with its address (`SearchHit`). -/
structure Hit where
  doc : DocId
  url : Text
  deriving DecidableEq, Repr

namespace Registry

instance : EmptyCollection Registry := ⟨⟨∅⟩⟩

instance : Inhabited Registry := ⟨∅⟩

/-- The address of a document, if it is registered. -/
def get? (r : Registry) (d : DocId) : Option Text := r.urls.get? d

/-- The address of a document; empty for one that is not registered. -/
def url (r : Registry) (d : DocId) : Text := (r.get? d).getD []

/-- Whether a document is registered. -/
def contains (r : Registry) (d : DocId) : Bool := r.urls.contains d

/-- The number of registered documents. -/
def size (r : Registry) : Nat := r.urls.size

/-- Whether no document is registered. -/
def isEmpty (r : Registry) : Bool := r.urls.isEmpty

/-- The registered documents (`doc_ids`). -/
def docIds (r : Registry) : Postings := r.urls.keys

/-- The documents with their addresses, in ascending order. -/
def toList (r : Registry) : List (DocId × Text) := r.urls.toList

/-- Registers a document, in place of an earlier address. -/
def insert (r : Registry) (d : DocId) (url : Text) : Registry := ⟨r.urls.insert d url⟩

/-- The registry of a list of documents, the last address of a document winning. -/
def ofList (l : List (DocId × Text)) : Registry := l.foldl (fun r e => r.insert e.1 e.2) ∅

/-- Pairs each document with its address. -/
def annotate (r : Registry) (ds : Postings) : List Hit := ds.toList.map fun d => ⟨d, r.url d⟩

@[simp] theorem get?_empty (d : DocId) : (∅ : Registry).get? d = none := rfl

theorem get?_insert (r : Registry) (d : DocId) (url : Text) (e : DocId) :
    (r.insert d url).get? e = if e = d then some url else r.get? e :=
  AscMap.get?_insert ..

theorem mem_docIds {r : Registry} {d : DocId} : d ∈ r.docIds ↔ (r.get? d).isSome = true :=
  AscMap.mem_keys

theorem isEmpty_iff {r : Registry} : r.isEmpty = true ↔ r = ∅ := by
  obtain ⟨m⟩ := r
  exact AscMap.isEmpty_iff.trans ⟨fun h => congrArg mk h, fun h => congrArg urls h⟩

/-- The documents of the hits are those that were annotated, in their order. -/
theorem map_doc_annotate (r : Registry) (ds : Postings) :
    (r.annotate ds).map (·.doc) = ds.toList := by
  simp [annotate, Function.comp_def]

end Registry

/-- The documents that a negation counts, of which some may be in no index. -/
abbrev Universe := AscSet DocId

/-- The registered documents, or those of the index where none is registered. -/
def Universe.derive (r : Registry) (x : Index) : Universe :=
  if r.isEmpty then x.docIds else r.docIds

end Concordance
