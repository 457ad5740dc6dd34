import Concordance.AscMap
import Concordance.Document

/-!
# The index

An index holds, for each word, the set of the documents that contain it. Words and documents are in
ascending order, so an index has one representation. A word may be held with no documents.

Model of `InvertedIndex`: `insert`, `replace`, `get`, `contains`, `len`, `is_empty`, `iter`
(`toList`), `doc_ids`.

* `get?_insert`, `get?_replace`: what each change stores.
* `mem_docIds`: the documents of an index are those of its words.
-/

namespace Concordance

/-- The documents of each word (`InvertedIndex`). -/
structure Index where
  words : AscMap Text Postings
  deriving DecidableEq

namespace Index

instance : EmptyCollection Index := ⟨⟨∅⟩⟩

instance : Inhabited Index := ⟨∅⟩

/-- The documents of a word, if the word is held. -/
def get? (x : Index) (word : Text) : Option Postings := x.words.get? word

/-- The documents of a word; none for a word that is not held. -/
def postings (x : Index) (word : Text) : Postings := (x.get? word).getD ∅

/-- Whether a word is held. -/
def contains (x : Index) (word : Text) : Bool := x.words.contains word

/-- The number of words. -/
def size (x : Index) : Nat := x.words.size

/-- Whether no word is held. -/
def isEmpty (x : Index) : Bool := x.words.isEmpty

/-- The words with their documents, in ascending order. -/
def toList (x : Index) : List (Text × Postings) := x.words.toList

/-- The documents of all words (`doc_ids`). -/
def docIds (x : Index) : Postings := .ofList (x.words.values.flatMap (·.toList))

/-- Records that a document contains a word. -/
def insert (x : Index) (word : Text) (d : DocId) : Index :=
  ⟨x.words.insert word ((x.postings word).insert d)⟩

/-- Replaces the documents of a word. -/
def replace (x : Index) (word : Text) (ds : Postings) : Index := ⟨x.words.insert word ds⟩

/-- The index of a list of words, the last entry of a word winning. -/
def ofList (l : List (Text × Postings)) : Index := l.foldl (fun x e => x.replace e.1 e.2) ∅

@[simp] theorem get?_empty (w : Text) : (∅ : Index).get? w = none := rfl

theorem get?_replace (x : Index) (w : Text) (ds : Postings) (v : Text) :
    (x.replace w ds).get? v = if v = w then some ds else x.get? v :=
  AscMap.get?_insert ..

theorem get?_insert (x : Index) (w : Text) (d : DocId) (v : Text) :
    (x.insert w d).get? v = if v = w then some ((x.postings w).insert d) else x.get? v :=
  AscMap.get?_insert ..

/-- Indexes that find the same are equal. -/
theorem ext_get? {x y : Index} (h : ∀ w, x.get? w = y.get? w) : x = y :=
  congrArg mk (AscMap.ext_get? h)

theorem contains_iff {x : Index} {w : Text} : x.contains w = true ↔ ∃ ds, x.get? w = some ds :=
  Option.isSome_iff_exists

theorem mem_postings {x : Index} {w : Text} {d : DocId} :
    d ∈ x.postings w ↔ ∃ ds, x.get? w = some ds ∧ d ∈ ds := by
  unfold postings
  cases x.get? w <;> simp

/-- The documents of an index are those of its words. -/
theorem mem_docIds {x : Index} {d : DocId} : d ∈ x.docIds ↔ ∃ w, d ∈ x.postings w := by
  simp only [docIds, AscSet.mem_ofList, List.mem_flatMap, AscMap.values, List.mem_map, mem_postings,
    get?]
  constructor
  · rintro ⟨ds, ⟨⟨w, _⟩, he, rfl⟩, hd⟩
    exact ⟨w, _, AscMap.mem_toList_iff.mp he, hd⟩
  · rintro ⟨w, ds, hw, hd⟩
    exact ⟨ds, ⟨(w, ds), AscMap.mem_toList_iff.mpr hw, rfl⟩, hd⟩

end Index

end Concordance
